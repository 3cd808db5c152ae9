import DatasetHosting.Text.Quoted

/-!
# Proofs/Text/Quoted — a quoted text tells what it quotes

A quoted text shows each character in one of three ways (`Shows`): by a letter behind a backslash, by its
code in braces, or as itself, which a backslash never is.  Where one shown character ends can be seen
without looking at the next, so a quoted text comes apart in one way only (`quoted_injective`).
-/

namespace DatasetHosting.Text

variable {c d : Char} {cs ds xs ys : List Char} {m n : Nat}

/-! ## Places of a character -/

/-- Two texts come apart in the same way at the first place of a character. -/
theorem append_cons_inj (hcs : c ∉ cs) (hds : c ∉ ds) (h : cs ++ c :: xs = ds ++ c :: ys) :
    cs = ds ∧ xs = ys := by
  induction cs generalizing ds with
  | nil =>
    cases ds with
    | nil => exact ⟨rfl, (List.cons.inj h).2⟩
    | cons d ds => exact absurd (List.cons.inj h).1 (List.ne_of_not_mem_cons hds)
  | cons b cs ih =>
    cases ds with
    | nil => exact absurd (List.cons.inj h).1.symm (List.ne_of_not_mem_cons hcs)
    | cons d ds =>
      obtain ⟨rfl, hrest⟩ := List.cons.inj h
      obtain ⟨rfl, rfl⟩ := ih (List.not_mem_of_not_mem_cons hcs) (List.not_mem_of_not_mem_cons hds) hrest
      exact ⟨rfl, rfl⟩

/-- …and at the last one. -/
theorem append_cons_inj_last (hxs : c ∉ xs) (hys : c ∉ ys) (h : cs ++ c :: xs = ds ++ c :: ys) :
    cs = ds ∧ xs = ys := by
  have hreversed := congrArg List.reverse h
  simp only [List.reverse_append, List.reverse_cons, List.append_assoc, List.singleton_append]
    at hreversed
  obtain ⟨hbehind, hbefore⟩ :=
    append_cons_inj (mt List.mem_reverse.mp hxs) (mt List.mem_reverse.mp hys) hreversed
  exact ⟨List.reverse_inj.mp hbefore, List.reverse_inj.mp hbehind⟩

/-! ## Hexadecimal digits -/

theorem digitChar_inj : ∀ m < 16, ∀ n < 16, Nat.digitChar m = Nat.digitChar n → m = n := by
  decide

/-- Numerals in hexadecimal digits are different for different numbers. -/
theorem eq_of_toDigits_sixteen (h : Nat.toDigits 16 m = Nat.toDigits 16 n) : m = n := by
  induction m using Nat.strongRecOn generalizing n with
  | ind m ih =>
    rw [Nat.toDigits_eq_if (by decide), Nat.toDigits_eq_if (n := n) (by decide)] at h
    split at h
    · next hm =>
      split at h
      · next hn => exact digitChar_inj m hm n hn (List.singleton_inj.mp h)
      · simp [List.singleton_eq_append_iff, Nat.toDigits_ne_nil] at h
    · next hm =>
      split at h
      · simp [List.append_eq_singleton_iff, Nat.toDigits_ne_nil] at h
      · obtain ⟨hhigh, hlow⟩ := List.append_inj' h rfl
        have hquotient := ih (m / 16) (by omega) hhigh
        have hremainder := digitChar_inj _ (Nat.mod_lt m (by decide)) _ (Nat.mod_lt n (by decide))
          (List.singleton_inj.mp hlow)
        omega

theorem brace_ne_digitChar : ∀ n < 16, '\x7d' ≠ Nat.digitChar n := by
  decide

/-- No digit is the brace that ends a code. -/
theorem brace_notMem_toDigits (n : Nat) : '\x7d' ∉ Nat.toDigits 16 n := by
  induction n using Nat.strongRecOn with
  | ind n ih =>
    rw [Nat.toDigits_eq_if (by decide)]
    split
    · next hn =>
      rw [List.mem_singleton]
      exact brace_ne_digitChar n hn
    · have hlow := brace_ne_digitChar _ (Nat.mod_lt n (by decide))
      rw [List.mem_append, List.mem_singleton, not_or]
      exact ⟨ih (n / 16) (by omega), hlow⟩

/-! ## Shown characters -/

/-- The characters that a letter behind a backslash stands for. -/
def escapes : List (Char × Char) :=
  [('"', '"'), ('\\', '\\'), ('\n', 'n'), ('\r', 'r'), ('\t', 't'), ('\x00', '0')]

theorem escapes_inj : ∀ p ∈ escapes, ∀ q ∈ escapes, p.2 = q.2 → p.1 = q.1 := by
  decide

/-- No letter stands for a code. -/
theorem escapes_ne_code : ∀ p ∈ escapes, p.2 ≠ 'u' := by
  decide

/-- **The characters show the character.** -/
inductive Shows : Char → List Char → Prop where
  | escape {c letter : Char} (h : (c, letter) ∈ escapes) : Shows c ['\\', letter]
  | code (c : Char) : Shows c (quotedCode c)
  | plain {c : Char} (h : c ≠ '\\') : Shows c [c]

theorem shows_quotedChar (c : Char) : Shows c (quotedChar c) := by
  rw [quotedChar]
  split
  · next h => exact .escape (by simp [h, escapes])
  split
  · next h => exact .escape (by simp [h, escapes])
  split
  · next h => exact .escape (by simp [h, escapes])
  split
  · next h => exact .escape (by simp [h, escapes])
  split
  · next h => exact .escape (by simp [h, escapes])
  split
  · next h => exact .escape (by simp [h, escapes])
  split
  · exact .code c
  · next hslash _ _ _ _ _ => exact .plain hslash

/-- A code ends at its brace. -/
theorem quotedCode_append_inj (h : quotedCode c ++ xs = quotedCode d ++ ys) : c = d ∧ xs = ys := by
  simp only [quotedCode, List.append_assoc, List.append_cancel_left_eq, List.singleton_append] at h
  obtain ⟨hcode, hrest⟩ := append_cons_inj (brace_notMem_toDigits _) (brace_notMem_toDigits _) h
  exact ⟨Char.toNat_inj.mp (eq_of_toDigits_sixteen hcode), hrest⟩

/-- **Where a shown character ends can be seen from its front.** -/
theorem Shows.append_inj (hc : Shows c cs) (hd : Shows d ds) (h : cs ++ xs = ds ++ ys) :
    c = d ∧ xs = ys := by
  cases hc with
  | escape hc =>
    cases hd with
    | escape hd =>
      obtain ⟨-, hletter⟩ := List.cons.inj h
      obtain ⟨hletter, hrest⟩ := List.cons.inj hletter
      exact ⟨escapes_inj _ hc _ hd hletter, hrest⟩
    | code =>
      obtain ⟨-, hletter⟩ := List.cons.inj h
      exact absurd (List.cons.inj hletter).1 (escapes_ne_code _ hc)
    | plain hd => exact absurd (List.cons.inj h).1.symm hd
  | code =>
    cases hd with
    | escape hd =>
      obtain ⟨-, hletter⟩ := List.cons.inj h
      exact absurd (List.cons.inj hletter).1.symm (escapes_ne_code _ hd)
    | code => exact quotedCode_append_inj h
    | plain hd => exact absurd (List.cons.inj h).1.symm hd
  | plain hc =>
    cases hd with
    | escape hd => exact absurd (List.cons.inj h).1 hc
    | code => exact absurd (List.cons.inj h).1 hc
    | plain hd => exact List.cons.inj h

theorem Shows.ne_nil (h : Shows c cs) : cs ≠ [] := by
  cases h <;> exact List.cons_ne_nil _ _

/-! ## Quoted texts -/

theorem flatMap_quotedChar_inj (h : cs.flatMap quotedChar = ds.flatMap quotedChar) : cs = ds := by
  induction cs generalizing ds with
  | nil =>
    cases ds with
    | nil => rfl
    | cons d ds =>
      rw [List.flatMap_cons, List.flatMap_nil] at h
      exact absurd (List.append_eq_nil_iff.mp h.symm).1 (shows_quotedChar d).ne_nil
  | cons c cs ih =>
    cases ds with
    | nil =>
      rw [List.flatMap_cons, List.flatMap_nil] at h
      exact absurd (List.append_eq_nil_iff.mp h).1 (shows_quotedChar c).ne_nil
    | cons d ds =>
      obtain ⟨rfl, hrest⟩ := (shows_quotedChar c).append_inj (shows_quotedChar d) h
      rw [ih hrest]

/-- **Different texts are quoted differently.** -/
theorem quoted_injective {s t : String} (h : quoted s = quoted t) : s = t := by
  have hchars := (List.cons.inj (String.ofList_injective h)).2
  have hbetween := List.append_cancel_right hchars
  exact String.toList_injective (flatMap_quotedChar_inj hbetween)

end DatasetHosting.Text
