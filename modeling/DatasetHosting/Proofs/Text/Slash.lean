import DatasetHosting.Text.Slash
import Mathlib.Data.List.DropRight

/-!
# Proofs/Text/Slash — texts without slashes at their ends

Slashes go from both ends of a text, first in front and then behind.  What is left has none at either end
(`trimSlashes_trimSlashes`): the second step leaves a prefix, which starts as the text did.  What is dropped
is a run of slashes.
-/

namespace DatasetHosting.Text

variable {cs ds : List Char}

/-- Dropping slashes at the end leaves a prefix. -/
theorem prefix_dropEndSlashes (cs : List Char) : dropEndSlashes cs <+: cs :=
  List.rdropWhile_prefix (· == '/') cs

/-- A prefix of a text that no slash starts is a text that no slash starts. -/
theorem dropSlashes_of_prefix (h : dropSlashes cs = cs) (hds : ds <+: cs) :
    dropSlashes ds = ds := by
  cases ds with
  | nil => rfl
  | cons d ds =>
    obtain ⟨rest, rfl⟩ := hds
    refine List.dropWhile_eq_self_iff.mpr fun _ => ?_
    exact List.dropWhile_eq_self_iff.mp h (Nat.succ_pos _)

/-- Trimming makes no text longer. -/
theorem length_trimSlashes_le (cs : List Char) : (trimSlashes cs).length ≤ cs.length :=
  (prefix_dropEndSlashes _).length_le.trans (List.dropWhile_sublist _).length_le

@[simp] theorem dropSlashes_dropSlashes (cs : List Char) :
    dropSlashes (dropSlashes cs) = dropSlashes cs :=
  List.dropWhile_idempotent _ _

@[simp] theorem dropEndSlashes_dropEndSlashes (cs : List Char) :
    dropEndSlashes (dropEndSlashes cs) = dropEndSlashes cs :=
  List.rdropWhile_idempotent _ _

/-- No slash starts what is trimmed. -/
theorem dropSlashes_trimSlashes (cs : List Char) : dropSlashes (trimSlashes cs) = trimSlashes cs :=
  dropSlashes_of_prefix (dropSlashes_dropSlashes _) (prefix_dropEndSlashes _)

/-- **What is trimmed has nothing to trim.** -/
theorem trimSlashes_trimSlashes (cs : List Char) : trimSlashes (trimSlashes cs) = trimSlashes cs := by
  calc trimSlashes (trimSlashes cs)
      = dropEndSlashes (trimSlashes cs) := congrArg dropEndSlashes (dropSlashes_trimSlashes cs)
    _ = trimSlashes cs := dropEndSlashes_dropEndSlashes _

/-! ## What is dropped -/

/-- A text is a run of slashes in front of what is left when they are dropped, -/
theorem exists_replicate_dropSlashes (cs : List Char) :
    ∃ n, cs = List.replicate n '/' ++ dropSlashes cs := by
  have hslashes : ∀ c ∈ cs.takeWhile (· == '/'), c = '/' := by
    intro c hc
    exact beq_iff_eq.mp (List.mem_takeWhile_imp (p := (· == '/')) hc)
  refine ⟨(cs.takeWhile (· == '/')).length, ?_⟩
  rw [← List.eq_replicate_of_mem hslashes]
  exact List.takeWhile_append_dropWhile.symm

/-- and likewise at its end. -/
theorem exists_replicate_dropEndSlashes (cs : List Char) :
    ∃ n, cs = dropEndSlashes cs ++ List.replicate n '/' := by
  obtain ⟨n, hn⟩ := exists_replicate_dropSlashes cs.reverse
  refine ⟨n, ?_⟩
  rw [dropEndSlashes, ← List.reverse_replicate, ← List.reverse_append, ← hn, List.reverse_reverse]

theorem head?_dropSlashes (cs : List Char) : (dropSlashes cs).head? ≠ some '/' := by
  intro hslash
  have hnot := List.head?_dropWhile_not (· == '/') cs
  rw [← dropSlashes, hslash] at hnot
  cases hnot

/-- No slash ends a text whose slashes at the end are dropped. -/
theorem getLast?_dropEndSlashes (cs : List Char) : (dropEndSlashes cs).getLast? ≠ some '/' := by
  rw [dropEndSlashes, List.getLast?_reverse]
  exact head?_dropSlashes _

/-- Dropping slashes in front stops at what is behind them. -/
theorem dropSlashes_append (h : dropSlashes cs ≠ []) (ds : List Char) :
    dropSlashes (cs ++ ds) = dropSlashes cs ++ ds := by
  rw [dropSlashes] at h ⊢
  rw [List.dropWhile_append, if_neg (mt List.isEmpty_iff.mp h), dropSlashes]

/-- Dropping slashes at the end stops at what is in front of them. -/
theorem dropEndSlashes_append (h : dropEndSlashes ds ≠ []) (cs : List Char) :
    dropEndSlashes (cs ++ ds) = cs ++ dropEndSlashes ds := by
  have hreverse : dropSlashes ds.reverse ≠ [] := mt List.reverse_eq_nil_iff.mpr h
  rw [dropEndSlashes, List.reverse_append, dropSlashes_append hreverse, List.reverse_append,
    List.reverse_reverse, dropEndSlashes]

theorem dropEndSlashes_eq_nil_iff : dropEndSlashes cs = [] ↔ dropSlashes cs = [] := by
  simp [dropEndSlashes, dropSlashes]

/-- Trimming leaves nothing only of a run of slashes. -/
theorem trimSlashes_eq_nil_iff : trimSlashes cs = [] ↔ dropSlashes cs = [] := by
  rw [trimSlashes, dropEndSlashes_eq_nil_iff, dropSlashes_dropSlashes]

/-- **It does not matter at which end trimming starts.** -/
theorem dropSlashes_dropEndSlashes (cs : List Char) : dropSlashes (dropEndSlashes cs) = trimSlashes cs := by
  obtain ⟨n, hn⟩ := exists_replicate_dropSlashes cs
  by_cases hnone : dropSlashes cs = []
  · rw [dropEndSlashes_eq_nil_iff.mpr hnone, trimSlashes_eq_nil_iff.mpr hnone]
    rfl
  · have hsome : dropEndSlashes (dropSlashes cs) ≠ [] := mt trimSlashes_eq_nil_iff.mp hnone
    have hfront : dropEndSlashes cs = List.replicate n '/' ++ trimSlashes cs := by
      conv_lhs => rw [hn]
      exact dropEndSlashes_append hsome _
    have hslashes : dropSlashes (List.replicate n '/' ++ trimSlashes cs) =
        dropSlashes (trimSlashes cs) :=
      List.dropWhile_append_of_pos fun _ hc => beq_iff_eq.mpr (List.eq_of_mem_replicate hc)
    rw [hfront, hslashes, dropSlashes_trimSlashes]

/-! ## Behind the last mark -/

section BehindLast

variable {α : Type} [BEq α] [LawfulBEq α] {mark : α} {xs behind : List α}

theorem forall_bne_of_notMem (h : mark ∉ xs) : ∀ x ∈ xs, (x != mark) = true := by
  intro x hx
  exact bne_iff_ne.mpr fun hsame => h (hsame ▸ hx)

/-- What stands behind the last `mark`, all of it if there is none. -/
def behindLast {α : Type} [BEq α] (mark : α) (xs : List α) : List α :=
  (xs.reverse.takeWhile (· != mark)).reverse

/-- What has no mark and stands behind one stands behind the last. -/
theorem behindLast_append (h : mark ∉ behind) (front : List α) :
    behindLast mark (front ++ mark :: behind) = behind := by
  have hbehind : ∀ x ∈ behind.reverse, (x != mark) = true :=
    forall_bne_of_notMem (mt List.mem_reverse.mp h)
  have hreverse : (front ++ mark :: behind).reverse = behind.reverse ++ mark :: front.reverse := by
    simp
  rw [behindLast, hreverse, List.takeWhile_append_of_pos hbehind,
    List.takeWhile_cons_of_neg (by simp), List.append_nil, List.reverse_reverse]

end BehindLast

/-- The last piece is what stands behind the last slash. -/
theorem lastPiece_append {piece : List Char} (h : '/' ∉ piece) (front : List Char) :
    lastPiece (front ++ '/' :: piece) = piece :=
  behindLast_append h front

end DatasetHosting.Text
