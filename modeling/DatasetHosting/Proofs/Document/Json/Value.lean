import DatasetHosting.Proofs.Document.Json.Spacing
import DatasetHosting.Proofs.Document.Json.Text

/-!
# Proofs/Document/Json/Value — plain values are read from each of their texts

Records are written as plain values: whole numbers only, and no text that is half of something
(`Json.IsPlain`).  Each text of a plain value, whatever blanks are in it, is that value and nothing else
(`Json.IsPlain.read?_of_isText`), the written one among them (`Json.IsPlain.read?_write`).  The argument is one
induction on the value, with three things kept general: the blanks in it, what stands behind it, and the steps
that are left.  A reader spends at most two steps on a character, so the length of the text pays for them.
-/

namespace DatasetHosting.Json

open DatasetHosting.Text (toList_toString isDigit_of_mem_toDigits)

/-- **A plain value**: all numbers in it are whole, and all texts and keys are complete. -/
inductive IsPlain : Json → Prop where
  | null : IsPlain .null
  | boolean (value : Bool) : IsPlain (.boolean value)
  | whole (negative : Bool) (magnitude : Nat) : IsPlain (.number (.whole negative magnitude))
  | string (value : String) : IsPlain (string value)
  | list {items : List Json} (h : ∀ item ∈ items, IsPlain item) : IsPlain (.list items)
  | object {entries : List (JsonText × Json)} (hkeys : ∀ entry ∈ entries, entry.1.isSome = true)
    (hvalues : ∀ entry ∈ entries, IsPlain entry.2) : IsPlain (.object entries)

variable {value item : Json} {items : List Json} {key : String} {entries : List (JsonText × Json)}
  {steps : Nat} {cs blanks more after rest : List Char}

attribute [local simp] readValue? readItems? readEntries?

/-! ## Blanks in front -/

/-- A character that is no blank is not skipped. -/
theorem skipSpace_cons {c : Char} (h : isSpace c = false) : skipSpace (c :: cs) = c :: cs := by
  rw [skipSpace, List.dropWhile_cons_of_neg (by simp [h])]

theorem skipSpace_append (h : IsBlank blanks) : skipSpace (blanks ++ cs) = skipSpace cs := by
  rw [skipSpace, List.dropWhile_append_of_pos h, skipSpace]

/-- Values may have blanks in front. -/
theorem readValue?_append (h : IsBlank blanks) : readValue? steps (blanks ++ cs) = readValue? steps cs := by
  cases steps with
  | zero => rfl
  | succ steps => rw [readValue?, readValue?, skipSpace_append h]

theorem readEntries?_append (h : IsBlank blanks) :
    readEntries? steps (blanks ++ cs) = readEntries? steps cs := by
  cases steps with
  | zero => rfl
  | succ steps => rw [readEntries?, readEntries?, skipSpace_append h]

/-! ## Rules of the reader

What each reader does with a text, from what the readers of the parts do. -/

/-- No value starts with the bracket that closes a list. -/
theorem readValue?_bracket (h : skipSpace cs = ']' :: rest) : readValue? steps cs = none := by
  cases steps with
  | zero => rfl
  | succ steps =>
    rw [readValue?, h]
    rfl

/-- What starts like a number is read as one: every other value starts with a character of its own. -/
theorem readValue?_number {c : Char} {number : JsonNumber} (hc : c.isDigit = true ∨ c = '-')
    (h : readNumber? (c :: cs) = some (number, rest)) :
    readValue? (steps + 1) (c :: cs) = some (.number number, rest) := by
  have hspace : isSpace c = false := by
    obtain hdigit | rfl := hc
    · refine Bool.eq_false_iff.mpr fun hblank => ?_
      obtain rfl | rfl | rfl | rfl := eq_of_isSpace hblank <;> cases hdigit
    · rfl
  rw [readValue?, skipSpace_cons hspace]
  split
  case h_7 =>
    rw [h]
    rfl
  all_goals
    next heq =>
      obtain ⟨rfl, -⟩ := List.cons.inj heq
      obtain hdigit | hminus := hc
      · cases hdigit
      · cases hminus

theorem readValue?_text {text : JsonText} (h : readText? cs = some (text, rest)) :
    readValue? (steps + 1) ('"' :: cs) = some (.text text, rest) := by
  rw [readValue?, skipSpace_cons rfl]
  simp [h]

theorem readValue?_emptyList (h : skipSpace cs = ']' :: rest) :
    readValue? (steps + 1) ('[' :: cs) = some (.list [], rest) := by
  simp [skipSpace_cons, isSpace, h]

/-- The last item of a list stands in front of a bracket. -/
theorem readItems?_last (hitem : readValue? steps cs = some (item, after))
    (hafter : skipSpace after = ']' :: rest) : readItems? (steps + 1) cs = some ([item], rest) := by
  simp [hitem, hafter]

/-- Every other item stands in front of a comma. -/
theorem readItems?_cons (hitem : readValue? steps cs = some (item, after))
    (hafter : skipSpace after = ',' :: more) (hitems : readItems? steps more = some (items, rest)) :
    readItems? (steps + 1) cs = some (item :: items, rest) := by
  simp [hitem, hafter, hitems]

/-- Items stand between the brackets of a list. -/
theorem readValue?_list (h : readItems? steps cs = some (items, rest)) :
    readValue? (steps + 1) ('[' :: cs) = some (.list items, rest) := by
  have hopen : ∀ after, skipSpace cs ≠ ']' :: after := by
    intro after hafter
    cases steps with
    | zero => cases h
    | succ steps =>
      rw [readItems?, readValue?_bracket hafter] at h
      cases h
  simp [skipSpace_cons, isSpace, h]

theorem readValue?_emptyObject (h : skipSpace cs = '\x7d' :: rest) :
    readValue? (steps + 1) ('\x7b' :: cs) = some (.object [], rest) := by
  simp [skipSpace_cons, isSpace, h]

/-- The last entry of an object stands in front of a brace. -/
theorem readEntries?_last {text : JsonText} {start colon : List Char}
    (hkey : readText? start = some (text, colon)) (hcolon : skipSpace colon = ':' :: cs)
    (hvalue : readValue? steps cs = some (value, after)) (hafter : skipSpace after = '\x7d' :: rest) :
    readEntries? (steps + 1) ('"' :: start) = some ([(text, value)], rest) := by
  simp [skipSpace_cons, isSpace, hkey, hcolon, hvalue, hafter]

theorem readEntries?_cons {text : JsonText} {start colon : List Char}
    (hkey : readText? start = some (text, colon)) (hcolon : skipSpace colon = ':' :: cs)
    (hvalue : readValue? steps cs = some (value, after)) (hafter : skipSpace after = ',' :: more)
    (hentries : readEntries? steps more = some (entries, rest)) :
    readEntries? (steps + 1) ('"' :: start) = some ((text, value) :: entries, rest) := by
  simp [skipSpace_cons, isSpace, hkey, hcolon, hvalue, hafter, hentries]

/-- Entries stand between the braces of an object. -/
theorem readValue?_object (h : readEntries? steps cs = some (entries, rest)) :
    readValue? (steps + 1) ('\x7b' :: cs) = some (.object entries, rest) := by
  have hopen : ∀ after, skipSpace cs ≠ '\x7d' :: after := by
    intro after hafter
    cases steps with
    | zero => cases h
    | succ steps => simp [hafter] at h
  simp [skipSpace_cons, isSpace, h]

/-! ## Reading a text of a value -/

/-- **The value is read from each of its texts, in front of anything that may stand behind it**, in two steps
for each character. -/
def ReadsBack (value : Json) : Prop :=
  ∀ cs steps rest, Spaced value.lexemes cs → 2 * cs.length ≤ steps → EndsValue rest →
    readValue? steps (cs ++ rest) = some (value, rest)

/-- Blanks in front are skipped, and the first character behind them pays for the step that a reader takes to
begin. -/
theorem readsBack_of_cons {c : Char} {lexeme : List Char} {more : List (List Char)}
    (hlexemes : value.lexemes = (c :: lexeme) :: more)
    (h : ∀ steps cs rest, Spaced more cs → 2 * (lexeme.length + cs.length) ≤ steps → EndsValue rest →
      readValue? (steps + 1) (c :: (lexeme ++ (cs ++ rest))) = some (value, rest)) :
    value.ReadsBack := by
  intro _ steps rest hspaced hsteps hrest
  rw [hlexemes, spaced_cons_iff] at hspaced
  obtain ⟨blanks, cs, rfl, hblanks, hcs⟩ := hspaced
  simp only [List.length_append, List.length_cons] at hsteps
  obtain ⟨left, rfl⟩ := Nat.exists_eq_add_of_le' (show 1 ≤ steps by omega)
  rw [List.append_assoc, readValue?_append hblanks, List.cons_append, List.cons_append,
    List.append_assoc]
  exact h left cs rest hcs (by omega) hrest

/-- A value of one lexeme has nothing behind it. -/
theorem readsBack_of_singleton {c : Char} {lexeme : List Char} (hlexemes : value.lexemes = [c :: lexeme])
    (h : ∀ steps rest, EndsValue rest →
      readValue? (steps + 1) (c :: (lexeme ++ rest)) = some (value, rest)) : value.ReadsBack := by
  refine readsBack_of_cons hlexemes fun steps cs rest hcs _ hrest => ?_
  obtain rfl := spaced_nil_iff.mp hcs
  exact h steps rest hrest

/-- A lexeme of one character is found behind the blanks in front of it. -/
theorem Spaced.skipSpace {c : Char} {lexemes : List (List Char)} (h : Spaced ([c] :: lexemes) cs)
    (hc : isSpace c = false) (rest : List Char) :
    ∃ more, Json.skipSpace (cs ++ rest) = c :: (more ++ rest) ∧ Spaced lexemes more ∧
      more.length + 1 ≤ cs.length := by
  obtain ⟨blanks, more, rfl, hblanks, hmore⟩ := spaced_cons_iff.mp h
  refine ⟨more, ?_, hmore, by simp⟩
  rw [List.append_assoc, skipSpace_append hblanks]
  exact skipSpace_cons hc

theorem Spaced.skipSpace_last {c : Char} (h : Spaced [[c]] cs) (hc : isSpace c = false)
    (rest : List Char) : Json.skipSpace (cs ++ rest) = c :: rest := by
  obtain ⟨last, hskip, hlast, -⟩ := h.skipSpace hc rest
  obtain rfl := spaced_nil_iff.mp hlast
  exact hskip

theorem Spaced.endsValue {c : Char} {lexemes : List (List Char)} (hc : ∀ rest, EndsValue (c :: rest))
    (h : Spaced ([c] :: lexemes) cs) : EndsValue (cs ++ rest) := by
  obtain ⟨_ | ⟨blank, blanks⟩, more, rfl, hblanks, -⟩ := spaced_cons_iff.mp h
  · exact hc _
  · exact .of_isSpace (hblanks blank List.mem_cons_self) _

theorem endsValue_of_itemLexemes (h : Spaced (itemLexemes items) cs) : EndsValue (cs ++ rest) := by
  cases items with
  | nil => exact h.endsValue .bracket
  | cons item items => exact h.endsValue .comma

theorem endsValue_of_entryLexemes (h : Spaced (entryLexemes entries) cs) : EndsValue (cs ++ rest) := by
  cases entries with
  | nil => exact h.endsValue .brace
  | cons entry entries => exact h.endsValue .comma

/-- **Items are read** up to the bracket behind them. -/
theorem readItems?_of_spaced (hitem : item.ReadsBack) (hitems : ∀ next ∈ items, next.ReadsBack)
    (h : Spaced (lexemes item ++ itemLexemes items) cs) (hsteps : 2 * cs.length ≤ steps) :
    readItems? steps (cs ++ rest) = some (item :: items, rest) := by
  induction items generalizing item steps cs with
  | nil =>
    obtain ⟨before, behind, rfl, hbefore, hbehind⟩ := spaced_append_iff.mp h
    obtain ⟨last, -, -, hlength⟩ := hbehind.skipSpace rfl rest
    rw [List.length_append] at hsteps
    obtain ⟨left, rfl⟩ := Nat.exists_eq_add_of_le' (show 1 ≤ steps by omega)
    rw [List.append_assoc]
    exact readItems?_last (hitem before left _ hbefore (by omega) (endsValue_of_itemLexemes hbehind))
      (hbehind.skipSpace_last rfl rest)
  | cons next items ih =>
    obtain ⟨before, behind, rfl, hbefore, hbehind⟩ := spaced_append_iff.mp h
    obtain ⟨more, hskip, hmore, hlength⟩ := hbehind.skipSpace rfl rest
    obtain ⟨hnext, hlater⟩ := List.forall_mem_cons.mp hitems
    rw [List.length_append] at hsteps
    obtain ⟨left, rfl⟩ := Nat.exists_eq_add_of_le' (show 1 ≤ steps by omega)
    rw [List.append_assoc]
    exact readItems?_cons (hitem before left _ hbefore (by omega) (endsValue_of_itemLexemes hbehind))
      hskip (ih hnext hlater hmore (by omega))

theorem readsBack_list (h : ∀ item ∈ items, item.ReadsBack) : (Json.list items).ReadsBack := by
  cases items with
  | nil =>
    refine readsBack_of_cons rfl fun steps cs rest hcs _ _ => ?_
    exact readValue?_emptyList (hcs.skipSpace_last rfl rest)
  | cons item items =>
    obtain ⟨hitem, hitems⟩ := List.forall_mem_cons.mp h
    refine readsBack_of_cons rfl fun steps cs rest hcs hsteps _ => ?_
    exact readValue?_list (readItems?_of_spaced hitem hitems hcs (by simpa using hsteps))

theorem writeText_append (key : String) (cs : List Char) :
    writeText (some key) ++ cs = '"' :: (key.toList.flatMap escapeChar ++ '"' :: cs) := by
  have hwrite : writeText (some key) = '"' :: key.toList.flatMap escapeChar ++ ['"'] := rfl
  simp [hwrite]

/-- The front of a spaced entry: its key, a colon and its value. -/
theorem exists_readText?_of_spaced (hvalue : value.ReadsBack)
    (h : Spaced (writeText (some key) :: [':'] :: (lexemes value ++ entryLexemes entries)) cs)
    (hsteps : 2 * cs.length ≤ steps) (rest : List Char) :
    ∃ left blanks start colon tail behind, steps = left + 1 ∧
      cs ++ rest = blanks ++ '"' :: start ∧ IsBlank blanks ∧
      readText? start = some (some key, colon) ∧ skipSpace colon = ':' :: tail ∧
      readValue? left tail = some (value, behind ++ rest) ∧
      Spaced (entryLexemes entries) behind ∧ behind.length + 1 ≤ cs.length := by
  obtain ⟨blanks, colon, rfl, hblanks, hcolon⟩ := spaced_cons_iff.mp h
  obtain ⟨tail, hskip, htail, hlength⟩ := hcolon.skipSpace rfl rest
  obtain ⟨before, behind, rfl, hbefore, hbehind⟩ := spaced_append_iff.mp htail
  simp only [List.length_append] at hsteps hlength
  rw [List.append_assoc] at hskip
  obtain ⟨left, rfl⟩ := Nat.exists_eq_add_of_le' (show 1 ≤ steps by omega)
  refine ⟨left, blanks, _, _, _, behind, rfl, ?_, hblanks, readText?_escape key _, hskip, ?_, hbehind, ?_⟩
  · rw [List.append_assoc, List.append_assoc, writeText_append]
  · exact hvalue before left _ hbefore (by omega) (endsValue_of_entryLexemes hbehind)
  · simp only [List.length_append]
    omega

/-- **Entries are read** up to the brace behind them. -/
theorem readEntries?_of_spaced (hvalue : value.ReadsBack)
    (hkeys : ∀ entry ∈ entries, entry.1.isSome = true)
    (hvalues : ∀ entry ∈ entries, entry.2.ReadsBack)
    (h : Spaced (writeText (some key) :: [':'] :: (lexemes value ++ entryLexemes entries)) cs)
    (hsteps : 2 * cs.length ≤ steps) :
    readEntries? steps (cs ++ rest) = some ((some key, value) :: entries, rest) := by
  induction entries generalizing key value steps cs with
  | nil =>
    obtain ⟨left, blanks, start, colon, tail, behind, rfl, heq, hblanks, hkey, hcolon, hread, hbehind,
      -⟩ := exists_readText?_of_spaced hvalue h hsteps rest
    rw [heq, readEntries?_append hblanks]
    exact readEntries?_last hkey hcolon hread (hbehind.skipSpace_last rfl rest)
  | cons entry entries ih =>
    obtain ⟨text, next⟩ := entry
    obtain ⟨hkeySome, hotherKeys⟩ := List.forall_mem_cons.mp hkeys
    obtain ⟨hnext, hothers⟩ := List.forall_mem_cons.mp hvalues
    obtain ⟨nextKey, rfl⟩ := Option.isSome_iff_exists.mp hkeySome
    obtain ⟨left, blanks, start, colon, tail, behind, rfl, heq, hblanks, hkey, hcolon, hread, hbehind,
      hlength⟩ := exists_readText?_of_spaced hvalue h hsteps rest
    obtain ⟨more, hskip, hmore, hlonger⟩ := hbehind.skipSpace rfl rest
    rw [heq, readEntries?_append hblanks]
    exact readEntries?_cons hkey hcolon hread hskip
      (ih hnext hotherKeys hothers hmore (by omega))

theorem readsBack_object (hkeys : ∀ entry ∈ entries, entry.1.isSome = true)
    (hvalues : ∀ entry ∈ entries, entry.2.ReadsBack) : (Json.object entries).ReadsBack := by
  cases entries with
  | nil =>
    refine readsBack_of_cons rfl fun steps cs rest hcs _ _ => ?_
    exact readValue?_emptyObject (hcs.skipSpace_last rfl rest)
  | cons entry entries =>
    obtain ⟨text, value⟩ := entry
    obtain ⟨hsome, hotherKeys⟩ := List.forall_mem_cons.mp hkeys
    obtain ⟨hvalue, hothers⟩ := List.forall_mem_cons.mp hvalues
    obtain ⟨key, rfl⟩ := Option.isSome_iff_exists.mp hsome
    refine readsBack_of_cons rfl fun steps cs rest hcs hsteps _ => ?_
    exact readValue?_object
      (readEntries?_of_spaced hvalue hotherKeys hothers hcs (by simpa using hsteps))

theorem readsBack_string (s : String) : (string s).ReadsBack := by
  refine readsBack_of_singleton rfl fun steps rest _ => ?_
  have hread : readValue? (steps + 1) _ = _ := readValue?_text (readText?_escape s rest)
  rwa [← writeText_append] at hread

/-- A written number starts with a digit or its sign. -/
theorem exists_writeNumber (negative : Bool) (n : Nat) :
    ∃ c cs, writeNumber (.whole negative n) = c :: cs ∧ (c.isDigit = true ∨ c = '-') := by
  rw [writeNumber, writeSign, toList_toString]
  cases negative with
  | true => exact ⟨'-', Nat.toDigits 10 n, rfl, .inr rfl⟩
  | false =>
    cases hdigits : Nat.toDigits 10 n with
    | nil => exact absurd hdigits Nat.toDigits_ne_nil
    | cons d tail => exact ⟨d, tail, rfl, .inl (isDigit_of_mem_toDigits (n := n) (by simp [hdigits]))⟩

theorem readsBack_whole (negative : Bool) (n : Nat) :
    (Json.number (.whole negative n)).ReadsBack := by
  obtain ⟨c, cs, hwrite, hc⟩ := exists_writeNumber negative n
  refine readsBack_of_singleton (by rw [lexemes, hwrite]) fun steps rest hrest => ?_
  have hread := readNumber?_whole negative n hrest
  rw [hwrite] at hread
  exact readValue?_number hc hread

/-- **Plain values are read from their texts.** -/
theorem IsPlain.readsBack (h : value.IsPlain) : value.ReadsBack := by
  induction h with
  | null => exact readsBack_of_singleton rfl fun _ _ _ => rfl
  | boolean value => cases value <;> exact readsBack_of_singleton rfl fun _ _ _ => rfl
  | whole negative magnitude => exact readsBack_whole negative magnitude
  | string value => exact readsBack_string value
  | list _ ih => exact readsBack_list ih
  | object hkeys _ ih => exact readsBack_object hkeys ih

theorem endsValue_of_isBlank (h : IsBlank blanks) : EndsValue blanks := by
  cases blanks with
  | nil => exact .nothing
  | cons blank blanks => exact .of_isSpace (h blank List.mem_cons_self) blanks

/-- **Each text of a plain value is read as that value**, whatever blanks are in it. -/
theorem IsPlain.read?_of_isText {text : String} (h : value.IsPlain) (htext : value.IsText text) :
    read? text = some value := by
  obtain ⟨cs, blanks, hchars, hcs, hblanks⟩ := htext
  have hread : readValue? (enoughSteps (cs ++ blanks)) (cs ++ blanks) = some (value, blanks) :=
    h.readsBack cs _ blanks hcs (by rw [enoughSteps, List.length_append]; omega)
      (endsValue_of_isBlank hblanks)
  have hskip : skipSpace blanks = [] := by
    rw [← List.append_nil blanks, skipSpace_append hblanks]
    rfl
  rw [read?, hchars, hread]
  simp [hskip]

/-- **What is written of a plain value is read as that value.** -/
theorem IsPlain.read?_write (h : value.IsPlain) : read? (write value) = some value :=
  h.read?_of_isText (isText_write value)

end DatasetHosting.Json
