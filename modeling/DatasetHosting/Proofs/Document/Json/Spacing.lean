import Mathlib.Data.List.TakeWhile
import DatasetHosting.Document.Json.Reader
import DatasetHosting.Document.Json.Writer

/-!
# Proofs/Document/Json/Spacing — blanks between the lexemes of a value

A value is written as a list of lexemes (`Json.lexemes`): brackets, commas and colons, and each word, number and
string as a whole.  Blanks in front of a lexeme and behind the last one say nothing, so a value has many texts
(`Json.IsText`).  The writer makes the one without blanks (`Json.isText_write`).
-/

namespace DatasetHosting.Json

mutual

/-- **The lexemes of a value**, in order. -/
def lexemes : Json → List (List Char)
  | .null => ["null".toList]
  | .boolean true => ["true".toList]
  | .boolean false => ["false".toList]
  | .number value => [writeNumber value]
  | .text value => [writeText value]
  | .list [] => [['['], [']']]
  | .list (item :: items) => ['['] :: (lexemes item ++ itemLexemes items)
  | .object [] => [['\x7b'], ['\x7d']]
  | .object ((key, value) :: entries) =>
    ['\x7b'] :: writeText key :: [':'] :: (lexemes value ++ entryLexemes entries)

/-- The lexemes of the further items of a list and its closing bracket. -/
def itemLexemes : List Json → List (List Char)
  | [] => [[']']]
  | item :: items => [','] :: (lexemes item ++ itemLexemes items)

/-- The lexemes of the further entries of an object and its closing brace. -/
def entryLexemes : List (JsonText × Json) → List (List Char)
  | [] => [['\x7d']]
  | (key, value) :: entries =>
    [','] :: writeText key :: [':'] :: (lexemes value ++ entryLexemes entries)

end

/-- Blanks only. -/
def IsBlank (cs : List Char) : Prop :=
  ∀ c ∈ cs, isSpace c = true

/-- **Lexemes with blanks in front of each**, or without. -/
inductive Spaced : List (List Char) → List Char → Prop where
  | nil : Spaced [] []
  | cons {blanks lexeme cs : List Char} {more : List (List Char)} (hblanks : IsBlank blanks)
      (h : Spaced more cs) : Spaced (lexeme :: more) (blanks ++ (lexeme ++ cs))

/-- **The texts of a value**: its lexemes with blanks in front of each and behind the last, or without. -/
def IsText (value : Json) (text : String) : Prop :=
  ∃ cs blanks, text.toList = cs ++ blanks ∧ Spaced value.lexemes cs ∧ IsBlank blanks

variable {cs blanks lexeme : List Char} {front more : List (List Char)}

/-! ## Spaced lexemes -/

theorem spaced_cons_iff :
    Spaced (lexeme :: more) cs ↔
      ∃ blanks rest, cs = blanks ++ (lexeme ++ rest) ∧ IsBlank blanks ∧ Spaced more rest := by
  constructor
  · rintro (_ | ⟨hblanks, h⟩)
    exact ⟨_, _, rfl, hblanks, h⟩
  · rintro ⟨blanks, rest, rfl, hblanks, h⟩
    exact .cons hblanks h

theorem spaced_nil_iff : Spaced [] cs ↔ cs = [] := by
  constructor
  · rintro ⟨⟩
    rfl
  · rintro rfl
    exact .nil

/-- Where lexemes come in two parts the text does. -/
theorem spaced_append_iff :
    Spaced (front ++ more) cs ↔ ∃ before behind, cs = before ++ behind ∧ Spaced front before ∧
      Spaced more behind := by
  induction front generalizing cs with
  | nil =>
    constructor
    · exact fun h => ⟨[], cs, rfl, .nil, h⟩
    · rintro ⟨before, behind, rfl, hbefore, hbehind⟩
      obtain rfl := spaced_nil_iff.mp hbefore
      exact hbehind
  | cons first front ih =>
    rw [List.cons_append, spaced_cons_iff]
    constructor
    · rintro ⟨blanks, rest, rfl, hblanks, h⟩
      obtain ⟨before, behind, rfl, hbefore, hbehind⟩ := ih.mp h
      exact ⟨blanks ++ (first ++ before), behind, by simp, .cons hblanks hbefore, hbehind⟩
    · rintro ⟨before, behind, rfl, hbefore, hbehind⟩
      obtain ⟨blanks, rest, rfl, hblanks, h⟩ := spaced_cons_iff.mp hbefore
      exact ⟨blanks, rest ++ behind, by simp, hblanks, ih.mpr ⟨rest, behind, rfl, h, hbehind⟩⟩

theorem isBlank_nil : IsBlank [] := fun _ hc => absurd hc List.not_mem_nil

/-- Lexemes side by side are spaced without blanks. -/
theorem spaced_flatten (ls : List (List Char)) : Spaced ls ls.flatten := by
  induction ls with
  | nil => exact .nil
  | cons lexeme more ih => exact .cons isBlank_nil ih

/-! ## Taking lexemes off a text -/

/-- What is left of a text behind lexemes with blanks in front of each. -/
def dropLexemes? : List (List Char) → List Char → Option (List Char)
  | [], cs => some cs
  | lexeme :: more, cs =>
    if lexeme.isPrefixOf (skipSpace cs) then dropLexemes? more ((skipSpace cs).drop lexeme.length)
    else none

/-- A text is the blanks in front of it and what is behind them. -/
theorem exists_blanks (cs : List Char) : ∃ blanks, cs = blanks ++ skipSpace cs ∧ IsBlank blanks :=
  ⟨cs.takeWhile isSpace, List.takeWhile_append_dropWhile.symm, fun _ hc => List.mem_takeWhile_imp hc⟩

/-- Lexemes that can be taken off are spaced. -/
theorem exists_spaced {rest : List Char} (h : dropLexemes? more cs = some rest) :
    ∃ front, cs = front ++ rest ∧ Spaced more front := by
  induction more generalizing cs with
  | nil =>
    obtain rfl := Option.some.inj h
    exact ⟨[], rfl, .nil⟩
  | cons lexeme more ih =>
    rw [dropLexemes?] at h
    split at h
    · next hprefix =>
      obtain ⟨left, hskip⟩ := List.isPrefixOf_iff_prefix.mp hprefix
      rw [← hskip, List.drop_left] at h
      obtain ⟨front, rfl, hfront⟩ := ih h
      obtain ⟨blanks, hcs, hblanks⟩ := exists_blanks cs
      exact ⟨blanks ++ (lexeme ++ front), by rw [hcs, ← hskip]; simp, .cons hblanks hfront⟩
    · cases h

/-- **A text of a value is recognised** by taking the value's lexemes off. -/
theorem isText_of_dropLexemes? {value : Json} {text : String}
    (h : (dropLexemes? value.lexemes text.toList).map skipSpace = some []) : value.IsText text := by
  obtain ⟨rest, hrest, hskip⟩ := Option.map_eq_some_iff.mp h
  obtain ⟨front, htext, hfront⟩ := exists_spaced hrest
  obtain ⟨blanks, hblanks, hblank⟩ := exists_blanks rest
  rw [hskip, List.append_nil] at hblanks
  exact ⟨front, rest, htext, hfront, hblanks ▸ hblank⟩

/-! ## The writer -/

mutual

/-- **The writer puts the lexemes side by side.** -/
theorem flatten_lexemes (value : Json) : (lexemes value).flatten = writeValue value := by
  match value with
  | .null | .boolean true | .boolean false => rfl
  | .number _ | .text _ => simp [lexemes, writeValue]
  | .list [] | .object [] => rfl
  | .list (item :: items) =>
    simp [lexemes, writeValue, flatten_lexemes item, flatten_itemLexemes items]
  | .object ((key, value) :: entries) =>
    simp [lexemes, writeValue, flatten_lexemes value, flatten_entryLexemes entries]

/-- The lexemes of items are what is written of them. -/
theorem flatten_itemLexemes (items : List Json) : (itemLexemes items).flatten = writeItems items := by
  match items with
  | [] => rfl
  | item :: items =>
    simp [itemLexemes, writeItems, flatten_lexemes item, flatten_itemLexemes items]

theorem flatten_entryLexemes (entries : List (JsonText × Json)) :
    (entryLexemes entries).flatten = writeEntries entries := by
  match entries with
  | [] => rfl
  | (key, value) :: entries =>
    simp [entryLexemes, writeEntries, flatten_lexemes value, flatten_entryLexemes entries]

end

/-- **What is written is a text of the value.** -/
theorem isText_write (value : Json) : value.IsText (write value) := by
  refine ⟨writeValue value, [], by simp [write], ?_, isBlank_nil⟩
  rw [← flatten_lexemes]
  exact spaced_flatten _

end DatasetHosting.Json
