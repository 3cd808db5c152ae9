import DatasetHosting.Proofs.Text.Slash
import DatasetHosting.Storage.Resource

/-!
# Proofs/Storage/Home — paths that are classified twice

The path of what a path holds is a layout directory or the normal form, and it can be classified in its
turn.  Layout directories hold what they are named for.  A normal form is classified alike unless it starts
with `./`, which happens where slashes hide it from the first step of normalising
(`HomeContent.ofPath_path_eq_iff`).
-/

namespace DatasetHosting.HomeContent

open DatasetHosting.Text

variable {before rest cs : List Char} {path directory : String} {content : HomeContent}

/-! ## Normal forms -/

/-- **The path starts with `./`**, which names the directory it is in. -/
def StartsInPlace (path : String) : Prop :=
  ['.', '/'] <+: path.toList

instance (path : String) : Decidable (StartsInPlace path) :=
  inferInstanceAs (Decidable (_ <+: _))

theorem length_dropDotSlash_le (cs : List Char) : (dropDotSlash cs).length ≤ cs.length := by
  induction cs using dropDotSlash.induct with
  | case1 rest ih =>
    rw [dropDotSlash, List.length_cons, List.length_cons]
    omega
  | case2 cs hother => rw [dropDotSlash.eq_2 cs hother]

theorem dropDotSlash_eq_self (h : ¬['.', '/'] <+: cs) : dropDotSlash cs = cs := by
  refine dropDotSlash.eq_2 cs ?_
  rintro rest rfl
  exact h (List.prefix_append ['.', '/'] rest)

/-- The normal form is trimmed. -/
theorem trimSlashes_normalise (path : String) :
    trimSlashes (normalise path).toList = (normalise path).toList := by
  rw [normalise, String.toList_ofList, trimSlashes_trimSlashes]

/-- **A normal form is its own normal form** unless it starts with `./`. -/
theorem normalise_normalise_iff :
    normalise (normalise path) = normalise path ↔ ¬StartsInPlace (normalise path) := by
  constructor
  · rintro hsame ⟨rest, hrest⟩
    have hshort : (trimSlashes (dropDotSlash (normalise path).toList)).length ≤ rest.length := by
      rw [← hrest]
      exact (length_trimSlashes_le _).trans (length_dropDotSlash_le rest)
    have hlength := congrArg (String.toList · |>.length) hsame
    rw [normalise, String.toList_ofList] at hlength
    rw [hlength, ← hrest, List.length_append, List.length_cons, List.length_singleton] at hshort
    omega
  · intro hplace
    rw [normalise, dropDotSlash_eq_self hplace, trimSlashes_normalise, String.ofList_toList]

/-! ## The directories that a path lies in -/

/-- **The path is the directory or lies below it**, behind a slash. -/
def Contains (directory path : String) : Prop :=
  path = directory ∨ (directory ++ "/").toList <+: path.toList

instance (directory path : String) : Decidable (Contains directory path) :=
  inferInstanceAs (Decidable (_ ∨ _))

/-- The same of characters, as one prefix. -/
def IsWithin (directory path : List Char) : Prop :=
  directory ++ ['/'] <+: path ++ ['/']

theorem contains_iff_isWithin : Contains directory path ↔ IsWithin directory.toList path.toList := by
  have hslash : (directory ++ "/").toList = directory.toList ++ ['/'] := String.toList_append
  rw [Contains, IsWithin, hslash, List.prefix_concat_iff, List.append_left_inj, String.toList_inj]
  exact or_congr_left eq_comm

theorem isWithin_nil {front : List Char} : IsWithin front [] ↔ front = [] := by
  cases front <;> simp [IsWithin]

theorem isWithin_cons {front : List Char} {c : Char} :
    IsWithin front (c :: cs) ↔
      (front = [] ∧ c = '/') ∨ ∃ rest, front = c :: rest ∧ IsWithin rest cs := by
  cases front with
  | nil => simp [IsWithin, eq_comm]
  | cons d front => simp [IsWithin, List.cons_prefix_cons, and_comm]

theorem mem_enclosingFrom_cons {c : Char} {name : String} :
    name ∈ enclosingFrom before (c :: rest) ↔
      (c = '/' ∧ name = String.ofList before.reverse) ∨ name ∈ enclosingFrom (c :: before) rest := by
  rw [enclosingFrom]
  by_cases hc : c = '/' <;> simp [hc, or_comm]

theorem mem_enclosingFrom_iff {name : String} :
    name ∈ enclosingFrom before rest ↔
      ∃ front, IsWithin front rest ∧ name = String.ofList (before.reverse ++ front) := by
  induction rest generalizing before with
  | nil => simp [enclosingFrom, isWithin_nil]
  | cons c rest ih =>
    rw [mem_enclosingFrom_cons, ih]
    constructor
    · rintro (⟨hslash, rfl⟩ | ⟨front, hfront, rfl⟩)
      · exact ⟨[], isWithin_cons.mpr (.inl ⟨rfl, hslash⟩), by rw [List.append_nil]⟩
      · exact ⟨c :: front, isWithin_cons.mpr (.inr ⟨front, rfl, hfront⟩), by simp⟩
    · rintro ⟨front, hfront, rfl⟩
      rcases isWithin_cons.mp hfront with ⟨rfl, hslash⟩ | ⟨front, rfl, hshorter⟩
      · exact .inl ⟨hslash, by rw [List.append_nil]⟩
      · exact .inr ⟨front, hshorter, by simp⟩

/-- **The fronts of a path are the directories that contain it.** -/
theorem mem_enclosing_iff : directory ∈ enclosing path ↔ Contains directory path := by
  rw [enclosing, mem_enclosingFrom_iff, contains_iff_isWithin]
  constructor
  · rintro ⟨front, hfront, rfl⟩
    simpa using hfront
  · intro h
    exact ⟨directory.toList, h, by simp⟩

/-- **A directory that encloses a path is in front of it.** -/
theorem prefix_of_mem_enclosing (h : directory ∈ enclosing path) :
    directory.toList <+: path.toList := by
  rcases mem_enclosing_iff.mp h with rfl | hbelow
  · exact List.prefix_rfl
  · exact (String.toList_append ▸ List.prefix_append _ _).trans hbelow

/-! ## The layout -/

/-- What each directory of the layout holds is found again by its own path. -/
theorem ofPath_path_of_mem_layout :
    ∀ entry ∈ layout, ofPath entry.2.path = entry.2 := by
  decide +kernel

/-- No directory of the layout is in front of what starts with a dot. -/
theorem not_prefix_of_mem_layout (rest : List Char) :
    ∀ entry ∈ layout, ¬entry.1.toList <+: '.' :: rest := by
  simp [layout]

/-- The layout has no place for what stands for itself. -/
theorem ne_other_of_mem_layout (path : String) : ∀ entry ∈ layout, entry.2 ≠ other path := by
  simp [layout]

theorem mem_layout_of_lookup (h : layout.lookup directory = some content) :
    (directory, content) ∈ layout := by
  obtain ⟨front, behind, hlayout, -⟩ := List.lookup_eq_some_iff.mp h
  rw [hlayout]
  exact List.mem_append_right _ List.mem_cons_self

/-- **A path holds what the layout says of a directory around it**, or stands for itself. -/
theorem ofPath_cases (path : String) :
    (∃ entry ∈ layout, entry.1 ∈ enclosing (normalise path) ∧ ofPath path = entry.2) ∨
      ofPath path = other (normalise path) := by
  rw [ofPath]
  cases hfound : (enclosing (normalise path)).findSome? fun directory => layout.lookup directory with
  | none => exact .inr rfl
  | some content =>
    obtain ⟨directory, hmem, hlookup⟩ := List.exists_of_findSome?_eq_some hfound
    exact .inl ⟨_, mem_layout_of_lookup hlookup, hmem, rfl⟩

/-- The normal form alone decides. -/
theorem ofPath_congr {other : String} (h : normalise path = normalise other) :
    ofPath path = ofPath other := by
  rw [ofPath, ofPath, h]

/-! ## Classified twice -/

/-- **Classifying the path of what a path holds finds the same**, unless the normal form starts with
`./`. -/
theorem ofPath_path_eq_iff (path : String) :
    ofPath (ofPath path).path = ofPath path ↔ ¬StartsInPlace (normalise path) := by
  rcases ofPath_cases path with ⟨entry, hlayout, hmem, hpath⟩ | hpath
  · -- A directory of the layout is in front of the normal form, so that no dot is.
    have hdirectory := prefix_of_mem_enclosing hmem
    rw [hpath]
    refine iff_of_true (ofPath_path_of_mem_layout entry hlayout) ?_
    rintro ⟨rest, hrest⟩
    rw [← hrest] at hdirectory
    exact not_prefix_of_mem_layout _ entry hlayout hdirectory
  · rw [← normalise_normalise_iff, hpath]
    change ofPath (normalise path) = _ ↔ _
    constructor
    · intro hagain
      rcases ofPath_cases (normalise path) with ⟨entry, hlayout, -, hentry⟩ | hother
      · exact absurd (hentry.symm.trans hagain) (ne_other_of_mem_layout _ entry hlayout)
      · exact HomeContent.other.inj (hother.symm.trans hagain)
    · intro hnormal
      rw [ofPath_congr hnormal, hpath]

example : StartsInPlace (normalise "/./data/avatars") := by decide +kernel

/-- A slash in front keeps the first step from the `./` behind it. -/
theorem ofPath_path_ne_of_slash_first :
    ofPath "/./data/avatars" = other "./data/avatars" ∧
      ofPath (other "./data/avatars").path = avatars ∧
      ¬∀ path, ofPath (ofPath path).path = ofPath path := by
  have honce : ofPath "/./data/avatars" = other "./data/avatars" := by decide +kernel
  have htwice : ofPath (other "./data/avatars").path = avatars := by decide +kernel
  refine ⟨honce, htwice, fun hall => ?_⟩
  have hsame := hall "/./data/avatars"
  rw [honce, htwice] at hsame
  cases hsame

end DatasetHosting.HomeContent
