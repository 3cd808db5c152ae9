import DatasetHosting.Proofs.Storage.Home

/-!
# Proofs/Storage/Layout — the directory of the layout that contains a path

The fronts of a path are looked up in the layout, the longest first.  No two directories of the layout contain
one path, so it does not matter which front is found first: a path holds what the directory says that contains
its normal form (`HomeContent.ofPath_by_containment`).

Behind a path that is not empty but for its slashes, normalising leaves what is below it as far as its end.  So
a directory of the layout that contains the path contains what is below it as well.
-/

namespace DatasetHosting.HomeContent

open DatasetHosting.Text

variable {rest directory path : List Char} {entry : String × HomeContent}

/-! ## Slashes at the end -/

/-- **Slashes at the end do not matter** for a directory that ends in none. -/
theorem isWithin_dropEndSlashes (hend : directory.getLast? ≠ some '/') :
    IsWithin directory (dropEndSlashes path) ↔ IsWithin directory path := by
  induction path using List.reverseRecOn with
  | nil => rfl
  | append_singleton path c ih =>
    by_cases hc : c = '/'
    · subst hc
      have hdrop : dropEndSlashes (path ++ ['/']) = dropEndSlashes path :=
        List.rdropWhile_concat_pos (· == '/') path '/' rfl
      have hlonger : IsWithin directory (path ++ ['/']) ↔ IsWithin directory path := by
        rw [IsWithin, List.prefix_concat_iff, List.append_left_inj]
        refine or_iff_right fun hsame => hend ?_
        rw [hsame, List.getLast?_concat]
      rw [hdrop, ih, hlonger]
    · have hkeep : dropEndSlashes (path ++ [c]) = path ++ [c] :=
        List.rdropWhile_concat_neg (· == '/') path c (by simpa using hc)
      rw [hkeep]

/-! ## The layout -/

/-- The directories of the layout start and end in a letter. -/
theorem ends_of_mem_layout :
    ∀ entry ∈ layout, entry.1.toList ≠ [] ∧ entry.1.toList.getLast? ≠ some '/' := by
  decide +kernel

theorem lookup_of_mem_layout : ∀ entry ∈ layout, layout.lookup entry.1 = some entry.2 := by
  decide +kernel

/-- No two directories of the layout hold the same. -/
theorem eq_of_mem_layout :
    ∀ entry ∈ layout, ∀ other ∈ layout, entry.2 = other.2 → entry = other := by
  decide +kernel

/-- No directory of the layout contains another. -/
theorem not_isWithin_of_mem_layout :
    ∀ entry ∈ layout, ∀ other ∈ layout, IsWithin entry.1.toList other.1.toList → entry = other := by
  unfold IsWithin
  decide +kernel

/-- **At most one directory of the layout contains a path**: of two that do, one would contain the other. -/
theorem eq_of_contains {path : String} {other : String × HomeContent} (hentry : entry ∈ layout)
    (hother : other ∈ layout) (h : Contains entry.1 path) (h' : Contains other.1 path) :
    entry = other := by
  rw [contains_iff_isWithin] at h h'
  rcases List.prefix_or_prefix_of_prefix h h' with hwithin | hwithin
  · exact not_isWithin_of_mem_layout entry hentry other hother hwithin
  · exact (not_isWithin_of_mem_layout other hother entry hentry hwithin).symm

/-- What the front that is found first says is what the directory says that contains the path. -/
theorem findSome?_enclosing {path : String} (hentry : entry ∈ layout) (h : Contains entry.1 path) :
    (enclosing path).findSome? (layout.lookup ·) = some entry.2 := by
  have hlookup := lookup_of_mem_layout entry hentry
  cases hfound : (enclosing path).findSome? (layout.lookup ·) with
  | none =>
    have hnone := List.findSome?_eq_none_iff.mp hfound entry.1 (mem_enclosing_iff.mpr h)
    rw [hlookup] at hnone
    cases hnone
  | some content =>
    obtain ⟨front, hfront, hcontent⟩ := List.exists_of_findSome?_eq_some hfound
    have hsame := eq_of_contains hentry (mem_layout_of_lookup hcontent) h
      (mem_enclosing_iff.mp hfront)
    rw [hsame]

/-- **A path holds what a directory of the layout is for** exactly if the directory contains its normal
form. -/
theorem ofPath_eq_iff_contains {path : String} (hentry : entry ∈ layout) :
    ofPath path = entry.2 ↔ Contains entry.1 (normalise path) := by
  constructor
  · intro hpath
    rcases ofPath_cases path with ⟨found, hfound, hmem, hcontent⟩ | hother
    · obtain rfl := eq_of_mem_layout found hfound entry hentry (hcontent.symm.trans hpath)
      exact mem_enclosing_iff.mp hmem
    · exact absurd (hpath.symm.trans hother) (ne_other_of_mem_layout _ entry hentry)
  · intro h
    rw [ofPath, findSome?_enclosing hentry h]

theorem ofPath_of_not_contains {path : String}
    (h : ∀ entry ∈ layout, ¬Contains entry.1 (normalise path)) :
    ofPath path = other (normalise path) := by
  rcases ofPath_cases path with ⟨entry, hentry, hmem, -⟩ | hother
  · exact absurd (mem_enclosing_iff.mp hmem) (h entry hentry)
  · exact hother

/-! ## Paths below a path -/

/-- What is longer behind a slash is within the same directories. -/
theorem IsWithin.append (h : IsWithin directory path) (below : List Char) :
    IsWithin directory (path ++ '/' :: below) := by
  refine h.trans ⟨below ++ ['/'], ?_⟩
  simp

theorem dropDotSlash_append (path below : List Char) :
    dropDotSlash (path ++ below) = dropDotSlash (dropDotSlash path ++ below) := by
  induction path using dropDotSlash.induct with
  | case1 rest ih => rw [List.cons_append, List.cons_append, dropDotSlash, dropDotSlash, ih]
  | case2 path hother => rw [dropDotSlash.eq_2 path hother]

/-- A text that has a directory behind its slashes starts with a slash or as the directory does. -/
theorem not_startsInPlace_of_isWithin (hentry : entry ∈ layout)
    (h : IsWithin entry.1.toList (dropSlashes rest)) : ¬['.', '/'] <+: rest := by
  rintro ⟨behind, rfl⟩
  refine not_prefix_of_mem_layout ('/' :: behind ++ ['/']) entry hentry ?_
  exact (List.prefix_append _ _).trans h

/-- **The normal form of a path below a path** is within the same directories of the layout. -/
theorem isWithin_normalise_append (hentry : entry ∈ layout) {path : String} (below : String)
    (h : IsWithin entry.1.toList (normalise path).toList) :
    IsWithin entry.1.toList (normalise (path ++ "/" ++ below)).toList := by
  obtain ⟨hsome, hend⟩ := ends_of_mem_layout entry hentry
  have hnormal (text : String) : IsWithin entry.1.toList (normalise text).toList ↔
      IsWithin entry.1.toList (dropSlashes (dropDotSlash text.toList)) := by
    rw [normalise, String.toList_ofList, trimSlashes, isWithin_dropEndSlashes hend]
  have hlonger : (path ++ "/" ++ below).toList = path.toList ++ '/' :: below.toList := by
    simp
  rw [hnormal] at h ⊢
  have hrest : dropSlashes (dropDotSlash path.toList) ≠ [] := by
    intro hnil
    rw [hnil, isWithin_nil] at h
    exact hsome h
  have hkeep : dropSlashes (dropDotSlash path.toList ++ '/' :: below.toList) =
      dropSlashes (dropDotSlash path.toList) ++ '/' :: below.toList :=
    dropSlashes_append hrest _
  have hwithin := h.append below.toList
  rw [← hkeep] at hwithin
  rw [hlonger, dropDotSlash_append,
    dropDotSlash_eq_self (not_startsInPlace_of_isWithin hentry hwithin)]
  exact hwithin

/-! ## What normalising takes away -/

/-- **What is left of a path** without any `./` in front and then without slashes at either end. -/
def StripsTo (path normal : String) : Prop :=
  ∃ dots front behind,
    path.toList = (List.replicate dots ['.', '/']).flatten ++
      (List.replicate front '/' ++ normal.toList ++ List.replicate behind '/') ∧
    ¬['.', '/'] <+: List.replicate front '/' ++ normal.toList ++ List.replicate behind '/' ∧
    normal.toList.head? ≠ some '/' ∧ normal.toList.getLast? ≠ some '/'

theorem exists_replicate_dropDotSlash (path : List Char) :
    ∃ dots, path = (List.replicate dots ['.', '/']).flatten ++ dropDotSlash path ∧
      ¬['.', '/'] <+: dropDotSlash path := by
  induction path using dropDotSlash.induct with
  | case1 rest ih =>
    obtain ⟨dots, hrest, hstart⟩ := ih
    refine ⟨dots + 1, ?_, hstart⟩
    rw [List.replicate_succ, List.flatten_cons, dropDotSlash, List.append_assoc, ← hrest]
    rfl
  | case2 path hother =>
    rw [dropDotSlash.eq_2 path hother]
    refine ⟨0, rfl, ?_⟩
    rintro ⟨rest, rfl⟩
    exact hother rest rfl

/-- **The normal form is what is left.** -/
theorem stripsTo_normalise (path : String) : StripsTo path (normalise path) := by
  obtain ⟨dots, hpath, hstart⟩ := exists_replicate_dropDotSlash path.toList
  obtain ⟨front, hfront⟩ := exists_replicate_dropSlashes (dropDotSlash path.toList)
  obtain ⟨behind, hbehind⟩ := exists_replicate_dropEndSlashes (dropSlashes (dropDotSlash path.toList))
  have hrest : dropDotSlash path.toList =
      List.replicate front '/' ++ (normalise path).toList ++ List.replicate behind '/' := by
    rw [normalise, String.toList_ofList, trimSlashes, List.append_assoc, ← hbehind, ← hfront]
  rw [hrest] at hpath hstart
  refine ⟨dots, front, behind, hpath, hstart, ?_, ?_⟩
  · rw [normalise, String.toList_ofList, ← dropSlashes_trimSlashes]
    exact head?_dropSlashes _
  · rw [normalise, String.toList_ofList]
    exact getLast?_dropEndSlashes _

/-! ## Paths by the layout -/

/-- The kinds of shared content are those of two directories of the layout. -/
theorem isShared_iff {content : HomeContent} :
    content.isShared = true ↔ content = avatars ∨ content = attachments := by
  cases content <;> simp [isShared, resource?, Resource.isShared]

/-- **A path is classified by the directory that contains it.**  At most one directory of the layout contains
the normal form: the path holds what that directory is for, and stands for itself if there is none.  So all that
is below a classified path is classified alike, and nothing is shared but the avatars, the attachments and what
is below them. -/
theorem ofPath_by_containment (path : String) :
    StripsTo path (normalise path) ∧
    (∀ entry ∈ layout, ofPath path = entry.2 ↔ Contains entry.1 (normalise path)) ∧
    (∀ entry ∈ layout, ∀ other ∈ layout, Contains entry.1 (normalise path) →
      Contains other.1 (normalise path) → entry = other) ∧
    ((∀ entry ∈ layout, ¬Contains entry.1 (normalise path)) → ofPath path = other (normalise path)) ∧
    (∀ entry ∈ layout, ofPath path = entry.2 → ∀ below, ofPath (path ++ "/" ++ below) = entry.2) ∧
    ((ofPath path).isShared = true ↔
      Contains "data/avatars" (normalise path) ∨ Contains "data/attachments" (normalise path)) := by
  refine ⟨stripsTo_normalise path, fun entry hentry => ofPath_eq_iff_contains hentry,
    fun entry hentry other hother => eq_of_contains hentry hother, ofPath_of_not_contains, ?_, ?_⟩
  · intro entry hentry hpath below
    rw [ofPath_eq_iff_contains hentry, contains_iff_isWithin] at hpath ⊢
    exact isWithin_normalise_append hentry below hpath
  · have havatars : ("data/avatars", avatars) ∈ layout := by decide
    have hattachments : ("data/attachments", attachments) ∈ layout := by decide
    rw [isShared_iff, ← ofPath_eq_iff_contains havatars, ← ofPath_eq_iff_contains hattachments]

example : ofPath "./data/attachments//../avatars" = attachments := by decide +kernel

example : ofPath "data/avatarsX" = other "data/avatarsX" := by decide +kernel

end DatasetHosting.HomeContent
