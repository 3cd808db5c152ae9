import DatasetHosting.Dataset.WellKnown
import DatasetHosting.Proofs.Text.Pieces

/-!
# Proofs/Dataset/Location — going down a path, and the name of where it ends

Going down two segments is going down one, the two with a slash between them (`Location.resolve_resolve`).
What a place is called is its last name: the last piece of its URI that is not empty
(`Location.lastSegment?_eq`).  A segment puts its names behind those of the place it starts from, so it names
the place, or leaves its name if it has none (`Location.lastSegment?_resolve`).

None of this depends on how many slashes stand at either end of a URI or a segment.
-/

namespace DatasetHosting.Location

open DatasetHosting.Text

/-! ## Two segments -/

/-- **Two segments as one**, with one slash between them. -/
def joined (first second : String) : String :=
  String.ofList (dropEndSlashes first.toList) ++ "/" ++ String.ofList (dropSlashes second.toList)

theorem toList_joined (first second : String) :
    (joined first second).toList =
      dropEndSlashes first.toList ++ '/' :: dropSlashes second.toList := by
  simp [joined]

theorem toList_uri_resolve (location : Location) (segment : String) :
    (location.resolve segment).uri.toList =
      dropEndSlashes location.uri.toList ++ '/' :: dropSlashes segment.toList := by
  simp [resolve, underDirectory]

/-- A location is told by its region and the characters of its URI. -/
theorem ext_toList {location other : Location} (hregion : location.region = other.region)
    (huri : location.uri.toList = other.uri.toList) : location = other := by
  obtain ⟨uri, region⟩ := location
  obtain ⟨uri', region'⟩ := other
  obtain rfl : region = region' := hregion
  obtain rfl : uri = uri' := String.toList_inj.mp huri
  rfl

/-- **Going down twice is going down once.** -/
theorem resolve_resolve (location : Location) (first second : String) :
    (location.resolve first).resolve second = location.resolve (joined first second) := by
  refine ext_toList rfl ?_
  rw [toList_uri_resolve, toList_uri_resolve, toList_uri_resolve, toList_joined]
  by_cases hnone : dropSlashes first.toList = []
  · -- The first segment is empty but for slashes: the slash in front of it goes with it.
    have hend : dropEndSlashes first.toList = [] := dropEndSlashes_eq_nil_iff.mpr hnone
    have hbase : dropEndSlashes (dropEndSlashes location.uri.toList ++ ['/']) =
        dropEndSlashes location.uri.toList :=
      (List.rdropWhile_concat_pos _ _ _ rfl).trans (dropEndSlashes_dropEndSlashes _)
    have hsegment : dropSlashes ('/' :: dropSlashes second.toList) = dropSlashes second.toList :=
      (List.dropWhile_cons_of_pos rfl).trans (dropSlashes_dropSlashes _)
    rw [hnone, hend, hbase, List.nil_append, hsegment]
  · have hsome : trimSlashes first.toList ≠ [] := mt trimSlashes_eq_nil_iff.mp hnone
    have hbehind : dropEndSlashes ('/' :: dropSlashes first.toList) = '/' :: trimSlashes first.toList :=
      dropEndSlashes_append hsome ['/']
    have hfirst :
        dropEndSlashes (dropEndSlashes location.uri.toList ++ '/' :: dropSlashes first.toList) =
          dropEndSlashes location.uri.toList ++ '/' :: trimSlashes first.toList := by
      rw [dropEndSlashes_append (hbehind ▸ List.cons_ne_nil _ _), hbehind]
    have hjoined : dropSlashes (dropEndSlashes first.toList ++ '/' :: dropSlashes second.toList) =
        trimSlashes first.toList ++ '/' :: dropSlashes second.toList := by
      rw [← dropSlashes_dropEndSlashes] at hsome ⊢
      exact dropSlashes_append hsome _
    rw [hfirst, hjoined, List.append_assoc, List.cons_append]

/-! ## Names of places -/

/-- **The last name on a path**, if there is one. -/
def lastName? (path : String) : Option String :=
  (pieces path.toList).getLast?.map String.ofList

theorem lastSegment?_eq (location : Location) : location.lastSegment? = lastName? location.uri := by
  rw [lastSegment?, lastName?, ← pieces_dropEndSlashes]
  by_cases hnone : dropEndSlashes location.uri.toList = []
  · rw [hnone]
    rfl
  · obtain ⟨hsome, hlast⟩ := getLast?_pieces hnone (getLast?_dropEndSlashes _)
    rw [hlast]
    split
    · next hnil => exact absurd hnil hsome
    · rfl

theorem lastName?_eq_none_iff {path : String} : lastName? path = none ↔ ∀ c ∈ path.toList, c = '/' := by
  rw [lastName?, Option.map_eq_none_iff, List.getLast?_eq_none_iff, pieces_eq_nil_iff]

/-- **A segment names the place** unless it has no name. -/
theorem lastSegment?_resolve (location : Location) (segment : String) :
    (location.resolve segment).lastSegment? = (lastName? segment).or location.lastSegment? := by
  rw [lastSegment?_eq, lastSegment?_eq, lastName?, toList_uri_resolve, pieces_append_slash,
    pieces_dropEndSlashes, pieces_dropSlashes, List.getLast?_append, lastName?, lastName?]
  cases (pieces segment.toList).getLast? <;> rfl

/-- Slashes behind a name are no part of it. -/
theorem lastName?_append_slashes {name : String} (hsome : name.toList ≠ []) (h : '/' ∉ name.toList)
    (count : Nat) : lastName? (name ++ String.ofList (List.replicate count '/')) = some name := by
  rw [lastName?, String.toList_append, String.toList_ofList, pieces_append_replicate,
    pieces_of_notMem hsome h, List.getLast?_singleton, Option.map_some, String.ofList_toList]

/-- **Paths compose.**  Two segments are one; the last segment of a URI is its last piece that is not empty, and
there is none exactly if there is nothing but slashes; one step down, it is that of the segment, or the old one
if the segment has none.  So a dataset published under `dataset-` and an identifier is named by just these,
wherever it is and however many slashes stand behind. -/
theorem resolve_composes (location : Location) (first second : String) :
    (location.resolve first).resolve second = location.resolve (joined first second) ∧
    location.lastSegment? = lastName? location.uri ∧
    (location.lastSegment? = none ↔ ∀ c ∈ location.uri.toList, c = '/') ∧
    (location.resolve first).lastSegment? = (lastName? first).or location.lastSegment? ∧
    ∀ uuid : String, '/' ∉ uuid.toList → ∀ (count : Nat) (format : UInt32),
      let segment := "dataset-" ++ uuid ++ String.ofList (List.replicate count '/')
      (Dataset.publishedAt (location.resolve segment) format).id = "dataset-" ++ uuid := by
  refine ⟨resolve_resolve _ _ _, lastSegment?_eq _, ?_, lastSegment?_resolve _ _, ?_⟩
  · rw [lastSegment?_eq, lastName?_eq_none_iff]
  · intro uuid huuid count format segment
    have hname : lastName? segment = some ("dataset-" ++ uuid) :=
      lastName?_append_slashes (by simp) (by simp [huuid]) count
    rw [Dataset.publishedAt, lastSegment?_resolve, hname]
    rfl

/-- Slashes behind the bucket and behind the identifier are no part of the dataset's name. -/
theorem resolve_composes_published :
    let bucket : Location := ⟨"s3://perf-datasets//", ⟨"EU_CENTRAL_1"⟩⟩
    let uuid := "631c70d4-084b-455c-9785-b01068b9f07c"
    let segment := "dataset-" ++ uuid ++ String.ofList (List.replicate 2 '/')
    '/' ∉ uuid.toList ∧ (Dataset.publishedAt (bucket.resolve segment) 8).id = "dataset-" ++ uuid := by
  intro bucket uuid segment
  have huuid : '/' ∉ uuid.toList := by decide +kernel
  obtain ⟨-, -, -, -, hid⟩ := resolve_composes bucket "" ""
  exact ⟨huuid, hid uuid huuid 2 8⟩

example : (resolve ⟨"///", ⟨"EU_WEST_1"⟩⟩ "//").lastSegment? = none := by decide +kernel

end DatasetHosting.Location
