import DatasetHosting.Proofs.Storage.Plan
import DatasetHosting.Proofs.Text.Slash

/-!
# Proofs/Storage/Associations — the lines of a file store configuration

The names of a store stand in front of the section of associations, as they are and whatever they hold.  A
line that opens the section comes behind them, so the last one in the file does, and what it opens is one line
for each binding in the object store (`NodeFile.associationLines_filestoreConfig?`).
-/

namespace DatasetHosting.NodeFile

open DatasetHosting.Text

variable {store : ObjectStore} {bindings : List Binding} {file : NodeFile}

/-! ## Lines -/

/-- The lines of a text; behind the last line end there is one more. -/
def linesOf (text : String) : List String :=
  (text.toList.splitOn '\n').map String.ofList

/-- A line break ends the lines in front of it. -/
theorem linesOf_append_line (text rest : String) :
    linesOf (text ++ "\n" ++ rest) = linesOf text ++ linesOf rest := by
  have hline : (text ++ "\n" ++ rest).toList = text.toList ++ '\n' :: rest.toList := by
    simp
  rw [linesOf, hline, List.splitOn_append_cons_self, List.map_append]
  rfl

theorem lines_cons (text : String) (texts : List String) :
    lines (text :: texts) = text ++ "\n" ++ lines texts :=
  String.join_cons

/-- **The lines of lines**, those with line ends of their own in pieces. -/
theorem linesOf_lines (texts : List String) : linesOf (lines texts) = texts.flatMap linesOf ++ [""] := by
  induction texts with
  | nil => rfl
  | cons text texts ih =>
    rw [lines_cons, linesOf_append_line, ih, List.flatMap_cons, List.append_assoc]

/-- A text without line ends is one line. -/
theorem linesOf_of_notMem {text : String} (h : '\n' ∉ text.toList) : linesOf text = [text] := by
  rw [linesOf, List.splitOn_eq_singleton h, List.map_singleton, String.ofList_toList]

/-! ## The section of associations -/

/-- **The lines of the section of associations**: between the last line that opens one and the line that
closes it. -/
def associationLines (contents : String) : List String :=
  (behindLast "  <associations>" (linesOf contents)).takeWhile (· != "  </associations>")

/-- The line that sends a kind of content to the bucket of the file. -/
def associationLine (resource : Resource) : String :=
  "    <association target=\"" ++ resource.target ++ "\" file-store=\"s3Bucket\" />"

theorem linesOf_associationLine (resource : Resource) :
    linesOf (associationLine resource) = [associationLine resource] := by
  refine linesOf_of_notMem ?_
  cases resource <;> decide +kernel

/-- No association looks like the tags around them. -/
theorem associationLine_ne (resource : Resource) :
    associationLine resource ≠ "  <associations>" ∧ associationLine resource ≠ "  </associations>" := by
  cases resource <;> decide +kernel

theorem linesOf_map_associationLine (resources : List Resource) :
    (resources.map associationLine).flatMap linesOf = resources.map associationLine := by
  simp only [List.flatMap_map, linesOf_associationLine]
  exact List.map_eq_flatMap.symm

/-- The lines in front of the section of associations, in their order. -/
def storeLines (store : ObjectStore) : List String :=
  ["<?xml version=\"1.1\" ?>",
   "<filestore-config>",
   "  <filestores>",
   "    <s3-filestore id=\"s3Bucket\">",
   "      <config>",
   "        <bucket-name>" ++ store.bucket ++ "</bucket-name>",
   "        <region>" ++ store.region.apiName ++ "</region>",
   "      </config>",
   "    </s3-filestore>",
   "  </filestores>"]

/-- **What the configuration holds**: the store, and one line for each binding that is in it. -/
theorem contents_filestoreConfig? (h : filestoreConfig? store bindings = some file) :
    file.contents = lines (storeLines store ++ "  <associations>" ::
      (((bindings.filter (·.placement == .objectStore)).map (·.resource)).map associationLine ++
        ["  </associations>", "</filestore-config>"])) := by
  rw [filestoreConfig?] at h
  split at h
  · cases h
  · next stored hstored =>
    obtain rfl := Option.some.inj h
    rw [List.map_map]
    rfl

/-- **The section of associations** has one line for each binding in the object store and no other, whatever
the names of the store are. -/
theorem associationLines_filestoreConfig? (h : filestoreConfig? store bindings = some file) :
    associationLines file.contents =
      ((bindings.filter (·.placement == .objectStore)).map (·.resource)).map associationLine := by
  rw [contents_filestoreConfig? h]
  generalize (bindings.filter (·.placement == .objectStore)).map (·.resource) = resources
  have hopen : linesOf "  <associations>" = ["  <associations>"] := by decide +kernel
  have hclose : ["  </associations>", "</filestore-config>"].flatMap linesOf =
      ["  </associations>", "</filestore-config>"] := by decide +kernel
  have hbehind : "  <associations>" ∉ resources.map associationLine ++
      ["  </associations>", "</filestore-config>"] ++ [""] := by
    simp only [List.mem_append, List.mem_map, not_or, not_exists, not_and]
    exact ⟨⟨fun resource _ => (associationLine_ne resource).1, by decide⟩, by decide⟩
  have hwithin : ∀ text ∈ resources.map associationLine, (text != "  </associations>") = true := by
    intro text htext
    obtain ⟨resource, -, rfl⟩ := List.mem_map.mp htext
    exact bne_iff_ne.mpr (associationLine_ne resource).2
  rw [associationLines, linesOf_lines, List.flatMap_append, List.flatMap_cons, List.flatMap_append,
    linesOf_map_associationLine, hopen, hclose, List.append_assoc, List.singleton_append,
    List.cons_append, behindLast_append hbehind, List.append_assoc,
    List.takeWhile_append_of_pos hwithin]
  simp

end DatasetHosting.NodeFile
