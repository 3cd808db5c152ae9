import DatasetHosting.Proofs.Document.Json.Layout

/-!
# Proofs/Document/Json/Data — layouts that are read as plain data

A record with a tag is read in two steps: its tag is taken out, and the other fields are then plain data.  The
data have the names of the fields and their values one by one (`Json.HasData`), as long as the nesting leaves
room.  So the tag may stand anywhere among the fields (`Json.Arranges.exists_tagged?`), and the fields are found
in the data as they would be found in the record (`Json.Arranges.exists_dataFields?`).
-/

namespace DatasetHosting

open Document Json

/-! ## Records of data -/

/-- **A record of data** with fields of the given names. -/
def Data.ofFields (fields : List (String × Data)) : Data :=
  .record (fields.map fun (name, value) => (.text name, value))

/-- The fields of a record of data are looked for among its entries. -/
theorem Data.fields?_ofFields_eq (names : List String) (fields : List (String × Data)) :
    Document.fields? names (ofFields fields) = Fields.ofEntries? names fields := by
  have hnamed : (fields.map fun field => (Data.text field.1, field.2)).mapM (named? names) =
      some (fields.map some) := by
    induction fields with
    | nil => rfl
    | cons field fields ih => simp [named?, ih]
  change ((fields.map fun field => (Data.text field.1, field.2)).mapM (named? names)).bind
    (fun found => Fields.ofEntries? names (found.filterMap id)) = _
  rw [hnamed, Option.bind_some, List.filterMap_map]
  simp

namespace Json

variable {room : Nat} {name tag : String} {fields : List Field} {entries others : List (String × Json)}
  {data : List (String × Data)}

/-- A natural number of 64 bits stays one. -/
theorem toData?_natural {n : Nat} (h : n < UInt64.size) :
    toData? room (natural n) = some (.natural n) := by
  simp [natural, toData?, numberData?, h]

/-- **Entries that are data one by one**, under the same names. -/
inductive HasData (room : Nat) : List (String × Json) → List (String × Data) → Prop where
  | nil : HasData room [] []
  | cons (name : String) {value : Json} {d : Data} {entries : List (String × Json)}
      {data : List (String × Data)} (hvalue : toData? room value = some d)
      (h : HasData room entries data) : HasData room ((name, value) :: entries) ((name, d) :: data)

theorem HasData.entriesData? (h : HasData room entries data) :
    entriesData? room (entries.map fun (name, value) => (some name, value)) =
      some (data.map fun (name, value) => (.text name, value)) := by
  induction h with
  | nil => rfl
  | cons _ hvalue _ ih => simp [Json.entriesData?, hvalue, ih]

theorem HasData.toData? (h : HasData room entries data) :
    toData? (room + 1) (record entries) = some (.ofFields data) := by
  simp [record, Json.toData?, h.entriesData?, Data.ofFields]

theorem HasData.map_fst (h : HasData room entries data) :
    data.map Prod.fst = entries.map Prod.fst := by
  induction h with
  | nil => rfl
  | cons _ _ _ ih => rw [List.map_cons, List.map_cons, ih]

theorem HasData.lookup (h : HasData room entries data) :
    data.lookup name = (entries.lookup name).bind (Json.toData? room) := by
  induction h with
  | nil => rfl
  | cons first hvalue _ ih =>
    by_cases hname : name = first
    · rw [hname, List.lookup_cons_self, List.lookup_cons_self, Option.bind_some, hvalue]
    · rw [lookup_cons_of_ne hname, lookup_cons_of_ne hname, ih]

theorem exists_hasData (h : ∀ entry ∈ entries, (toData? room entry.2).isSome = true) :
    ∃ data, HasData room entries data := by
  induction entries with
  | nil => exact ⟨[], .nil⟩
  | cons entry entries ih =>
    obtain ⟨hentry, hentries⟩ := List.forall_mem_cons.mp h
    obtain ⟨d, hd⟩ := Option.isSome_iff_exists.mp hentry
    obtain ⟨data, hdata⟩ := ih hentries
    exact ⟨(entry.1, d) :: data, .cons entry.1 hd hdata⟩

/-- An arrangement is data if the values of its fields are. -/
theorem Arranges.exists_hasData (h : Arranges fields entries)
    (hfields : ∀ field ∈ fields, ∀ value, field.States value → (toData? room value).isSome = true) :
    ∃ data, HasData room entries data :=
  Json.exists_hasData (h.forall_value (fun _ => rfl) hfields)

/-- **The fields of an arrangement are found in its data**, each as it is stated. -/
theorem Arranges.exists_dataFields? {names : List String} (h : Arranges fields entries)
    (hdata : HasData room entries data) (hnames : fields.map Field.name = names)
    (hnodup : names.Nodup) :
    ∃ found, fields? names (Data.ofFields data) = some found ∧ Offers (toData? room) fields found := by
  subst hnames
  have hknown := h.nodup_names hnodup
  rw [← hdata.map_fst] at hknown
  obtain ⟨found, hfound, hlookup⟩ := exists_ofEntries? hknown
  refine ⟨found, by rw [Data.fields?_ofFields_eq, hfound], h.offers hnodup fun name hname => ?_⟩
  rw [hlookup name hname, hdata.lookup]

/-! ## Tags -/

/-- **The tag is taken out of a record**, and the other entries are left as data. -/
theorem tagged?_record {kind : String} {above : Nat} (hroom : above + room + 1 = maxDepth)
    (htag : (entries.filter fun entry => entry.1 == tag) = [(tag, string kind)])
    (hothers : (entries.filter fun entry => !(entry.1 == tag)) = others) (h : HasData room others data) :
    Document.tagged? tag above (record entries) = some (kind, .ofFields data) := by
  have hfront : (entries.map fun (name, value) => ((some name, value) : JsonText × Json)).filter
      (fun entry => entry.1 == some tag) = [(some tag, string kind)] := by
    rw [List.filter_map]
    exact congrArg (List.map _) htag
  have hrest : (entries.map fun (name, value) => ((some name, value) : JsonText × Json)).filter
      (fun entry => !(entry.1 == some tag)) = others.map fun (name, value) => (some name, value) := by
    rw [List.filter_map]
    exact congrArg (List.map _) hothers
  have hleft : maxDepth - above = room + 1 := by omega
  change Json.tagged? tag above _ = _
  simp [Json.tagged?, record, hfront, hrest, hleft, h.entriesData?, string, Json.text?, Data.ofFields]

/-- **The tag stands once in an arrangement**, and without it an arrangement of the other fields is left. -/
theorem Arranges.filter_tag {value : Json} (h : Arranges (.always tag value :: fields) entries)
    (htag : tag ∉ fields.map Field.name) :
    (entries.filter fun entry => entry.1 == tag) = [(tag, value)] ∧
      Arranges fields (entries.filter fun entry => !(entry.1 == tag)) := by
  obtain ⟨_, others, hselected, hothers, hperm⟩ := h
  obtain ⟨stated, rfl, hstated⟩ := hselected.of_always
  have hne : ∀ entry ∈ stated ++ others, entry.1 ≠ tag := by
    rintro entry hentry rfl
    obtain hentry | hentry := List.mem_append.mp hentry
    · exact htag (hstated.sublist_names.subset (List.mem_map_of_mem hentry))
    · exact (hothers entry hentry).1 List.mem_cons_self
  constructor
  · have hnone : ((stated ++ others).filter fun entry => entry.1 == tag) = [] :=
      List.filter_eq_nil_iff.mpr fun entry hentry => by simpa using hne entry hentry
    have hfront := hperm.filter fun entry => entry.1 == tag
    rw [List.cons_append, List.filter_cons_of_pos (by simp), hnone] at hfront
    exact List.perm_singleton.mp hfront
  · have hall : ((stated ++ others).filter fun entry => !(entry.1 == tag)) = stated ++ others :=
      List.filter_eq_self.mpr fun entry hentry => by simpa using hne entry hentry
    have hleft := hperm.filter fun entry => !(entry.1 == tag)
    rw [List.cons_append, List.filter_cons_of_neg (by simp), hall] at hleft
    refine ⟨stated, others, hstated, fun entry hentry => ?_, hleft⟩
    obtain ⟨hunknown, htext⟩ := hothers entry hentry
    exact ⟨fun hmem => hunknown (List.mem_cons_of_mem _ hmem), htext⟩

/-- **The tag is taken out of an arrangement**, wherever it stands. -/
theorem Arranges.exists_tagged? {kind : String} {above : Nat} (hroom : above + room + 1 = maxDepth)
    (h : Arranges (.always tag (string kind) :: fields) entries) (htag : tag ∉ fields.map Field.name)
    (hfields : ∀ field ∈ fields, ∀ value, field.States value → (toData? room value).isSome = true) :
    ∃ others data, Arranges fields others ∧ HasData room others data ∧
      Document.tagged? tag above (record entries) = some (kind, .ofFields data) := by
  obtain ⟨hfront, hothers⟩ := h.filter_tag htag
  obtain ⟨data, hdata⟩ := hothers.exists_hasData hfields
  exact ⟨_, data, hothers, hdata, tagged?_record hroom hfront rfl hdata⟩

end Json

end DatasetHosting
