import Mathlib.Data.List.Forall2
import DatasetHosting.Proofs.Document.Json.Format

/-!
# Proofs/Document/Json/Layout — records with their fields in any order

Whoever writes a record by hand puts its fields in any order, leaves out those that say nothing and adds some
of other names (`Json.IsLayout`).  All of that is one record for its reader: each known name stands in it once
or not at all, so that a look-up does not depend on the order, and the other names are passed over
(`Json.Arranges.lookup`).
-/

namespace DatasetHosting.Json

open Document

/-- **A field of a record that is laid out.** -/
structure Field where
  /-- The name that the field stands under. -/
  name : String
  /-- The values that state the field. -/
  States : Json → Prop
  /-- Whether the field may be left out. -/
  MayMiss : Prop

/-- The field has one value, and must be there. -/
def Field.always (name : String) (value : Json) : Field :=
  ⟨name, (· = value), False⟩

/-- **The fields in order**, each stated or left out. -/
inductive Selects : List Field → List (String × Json) → Prop where
  | nil : Selects [] []
  | state {field : Field} {fields : List Field} {value : Json} {stated : List (String × Json)}
    (hvalue : field.States value) (h : Selects fields stated) :
    Selects (field :: fields) ((field.name, value) :: stated)
  | leave {field : Field} {fields : List Field} {stated : List (String × Json)}
    (hmiss : field.MayMiss) (h : Selects fields stated) : Selects (field :: fields) stated

/-- **The fields in any order**, each stated or left out, among texts under names that no field has. These may
stand there more than once. -/
def Arranges (fields : List Field) (entries : List (String × Json)) : Prop :=
  ∃ stated others, Selects fields stated ∧
    (∀ entry ∈ others, entry.1 ∉ fields.map Field.name ∧ ∃ s, entry.2 = string s) ∧
    entries.Perm (stated ++ others)

/-- **A document that lays the fields out.** -/
def IsLayout (fields : List Field) (document : Json) : Prop :=
  ∃ entries, document = record entries ∧ Arranges fields entries

/-- **What is written of a record lays it out**, all its fields in order. -/
theorem isLayout_record {fields : List Field} {entries : List (String × Json)}
    (h : List.Forall₂ (fun field entry => field.name = entry.1 ∧ field.States entry.2) fields entries) :
    IsLayout fields (record entries) := by
  refine ⟨entries, rfl, entries, [], ?_, fun entry hentry => absurd hentry List.not_mem_nil, by simp⟩
  induction h with
  | nil => exact .nil
  | @cons field entry fields entries hentry _ ih =>
    obtain ⟨name, value⟩ := entry
    obtain ⟨rfl, hvalue⟩ := hentry
    exact .state hvalue ih

variable {α : Type} {field : Field} {fields : List Field} {entries stated : List (String × Json)}
  {name : String} {names : List String}

/-! ## Looking up -/

section Lookup

variable {list other : List (String × α)}

theorem lookup_eq_none (h : name ∉ list.map Prod.fst) : list.lookup name = none := by
  rw [List.lookup_eq_none_iff]
  intro entry hentry
  refine bne_iff_ne.mpr ?_
  rintro rfl
  exact h (List.mem_map_of_mem hentry)

/-- **The order of entries does not matter** where no name is given twice: of two entries that change places at
most one has the name looked for. -/
theorem lookup_eq_of_perm (h : list.Perm other) (hnodup : (list.map Prod.fst).Nodup) :
    list.lookup name = other.lookup name := by
  induction h with
  | nil => rfl
  | cons entry _ ih =>
    rw [List.map_cons, List.nodup_cons] at hnodup
    rw [List.lookup_cons, List.lookup_cons, ih hnodup.2]
  | swap first second rest =>
    obtain ⟨firstName, a⟩ := first
    obtain ⟨secondName, b⟩ := second
    have hne : secondName ≠ firstName := by
      rintro rfl
      simp at hnodup
    by_cases hfirst : name = firstName
    · subst hfirst
      rw [lookup_cons_of_ne hne.symm, List.lookup_cons_self, List.lookup_cons_self]
    · simp only [List.lookup_cons, beq_false_of_ne hfirst]
  | trans hfirst _ ih₁ ih₂ =>
    rw [ih₁ hnodup, ih₂ ((hfirst.map Prod.fst).nodup_iff.mp hnodup)]

/-- Known names are looked up as if there were no others. -/
theorem lookup_filter_contains (hname : name ∈ names) (list : List (String × α)) :
    (list.filter fun entry => names.contains entry.1).lookup name = list.lookup name := by
  induction list with
  | nil => rfl
  | cons entry list ih =>
    obtain ⟨first, a⟩ := entry
    by_cases hfirst : name = first
    · subst hfirst
      rw [List.filter_cons_of_pos (by simpa using hname), List.lookup_cons_self, List.lookup_cons_self]
    · rw [lookup_cons_of_ne hfirst, ← ih, List.filter_cons]
      split
      · exact lookup_cons_of_ne hfirst
      · rfl

/-- **Fields are found among entries** if no known name is given twice. -/
theorem exists_ofEntries? (h : ((list.map Prod.fst).filter fun name => names.contains name).Nodup) :
    ∃ found, Fields.ofEntries? names list = some found ∧
      ∀ name ∈ names, found.entries.lookup name = list.lookup name := by
  rw [List.filter_map] at h
  exact ⟨_, if_pos h, fun name hname => lookup_filter_contains hname list⟩

end Lookup

/-! ## Selected fields -/

/-- Each entry states a field. -/
theorem Selects.exists_states (h : Selects fields stated) {entry : String × Json}
    (hentry : entry ∈ stated) : ∃ field ∈ fields, field.name = entry.1 ∧ field.States entry.2 := by
  induction h with
  | nil => exact absurd hentry List.not_mem_nil
  | state hvalue _ ih =>
    obtain rfl | hentry := List.mem_cons.mp hentry
    · exact ⟨_, List.mem_cons_self, rfl, hvalue⟩
    · obtain ⟨field, hfield, hstates⟩ := ih hentry
      exact ⟨field, List.mem_cons_of_mem _ hfield, hstates⟩
  | leave _ _ ih =>
    obtain ⟨field, hfield, hstates⟩ := ih hentry
    exact ⟨field, List.mem_cons_of_mem _ hfield, hstates⟩

theorem Selects.sublist_names (h : Selects fields stated) :
    (stated.map Prod.fst).Sublist (fields.map Field.name) := by
  induction h with
  | nil => exact .slnil
  | state _ _ ih => exact ih.cons_cons _
  | leave _ _ ih => exact ih.cons _

/-- What must be there is not left out. -/
theorem Selects.of_always {value : Json} (h : Selects (.always name value :: fields) stated) :
    ∃ later, stated = (name, value) :: later ∧ Selects fields later := by
  cases h with
  | state hvalue h => exact ⟨_, congrArg (fun v => (name, v) :: _) hvalue, h⟩
  | leave hmiss _ => exact hmiss.elim

/-- **Each field is stated under its name, or left out.** -/
theorem Selects.lookup (h : Selects fields stated) (hnames : (fields.map Field.name).Nodup)
    (hfield : field ∈ fields) :
    (∃ value, stated.lookup field.name = some value ∧ field.States value) ∨
      stated.lookup field.name = none ∧ field.MayMiss := by
  induction h with
  | nil => exact absurd hfield List.not_mem_nil
  | @state first fields value stated hvalue h ih =>
    rw [List.map_cons, List.nodup_cons] at hnames
    obtain rfl | hfield := List.mem_cons.mp hfield
    · exact .inl ⟨value, List.lookup_cons_self, hvalue⟩
    · have hne : field.name ≠ first.name := fun heq => hnames.1 (heq ▸ List.mem_map_of_mem hfield)
      rw [lookup_cons_of_ne hne]
      exact ih hnames.2 hfield
  | leave hmiss h ih =>
    rw [List.map_cons, List.nodup_cons] at hnames
    obtain rfl | hfield := List.mem_cons.mp hfield
    · exact .inr ⟨lookup_eq_none fun hmem => hnames.1 (h.sublist_names.subset hmem), hmiss⟩
    · exact ih hnames.2 hfield

/-! ## Fields in any order -/

/-- **What holds of texts and of the values of all fields** holds of all values in an arrangement. -/
theorem Arranges.forall_value {p : Json → Prop} (h : Arranges fields entries)
    (htext : ∀ s, p (string s)) (hfields : ∀ field ∈ fields, ∀ value, field.States value → p value) :
    ∀ entry ∈ entries, p entry.2 := by
  obtain ⟨stated, others, hstated, hothers, hperm⟩ := h
  intro entry hentry
  obtain hentry | hentry := List.mem_append.mp (hperm.subset hentry)
  · obtain ⟨field, hfield, -, hvalue⟩ := hstated.exists_states hentry
    exact hfields field hfield _ hvalue
  · obtain ⟨-, s, hs⟩ := hothers entry hentry
    exact hs ▸ htext s

/-- The known entries of an arrangement are the stated fields, up to the order. -/
theorem Arranges.exists_perm (h : Arranges fields entries) :
    ∃ stated, Selects fields stated ∧
      (entries.filter fun entry => (fields.map Field.name).contains entry.1).Perm stated := by
  obtain ⟨stated, others, hstated, hothers, hperm⟩ := h
  have hall : (stated.filter fun entry => (fields.map Field.name).contains entry.1) = stated :=
    List.filter_eq_self.mpr fun entry hentry => by
      rw [List.contains_iff_mem]
      exact hstated.sublist_names.subset (List.mem_map_of_mem hentry)
  have hnone : (others.filter fun entry => (fields.map Field.name).contains entry.1) = [] :=
    List.filter_eq_nil_iff.mpr fun entry hentry => by
      rw [List.contains_iff_mem]
      exact (hothers entry hentry).1
  refine ⟨stated, hstated, ?_⟩
  have hfilter := hperm.filter fun entry => (fields.map Field.name).contains entry.1
  rwa [List.filter_append, hall, hnone, List.append_nil] at hfilter

/-- **No known name is given twice.** -/
theorem Arranges.nodup_names (h : Arranges fields entries) (hnames : (fields.map Field.name).Nodup) :
    ((entries.map Prod.fst).filter fun name => (fields.map Field.name).contains name).Nodup := by
  obtain ⟨stated, hstated, hperm⟩ := h.exists_perm
  rw [List.filter_map]
  exact (hperm.map Prod.fst).nodup_iff.mpr (hstated.sublist_names.nodup hnames)

/-- **Each field is found under its name, or left out.** -/
theorem Arranges.lookup (h : Arranges fields entries) (hnames : (fields.map Field.name).Nodup)
    (hfield : field ∈ fields) :
    (∃ value, entries.lookup field.name = some value ∧ field.States value) ∨
      entries.lookup field.name = none ∧ field.MayMiss := by
  obtain ⟨stated, hstated, hperm⟩ := h.exists_perm
  have hnodup := (hperm.map Prod.fst).nodup_iff.mpr (hstated.sublist_names.nodup hnames)
  have hlookup : entries.lookup field.name = stated.lookup field.name := by
    rw [← lookup_filter_contains (List.mem_map_of_mem hfield), lookup_eq_of_perm hperm hnodup]
  rw [hlookup]
  exact hstated.lookup hnames hfield

/-! ## Reading what was laid out -/

/-- **What a reader finds of the fields**, given the view that it has of the values: each is there, or it is
left out. -/
def Offers (view : Json → Option α) (fields : List Field) (found : Fields α) : Prop :=
  ∀ field ∈ fields,
    (∃ value, found.entries.lookup field.name = view value ∧ field.States value) ∨
      found.entries.lookup field.name = none ∧ field.MayMiss

/-- **Layouts that a record is read from**, given the view that the reader has of them. -/
structure ReadsLayouts {β : Type} (view : Json → Option α) (layout : β → Json → Prop)
    (read : α → Option β) : Prop where
  isPlain {b : β} {document : Json} (h : layout b document) : document.IsPlain
  read_eq {b : β} {document : Json} (h : layout b document) : (view document).bind read = some b

/-- A reader of layouts reads back what is written, if that is a layout. -/
theorem ReadsLayouts.isFormat {layout : α → Json → Prop} {write : α → Json} {read : Json → Option α}
    (h : ReadsLayouts some layout read) (hwrite : ∀ a, layout a (write a)) : IsFormat write read :=
  ⟨fun a => h.isPlain (hwrite a), fun a => h.read_eq (hwrite a)⟩

/-- What a format writes is its only layout. -/
theorem IsFormat.readsLayouts {write : α → Json} {read : Json → Option α} (h : IsFormat write read) :
    ReadsLayouts some (fun a document => document = write a) read where
  isPlain {a _} hdocument := hdocument ▸ h.isPlain a
  read_eq {a _} hdocument := hdocument ▸ h.read_write a

/-- A list is laid out item by item. -/
theorem ReadsLayouts.list {layout : α → Json → Prop} {read : Json → Option α}
    (h : ReadsLayouts some layout read) :
    ReadsLayouts some (fun as document => ∃ items, document = .list items ∧ List.Forall₂ layout as items)
      (readList read) where
  isPlain := by
    rintro as _ ⟨items, rfl, hitems⟩
    refine .list ?_
    induction hitems with
    | nil => exact fun item hitem => absurd hitem List.not_mem_nil
    | cons hitem _ ih => exact List.forall_mem_cons.mpr ⟨h.isPlain hitem, ih⟩
  read_eq := by
    rintro as _ ⟨items, rfl, hitems⟩
    change items.mapM read = some as
    induction hitems with
    | nil => rfl
    | cons hitem _ ih =>
      have hread : read _ = some _ := h.read_eq hitem
      simp [hread, ih]

theorem ReadsLayouts.isSome {β : Type} {view : Json → Option α} {layout : β → Json → Prop}
    {read : α → Option β} (h : ReadsLayouts view layout read) {b : β} {document : Json}
    (hlayout : layout b document) : (view document).isSome = true := by
  obtain ⟨a, ha, -⟩ := Option.bind_eq_some_iff.mp (h.read_eq hlayout)
  rw [ha, Option.isSome_some]

section Offers

variable {β : Type} {view : Json → Option α} {found : Fields α} {read : α → Option β} {b : β}
  {states : Json → Prop} {miss : Prop}

/-- An arrangement offers its fields to a reader that looks its values up. -/
theorem Arranges.offers (h : Arranges fields entries) (hnames : (fields.map Field.name).Nodup)
    (hfound : ∀ name ∈ fields.map Field.name,
      found.entries.lookup name = (entries.lookup name).bind view) : Offers view fields found := by
  intro field hfield
  rw [hfound _ (List.mem_map_of_mem hfield)]
  obtain ⟨value, hvalue, hstates⟩ | ⟨hnone, hmiss⟩ := h.lookup hnames hfield
  · exact .inl ⟨value, by rw [hvalue, Option.bind_some], hstates⟩
  · exact .inr ⟨by rw [hnone, Option.bind_none], hmiss⟩

theorem Offers.required (h : Offers view fields found) (hfield : ⟨name, states, False⟩ ∈ fields)
    (hread : ∀ value, states value → (view value).bind read = some b) :
    found.required name read = some b := by
  obtain ⟨value, hlookup, hvalue⟩ | ⟨-, hmiss⟩ := h _ hfield
  · rw [Fields.required, hlookup]
    exact hread value hvalue
  · exact hmiss.elim

theorem Offers.orDefault {default : β} (h : Offers view fields found)
    (hfield : ⟨name, states, miss⟩ ∈ fields)
    (hread : ∀ value, states value → (view value).bind read = some b) (hmiss : miss → default = b) :
    found.orDefault name default read = some b := by
  rw [Fields.orDefault]
  obtain ⟨value, hlookup, hvalue⟩ | ⟨hlookup, hleft⟩ := h _ hfield
  · obtain ⟨a, ha, hb⟩ := Option.bind_eq_some_iff.mp (hread value hvalue)
    rw [hlookup, ha]
    exact hb
  · rw [hlookup, ← hmiss hleft]
    rfl

end Offers

theorem IsLayout.isPlain {document : Json} (h : IsLayout fields document)
    (hfields : ∀ field ∈ fields, ∀ value, field.States value → value.IsPlain) : document.IsPlain := by
  obtain ⟨entries, rfl, hentries⟩ := h
  exact .record (hentries.forall_value isPlain_string hfields)

/-- **The fields of a layout are found**, each as it is stated. -/
theorem IsLayout.exists_fields? {document : Json} (h : IsLayout fields document)
    (hnames : fields.map Field.name = names) (hnodup : names.Nodup) :
    ∃ found, fields? names document = some found ∧ Offers some fields found := by
  subst hnames
  obtain ⟨entries, rfl, hentries⟩ := h
  obtain ⟨found, hfound, hlookup⟩ := exists_ofEntries? (hentries.nodup_names hnodup)
  refine ⟨found, by rw [fields?_record_eq, hfound], hentries.offers hnodup fun name hname => ?_⟩
  rw [hlookup name hname, Option.bind_fun_some]

end DatasetHosting.Json
