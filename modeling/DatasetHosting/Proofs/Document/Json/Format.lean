import DatasetHosting.Document.Json.Document
import DatasetHosting.Proofs.Document.Json.Value

/-!
# Proofs/Document/Json/Format — writing and reading as two halves of a format

A format is a way to write records as plain values together with a reader that gives back what was written
(`Json.IsFormat`).  Texts, numbers, constants, lists and values that may be missing have formats.  The fields
of a record are found under their names as they were written (`Json.fields?_record`), and so each record has a
format as soon as its fields have.
-/

namespace DatasetHosting.Json

open Document

/-- **A format**: what is written is plain, and the reader gives back what was written. -/
structure IsFormat {α : Type} (write : α → Json) (read : Json → Option α) : Prop where
  isPlain (a : α) : (write a).IsPlain
  read_write (a : α) : read (write a) = some a

variable {α : Type} {write : α → Json} {read : Json → Option α}

/-- **A format survives its text.** -/
theorem IsFormat.read?_write (h : IsFormat write read) (a : α) :
    (read? (Json.write (write a))).bind read = some a := by
  rw [(h.isPlain a).read?_write, Option.bind_some, h.read_write]

/-! ## Scalars -/

section Words

variable {β : Type} [Document Option β] {document : β}

/-- A number of 32 bits is read in any notation that has it as a natural number. -/
theorem readUInt32_eq {n : UInt32} (h : natural? document = some n.toNat) :
    readUInt32 document = some n := by
  have hbelow : below? UInt32.size n.toNat = some n.toNat := if_pos n.toNat_lt_size
  rw [readUInt32, h]
  simp [hbelow]

/-- A number of 64 bits is read in any notation that has it as a natural number. -/
theorem readUInt64_eq {n : UInt64} (h : natural? document = some n.toNat) :
    readUInt64 document = some n := by
  have hbelow : below? UInt64.size n.toNat = some n.toNat := if_pos n.toNat_lt_size
  rw [readUInt64, h]
  simp [hbelow]

end Words

@[simp] theorem isPlain_string (s : String) : (string s).IsPlain := .string s

@[simp] theorem isPlain_boolean (b : Bool) : (boolean b).IsPlain := .boolean b

@[simp] theorem isPlain_natural (n : Nat) : (natural n).IsPlain := .whole false n

@[simp] theorem text?_string (s : String) : Document.text? (string s) = some s := rfl

@[simp] theorem boolean?_boolean (b : Bool) : boolean? (boolean b) = some b := rfl

/-- Every 32-bit number is read back. -/
@[simp] theorem readUInt32_natural (n : UInt32) : readUInt32 (natural n.toNat) = some n :=
  readUInt32_eq rfl

@[simp] theorem readUInt64_natural (n : UInt64) : readUInt64 (natural n.toNat) = some n :=
  readUInt64_eq rfl

theorem isFormat_text : IsFormat string Document.text? :=
  ⟨isPlain_string, text?_string⟩

theorem isFormat_uint32 : IsFormat (fun n : UInt32 => natural n.toNat) readUInt32 :=
  ⟨fun n => isPlain_natural n.toNat, readUInt32_natural⟩

/-- Constants have a format if their names tell them apart. -/
theorem isFormat_constant {all : List α} {name : α → String}
    (h : ∀ a, all.find? (name · == name a) = some a) :
    IsFormat (fun a => string (name a)) (readConstant all name) where
  isPlain a := .string (name a)
  read_write := h

/-! ## Values of values -/

/-- Lists are read back item by item. -/
theorem IsFormat.list (h : IsFormat write read) :
    IsFormat (fun items => .list (items.map write)) (readList read) where
  isPlain items := by
    refine .list fun item hitem => ?_
    obtain ⟨a, -, rfl⟩ := List.mem_map.mp hitem
    exact h.isPlain a
  read_write items := by
    change (items.map write).mapM read = some items
    induction items with
    | nil => rfl
    | cons a items ih => simp [h.read_write, ih]

/-- What is never written as null may be missing. -/
theorem IsFormat.optional (h : IsFormat write read) (hpresent : ∀ a, write a ≠ .null) :
    IsFormat (optional write) (readNullable read) where
  isPlain
    | none => .null
    | some a => h.isPlain a
  read_write
    | none => rfl
    | some a => by
      have hnull : nullable? (write a) = some (some (write a)) := by
        cases hwrite : write a with
        | null => exact absurd hwrite (hpresent a)
        | _ => rfl
      rw [Json.optional, readNullable, hnull]
      simp [h.read_write]

/-- Texts that may be missing. -/
theorem isFormat_optionalText : IsFormat (optional string) (readNullable Document.text?) :=
  isFormat_text.optional fun _ => Json.noConfusion

/-! ## Records -/

/-- A record is plain if its fields are. -/
theorem IsPlain.record {fields : List (String × Json)} (h : ∀ field ∈ fields, field.2.IsPlain) :
    (record fields).IsPlain := by
  refine .object ?_ ?_
  all_goals
    intro entry hentry
    obtain ⟨field, hfield, rfl⟩ := List.mem_map.mp hentry
  · rfl
  · exact h field hfield

/-- Behind a field of another name the look-up goes on. -/
theorem lookup_cons_of_ne {name other : String} {a : α} {rest : List (String × α)}
    (h : name ≠ other) : ((other, a) :: rest).lookup name = rest.lookup name := by
  rw [List.lookup_cons, beq_false_of_ne h]

/-- Fields of the given names, no name twice, are all kept. -/
theorem ofEntries?_eq {names : List String} {fields : List (String × α)}
    (h : fields.map Prod.fst = names) (hnames : names.Nodup) :
    Fields.ofEntries? names fields = some ⟨fields, true⟩ := by
  have hknown : (fields.filter fun field => names.contains field.1) = fields := by
    refine List.filter_eq_self.mpr fun field hfield => ?_
    rw [List.contains_iff_mem, ← h]
    exact List.mem_map_of_mem hfield
  rw [Fields.ofEntries?, hknown, h]
  exact if_pos hnames

/-- The fields of a record are looked for among its entries. -/
theorem fields?_record_eq (names : List String) (fields : List (String × Json)) :
    fields? names (record fields) = Fields.ofEntries? names fields := by
  have hnamed : (fields.map fun field => (some field.1, field.2)).mapM
      (fun entry : JsonText × Json => entry.1.map (·, entry.2)) = some fields := by
    induction fields with
    | nil => rfl
    | cons field fields ih => simp [ih]
  change ((fields.map fun field => (some field.1, field.2)).mapM
    (fun entry : JsonText × Json => entry.1.map (·, entry.2))).bind (Fields.ofEntries? names) = _
  rw [hnamed, Option.bind_some]

/-- **A written record has its fields**, under their names. -/
theorem fields?_record {names : List String} {fields : List (String × Json)}
    (h : fields.map Prod.fst = names) (hnames : names.Nodup) :
    fields? names (record fields) = some ⟨fields, true⟩ := by
  rw [fields?_record_eq, ofEntries?_eq h hnames]

end DatasetHosting.Json
