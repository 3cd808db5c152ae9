import DatasetHosting.Document.CatalogueFile
import DatasetHosting.Proofs.Document.Json.Data

/-!
# Proofs/Document/CatalogueLayout — a catalogue is the same however its document is laid out

The documents that lay a catalogue out (`Catalogue.IsLayout`) have the fields of each record in any order,
leave out what is a default and add texts under names that the record does not know.  Every text of such a
document, with blanks wherever they may stand, is read as the catalogue (`Catalogue.ofText_of_isLayout`).

Strategies, and the configurations in them, are read from plain data once their tag is taken out, so that the
tag may stand anywhere.  All that is left to say of each record is which fields it has and which of them may be
left out; that the reader has the same defaults shows where the record is read from its layouts.
-/

namespace DatasetHosting

open Document Json

/-! ## The records of a catalogue -/

namespace StorageConfig

/-- The fields of a configuration; false says nothing. -/
def fields (config : StorageConfig) : List Field :=
  [⟨"store_avatars_in_s3", (· = .boolean config.avatarsInS3), config.avatarsInS3 = false⟩,
   ⟨"store_attachments_in_s3", (· = .boolean config.attachmentsInS3), config.attachmentsInS3 = false⟩]

/-- **The documents that lay a configuration out.** -/
def IsLayout (config : StorageConfig) (document : Json) : Prop :=
  Json.IsLayout config.fields document

theorem isLayout_toJson (config : StorageConfig) : config.IsLayout config.toJson :=
  isLayout_record (.cons ⟨rfl, rfl⟩ (.cons ⟨rfl, rfl⟩ .nil))

/-- **A configuration is read from its layouts**, from data with room for a level. -/
theorem readsLayouts (room : Nat) :
    ReadsLayouts (toData? (room + 1)) IsLayout (StorageConfig.ofDocument? (α := Data)) where
  isPlain h := h.isPlain (by simp [fields])
  read_eq {config document} h := by
    obtain ⟨entries, rfl, hentries⟩ := h
    obtain ⟨data, hdata⟩ : ∃ data, HasData room entries data :=
      hentries.exists_hasData (by simp [fields, toData?])
    have hnames : config.fields.map Field.name = fieldNames := rfl
    obtain ⟨found, hfound, hoffers⟩ := hentries.exists_dataFields? hdata hnames (by decide)
    have havatars : found.orDefault "store_avatars_in_s3" false boolean? = some config.avatarsInS3 :=
      hoffers.orDefault (.head _) (by simp [toData?, boolean?]) Eq.symm
    have hattachments :
        found.orDefault "store_attachments_in_s3" false boolean? = some config.attachmentsInS3 :=
      hoffers.orDefault (.tail _ (.head _)) (by simp [toData?, boolean?]) Eq.symm
    rw [hdata.toData?, Option.bind_some, ofDocument?, hfound]
    simp [havatars, hattachments]

end StorageConfig

namespace Strategy

/-- The least format of a strategy; null says nothing. -/
def minFormatField (minFormat : Option UInt32) : Field :=
  ⟨"min_format", (· = formatJson minFormat), minFormat = none⟩

/-- The fields of a strategy beside its tag. A configuration that is all false says nothing. -/
def fields : Strategy → List Field
  | .standalone minFormat => [minFormatField minFormat]
  | .dataCenter nodes sharedStorage minFormat =>
    [.always "nodes" (.natural nodes.toNat),
     ⟨"shared_storage", sharedStorage.IsLayout, sharedStorage = {}⟩,
     minFormatField minFormat]
  | .external address => [.always "address" (.string address)]

/-- **The documents that lay a strategy out**, its tag among the other fields. -/
def IsLayout (strategy : Strategy) (document : Json) : Prop :=
  Json.IsLayout (.always tagName (.string strategy.kind.name) :: strategy.fields) document

/-- What is written of a strategy lays it out, whatever its kind. -/
theorem isLayout_toJson (strategy : Strategy) : strategy.IsLayout strategy.toJson := by
  cases strategy with
  | standalone minFormat => exact isLayout_record (.cons ⟨rfl, rfl⟩ (.cons ⟨rfl, rfl⟩ .nil))
  | dataCenter nodes sharedStorage minFormat =>
    exact isLayout_record (.cons ⟨rfl, rfl⟩ (.cons ⟨rfl, rfl⟩
      (.cons ⟨rfl, sharedStorage.isLayout_toJson⟩ (.cons ⟨rfl, rfl⟩ .nil))))
  | external address => exact isLayout_record (.cons ⟨rfl, rfl⟩ (.cons ⟨rfl, rfl⟩ .nil))

/-- No field has the name of the tag. -/
theorem tagName_not_mem (strategy : Strategy) : tagName ∉ strategy.fields.map Field.name := by
  cases strategy <;> simp [fields, tagName, Field.always, minFormatField]

/-! What the fields beside a tag hold is read from data. -/

variable {strategy : Strategy}

theorem readsLayouts_nodes (room : Nat) :
    ReadsLayouts (toData? room) (fun nodes document => document = natural (UInt64.toNat nodes))
      readUInt64 where
  isPlain {nodes _} h := h ▸ isPlain_natural nodes.toNat
  read_eq {nodes _} h := by
    rw [h, toData?_natural nodes.toNat_lt_size]
    exact readUInt64_eq rfl

theorem readsLayouts_minFormat (room : Nat) :
    ReadsLayouts (toData? room) (fun minFormat document => document = formatJson minFormat)
      (readNullable readUInt32) where
  isPlain {minFormat _} h :=
    h ▸ (isFormat_uint32.optional fun _ => Json.noConfusion).isPlain minFormat
  read_eq {minFormat _} h := by
    cases minFormat with
    | none =>
      rw [h]
      rfl
    | some format =>
      have hsize : format.toNat < UInt64.size := Nat.lt_trans format.toNat_lt_size (by decide)
      have hread : readUInt32 (Data.natural format.toNat) = some format := readUInt32_eq rfl
      rw [h, formatJson, Json.optional, toData?_natural hsize]
      change (readUInt32 (Data.natural format.toNat)).bind (fun f => some (some f)) = _
      rw [hread, Option.bind_some]

theorem readsLayouts_address (room : Nat) :
    ReadsLayouts (toData? room) (fun address document => document = string address)
      Document.text? where
  isPlain {address _} h := h ▸ isPlain_string address
  read_eq h := by
    rw [h]
    rfl

/-- What states a field is plain, and it is data. -/
theorem isPlain_of_states (room : Nat) : ∀ field ∈ strategy.fields, ∀ value, field.States value →
    value.IsPlain ∧ (toData? (room + 1) value).isSome = true := by
  have hformat := readsLayouts_minFormat (room + 1)
  cases strategy with
  | standalone minFormat =>
    simp only [fields, List.forall_mem_singleton]
    exact fun value h => ⟨hformat.isPlain h, hformat.isSome h⟩
  | dataCenter nodes sharedStorage minFormat =>
    have hnodes := readsLayouts_nodes (room + 1)
    have hstorage := StorageConfig.readsLayouts room
    simp only [fields, List.forall_mem_cons]
    exact ⟨fun value h => ⟨hnodes.isPlain h, hnodes.isSome h⟩,
      fun value h => ⟨hstorage.isPlain h, hstorage.isSome h⟩,
      fun value h => ⟨hformat.isPlain h, hformat.isSome h⟩, List.forall_mem_nil _⟩
  | external address =>
    have haddress := readsLayouts_address (room + 1)
    simp only [fields, List.forall_mem_singleton]
    exact fun value h => ⟨haddress.isPlain h, haddress.isSome h⟩

/-- **The tag decides how the rest is read.** -/
theorem ofDocument?_eq {above : Nat} {document : Json} {kind : HostKind} {data : Data}
    (h : Document.tagged? tagName above document = some (kind.name, data)) :
    Strategy.ofDocument? above document = ofData? data kind := by
  have hkind : HostKind.all.find? (·.name == kind.name) = some kind := by
    cases kind <;> rfl
  rw [ofDocument?, h]
  simp [hkind]

/-- **The data beside the tag say which strategy it is**, in any order and with fields left out. -/
theorem ofData?_of_arranges {room : Nat} {entries : List (String × Json)} {data : List (String × Data)}
    (h : Arranges strategy.fields entries) (hdata : HasData (room + 1) entries data) :
    ofData? (.ofFields data) strategy.kind = some strategy := by
  cases strategy with
  | standalone minFormat =>
    have hnames : (standalone minFormat).fields.map Field.name = standaloneFields := rfl
    obtain ⟨found, hfound, hoffers⟩ := h.exists_dataFields? hdata hnames (by decide)
    have hformat : found.orDefault "min_format" none (readNullable readUInt32) = some minFormat :=
      hoffers.orDefault (.head _) (fun _ => (readsLayouts_minFormat _).read_eq) Eq.symm
    rw [kind, ofData?, hfound]
    simp [hformat]
  | dataCenter nodes sharedStorage minFormat =>
    have hnames : (dataCenter nodes sharedStorage minFormat).fields.map Field.name = dataCenterFields :=
      rfl
    obtain ⟨found, hfound, hoffers⟩ := h.exists_dataFields? hdata hnames (by decide)
    have hnodes : found.required "nodes" readUInt64 = some nodes :=
      hoffers.required (.head _) fun _ => (readsLayouts_nodes _).read_eq
    have hstorage : found.orDefault "shared_storage" {} StorageConfig.ofDocument? = some sharedStorage :=
      hoffers.orDefault (.tail _ (.head _)) (fun _ => (StorageConfig.readsLayouts room).read_eq) Eq.symm
    have hformat : found.orDefault "min_format" none (readNullable readUInt32) = some minFormat :=
      hoffers.orDefault (.tail _ (.tail _ (.head _))) (fun _ => (readsLayouts_minFormat _).read_eq)
        Eq.symm
    rw [kind, ofData?, hfound]
    simp [hnodes, hstorage, hformat]
  | external address =>
    have hnames : (external address).fields.map Field.name = externalFields := rfl
    obtain ⟨found, hfound, hoffers⟩ := h.exists_dataFields? hdata hnames (by decide)
    have haddress : found.required "address" Document.text? = some address :=
      hoffers.required (.head _) fun _ => (readsLayouts_address _).read_eq
    rw [kind, ofData?, hfound]
    simp [haddress]

/-- **A strategy is read from its layouts**, below any nesting that leaves room for two levels. -/
theorem readsLayouts (above : Nat) (habove : above + 2 ≤ maxDepth) :
    ReadsLayouts some IsLayout (Strategy.ofDocument? (α := Json) above) where
  isPlain {strategy document} h := by
    refine Json.IsLayout.isPlain h (List.forall_mem_cons.mpr ⟨?_, fun field hfield value => ?_⟩)
    · rintro _ rfl
      exact isPlain_string _
    · exact fun hvalue => (isPlain_of_states 0 field hfield value hvalue).1
  read_eq {strategy document} h := by
    obtain ⟨room, hroom⟩ := Nat.exists_eq_add_of_le' habove
    have hroom : above + (room + 1) + 1 = maxDepth := by omega
    obtain ⟨entries, rfl, hentries⟩ := h
    obtain ⟨others, data, hothers, hdata, htagged⟩ := hentries.exists_tagged? hroom
      strategy.tagName_not_mem fun field hfield value hvalue =>
        (isPlain_of_states room field hfield value hvalue).2
    rw [Option.bind_some, ofDocument?_eq htagged]
    exact ofData?_of_arranges hothers hdata

end Strategy

namespace Rule

/-- The fields of a rule; a condition of null says nothing. -/
def fields (rule : Rule) : List Field :=
  [.always "name" (.string rule.name),
   ⟨"when", (· = .optional .string rule.condition), rule.condition = none⟩,
   ⟨"strategy", rule.strategy.IsLayout, False⟩]

/-- **The documents that lay a rule out.** -/
def IsLayout (rule : Rule) (document : Json) : Prop :=
  Json.IsLayout rule.fields document

theorem isLayout_toJson (rule : Rule) : rule.IsLayout rule.toJson :=
  isLayout_record (.cons ⟨rfl, rfl⟩ (.cons ⟨rfl, rfl⟩
    (.cons ⟨rfl, rule.strategy.isLayout_toJson⟩ .nil)))

/-- **A rule is read from its layouts**, one level above its strategy. -/
theorem readsLayouts (above : Nat) (habove : above + 3 ≤ maxDepth) :
    ReadsLayouts some IsLayout (Rule.ofDocument? (α := Json) above) := by
  have hstrategy := Strategy.readsLayouts (above + 1) habove
  refine ⟨fun h => Json.IsLayout.isPlain h ?_, fun {rule document} h => ?_⟩
  · simp only [fields, List.forall_mem_cons]
    exact ⟨fun _ => isFormat_text.readsLayouts.isPlain, fun _ => isFormat_optionalText.readsLayouts.isPlain,
      fun _ => hstrategy.isPlain, List.forall_mem_nil _⟩
  · have hnames : rule.fields.map Field.name = fieldNames := rfl
    obtain ⟨found, hfound, hoffers⟩ := h.exists_fields? hnames (by decide)
    have hname : found.required "name" Document.text? = some rule.name :=
      hoffers.required (.head _) fun _ => isFormat_text.readsLayouts.read_eq
    have hcondition : found.orDefault "when" none (readNullable Document.text?) = some rule.condition :=
      hoffers.orDefault (.tail _ (.head _)) (fun _ => isFormat_optionalText.readsLayouts.read_eq) Eq.symm
    have hstrategy : found.required "strategy" (Strategy.ofDocument? (above + 1)) = some rule.strategy :=
      hoffers.required (.tail _ (.tail _ (.head _))) fun _ => hstrategy.read_eq
    rw [Option.bind_some, Rule.ofDocument?, hfound]
    simp [hname, hcondition, hstrategy]

end Rule

namespace Catalogue

/-- The fields of a catalogue; a description of null says nothing. The rules keep their order. -/
def fields (catalogue : Catalogue) : List Field :=
  [.always "id" (.string catalogue.id),
   ⟨"description", (· = .optional .string catalogue.description), catalogue.description = none⟩,
   ⟨"rules", fun value => ∃ items, value = .list items ∧ List.Forall₂ Rule.IsLayout catalogue.rules items,
    False⟩]

/-- **The documents that lay a catalogue out.** -/
def IsLayout (catalogue : Catalogue) (document : Json) : Prop :=
  Json.IsLayout catalogue.fields document

/-- What is written of a catalogue lays it out, and so it does for each of its rules. -/
theorem isLayout_toJson (catalogue : Catalogue) : catalogue.IsLayout catalogue.toJson := by
  have hrules : List.Forall₂ Rule.IsLayout catalogue.rules (catalogue.rules.map Rule.toJson) :=
    List.forall₂_map_right_iff.mpr (List.forall₂_same.mpr fun rule _ => rule.isLayout_toJson)
  exact isLayout_record (.cons ⟨rfl, rfl⟩ (.cons ⟨rfl, rfl⟩ (.cons ⟨rfl, _, rfl, hrules⟩ .nil)))

/-- **A catalogue is read from its layouts**, its rules in their order. -/
theorem readsLayouts : ReadsLayouts some IsLayout (Catalogue.ofDocument? (α := Json)) := by
  have hrule := Rule.readsLayouts 2 (by decide)
  refine ⟨fun h => Json.IsLayout.isPlain h ?_, fun {catalogue document} h => ?_⟩
  · simp only [fields, List.forall_mem_cons]
    exact ⟨fun _ => isFormat_text.readsLayouts.isPlain, fun _ => isFormat_optionalText.readsLayouts.isPlain,
      fun _ => hrule.list.isPlain, List.forall_mem_nil _⟩
  · have hnames : catalogue.fields.map Field.name = fieldNames := rfl
    obtain ⟨found, hfound, hoffers⟩ := h.exists_fields? hnames (by decide)
    have hid : found.required "id" Document.text? = some catalogue.id :=
      hoffers.required (.head _) fun _ => isFormat_text.readsLayouts.read_eq
    have hdescription :
        found.orDefault "description" none (readNullable Document.text?) = some catalogue.description :=
      hoffers.orDefault (.tail _ (.head _)) (fun _ => isFormat_optionalText.readsLayouts.read_eq) Eq.symm
    have hrules : found.required "rules" (readList (Rule.ofDocument? 2)) = some catalogue.rules :=
      hoffers.required (.tail _ (.tail _ (.head _))) fun _ => hrule.list.read_eq
    rw [Option.bind_some, Catalogue.ofDocument?, hfound]
    simp [hid, hdescription, hrules]

/-- **A catalogue is the same however its document is laid out**: with its fields in any order, less those that
hold their default, among texts under other names, and with any blanks. -/
theorem ofText_of_isLayout {catalogue : Catalogue} {document : Json} {text : String}
    (hlayout : catalogue.IsLayout document) (htext : document.IsText text) :
    ofText .json text = .ok catalogue := by
  have hread := (readsLayouts.isPlain hlayout).read?_of_isText htext
  have hdocument : Catalogue.ofDocument? document = some catalogue := readsLayouts.read_eq hlayout
  rw [ofText, Language.read?, hread, Option.bind_some, hdocument]

/-- A catalogue of one rule that leaves out what it can. -/
def sparse : Catalogue where
  id := "jira"
  description := none
  rules := [⟨"all", none, .standalone none⟩]

/-- A document of it, with the fields turned round and a text in front of the tag. -/
def sparseDocument : Json :=
  .record
    [("rules", .list [.record
      [("strategy", .record [("note", .string "any"), ("type", .string "standalone")]),
       ("name", .string "all")]]),
     ("id", .string "jira")]

/-- A text of the document. -/
def sparseText : String :=
  "\x7b\"rules\": [\x7b\"strategy\":\x7b\"note\":\"any\",\r
\t\"type\" :\"standalone\"\x7d,\"name\":\"all\"\x7d],\"id\":\"jira\"\x7d "

/-- The catalogue of one rule is read from its text, which has a blank behind it. -/
theorem ofText_sparseText :
    sparse.IsLayout sparseDocument ∧ sparseDocument.IsText sparseText ∧
      ofText .json sparseText = .ok sparse := by
  have hstrategy : (Strategy.standalone none).IsLayout _ :=
    ⟨_, rfl, _, [("note", .string "any")], .state rfl (.leave rfl .nil),
      by simp [Strategy.fields, Strategy.minFormatField, Field.always, Strategy.tagName], .swap _ _ _⟩
  have hrule : Rule.IsLayout ⟨"all", none, .standalone none⟩ _ :=
    ⟨_, rfl, _, [], .state rfl (.leave rfl (.state hstrategy .nil)), by simp, .swap _ _ _⟩
  have hlayout : sparse.IsLayout sparseDocument :=
    ⟨_, rfl, _, [], .state rfl (.leave rfl (.state ⟨_, rfl, .cons hrule .nil⟩ .nil)), by simp, .swap _ _ _⟩
  have htext : sparseDocument.IsText sparseText := isText_of_dropLexemes? (by decide +kernel)
  exact ⟨hlayout, htext, ofText_of_isLayout hlayout htext⟩

end Catalogue

end DatasetHosting
