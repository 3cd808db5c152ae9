import DatasetHosting.Proofs.Document.CatalogueLayout
import DatasetHosting.Proofs.Document.Storage

/-!
# Proofs/Document/Host — every record survives its JSON text

What is written of a catalogue is one of its layouts, so that catalogues have a format, and diagnostics have one
like the records they consist of.  All the formats together say that no record is lost or changed by its text
(`Language.read?_write_toJson`).
-/

namespace DatasetHosting

open Document Json

/-! ## Strategies and catalogues -/

namespace Strategy

/-- **A strategy is read back**, below any nesting that leaves room for two levels. -/
theorem isFormat (above : Nat) (habove : above + 2 ≤ maxDepth) :
    IsFormat Strategy.toJson (Strategy.ofDocument? (α := Json) above) :=
  (readsLayouts above habove).isFormat isLayout_toJson

/-- The tag stands in front, and a quote in a text is escaped. -/
example : Json.write (toJson (.external "jira \"8\"")) =
    "\x7b\"type\":\"external\",\"address\":\"jira \\\"8\\\"\"\x7d" := by
  decide +kernel

end Strategy

theorem Catalogue.isFormat : IsFormat Catalogue.toJson (Catalogue.ofDocument? (α := Json)) :=
  readsLayouts.isFormat isLayout_toJson

/-! ## Diagnostics -/

theorem Outcome.isFormat : IsFormat Outcome.toJson (Outcome.ofDocument? (α := Json)) :=
  isFormat_constant fun outcome => by cases outcome <;> rfl

theorem RuleDiagnostic.isFormat :
    IsFormat RuleDiagnostic.toJson (RuleDiagnostic.ofDocument? (α := Json)) where
  isPlain entry := IsPlain.record (by simp [isFormat_optionalText.isPlain])
  read_write entry := by
    rw [RuleDiagnostic.ofDocument?, RuleDiagnostic.toJson, fields?_record (by rfl) (by decide)]
    simp [Fields.required, Fields.nullable, lookup_cons_of_ne, isFormat_optionalText.read_write]

/-- **Diagnostics are read back**, with or without a rule that matched. -/
theorem Diagnostic.isFormat : IsFormat Diagnostic.toJson (Diagnostic.ofDocument? (α := Json)) := by
  have hrules := RuleDiagnostic.isFormat.list
  refine ⟨fun diagnostic => IsPlain.record ?_, fun diagnostic => ?_⟩
  · simp [hrules.isPlain, Outcome.isFormat.isPlain]
  · rw [Diagnostic.ofDocument?, Diagnostic.toJson, fields?_record (by rfl) (by decide)]
    simp [Fields.required, lookup_cons_of_ne, hrules.read_write, Outcome.isFormat.read_write]

/-! ## Texts of records -/

namespace Language

/-- A record with a format is read from its JSON text. -/
theorem json_read?_write {α : Type} {write : α → Json} {read : Json → Option α}
    (h : IsFormat write read) (ofYaml : Yaml.Value → Yaml.Bounded α) (a : α) :
    Language.json.read? (Json.write (write a)) read ofYaml = some a :=
  h.read?_write a

/-- **No record is lost or changed by its JSON text**, whatever texts, numbers, rules and placements are in
it. -/
theorem read?_write_toJson :
    (∀ catalogue : Catalogue, Language.json.read? (Json.write catalogue.toJson)
      Catalogue.ofDocument? Catalogue.ofDocument? = some catalogue) ∧
    (∀ dataset : Dataset, Language.json.read? (Json.write dataset.toJson)
      Dataset.ofDocument? Dataset.ofDocument? = some dataset) ∧
    (∀ storage : SharedStorage, Language.json.read? (Json.write storage.toJson)
      SharedStorage.ofDocument? SharedStorage.ofDocument? = some storage) ∧
    (∀ plan : Plan, Language.json.read? (Json.write plan.toJson)
      Plan.ofDocument? Plan.ofDocument? = some plan) ∧
    (∀ binding : Binding, Language.json.read? (Json.write binding.toJson)
      Binding.ofDocument? Binding.ofDocument? = some binding) ∧
    (∀ file : NodeFile, Language.json.read? (Json.write file.toJson)
      NodeFile.ofDocument? NodeFile.ofDocument? = some file) ∧
    (∀ diagnostic : Diagnostic, Language.json.read? (Json.write diagnostic.toJson)
      Diagnostic.ofDocument? Diagnostic.ofDocument? = some diagnostic) := by
  refine ⟨?_, ?_, ?_, ?_, ?_, ?_, ?_⟩
  · exact json_read?_write Catalogue.isFormat _
  · exact json_read?_write Dataset.isFormat _
  · exact json_read?_write SharedStorage.isFormat _
  · exact json_read?_write Plan.isFormat _
  · exact json_read?_write Binding.isFormat _
  · exact json_read?_write NodeFile.isFormat _
  · exact json_read?_write Diagnostic.isFormat _

end Language

end DatasetHosting
