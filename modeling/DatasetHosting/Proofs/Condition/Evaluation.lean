import DatasetHosting.Condition.Text

/-!
# Proofs/Condition/Evaluation — a condition that was validated has a value

Validation lists the identifiers of a condition; evaluation looks them up one by one and stops early.
What ties the two together is `Expr.eval_of_defines`: evaluation never looks at a name that is not on the
list.
-/

namespace DatasetHosting.Condition

variable {attributes : Attributes}

/-! ## Trees -/

/-- The attributes have a value under the name. -/
def Attributes.Defines (attributes : Attributes) (name : String) : Prop :=
  ∃ value, attributes.lookup name = some value

theorem Operand.value_of_defines {operand : Operand}
    (h : ∀ name ∈ operand.identifiers, attributes.Defines name) :
    ∃ value, operand.value attributes = .ok value := by
  cases operand with
  | literal value => exact ⟨value, rfl⟩
  | identifier name =>
    obtain ⟨value, hv⟩ := h name (List.mem_singleton.mpr rfl)
    refine ⟨value, ?_⟩
    rw [Operand.value, hv]

/-- **Evaluation looks up nothing but the listed identifiers**: with all of them defined it succeeds,
whichever side a connective skips. -/
theorem Expr.eval_of_defines {e : Expr} (h : ∀ name ∈ e.identifiers, attributes.Defines name) :
    ∃ value, e.eval attributes = .ok value := by
  induction e with
  | comparison sign left right =>
    obtain ⟨hl, hr⟩ := List.forall_mem_append.mp h
    obtain ⟨l, hl⟩ := Operand.value_of_defines hl
    obtain ⟨r, hr⟩ := Operand.value_of_defines hr
    refine ⟨sign.holds (compareValues l r), ?_⟩
    rw [Expr.eval, hl, hr]
    rfl
  | and left right ihl ihr =>
    obtain ⟨hl, hr⟩ := List.forall_mem_append.mp h
    obtain ⟨l, hl⟩ := ihl hl
    obtain ⟨r, hr⟩ := ihr hr
    refine ⟨l && r, ?_⟩
    rw [Expr.eval, hl, hr]
    cases l <;> rfl
  | or left right ihl ihr =>
    obtain ⟨hl, hr⟩ := List.forall_mem_append.mp h
    obtain ⟨l, hl⟩ := ihl hl
    obtain ⟨r, hr⟩ := ihr hr
    refine ⟨l || r, ?_⟩
    rw [Expr.eval, hl, hr]
    cases l <;> rfl
  | not inner ih =>
    obtain ⟨value, hv⟩ := ih h
    refine ⟨!value, ?_⟩
    rw [Expr.eval, hv]
    rfl
  | boolean value => exact ⟨value, rfl⟩

/-- A `NOT` has the opposite value, and fails as the condition does. -/
theorem Expr.eval_not_eq (e : Expr) : (Expr.not e).eval attributes = (e.eval attributes).map (!·) := by
  rw [eval]
  cases e.eval attributes <;> rfl

/-! ## Reworded errors -/

section Reworded

variable {α ε ε' : Type} {reword : ε → ε'} {result : Except ε α} {value : α} {error : ε'}

theorem mapError_eq_ok_iff : result.mapError reword = .ok value ↔ result = .ok value := by
  cases result with
  | error cause => exact iff_of_false (by rintro ⟨⟩) (by rintro ⟨⟩)
  | ok found => exact ⟨fun h => congrArg _ (Except.ok.inj h), fun h => congrArg _ (Except.ok.inj h)⟩

theorem mapError_eq_error_iff :
    result.mapError reword = .error error ↔ ∃ cause, result = .error cause ∧ reword cause = error := by
  cases result with
  | error cause =>
    constructor
    · intro h
      exact ⟨cause, rfl, Except.error.inj h⟩
    · rintro ⟨other, hother, rfl⟩
      rw [Except.error.inj hother]
      rfl
  | ok found => exact iff_of_false (by rintro ⟨⟩) (by rintro ⟨_, ⟨⟩, _⟩)

end Reworded

/-- **What evaluation answers**: a truth value, or the wording of its error. -/
def Expr.answer (attributes : Attributes) (e : Expr) : Except String Bool :=
  (e.eval attributes).mapError EvalError.message

theorem Expr.answer_eq_ok_iff {e : Expr} {value : Bool} :
    e.answer attributes = .ok value ↔ e.eval attributes = .ok value :=
  mapError_eq_ok_iff

/-- The one kind of error names an identifier. -/
theorem Expr.answer_eq_error_iff {e : Expr} {message : String} :
    e.answer attributes = .error message ↔
      ∃ name, e.eval attributes = .error (.unknownIdentifier name) ∧
        message = "unknown identifier '" ++ name ++ "'" := by
  rw [answer, mapError_eq_error_iff]
  constructor
  · rintro ⟨⟨name⟩, herror, rfl⟩
    exact ⟨name, herror, rfl⟩
  · rintro ⟨name, herror, rfl⟩
    exact ⟨_, herror, rfl⟩

/-! ## Texts -/

/-- A text that compiles is refused for the first of its identifiers that is not known. -/
theorem validate_eq_of_compile {source : String} {e : Expr} (h : compile source = .ok e) :
    validate source = match e.identifiers.find? (!isKnownIdentifier ·) with
      | some name => .error ⟨source, .evaluation (.unknownIdentifier name)⟩
      | none => .ok () := by
  rw [validate, h]
  rfl

/-- A text is valid exactly if it compiles to a tree that mentions known identifiers only. -/
theorem validate_eq_ok_iff {source : String} :
    validate source = .ok () ↔
      ∃ e, compile source = .ok e ∧ ∀ name ∈ e.identifiers, name ∈ knownIdentifiers := by
  cases hc : compile source with
  | error e =>
    have hv : validate source = .error ⟨source, .compile e⟩ := by
      rw [validate, hc]
      rfl
    simp [hv]
  | ok e =>
    have hv : validate source = .ok () ↔ e.identifiers.find? (!isKnownIdentifier ·) = none := by
      rw [validate_eq_of_compile hc]
      split <;> simp_all
    rw [hv, List.find?_eq_none]
    simp [isKnownIdentifier]

/-- …and what is wrong with a text that compiles is its first identifier that is not known. -/
theorem validate_eq_error_iff {source : String} {e : Expr} {error : TextError}
    (h : compile source = .ok e) :
    validate source = .error error ↔
      ∃ name, e.identifiers.find? (!isKnownIdentifier ·) = some name ∧
        error = ⟨source, .evaluation (.unknownIdentifier name)⟩ := by
  rw [validate_eq_of_compile h]
  cases e.identifiers.find? (!isKnownIdentifier ·) with
  | none => exact iff_of_false (by rintro ⟨⟩) (by rintro ⟨_, ⟨⟩, _⟩)
  | some name =>
    constructor
    · intro herror
      exact ⟨name, rfl, (Except.error.inj herror).symm⟩
    · rintro ⟨other, hother, rfl⟩
      rw [Option.some.inj hother]

/-- A text that compiles has the value of its tree. -/
theorem holds_of_compile {source : String} {e : Expr} {value : Bool} (hc : compile source = .ok e)
    (hv : e.eval attributes = .ok value) : holds attributes source = .ok value := by
  rw [holds, hc]
  change (e.eval attributes).mapError _ = _
  rw [hv]
  rfl

/-- **A valid text has a value** wherever the known identifiers are defined. -/
theorem holds_of_validate {source : String} (hs : validate source = .ok ())
    (hk : ∀ name ∈ knownIdentifiers, attributes.Defines name) :
    ∃ value, holds attributes source = .ok value := by
  obtain ⟨e, hc, he⟩ := validate_eq_ok_iff.mp hs
  obtain ⟨value, hv⟩ := Expr.eval_of_defines fun name hn => hk name (he name hn)
  exact ⟨value, holds_of_compile hc hv⟩

end DatasetHosting.Condition
