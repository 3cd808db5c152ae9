import DatasetHosting.Proofs.Condition.Evaluation

/-!
# Proofs/Condition/Dependence — evaluation rests on the names that it looks up

Which names an evaluation looks up depends on the values that it finds, since a connective may skip its right
side.  But whatever they are, they decide the result (`RestsOn`): it is a value if all of them are defined,
and otherwise names one that is not.  Steps that rest on names make up whole evaluations that do
(`LooksUp.bind`), and an evaluation of a condition looks up nothing but its identifiers (`Expr.looksUp`).  That
other names make no difference, that more attributes do not change a value, and that an error is honest about
what is missing, all come from there.
-/

namespace DatasetHosting.Condition

variable {α β : Type} {attributes : Attributes} {names : List String} {e : Expr}

/-! ## Steps -/

/-- **The question rests on the names**, when it is put to the attributes. -/
structure RestsOn (attributes : Attributes) (names : List String)
    (ask : Attributes → Except EvalError α) : Prop where
  /-- Attributes that agree on the names give the same result. -/
  same : ∀ other : Attributes, (∀ name ∈ names, other.lookup name = attributes.lookup name) →
    ask other = ask attributes
  /-- A result needs all of the names. -/
  defined : ∀ value, ask attributes = .ok value → ∀ name ∈ names, attributes.Defines name
  /-- An error names one of them that is missing. -/
  missing : ∀ error, ask attributes = .error error →
    ∃ name ∈ names, error = .unknownIdentifier name ∧ ¬attributes.Defines name

/-- **The question looks up nothing but the allowed names**, whatever the attributes. -/
def LooksUp (allowed : List String) (ask : Attributes → Except EvalError α) : Prop :=
  ∀ attributes, ∃ names ⊆ allowed, RestsOn attributes names ask

theorem looksUp_value (allowed : List String) (value : α) :
    LooksUp allowed fun _ => .ok value := by
  intro attributes
  refine ⟨[], List.nil_subset _, fun _ _ => rfl, fun _ _ _ hname => absurd hname List.not_mem_nil, ?_⟩
  rintro error ⟨⟩

namespace LooksUp

variable {allowed wider : List String} {ask : Attributes → Except EvalError α}

theorem mono (h : LooksUp allowed ask) (hsub : allowed ⊆ wider) : LooksUp wider ask := by
  intro attributes
  obtain ⟨names, hnames, hrests⟩ := h attributes
  exact ⟨names, List.Subset.trans hnames hsub, hrests⟩

/-- **One step after another**: the second is asked for what it needs only if the first has a result.  Without
one the names of the first are all there is; with one, wherever those names agree the result does, and so does
what the second step asks for. -/
theorem bind {next : α → Attributes → Except EvalError β} (h : LooksUp allowed ask)
    (hnext : ∀ value, LooksUp allowed (next value)) :
    LooksUp allowed fun attributes => ask attributes >>= fun value => next value attributes := by
  intro attributes
  obtain ⟨names, hnames, hsame, hdefined, hmissing⟩ := h attributes
  cases hask : ask attributes with
  | error error =>
    refine ⟨names, hnames, ?_, ?_, ?_⟩
    · intro other hagree
      simp only [hsame other hagree, hask]
      rfl
    · intro value hvalue
      simp only [hask] at hvalue
      cases hvalue
    · intro error' herror
      simp only [hask] at herror
      obtain rfl := Except.error.inj herror
      exact hmissing error hask
  | ok first =>
    obtain ⟨behind, hbehind, hsame', hdefined', hmissing'⟩ := hnext first attributes
    refine ⟨names ++ behind, List.append_subset.mpr ⟨hnames, hbehind⟩, ?_, ?_, ?_⟩
    · intro other hagree
      obtain ⟨hfirst, hsecond⟩ := List.forall_mem_append.mp hagree
      simp only [hsame other hfirst, hask]
      exact hsame' other hsecond
    · intro value hvalue
      simp only [hask] at hvalue
      exact List.forall_mem_append.mpr ⟨hdefined first hask, hdefined' value hvalue⟩
    · intro error herror
      simp only [hask] at herror
      obtain ⟨name, hname, herror⟩ := hmissing' error herror
      exact ⟨name, List.mem_append_right _ hname, herror⟩

end LooksUp

/-! ## Conditions -/

theorem Operand.looksUp (operand : Operand) :
    LooksUp operand.identifiers fun attributes => operand.value attributes := by
  cases operand with
  | literal value => exact looksUp_value _ value
  | identifier name =>
    intro attributes
    refine ⟨[name], List.Subset.refl _, ?_, ?_, ?_⟩
    · intro other hagree
      rw [value, value, hagree name List.mem_cons_self]
    · intro result hresult name' hname
      obtain rfl := List.mem_singleton.mp hname
      rw [value] at hresult
      split at hresult
      · next found hfound => exact ⟨found, hfound⟩
      · cases hresult
    · intro error herror
      rw [value] at herror
      split at herror
      · cases herror
      · next hnone =>
        refine ⟨name, List.mem_cons_self, (Except.error.inj herror).symm, ?_⟩
        rintro ⟨found, hfound⟩
        rw [hnone] at hfound
        cases hfound

/-- **An evaluation looks up nothing but the identifiers of the condition.** -/
theorem Expr.looksUp (e : Expr) : LooksUp e.identifiers fun attributes => e.eval attributes := by
  induction e with
  | comparison sign left right =>
    refine (left.looksUp.mono (List.subset_append_left _ _)).bind fun l => ?_
    exact (right.looksUp.mono (List.subset_append_right _ _)).bind fun r => looksUp_value _ _
  | and left right ihl ihr =>
    refine (ihl.mono (List.subset_append_left _ _)).bind fun value => ?_
    cases value with
    | true => exact ihr.mono (List.subset_append_right _ _)
    | false => exact looksUp_value _ false
  | or left right ihl ihr =>
    refine (ihl.mono (List.subset_append_left _ _)).bind fun value => ?_
    cases value with
    | true => exact looksUp_value _ true
    | false => exact ihr.mono (List.subset_append_right _ _)
  | not inner ih => exact ih.bind fun value => looksUp_value _ (!value)
  | boolean value => exact looksUp_value _ value

/-! ## What makes no difference -/

/-- The attributes are among wider ones, with the same values. -/
def Attributes.IsWithin (attributes wider : Attributes) : Prop :=
  ∀ name value, attributes.lookup name = some value → wider.lookup name = some value

/-- Names that a condition does not mention make no difference. -/
theorem Expr.eval_congr {other : Attributes}
    (h : ∀ name ∈ e.identifiers, other.lookup name = attributes.lookup name) :
    e.eval other = e.eval attributes := by
  obtain ⟨names, hnames, hrests⟩ := e.looksUp attributes
  exact hrests.same other fun name hname => h name (hnames hname)

/-- **More attributes do not change a value.** -/
theorem Expr.eval_of_isWithin {wider : Attributes} {value : Bool} (hwider : attributes.IsWithin wider)
    (h : e.eval attributes = .ok value) : e.eval wider = .ok value := by
  obtain ⟨names, -, hrests⟩ := e.looksUp attributes
  rw [← h]
  refine hrests.same wider fun name hname => ?_
  obtain ⟨found, hfound⟩ := hrests.defined value h name hname
  rw [hfound, hwider name found hfound]

/-- **An error names an identifier of the condition that is missing.** -/
theorem Expr.exists_of_eval_error {error : EvalError} (h : e.eval attributes = .error error) :
    ∃ name ∈ e.identifiers, error = .unknownIdentifier name ∧ ¬attributes.Defines name := by
  obtain ⟨names, hnames, hrests⟩ := e.looksUp attributes
  obtain ⟨name, hname, herror⟩ := hrests.missing error h
  exact ⟨name, hnames hname, herror⟩

/-- **Evaluation depends on the identifiers of a condition only, and its errors are honest.**  Attributes that
agree on the identifiers give the same answer, and wider attributes give a value that was there again.  An error
names an identifier of the condition that is missing, and with all of them defined there is a value. -/
theorem Expr.answer_rests_on_identifiers (e : Expr) :
    (∀ attributes other : Attributes,
        (∀ name ∈ e.identifiers, attributes.lookup name = other.lookup name) →
          e.answer attributes = e.answer other) ∧
      (∀ attributes value, e.answer attributes = .ok value →
        ∀ wider, attributes.IsWithin wider → e.answer wider = .ok value) ∧
      ∀ attributes message, e.answer attributes = .error message →
        (∃ name ∈ e.identifiers, message = "unknown identifier '" ++ name ++ "'" ∧
          attributes.lookup name = none) ∧
        ∀ other : Attributes, (∀ name ∈ e.identifiers, other.Defines name) →
          ∃ value, e.answer other = .ok value := by
  refine ⟨fun attributes other hagree => ?_, fun attributes value h wider hwider => ?_,
    fun attributes message h => ⟨?_, fun other hdefines => ?_⟩⟩
  · rw [answer, eval_congr hagree, answer]
  · exact answer_eq_ok_iff.mpr (eval_of_isWithin hwider (answer_eq_ok_iff.mp h))
  · obtain ⟨name, herror, hmessage⟩ := answer_eq_error_iff.mp h
    obtain ⟨name', hmem, hname, hmissing⟩ := exists_of_eval_error herror
    obtain rfl := EvalError.unknownIdentifier.inj hname
    refine ⟨name, hmem, hmessage, ?_⟩
    rw [Option.eq_none_iff_forall_ne_some]
    exact fun value hvalue => hmissing ⟨value, hvalue⟩
  · obtain ⟨value, hvalue⟩ := eval_of_defines hdefines
    exact ⟨value, answer_eq_ok_iff.mpr hvalue⟩

/-- The right side of an `OR` counts only where the left side is false: there `nodes` has to be defined. -/
theorem Expr.answer_rests_on_skipped_identifier :
    let e : Expr := .or (.comparison .equal (.identifier "label") (.literal "x"))
      (.comparison .greaterOrEqual (.identifier "nodes") (.literal "3"))
    let skipping : Attributes := [("label", "x")]
    let failing : Attributes := [("label", "y")]
    (∀ name ∈ e.identifiers, skipping.lookup name = (skipping ++ failing).lookup name) ∧
      e.answer (skipping ++ failing) = .ok true ∧
      skipping.IsWithin (skipping ++ [("nodes", "2")]) ∧
      e.answer (skipping ++ [("nodes", "2")]) = .ok true ∧
      e.answer failing = .error "unknown identifier 'nodes'" ∧
      (∃ name ∈ e.identifiers,
        "unknown identifier 'nodes'" = "unknown identifier '" ++ name ++ "'" ∧
          failing.lookup name = none) ∧
      ∃ value, e.answer (failing ++ [("nodes", "2")]) = .ok value := by
  intro e skipping failing
  have hvalue : e.answer skipping = .ok true := by rfl
  have herror : e.answer failing = .error "unknown identifier 'nodes'" := by rfl
  have hagree : ∀ name ∈ e.identifiers, skipping.lookup name = (skipping ++ failing).lookup name := by
    decide
  have hwithin : skipping.IsWithin (skipping ++ [("nodes", "2")]) := by
    intro name value h
    rw [List.lookup_append, h]
    rfl
  have hdefines : ∀ name ∈ e.identifiers, (failing ++ [("nodes", "2")]).Defines name := by
    intro name hname
    have hsome : ((failing ++ [("nodes", "2")]).lookup name).isSome = true := by
      revert name
      decide
    exact Option.isSome_iff_exists.mp hsome
  obtain ⟨hsame, hwider, hhonest⟩ := answer_rests_on_identifiers e
  obtain ⟨hnamed, hdefined⟩ := hhonest failing _ herror
  exact ⟨hagree, (hsame _ _ hagree).symm.trans hvalue, hwithin, hwider _ _ hvalue _ hwithin, herror, hnamed,
    hdefined _ hdefines⟩

end DatasetHosting.Condition
