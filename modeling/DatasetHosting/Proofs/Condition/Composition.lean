import DatasetHosting.Proofs.Condition.Evaluation
import DatasetHosting.Proofs.Condition.Print

/-!
# Proofs/Condition/Composition — texts of conditions put together

Putting parentheses around a text, or a connective between two, is done to the characters.  It has to come
out right twice: no lexeme may reach across a seam (`Splits.append`), and the parser must not regroup what
stands on either side, which parentheses see to (`Writes.parentheses`).  So a composed text compiles to the
composed tree.
-/

namespace DatasetHosting.Condition

open DatasetHosting.Text

variable {c : Char} {cs ds : List Char} {ts us : List Token} {e e' : Expr} {level : Level}

/-! ## Texts that write a tree -/

/-- **The characters write the tree** at a level of the grammar. -/
def Writes (level : Level) (cs : List Char) (e : Expr) : Prop :=
  ∃ ts, Splits cs ts ∧ Derives level ts e

/-- A source compiles exactly to what it writes as a disjunction. -/
theorem compile_eq_ok_iff_writes {source : String} :
    compile source = .ok e ↔ Writes .disjunction source.toList e := by
  simp only [compile_eq_ok_iff, parse_eq_ok_iff_derives, Writes]

namespace Writes

/-- What is written at a tight level may stand at a loose one. -/
theorem loosen {tight : Level} (h : Writes tight cs e) (hle : level.rank ≤ tight.rank) :
    Writes level cs e := by
  obtain ⟨ts, hsplits, hderives⟩ := h
  exact ⟨ts, hsplits, hderives.loosen hle⟩

/-- **In parentheses a text writes its tree at the tightest level**, and so at any. -/
theorem parentheses (h : Writes .disjunction cs e) : Writes .primary ('(' :: (cs ++ [')'])) e := by
  obtain ⟨ts, hsplits, hderives⟩ := h
  have hclosed : Splits (cs ++ [')']) (ts ++ [.rightParen]) :=
    hsplits.append (fun t => t.endsAt_rightParen []) Token.Spelled.rightParen.splits
  have hopened : Splits (['('] ++ (cs ++ [')'])) (.leftParen :: (ts ++ [.rightParen])) :=
    .lexeme .leftParen (fun _ _ _ => rfl) hclosed
  exact ⟨_, hopened, .parentheses hderives⟩

/-- `NOT` in front of a negation writes its negation. -/
theorem not (h : Writes .negation cs e) : Writes .negation ("NOT".toList ++ ' ' :: cs) (.not e) := by
  obtain ⟨ts, hsplits, hderives⟩ := h
  have hnot : Splits "NOT".toList [.not] := Token.Spelled.not.splits
  exact ⟨_, hnot.append_space hsplits, .not hderives⟩

/-- `AND` between a conjunction and a negation writes their conjunction, -/
theorem and (h : Writes .conjunction cs e) (h' : Writes .negation ds e') :
    Writes .conjunction (cs ++ ' ' :: ("AND".toList ++ ' ' :: ds)) (.and e e') := by
  obtain ⟨ts, hsplits, hderives⟩ := h
  obtain ⟨us, hsplits', hderives'⟩ := h'
  have hand : Splits "AND".toList [.and] := Token.Spelled.and.splits
  have hbehind := hand.append_space hsplits'
  exact ⟨_, hsplits.append_space hbehind, .and hderives hderives'⟩

/-- and `OR` between a disjunction and a conjunction their disjunction. -/
theorem or (h : Writes .disjunction cs e) (h' : Writes .conjunction ds e') :
    Writes .disjunction (cs ++ ' ' :: ("OR".toList ++ ' ' :: ds)) (.or e e') := by
  obtain ⟨ts, hsplits, hderives⟩ := h
  obtain ⟨us, hsplits', hderives'⟩ := h'
  have hor : Splits "OR".toList [.or] := Token.Spelled.or.splits
  have hbehind := hor.append_space hsplits'
  exact ⟨_, hsplits.append_space hbehind, .or hderives hderives'⟩

end Writes

/-! ## Values of composed trees -/

section Values

variable {attributes : Attributes} {value value' : Bool}

/-- A negation has the opposite value. -/
theorem Expr.eval_not (h : e.eval attributes = .ok value) :
    (Expr.not e).eval attributes = .ok (!value) := by
  rw [eval_not_eq, h]
  rfl

/-- What a connective skips does not change its value, as that side has a value too. -/
theorem Expr.eval_and (h : e.eval attributes = .ok value) (h' : e'.eval attributes = .ok value') :
    (Expr.and e e').eval attributes = .ok (value && value') := by
  cases value <;> simp [eval, h, h', bind, Except.bind, pure, Except.pure]

theorem Expr.eval_or (h : e.eval attributes = .ok value) (h' : e'.eval attributes = .ok value') :
    (Expr.or e e').eval attributes = .ok (value || value') := by
  cases value <;> simp [eval, h, h', bind, Except.bind, pure, Except.pure]

end Values

/-! ## Composed texts -/

variable {source other : String}

/-- **Parentheses change nothing** about what a source compiles to, -/
theorem compile_parentheses (h : compile source = .ok e) :
    compile ("(" ++ source ++ ")") = .ok e := by
  have hprimary := (compile_eq_ok_iff_writes.mp h).parentheses
  have hwrites : Writes .disjunction _ e := hprimary.loosen (by decide)
  refine compile_eq_ok_iff_writes.mpr ?_
  simpa using hwrites

/-- and around it they make it an operand of `NOT`, -/
theorem compile_not (h : compile source = .ok e) :
    compile ("NOT (" ++ source ++ ")") = .ok (.not e) := by
  have hinner : Writes .negation _ e := (compile_eq_ok_iff_writes.mp h).parentheses.loosen (by decide)
  have hwrites : Writes .disjunction _ (.not e) := hinner.not.loosen (by decide)
  refine compile_eq_ok_iff_writes.mpr ?_
  simpa using hwrites

/-- of `AND`, -/
theorem compile_and (h : compile source = .ok e) (h' : compile other = .ok e') :
    compile ("(" ++ source ++ ") AND (" ++ other ++ ")") = .ok (.and e e') := by
  have hleft : Writes .conjunction _ e :=
    (compile_eq_ok_iff_writes.mp h).parentheses.loosen (by decide)
  have hright : Writes .negation _ e' :=
    (compile_eq_ok_iff_writes.mp h').parentheses.loosen (by decide)
  have hwrites : Writes .disjunction _ (.and e e') := (hleft.and hright).loosen (by decide)
  refine compile_eq_ok_iff_writes.mpr ?_
  simpa using hwrites

/-- and of `OR`, whatever it is made of. -/
theorem compile_or (h : compile source = .ok e) (h' : compile other = .ok e') :
    compile ("(" ++ source ++ ") OR (" ++ other ++ ")") = .ok (.or e e') := by
  have hleft : Writes .disjunction _ e :=
    (compile_eq_ok_iff_writes.mp h).parentheses.loosen (by decide)
  have hright : Writes .conjunction _ e' :=
    (compile_eq_ok_iff_writes.mp h').parentheses.loosen (by decide)
  refine compile_eq_ok_iff_writes.mpr ?_
  simpa using hleft.or hright

/-- A text is valid if its tree mentions known identifiers only. -/
theorem validate_of_compile (h : compile source = .ok e)
    (hknown : ∀ name ∈ e.identifiers, name ∈ knownIdentifiers) : validate source = .ok () :=
  validate_eq_ok_iff.mpr ⟨e, h, hknown⟩

/-- **Texts composed of valid texts are valid.** -/
theorem validate_composed (hs : validate source = .ok ()) (ht : validate other = .ok ()) :
    validate ("(" ++ source ++ ")") = .ok () ∧ validate ("NOT (" ++ source ++ ")") = .ok () ∧
      validate ("(" ++ source ++ ") AND (" ++ other ++ ")") = .ok () ∧
      validate ("(" ++ source ++ ") OR (" ++ other ++ ")") = .ok () := by
  obtain ⟨e, hcompile, hknown⟩ := validate_eq_ok_iff.mp hs
  obtain ⟨e', hcompile', hknown'⟩ := validate_eq_ok_iff.mp ht
  have hboth : ∀ name ∈ e.identifiers ++ e'.identifiers, name ∈ knownIdentifiers :=
    List.forall_mem_append.mpr ⟨hknown, hknown'⟩
  exact ⟨validate_of_compile (compile_parentheses hcompile) hknown,
    validate_of_compile (compile_not hcompile) hknown,
    validate_of_compile (compile_and hcompile hcompile') hboth,
    validate_of_compile (compile_or hcompile hcompile') hboth⟩

end DatasetHosting.Condition
