import DatasetHosting.Proofs.Condition.Grammar
import DatasetHosting.Proofs.Condition.Message

/-!
# Proofs/Condition/Failure — an error says where the tokens go wrong

A token that is left over stands behind a complete condition, and nothing behind it was looked at; tokens
that end too early can be completed.  Both halves of `parse_locates_errors` need the grammar:

* what was read in front of a left-over token derives a tree, and no chain goes on at that token
  (`stops_disjunction`), so the same happens whatever follows;
* wherever the parser runs out of tokens the constructs that it has entered can still be closed
  (`read_honest`).
-/

namespace DatasetHosting.Condition

variable {level tight : Level} {n : Nat} {ts rest : List Token} {e left : Expr} {found : Token}

/-! ## Completing what ends too early -/

/-- **What an error says of the tokens before it.**  If they end too early they can be completed; and no
token is left over inside a condition. -/
def ParseError.Says (completable : Prop) : ParseError → Prop
  | endOfExpression => completable
  | incompleteComparison => completable
  | leftover _ _ => False
  | _ => True

theorem ParseError.Says.imp {p q : Prop} (h : p → q) {error : ParseError} (htells : error.Says p) :
    error.Says q := by
  cases error with
  | endOfExpression | incompleteComparison => exact h htells
  | leftover => exact htells
  | missingParen | notOperand | notComparison => exact trivial

/-- **An honest reading**: if it fails, what its error says is so. -/
def IsHonest (level : Level) (ts : List Token)
    (result : Except ParseError (Expr × List Token)) : Prop :=
  ∀ error, result = .error error → error.Says (∃ more e, Derives level (ts ++ more) e)

/-- …and an honest reading of what goes on behind a chain. -/
def IsHonestBehind (level : Level) (left : Expr) (ts : List Token)
    (result : Except ParseError (Expr × List Token)) : Prop :=
  ∀ before, Derives level before left → ∀ error, result = .error error →
    error.Says (∃ more e, Derives level (before ++ (ts ++ more)) e)

theorem error_of_bind_eq_error {α β : Type} {result : Except ParseError α}
    {next : α → Except ParseError β} {error : ParseError} (h : result >>= next = .error error) :
    result = .error error ∨ ∃ first, result = .ok first ∧ next first = .error error := by
  cases result with
  | error cause => exact .inl (congrArg Except.error (Except.error.inj h))
  | ok first => exact .inr ⟨first, rfl, h⟩

section Chains

variable {result : Except ParseError (Parsed n)}
  (tail : Expr → List Token → Except ParseError (Expr × List Token))

theorem IsHonest.chain (hsound : IsSound tight ts (reading result))
    (hfirst : IsHonest tight ts (reading result))
    (hloosen : ∀ us e, Derives tight us e → Derives level us e)
    (htail : ∀ whole : Parsed n,
      IsHonestBehind level whole.tree whole.rest (tail whole.tree whole.rest)) :
    IsHonest level ts (reading result >>= fun first => tail first.1 first.2) := by
  intro error h
  rcases error_of_bind_eq_error h with herror | ⟨⟨first, behind⟩, hread, hrest⟩
  · refine (hfirst error herror).imp ?_
    rintro ⟨more, e, hderives⟩
    exact ⟨more, e, hloosen _ _ hderives⟩
  · obtain ⟨whole, -, rfl, rfl⟩ := reading_eq_ok_iff.mp hread
    obtain ⟨used, rfl, hderives⟩ := hsound _ _ hread
    refine (htail whole used (hloosen _ _ hderives) error hrest).imp ?_
    rintro ⟨more, e, hall⟩
    exact ⟨more, e, by rwa [List.append_assoc]⟩

theorem IsHonest.link {connective : Token} (make : Expr → Expr → Expr)
    (hsound : IsSound tight ts (reading result)) (hlink : IsHonest tight ts (reading result))
    (hmake : ∀ before us right, Derives level before left → Derives tight us right →
      Derives level (before ++ connective :: us) (make left right))
    (htail : ∀ whole : Parsed n, IsHonestBehind level (make left whole.tree) whole.rest
      (tail (make left whole.tree) whole.rest)) :
    IsHonestBehind level left (connective :: ts)
      (reading result >>= fun next => tail (make left next.1) next.2) := by
  intro before hbefore error h
  rcases error_of_bind_eq_error h with herror | ⟨⟨next, behind⟩, hread, hrest⟩
  · refine (hlink error herror).imp ?_
    rintro ⟨more, right, hderives⟩
    exact ⟨more, make left right, hmake _ _ _ hbefore hderives⟩
  · obtain ⟨whole, -, rfl, rfl⟩ := reading_eq_ok_iff.mp hread
    obtain ⟨used, rfl, hderives⟩ := hsound _ _ hread
    refine (htail whole _ (hmake _ _ _ hbefore hderives) error hrest).imp ?_
    rintro ⟨more, e, hall⟩
    exact ⟨more, e, by simpa using hall⟩

end Chains

/-- A token that is no operand is found at once. -/
theorem operand_honest {t : Token} {error : ParseError} (h : operand t = .error error) (p : Prop) :
    error.Says p := by
  cases t <;> cases h <;> exact trivial

/-- A comparison that is broken off lacks a sign and an operand, or only the operand. -/
theorem comparisonTail_honest {t : Token} {left : Operand} (hleft : t.Denotes left) :
    IsHonest .primary (t :: ts) (reading (comparisonTail left ts)) := by
  have hcomplete : ∀ sign, Derives .primary [t, .comparison sign, .text ""]
      (.comparison sign left (.literal "")) := fun sign => .comparison sign hleft (.text "")
  intro error h
  rw [comparisonTail.eq_def] at h
  split at h
  · obtain rfl := Except.error.inj h
    exact ⟨_, _, hcomplete .equal⟩
  · next sign =>
    obtain rfl := Except.error.inj h
    exact ⟨_, _, hcomplete sign⟩
  · next sign u behind =>
    cases hu : operand u with
    | error cause =>
      rw [hu] at h
      obtain rfl := Except.error.inj h
      exact operand_honest hu _
    | ok right =>
      rw [hu] at h
      cases h
  · obtain rfl := Except.error.inj h
    exact trivial

/-- **Where the parser runs out of tokens it can be given more.** -/
theorem read_honest (level : Level) (ts : List Token) :
    IsHonest level ts (reading (level.read ts)) := by
  refine Level.induct (fun level ts => IsHonest level ts (reading (level.read ts)))
    (fun level left ts => IsHonestBehind level left ts (level.readOn left ts))
    ?disjunction ?or ?orEnd ?conjunction ?and ?andEnd ?not ?bare ?nothing ?parentheses ?boolean
    ?comparison level ts
  case disjunction =>
    intro ts hfirst htail
    rw [reading_disjunction]
    exact hfirst.chain (fun e rest => reading (disjunctionTail e rest))
      (read_sound .conjunction ts) (fun _ _ => .disjunction) htail
  case or =>
    intro left ts hlink htail
    rw [Level.readOn, reading_disjunctionTail_or]
    exact hlink.link (fun e rest => reading (disjunctionTail e rest)) .or
      (read_sound .conjunction ts) (fun _ _ _ => .or) htail
  case orEnd =>
    intro left ts hend before hbefore error h
    rw [Level.readOn, reading_disjunctionTail_of_ne hend] at h
    cases h
  case conjunction =>
    intro ts hfirst htail
    rw [reading_conjunction]
    exact hfirst.chain (fun e rest => reading (conjunctionTail e rest))
      (read_sound .negation ts) (fun _ _ => .conjunction) htail
  case and =>
    intro left ts hlink htail
    rw [Level.readOn, reading_conjunctionTail_and]
    exact hlink.link (fun e rest => reading (conjunctionTail e rest)) .and
      (read_sound .negation ts) (fun _ _ _ => .and) htail
  case andEnd =>
    intro left ts hend before hbefore error h
    rw [Level.readOn, reading_conjunctionTail_of_ne hend] at h
    cases h
  case not =>
    intro ts hinner error h
    rw [reading_negation_not] at h
    rcases error_of_bind_eq_error h with herror | ⟨first, -, hrest⟩
    · refine (hinner error herror).imp ?_
      rintro ⟨more, e, hderives⟩
      exact ⟨more, .not e, .not hderives⟩
    · cases hrest
  case bare =>
    intro ts hnot hprimary error h
    rw [reading_negation_of_ne hnot] at h
    refine (hprimary error h).imp ?_
    rintro ⟨more, e, hderives⟩
    exact ⟨more, e, .negation hderives⟩
  case nothing =>
    intro error h
    rw [reading_primary_nil] at h
    obtain rfl := Except.error.inj h
    exact ⟨[.boolean true], _, .boolean true⟩
  case parentheses =>
    intro ts hinner error h
    rw [reading_primary_leftParen] at h
    rcases error_of_bind_eq_error h with herror | ⟨first, -, hrest⟩
    · refine (hinner error herror).imp ?_
      rintro ⟨more, e, hderives⟩
      have hclosed := Derives.parentheses hderives
      exact ⟨more ++ [.rightParen], e, by simpa using hclosed⟩
    · rw [closing] at hrest
      split at hrest
      · cases hrest
      · obtain rfl := Except.error.inj hrest
        exact trivial
  case boolean =>
    intro value ts error h
    rw [reading_primary_boolean] at h
    cases h
  case comparison =>
    intro t ts hparen hvalue error h
    rw [reading_primary_of_ne hparen hvalue] at h
    rcases error_of_bind_eq_error h with herror | ⟨left, hleft, hrest⟩
    · exact operand_honest herror _
    · exact comparisonTail_honest (operand_eq_ok_iff.mp hleft) error hrest

/-! ## What a condition leaves over -/

/-- A chain goes on until its connective is not next; what else holds of all that its links leave holds then
too. -/
theorem stops_of_chain {connective : Token} {make : Expr → Expr → Expr}
    {link : (ts : List Token) → Except ParseError (Parsed ts.length)}
    {tail : Expr → List Token → Except ParseError (Expr × List Token)} (Stops : List Token → Prop)
    (hgo : ∀ left ts, tail left (connective :: ts) =
      reading (link ts) >>= fun next => tail (make left next.1) next.2)
    (hend : ∀ left ts, (∀ more, ts ≠ connective :: more) → tail left ts = .ok (left, ts))
    (hlink : ∀ ts e rest, reading (link ts) = .ok (e, rest) → Stops rest)
    (hts : Stops ts) (h : tail left ts = .ok (e, rest)) :
    Stops rest ∧ ∀ more, rest ≠ connective :: more := by
  induction hlength : ts.length using Nat.strongRecOn generalizing left ts with
  | ind length ih =>
    by_cases hnext : ∃ more, ts = connective :: more
    · obtain ⟨more, rfl⟩ := hnext
      rw [hgo] at h
      obtain ⟨⟨next, behind⟩, hread, hrest⟩ := exists_of_bind_eq_ok h
      obtain ⟨whole, -, -, rfl⟩ := reading_eq_ok_iff.mp hread
      have hless : whole.rest.length < length := by
        rw [← hlength, List.length_cons]
        exact Nat.lt_succ_of_lt whole.rest_lt
      exact ih _ hless (hlink _ _ _ hread) hrest rfl
    · have hstop : ∀ more, ts ≠ connective :: more := fun more hmore => hnext ⟨more, hmore⟩
      rw [hend left ts hstop] at h
      obtain ⟨-, rfl⟩ := Prod.mk.inj (Except.ok.inj h)
      exact ⟨hts, hstop⟩

theorem stops_conjunction (h : reading (conjunction ts) = .ok (e, rest)) :
    ∀ more, rest ≠ .and :: more := by
  rw [reading_conjunction] at h
  obtain ⟨⟨first, behind⟩, -, hrest⟩ := exists_of_bind_eq_ok h
  have hstops := stops_of_chain (fun _ => True) reading_conjunctionTail_and
    (fun _ _ => reading_conjunctionTail_of_ne) (fun _ _ _ _ => trivial) trivial hrest
  exact hstops.2

/-- **No connective stands behind a condition**: one of its chains would have gone on. -/
theorem stops_disjunction (h : reading (disjunction ts) = .ok (e, rest)) :
    (∀ more, rest ≠ .and :: more) ∧ ∀ more, rest ≠ .or :: more := by
  rw [reading_disjunction] at h
  obtain ⟨⟨first, behind⟩, hread, hrest⟩ := exists_of_bind_eq_ok h
  exact stops_of_chain _ reading_disjunctionTail_or (fun _ _ => reading_disjunctionTail_of_ne)
    (fun _ _ _ => stops_conjunction) (stops_conjunction hread) hrest

/-! ## Where a condition goes wrong -/

/-- **Behind a complete condition any token but a connective is left over**, whatever follows. -/
theorem Derives.parse_append (h : Derives .disjunction ts e) (hand : found ≠ .and)
    (hor : found ≠ .or) (rest : List Token) :
    parse (ts ++ found :: rest) = .error (.leftover found ts.length) := by
  have hread := h.takes (found :: rest) fun more hmore => hand (List.cons.inj hmore).1
  rw [reading_disjunctionTail_of_ne fun more hmore => hor (List.cons.inj hmore).1] at hread
  refine parse_eq_error_iff.mpr (.inr ⟨e, found, rest, hread, ?_⟩)
  simp

/-- …and only there is a token left over. -/
theorem exists_of_parse_leftover {position : Nat}
    (h : parse ts = .error (.leftover found position)) :
    ∃ used rest e, ts = used ++ found :: rest ∧ position = used.length ∧
      Derives .disjunction used e ∧ found ≠ .and ∧ found ≠ .or := by
  rcases parse_eq_error_iff.mp h with hread | ⟨e, next, rest, hread, herror⟩
  · exact (read_honest .disjunction ts _ hread).elim
  · obtain ⟨rfl, rfl⟩ := ParseError.leftover.inj herror
    obtain ⟨used, rfl, hderives⟩ := read_sound .disjunction ts e _ hread
    obtain ⟨hand, hor⟩ := stops_disjunction hread
    refine ⟨used, rest, e, rfl, by simp, hderives, ?_, ?_⟩
    · rintro rfl
      exact hand rest rfl
    · rintro rfl
      exact hor rest rfl

/-- **Tokens that end too early are the beginning of a condition.** -/
theorem exists_of_parse_premature {error : ParseError} (h : parse ts = .error error)
    (hearly : error = .endOfExpression ∨ error = .incompleteComparison) :
    ∃ more e, Derives .disjunction (ts ++ more) e := by
  rcases parse_eq_error_iff.mp h with hread | ⟨e, next, rest, -, rfl⟩
  · have htells := read_honest .disjunction ts _ hread
    rcases hearly with rfl | rfl
    · exact htells
    · exact htells
  · rcases hearly with hearly | hearly <;> cases hearly

/-! ## Located errors -/

/-- **Errors of the parser are located exactly.**  A token that is reported as unexpected stands at the
position given, the tokens in front of it are a condition, and no continuation behind it changes the message;
and tokens that end unexpectedly, or inside a comparison, are the beginning of a condition. -/
theorem parse_locates_errors (ts : List Token) :
    (∀ found position,
      answer ts = .error
          ("unexpected token " ++ found.describe ++ " at position " ++ toString position) →
        (∃ h : position < ts.length, ts[position] = found) ∧
          (∃ e, answer (ts.take position) = .ok e) ∧
          ∀ more, answer (ts.take (position + 1) ++ more) = answer ts) ∧
      (answer ts = .error "unexpected end of expression" ∨
          answer ts = .error "incomplete comparison expression" →
        ∃ more e, answer (ts ++ more) = .ok e) := by
  constructor
  · intro found position h
    have hmessage : answer ts = .error (ParseError.leftover found position).message := h
    obtain ⟨used, rest, e, rfl, rfl, hderives, hand, hor⟩ :=
      exists_of_parse_leftover (answer_eq_error_iff.mp hmessage)
    refine ⟨⟨by simp, by simp⟩, ⟨e, ?_⟩, fun more => ?_⟩
    · rw [List.take_left, answer_eq_ok_iff, parse_eq_ok_iff_derives]
      exact hderives
    · rw [List.take_length_add_append, List.append_assoc, hmessage, answer_eq_error_iff]
      exact hderives.parse_append hand hor more
  · intro h
    have hderives : ∃ more e, Derives .disjunction (ts ++ more) e := by
      rcases h with h | h
      · have hparse : parse ts = .error .endOfExpression := answer_eq_error_iff.mp h
        exact exists_of_parse_premature hparse (.inl rfl)
      · have hparse : parse ts = .error .incompleteComparison := answer_eq_error_iff.mp h
        exact exists_of_parse_premature hparse (.inr rfl)
    obtain ⟨more, e, hderives⟩ := hderives
    exact ⟨more, e, answer_eq_ok_iff.mpr (parse_eq_ok_iff_derives.mpr hderives)⟩

/-- A second comparison without a connective, and a comparison that breaks off behind two open constructs. -/
theorem parse_locates_second_comparison :
    let ts : List Token := [.identifier "format", .comparison .equal, .number "7",
      .identifier "label", .comparison .equal, .text "x"]
    let us : List Token := [.not, .leftParen, .identifier "format", .comparison .greaterOrEqual]
    answer ts = .error "unexpected token Identifier(\"label\") at position 3" ∧
      (∃ e, answer (ts.take 3) = .ok e) ∧
      (∀ more, answer (ts.take 4 ++ more) = answer ts) ∧
      answer us = .error "incomplete comparison expression" ∧
      ∃ more e, answer (us ++ more) = .ok e := by
  intro ts us
  have hparse : parse ts = .error (.leftover (.identifier "label") 3) := by cbv
  have hparse' : parse us = .error .incompleteComparison := by cbv
  have hmessage : (ParseError.leftover (.identifier "label") 3).message =
      "unexpected token Identifier(\"label\") at position 3" := by
    decide +kernel
  have hleft : answer ts = .error _ := answer_eq_error_iff.mpr hparse
  have hearly : answer us = .error _ := answer_eq_error_iff.mpr hparse'
  obtain ⟨-, hfront, hsame⟩ := (parse_locates_errors ts).1 _ _ hleft
  exact ⟨hmessage ▸ hleft, hfront, hsame, hearly, (parse_locates_errors us).2 (.inr hearly)⟩

end DatasetHosting.Condition
