import DatasetHosting.Proofs.Condition.Grammar

/-!
# Proofs/Condition/Descent — the descent of the parser, position by position

The parser goes down the levels of the grammar with one position in the tokens: a level starts at it, moves it
on and leaves it behind, also where it fails.  `Runs` says so level by level, and loop by loop for the two
chains.  A run is a finite derivation, so to have a run is to end.

* A run never moves back, and it moves on if it succeeds (`Runs.le`, `Runs.lt_of_ok`).
* It has looked at no token behind the one at which it ends (`Runs.congr`).
* What there is to do at a position has no second run (`Runs.unique`).
-/

namespace DatasetHosting.Condition

/-! ## Runs -/

/-- The two connectives of chains. -/
inductive Connective where
  | or
  | and
  deriving DecidableEq, Repr

/-- What there is to do at a position. -/
inductive Task where
  /-- Read conditions joined by the connective. -/
  | chain (connective : Connective)
  /-- Go on behind `left` in a chain of the connective. -/
  | goOn (connective : Connective) (left : Expr)
  /-- Read a condition behind any number of `NOT`. -/
  | negation
  /-- Read a condition in parentheses, a truth value or a comparison. -/
  | primary
  deriving DecidableEq, Repr

namespace Connective

/-- The token that joins. -/
def token : Connective → Token
  | or => .or
  | and => .and

/-- What is made of the two sides. -/
def join : Connective → Expr → Expr → Expr
  | or => .or
  | and => .and

/-- What a chain joins. -/
def link : Connective → Task
  | or => .chain .and
  | and => .negation

/-- The level of the chains. -/
def level : Connective → Level
  | or => .disjunction
  | and => .conjunction

end Connective

/-- What a level of the grammar is to read. -/
def Level.task : Level → Task
  | .disjunction => .chain .or
  | .conjunction => .chain .and
  | .negation => .negation
  | .primary => .primary

theorem Level.task_ne_goOn (level : Level) (c : Connective) (left : Expr) :
    level.task ≠ .goOn c left := by
  cases level <;> exact Task.noConfusion

/-- **A comparison that starts with the token at the position**: its result, and where it ends.  It takes the
token that it refuses, if there is one. -/
def comparisonAt (ts : List Token) (pos : Nat) (t : Token) : Except ParseError Expr × Nat :=
  match operand t with
  | .error error => (.error error, pos + 1)
  | .ok left =>
    match ts[pos + 1]? with
    | none => (.error .incompleteComparison, pos + 1)
    | some (.comparison sign) =>
      match ts[pos + 2]? with
      | none => (.error .incompleteComparison, pos + 2)
      | some u => ((operand u).map (.comparison sign left), pos + 3)
    | some found => (.error (.notComparison found), pos + 2)

/-- **The runs of the descent**: `Runs ts task pos result final` starts the task at `pos` and ends at `final`
with the result. -/
inductive Runs (ts : List Token) : Task → Nat → Except ParseError Expr → Nat → Prop where
  | chain {c pos left mid result final} (first : Runs ts c.link pos (.ok left) mid)
      (rest : Runs ts (.goOn c left) mid result final) : Runs ts (.chain c) pos result final
  | chainFails {c pos error final} (first : Runs ts c.link pos (.error error) final) :
      Runs ts (.chain c) pos (.error error) final
  | goOn {c left pos right mid result final} (hnext : ts[pos]? = some c.token)
      (next : Runs ts c.link (pos + 1) (.ok right) mid)
      (rest : Runs ts (.goOn c (c.join left right)) mid result final) :
      Runs ts (.goOn c left) pos result final
  | goOnFails {c left pos error final} (hnext : ts[pos]? = some c.token)
      (next : Runs ts c.link (pos + 1) (.error error) final) :
      Runs ts (.goOn c left) pos (.error error) final
  | stop {c left pos} (hnext : ts[pos]? ≠ some c.token) : Runs ts (.goOn c left) pos (.ok left) pos
  | not {pos result final} (hnext : ts[pos]? = some .not)
      (inner : Runs ts .negation (pos + 1) result final) :
      Runs ts .negation pos (result.map .not) final
  | bare {pos result final} (hnext : ts[pos]? ≠ some .not)
      (inner : Runs ts .primary pos result final) : Runs ts .negation pos result final
  | nothing {pos} (hnext : ts[pos]? = none) : Runs ts .primary pos (.error .endOfExpression) pos
  | parentheses {pos e mid} (hnext : ts[pos]? = some .leftParen)
      (inner : Runs ts (.chain .or) (pos + 1) (.ok e) mid) (hclose : ts[mid]? = some .rightParen) :
      Runs ts .primary pos (.ok e) (mid + 1)
  | unclosed {pos e mid} (hnext : ts[pos]? = some .leftParen)
      (inner : Runs ts (.chain .or) (pos + 1) (.ok e) mid) (hclose : ts[mid]? ≠ some .rightParen) :
      Runs ts .primary pos (.error .missingParen) mid
  | insideFails {pos error final} (hnext : ts[pos]? = some .leftParen)
      (inner : Runs ts (.chain .or) (pos + 1) (.error error) final) :
      Runs ts .primary pos (.error error) final
  | boolean {pos value} (hnext : ts[pos]? = some (.boolean value)) :
      Runs ts .primary pos (.ok (.boolean value)) (pos + 1)
  | comparison {pos t} (hnext : ts[pos]? = some t) (hparen : t ≠ .leftParen)
      (hvalue : ∀ value, t ≠ .boolean value) :
      Runs ts .primary pos (comparisonAt ts pos t).1 (comparisonAt ts pos t).2

variable {ts us : List Token} {task : Task} {c : Connective} {left e : Expr} {t : Token}
  {pos final : Nat} {result : Except ParseError Expr}

/-! ## Forwards -/

/-- A comparison takes at least the token that it starts with. -/
theorem lt_comparisonAt (ts : List Token) (pos : Nat) (t : Token) : pos < (comparisonAt ts pos t).2 := by
  rw [comparisonAt]
  repeat' split
  all_goals simp

/-- **No run moves back.** -/
theorem Runs.le (h : Runs ts task pos result final) : pos ≤ final := by
  induction h with
  | chain _ _ ihfirst ihrest => exact Nat.le_trans ihfirst ihrest
  | goOn _ _ _ ihnext ihrest => omega
  | stop | nothing => exact Nat.le_refl _
  | bare _ _ ih | chainFails _ ih => exact ih
  | goOnFails _ _ ih | not _ _ ih | parentheses _ _ _ ih | unclosed _ _ _ ih | insideFails _ _ ih => omega
  | boolean => exact Nat.le_succ _
  | comparison => exact Nat.le_of_lt (lt_comparisonAt _ _ _)

/-- **A run that succeeds has taken a token**, unless it only goes on with a chain. -/
theorem Runs.lt_of_ok (h : Runs ts task pos result final) (htask : ∀ c left, task ≠ .goOn c left)
    (hok : ∃ e, result = .ok e) : pos < final := by
  induction h with
  | @chain c pos left mid result final first rest ih =>
    have hlink : ∀ c' left', c.link ≠ .goOn c' left' := by
      cases c <;> exact fun _ _ => Task.noConfusion
    exact Nat.lt_of_lt_of_le (ih hlink ⟨left, rfl⟩) rest.le
  | goOn | goOnFails | stop => exact absurd rfl (htask _ _)
  | chainFails | nothing | unclosed | insideFails =>
    obtain ⟨e, he⟩ := hok
    cases he
  | not _ inner => exact inner.le
  | bare _ _ ih => exact ih (fun _ _ => Task.noConfusion) hok
  | parentheses _ inner => exact Nat.lt_succ_of_le (Nat.le_of_succ_le inner.le)
  | boolean => exact Nat.lt_succ_self _
  | comparison => exact lt_comparisonAt _ _ _

theorem lt_of_getElem? (h : ts[pos]? = some t) : pos < ts.length :=
  (List.getElem?_eq_some_iff.mp h).1

/-- It ends within the tokens. -/
theorem comparisonAt_le (hnext : pos < ts.length) : (comparisonAt ts pos t).2 ≤ ts.length := by
  rw [comparisonAt]
  split
  · exact hnext
  · split
    · exact hnext
    · next hsign =>
      have hlt := lt_of_getElem? hsign
      split
      · exact hlt
      · next hright => exact lt_of_getElem? hright
    · next hfound => exact lt_of_getElem? hfound

/-- **A run stays within the tokens.** -/
theorem Runs.le_length (h : Runs ts task pos result final) (hpos : pos ≤ ts.length) :
    final ≤ ts.length := by
  induction h with
  | chain _ _ ihfirst ihrest => exact ihrest (ihfirst hpos)
  | goOn hnext _ _ ihnext ihrest => exact ihrest (ihnext (lt_of_getElem? hnext))
  | stop | nothing => exact hpos
  | bare _ _ ih | chainFails _ ih => exact ih hpos
  | goOnFails hnext _ ih | not hnext _ ih | unclosed hnext _ _ ih | insideFails hnext _ ih =>
    exact ih (lt_of_getElem? hnext)
  | parentheses _ _ hclose => exact lt_of_getElem? hclose
  | boolean hnext => exact lt_of_getElem? hnext
  | comparison hnext => exact comparisonAt_le (lt_of_getElem? hnext)

/-! ## What a run looks at -/

/-- The tokens are the same from one position up to another, this one included; where the tokens end, both do. -/
def Agree (ts us : List Token) (pos final : Nat) : Prop :=
  ∀ i, pos ≤ i → i ≤ final → us[i]? = ts[i]?

/-- Tokens that agree on a range agree on every range within it. -/
theorem Agree.mono {pos' final' : Nat} (h : Agree ts us pos final) (hpos : pos ≤ pos')
    (hfinal : final' ≤ final) : Agree ts us pos' final' :=
  fun i hi hle => h i (Nat.le_trans hpos hi) (Nat.le_trans hle hfinal)

theorem Agree.behind {pos' : Nat} (h : Agree ts us pos final) (hpos : pos ≤ pos') :
    Agree ts us pos' final :=
  h.mono hpos (Nat.le_refl _)

/-- The token at which a part of a run starts or ends is the same. -/
theorem Agree.at {i : Nat} (h : Agree ts us pos final) (hpos : pos ≤ i) (hfinal : i ≤ final) :
    us[i]? = ts[i]? :=
  h i hpos hfinal

theorem Agree.first (h : Agree ts us pos final) (hle : pos ≤ final) : us[pos]? = ts[pos]? :=
  h.at (Nat.le_refl _) hle

/-- A comparison depends on the tokens up to its end only. -/
theorem comparisonAt_congr (h : Agree ts us pos (comparisonAt ts pos t).2) :
    comparisonAt us pos t = comparisonAt ts pos t := by
  cases hoperand : operand t with
  | error error => simp only [comparisonAt, hoperand]
  | ok left =>
    have hsign : us[pos + 1]? = ts[pos + 1]? := h.at (Nat.le_succ _) (lt_comparisonAt ts pos t)
    cases hnext : ts[pos + 1]? with
    | none => simp only [comparisonAt, hoperand, hsign, hnext]
    | some found =>
      cases found with
      | comparison sign =>
        have hend : pos + 2 ≤ (comparisonAt ts pos t).2 := by
          simp only [comparisonAt, hoperand, hnext]
          split <;> omega
        have hright : us[pos + 2]? = ts[pos + 2]? := h.at (by omega) hend
        simp only [comparisonAt, hoperand, hsign, hnext, hright]
      | _ => simp only [comparisonAt, hoperand, hsign, hnext]

/-- **A run looks at no token behind the one at which it ends.** -/
theorem Runs.congr (h : Runs ts task pos result final) (hsame : Agree ts us pos final) :
    Runs us task pos result final := by
  induction h with
  | chain first rest ihfirst ihrest =>
    exact .chain (ihfirst (hsame.mono (Nat.le_refl _) rest.le)) (ihrest (hsame.behind first.le))
  | chainFails first ih => exact .chainFails (ih hsame)
  | goOn hnext next rest ihnext ihrest =>
    have hnext' := next.le
    have hrest := rest.le
    refine .goOn ((hsame.first (by omega)).trans hnext) (ihnext (hsame.mono ?_ hrest))
      (ihrest (hsame.behind ?_)) <;> omega
  | goOnFails hnext next ih =>
    have hnext' := next.le
    exact .goOnFails ((hsame.first (by omega)).trans hnext) (ih (hsame.behind (by omega)))
  | stop hnext => exact .stop fun hsome => hnext ((hsame.first (Nat.le_refl _)).symm.trans hsome)
  | not hnext inner ih =>
    have hinner := inner.le
    exact .not ((hsame.first (by omega)).trans hnext) (ih (hsame.behind (by omega)))
  | bare hnext inner ih =>
    exact .bare (fun hsome => hnext ((hsame.first inner.le).symm.trans hsome)) (ih hsame)
  | nothing hnext => exact .nothing ((hsame.first (Nat.le_refl _)).trans hnext)
  | parentheses hnext inner hclose ih =>
    have hinner := inner.le
    exact .parentheses ((hsame.first (by omega)).trans hnext)
      (ih (hsame.mono (by omega) (by omega))) ((hsame.at (by omega) (by omega)).trans hclose)
  | unclosed hnext inner hclose ih =>
    have hinner := inner.le
    exact .unclosed ((hsame.first (by omega)).trans hnext) (ih (hsame.behind (by omega)))
      fun hsome => hclose ((hsame.at (by omega) (Nat.le_refl _)).symm.trans hsome)
  | insideFails hnext inner ih =>
    have hinner := inner.le
    exact .insideFails ((hsame.first (by omega)).trans hnext) (ih (hsame.behind (by omega)))
  | boolean hnext => exact .boolean ((hsame.first (Nat.le_succ _)).trans hnext)
  | @comparison pos t hnext hparen hvalue =>
    have hend := Nat.le_of_lt (lt_comparisonAt ts pos t)
    have hrun := Runs.comparison ((hsame.first hend).trans hnext) hparen hvalue
    rwa [comparisonAt_congr hsame] at hrun

/-! ## One run -/

/-- **A task has no second run.** -/
theorem Runs.unique {result' : Except ParseError Expr} {final' : Nat}
    (h : Runs ts task pos result final) (h' : Runs ts task pos result' final') :
    result' = result ∧ final' = final := by
  induction h generalizing result' final' with
  | chain first rest ihfirst ihrest =>
    cases h' with
    | chain first' rest' =>
      obtain ⟨hleft, rfl⟩ := ihfirst first'
      obtain rfl := Except.ok.inj hleft
      exact ihrest rest'
    | chainFails first' => cases (ihfirst first').1
  | chainFails first ih =>
    cases h' with
    | chain first' rest' => cases (ih first').1
    | chainFails first' => exact ih first'
  | goOn hnext next rest ihnext ihrest =>
    cases h' with
    | goOn hnext' next' rest' =>
      obtain ⟨hright, rfl⟩ := ihnext next'
      obtain rfl := Except.ok.inj hright
      exact ihrest rest'
    | goOnFails hnext' next' => cases (ihnext next').1
    | stop hstop => exact absurd hnext hstop
  | goOnFails hnext next ih =>
    cases h' with
    | goOn hnext' next' rest' => cases (ih next').1
    | goOnFails hnext' next' => exact ih next'
    | stop hstop => exact absurd hnext hstop
  | stop hstop =>
    cases h' with
    | goOn hnext | goOnFails hnext => exact absurd hnext hstop
    | stop => exact ⟨rfl, rfl⟩
  | not hnext inner ih =>
    cases h' with
    | not hnext' inner' =>
      obtain ⟨rfl, rfl⟩ := ih inner'
      exact ⟨rfl, rfl⟩
    | bare hbare => exact absurd hnext hbare
  | bare hbare inner ih =>
    cases h' with
    | not hnext => exact absurd hnext hbare
    | bare _ inner' => exact ih inner'
  | nothing hnext => cases h' <;> simp_all
  | parentheses hnext inner hclose ih =>
    cases h' with
    | parentheses _ inner' _ =>
      obtain ⟨he, rfl⟩ := ih inner'
      exact ⟨he, rfl⟩
    | unclosed _ inner' hopen =>
      obtain ⟨-, rfl⟩ := ih inner'
      exact absurd hclose hopen
    | insideFails _ inner' => cases (ih inner').1
    | _ => simp_all
  | unclosed hnext inner hopen ih =>
    cases h' with
    | parentheses _ inner' hclose =>
      obtain ⟨-, rfl⟩ := ih inner'
      exact absurd hclose hopen
    | unclosed _ inner' _ => exact ⟨rfl, (ih inner').2⟩
    | insideFails _ inner' => cases (ih inner').1
    | _ => simp_all
  | insideFails hnext inner ih =>
    cases h' with
    | parentheses _ inner' | unclosed _ inner' => cases (ih inner').1
    | insideFails _ inner' => exact ih inner'
    | _ => simp_all
  | boolean hnext => cases h' <;> simp_all
  | comparison hnext hparen hvalue =>
    cases h' with
    | boolean hnext' => exact absurd (Option.some.inj (hnext.symm.trans hnext')) (hvalue _)
    | comparison hnext' =>
      obtain rfl := Option.some.inj (hnext.symm.trans hnext')
      exact ⟨rfl, rfl⟩
    | _ => simp_all

end DatasetHosting.Condition
