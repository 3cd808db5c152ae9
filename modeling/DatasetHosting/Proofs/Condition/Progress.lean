import DatasetHosting.Proofs.Condition.Descent

/-!
# Proofs/Condition/Progress — the descent always ends

Each level has a run from every position, and the run ends with what the parser reads there (`exists_runs`).
This is where the parser's own recursion is used, once; that a run makes progress and what it looks at are facts
about runs (`Runs.lt_of_ok`, `Runs.congr`), and together they are `descent_makes_progress`.
-/

namespace DatasetHosting.Condition

variable {ts us : List Token} {task : Task} {c : Connective} {left e : Expr} {t : Token}
  {pos final : Nat} {result : Except ParseError Expr}

/-! ## The run of a level -/

/-- What the parser reads in a task. -/
def Task.read : Task → List Token → Except ParseError (Expr × List Token)
  | .chain .or, ts => reading (disjunction ts)
  | .chain .and, ts => reading (conjunction ts)
  | .goOn .or left, ts => reading (disjunctionTail left ts)
  | .goOn .and left, ts => reading (conjunctionTail left ts)
  | .negation, ts => reading (Condition.negation ts)
  | .primary, ts => reading (Condition.primary ts)

theorem read_task (level : Level) (ts : List Token) : level.task.read ts = reading (level.read ts) := by
  cases level <;> rfl

/-- A chain is its first link and what goes on behind it. -/
theorem read_chain (c : Connective) (us : List Token) :
    (Task.chain c).read us = c.link.read us >>= fun first => (Task.goOn c first.1).read first.2 := by
  cases c with
  | or => exact reading_disjunction us
  | and => exact reading_conjunction us

/-- Behind a connective the next link joins what has been read. -/
theorem read_goOn (c : Connective) (left : Expr) (us : List Token) :
    (Task.goOn c left).read (c.token :: us) =
      c.link.read us >>= fun next => (Task.goOn c (c.join left next.1)).read next.2 := by
  cases c with
  | or => exact reading_disjunctionTail_or left us
  | and => exact reading_conjunctionTail_and left us

/-- Without a connective the chain ends where it is. -/
theorem read_goOn_of_ne (h : ∀ rest, us ≠ c.token :: rest) :
    (Task.goOn c left).read us = .ok (left, us) := by
  cases c with
  | or => exact reading_disjunctionTail_of_ne h
  | and => exact reading_conjunctionTail_of_ne h

/-- **A task on the tokens from a position on has a run**, which ends with what the parser reads there and in
front of what it leaves over. -/
def HasRun (task : Task) (us : List Token) : Prop :=
  ∀ ts pos, ts.drop pos = us → ∃ result final, Runs ts task pos result final ∧
    task.read us = result.map (·, ts.drop final)

theorem getElem?_of_drop (h : ts.drop pos = t :: us) : ts[pos]? = some t ∧ ts.drop (pos + 1) = us :=
  ⟨by rw [← List.head?_drop, h, List.head?_cons], by rw [← List.tail_drop, h, List.tail_cons]⟩

theorem getElem?_ne_of_drop (h : ts.drop pos = us) (hne : ∀ rest, us ≠ t :: rest) :
    ts[pos]? ≠ some t := by
  intro hnext
  rw [← List.head?_drop, h, List.head?_eq_some_iff] at hnext
  obtain ⟨rest, hrest⟩ := hnext
  exact hne rest hrest

/-- The run of a chain is that of its first link and of what follows. -/
theorem HasRun.chain (hfirst : HasRun c.link us)
    (hrest : ∀ e rest, c.link.read us = .ok (e, rest) → HasRun (.goOn c e) rest) :
    HasRun (.chain c) us := by
  intro ts pos hdrop
  obtain ⟨first, mid, hrun, hread⟩ := hfirst ts pos hdrop
  rw [read_chain, hread]
  cases first with
  | error error => exact ⟨_, _, .chainFails hrun, rfl⟩
  | ok left =>
    obtain ⟨result, final, hgo, hend⟩ := hrest left _ hread ts mid rfl
    exact ⟨result, final, .chain hrun hgo, hend⟩

theorem HasRun.goOn (hlink : HasRun c.link us)
    (hrest : ∀ e rest, c.link.read us = .ok (e, rest) → HasRun (.goOn c (c.join left e)) rest) :
    HasRun (.goOn c left) (c.token :: us) := by
  intro ts pos hdrop
  obtain ⟨hnext, hbehind⟩ := getElem?_of_drop hdrop
  obtain ⟨next, mid, hrun, hread⟩ := hlink ts (pos + 1) hbehind
  rw [read_goOn, hread]
  cases next with
  | error error => exact ⟨_, _, .goOnFails hnext hrun, rfl⟩
  | ok right =>
    obtain ⟨result, final, hgo, hend⟩ := hrest right _ hread ts mid rfl
    exact ⟨result, final, .goOn hnext hrun hgo, hend⟩

/-- A chain that ends takes no token. -/
theorem HasRun.stop (h : ∀ rest, us ≠ c.token :: rest) : HasRun (.goOn c left) us := by
  intro ts pos hdrop
  refine ⟨.ok left, pos, .stop (getElem?_ne_of_drop hdrop h), ?_⟩
  rw [read_goOn_of_ne h, hdrop]
  rfl

theorem HasRun.not (h : HasRun .negation us) : HasRun .negation (.not :: us) := by
  intro ts pos hdrop
  obtain ⟨hnext, hbehind⟩ := getElem?_of_drop hdrop
  obtain ⟨result, final, hrun, hread⟩ := h ts (pos + 1) hbehind
  refine ⟨_, final, .not hnext hrun, ?_⟩
  rw [Task.read] at hread ⊢
  rw [reading_negation_not, hread]
  cases result <;> rfl

/-- Parentheses run through the condition between them. -/
theorem HasRun.parentheses (h : HasRun (.chain .or) us) : HasRun .primary (.leftParen :: us) := by
  intro ts pos hdrop
  obtain ⟨hnext, hbehind⟩ := getElem?_of_drop hdrop
  obtain ⟨inner, mid, hrun, hread⟩ := h ts (pos + 1) hbehind
  have hclosing : Task.primary.read (.leftParen :: us) =
      inner.map (·, ts.drop mid) >>= closing := by
    rw [← hread]
    exact reading_primary_leftParen us
  rw [hclosing]
  cases inner with
  | error error => exact ⟨_, _, .insideFails hnext hrun, rfl⟩
  | ok e =>
    change ∃ result final, Runs ts .primary pos result final ∧
      closing (e, ts.drop mid) = result.map (·, ts.drop final)
    rw [closing]
    split
    · next after hafter =>
      obtain ⟨hclose, rfl⟩ := getElem?_of_drop hafter
      exact ⟨_, _, .parentheses hnext hrun hclose, rfl⟩
    · next hopen => exact ⟨_, _, .unclosed hnext hrun (getElem?_ne_of_drop rfl hopen), rfl⟩

/-- A comparison is read straight on. -/
theorem reading_comparison (hdrop : ts.drop pos = t :: us) :
    (operand t >>= fun left => reading (comparisonTail left us)) =
      (comparisonAt ts pos t).1.map (·, ts.drop (comparisonAt ts pos t).2) := by
  obtain ⟨-, hbehind⟩ := getElem?_of_drop hdrop
  rw [comparisonAt]
  cases operand t with
  | error error => rfl
  | ok left =>
    change reading (comparisonTail left us) = _
    cases us with
    | nil =>
      have hnone : ts[pos + 1]? = none := by rw [← List.head?_drop, hbehind, List.head?_nil]
      simp only [hnone]
      rfl
    | cons found vs =>
      obtain ⟨hfound, hvs⟩ := getElem?_of_drop hbehind
      simp only [hfound]
      cases found with
      | comparison sign =>
        cases vs with
        | nil =>
          have hnone : ts[pos + 2]? = none := by rw [← List.head?_drop, hvs, List.head?_nil]
          simp only [hnone]
          rfl
        | cons u ws =>
          obtain ⟨hu, hws⟩ := getElem?_of_drop hvs
          simp only [hu, comparisonTail]
          cases operand u with
          | error error => rfl
          | ok right => rw [hws]; rfl
      | _ => rfl

/-- **Every level has a run from every position.** -/
theorem exists_runs (level : Level) (us : List Token) : HasRun level.task us := by
  refine Level.induct (fun level us => HasRun level.task us)
    (fun level left us => ∀ c : Connective, c.level = level → HasRun (.goOn c left) us)
    ?disjunction ?or ?orEnd ?conjunction ?and ?andEnd ?not ?bare ?nothing ?parentheses ?boolean
    ?comparison level us
  case disjunction =>
    intro us hfirst hrest
    refine HasRun.chain hfirst fun e rest hread => ?_
    obtain ⟨whole, -, rfl, rfl⟩ := reading_eq_ok_iff.mp hread
    exact hrest whole .or rfl
  case or =>
    rintro left us hlink hrest (_ | _) ⟨⟩
    refine HasRun.goOn hlink fun e rest hread => ?_
    obtain ⟨whole, -, rfl, rfl⟩ := reading_eq_ok_iff.mp hread
    exact hrest whole .or rfl
  case orEnd =>
    rintro left us hend (_ | _) ⟨⟩
    exact HasRun.stop hend
  case conjunction =>
    intro us hfirst hrest
    refine HasRun.chain hfirst fun e rest hread => ?_
    obtain ⟨whole, -, rfl, rfl⟩ := reading_eq_ok_iff.mp hread
    exact hrest whole .and rfl
  case and =>
    rintro left us hlink hrest (_ | _) ⟨⟩
    refine HasRun.goOn hlink fun e rest hread => ?_
    obtain ⟨whole, -, rfl, rfl⟩ := reading_eq_ok_iff.mp hread
    exact hrest whole .and rfl
  case andEnd =>
    rintro left us hend (_ | _) ⟨⟩
    exact HasRun.stop hend
  case not => exact fun us hinner => hinner.not
  case bare =>
    intro us hnot hprimary ts pos hdrop
    obtain ⟨result, final, hrun, hread⟩ := hprimary ts pos hdrop
    refine ⟨result, final, .bare (getElem?_ne_of_drop hdrop hnot) hrun, ?_⟩
    exact (reading_negation_of_ne hnot).trans hread
  case nothing =>
    intro ts pos hdrop
    have hnone : ts[pos]? = none := by rw [← List.head?_drop, hdrop, List.head?_nil]
    exact ⟨_, _, .nothing hnone, reading_primary_nil⟩
  case parentheses => exact fun us hinner => hinner.parentheses
  case boolean =>
    intro value us ts pos hdrop
    obtain ⟨hnext, rfl⟩ := getElem?_of_drop hdrop
    exact ⟨_, _, .boolean hnext, reading_primary_boolean value _⟩
  case comparison =>
    intro t us hparen hvalue ts pos hdrop
    refine ⟨_, _, .comparison (getElem?_of_drop hdrop).1 hparen hvalue, ?_⟩
    exact (reading_primary_of_ne hparen hvalue us).trans (reading_comparison hdrop)

/-! ## The whole list -/

/-- **A run is what the parser reads.** -/
theorem Runs.reading_eq {level : Level} (h : Runs ts level.task pos result final) :
    reading (level.read (ts.drop pos)) = result.map (·, ts.drop final) := by
  obtain ⟨result', final', hrun, hread⟩ := exists_runs level (ts.drop pos) ts pos rfl
  obtain ⟨rfl, rfl⟩ := h.unique hrun
  rw [← read_task, hread]

/-- **There is one run only** of a task from a position. -/
theorem Runs.iff_eq {result' : Except ParseError Expr} {final' : Nat}
    (h : Runs ts task pos result final) :
    Runs ts task pos result' final' ↔ result' = result ∧ final' = final :=
  ⟨h.unique, by rintro ⟨rfl, rfl⟩; exact h⟩

/-- **Parsing is the run from the front of the list**, and the token at which it ends, if there is one, is left
over. -/
theorem Runs.parse_eq (h : Runs ts (.chain .or) 0 result final) :
    parse ts = result.bind fun e =>
      match ts[final]? with
      | none => .ok e
      | some found => .error (.leftover found final) := by
  have hrun : Runs ts Level.disjunction.task 0 result final := h
  have hread : reading (disjunction ts) = result.map (·, ts.drop final) := hrun.reading_eq
  cases result with
  | error error => exact parse_eq_error_iff.mpr (.inl hread)
  | ok e =>
    change parse ts = match ts[final]? with
      | none => .ok e
      | some found => .error (.leftover found final)
    split
    · next hnone =>
      have hend : ts.drop final = [] := List.drop_eq_nil_iff.mpr (List.getElem?_eq_none_iff.mp hnone)
      rw [parse_eq_ok_iff, hread, hend]
      rfl
    · next found hfound =>
      obtain ⟨hlt, rfl⟩ := List.getElem?_eq_some_iff.mp hfound
      rw [List.drop_eq_getElem_cons hlt] at hread
      refine parse_eq_error_iff.mpr (.inr ⟨e, _, _, hread, ?_⟩)
      have hposition : ts.length - ((ts.drop (final + 1)).length + 1) = final := by
        rw [List.length_drop]
        omega
      rw [hposition]

/-- **The descent always makes progress.**  From any position each level has one run and no other, which ends
with what the parser reads there.  It ends within the tokens, and behind its start if it succeeds.  Its result
and its end rest on the tokens from its start up to the one at which it ends, and on no others.  So parsing ends
on every list of tokens: its answer is that of the run from the front, unless that run leaves a token over. -/
theorem descent_makes_progress (ts : List Token) :
    (∀ (level : Level) (pos : Nat), pos ≤ ts.length → ∃ result final,
      (∀ result' final',
        Runs ts level.task pos result' final' ↔ result' = result ∧ final' = final) ∧
      reading (level.read (ts.drop pos)) = result.map (·, ts.drop final) ∧
      final ≤ ts.length ∧ ((∃ e, result = .ok e) → pos < final) ∧
      ∀ us, (∀ i, pos ≤ i → i ≤ final → us[i]? = ts[i]?) →
        (∀ result' final',
          Runs us level.task pos result' final' ↔ result' = result ∧ final' = final) ∧
        reading (level.read (us.drop pos)) = result.map (·, us.drop final)) ∧
    ∃ result final, Runs ts Level.disjunction.task 0 result final ∧
      parse ts = result.bind fun e =>
        match ts[final]? with
        | none => .ok e
        | some found => .error (.leftover found final) := by
  constructor
  · intro level pos hpos
    obtain ⟨result, final, hrun, -⟩ := exists_runs level (ts.drop pos) ts pos rfl
    refine ⟨result, final, fun _ _ => hrun.iff_eq, hrun.reading_eq, hrun.le_length hpos,
      hrun.lt_of_ok level.task_ne_goOn, fun us hsame => ?_⟩
    have hsameRun := hrun.congr hsame
    exact ⟨fun _ _ => hsameRun.iff_eq, hsameRun.reading_eq⟩
  · obtain ⟨result, final, hrun, -⟩ := exists_runs .disjunction ts ts 0 rfl
    exact ⟨result, final, hrun, hrun.parse_eq⟩

/-- `NOT (true)` inside a list: the parenthesis behind it is looked at by nobody. -/
theorem descent_makes_progress_inside :
    let ts : List Token := [.or, .not, .leftParen, .boolean true, .rightParen, .rightParen]
    1 ≤ ts.length ∧ Runs ts .negation 1 (.ok (.not (.boolean true))) 5 ∧
      ∀ us : List Token, (∀ i, 1 ≤ i → i ≤ 5 → us[i]? = ts[i]?) →
        reading (negation (us.drop 1)) = .ok (.not (.boolean true), us.drop 5) := by
  intro ts
  have hinside : Runs ts .negation 3 (.ok (.boolean true)) 4 :=
    .bare (by decide) (.boolean rfl)
  have hchain : Runs ts (.chain .or) 3 (.ok (.boolean true)) 4 :=
    .chain (c := .or) (.chain (c := .and) hinside (.stop (by decide))) (.stop (by decide))
  have hrun : Runs ts .negation 1 (.ok (.not (.boolean true))) 5 :=
    .not rfl (.bare (by decide) (.parentheses rfl hchain rfl))
  have hpos : 1 ≤ ts.length := by decide
  obtain ⟨result, final, honly, -, -, -, hlocal⟩ := (descent_makes_progress ts).1 .negation 1 hpos
  obtain ⟨rfl, rfl⟩ := (honly _ _).mp hrun
  exact ⟨hpos, hrun, fun us hsame => (hlocal us hsame).2⟩

end DatasetHosting.Condition
