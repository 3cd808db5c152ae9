import DatasetHosting.Dataset.WellKnown
import DatasetHosting.Proofs.Cluster.Hosting
import DatasetHosting.Proofs.Host.Validation
import DatasetHosting.Proofs.Text.Slash

/-!
# Proofs/Host/Agreement — from the rule to the cluster

Resolving, making a formula and carrying it out each look at a strategy anew.  For a valid catalogue the
three agree (`Formula.Follows`): a dataset is refused exactly if it is too old for its strategy, and each
cluster that comes out is of the kind and the size that the strategy says (`Strategy.Describes`).
-/

namespace DatasetHosting

variable {catalogue : Catalogue} {dataset : Dataset} {strategy : Strategy} {session : Session}
  {backend after : Backend} {cluster : Cluster}

/-! ## Strategies and datasets -/

namespace Strategy

/-- The least format that a strategy takes, if there is one. -/
def minFormat? : Strategy → Option UInt32
  | standalone minFormat => minFormat
  | dataCenter _ _ minFormat => minFormat
  | external _ => none

/-- **The dataset is too old for the strategy.** -/
def Refuses (strategy : Strategy) (dataset : Dataset) : Prop :=
  ∃ least, strategy.minFormat? = some least ∧ dataset.format < least

/-- **The strategy can be carried out**: a data center has enough nodes. -/
def IsFeasible : Strategy → Prop
  | dataCenter nodes _ _ => minNodes ≤ nodes
  | _ => True

/-- **The bindings keep each kind on the node**, in its home directory, whose path may end in slashes. -/
def KeepsLocally (homePath : String) (bindings : List Binding) : Prop :=
  ∃ (home : String) (slashes : Nat),
    homePath.toList = home.toList ++ List.replicate slashes '/' ∧ home.toList.getLast? ≠ some '/' ∧
    bindings = [⟨.avatars, .nodeLocal, home ++ "/data/avatars"⟩,
      ⟨.attachments, .nodeLocal, home ++ "/data/attachments"⟩]

/-- What a strategy makes of a dataset beside what all clusters have. -/
def Shapes (dataset : Dataset) (cluster : Cluster) : Strategy → Prop
  | standalone _ =>
    (∃ node, cluster.nodes = [node] ∧ node.name = "standalone" ∧
      KeepsLocally dataset.jiraHome.unpackedPath node.bindings) ∧
    cluster.sharedStorage = none
  | dataCenter nodes _ _ =>
    cluster.nodes.length = nodes.toNat ∧ cluster.sharedStorage.isSome = true
  | external address => cluster.nodes = [] ∧ cluster.address = some address

/-- **The cluster is the one that the strategy says.** -/
structure Describes (strategy : Strategy) (dataset : Dataset) (cluster : Cluster) : Prop where
  kind : cluster.kind = strategy.kind
  datasetId : cluster.datasetId = dataset.id
  shape : strategy.Shapes dataset cluster

theorem keepsLocally_nodeLocalBindings (homePath : String) :
    KeepsLocally homePath (nodeLocalBindings homePath) := by
  obtain ⟨slashes, hslashes⟩ := Text.exists_replicate_dropEndSlashes homePath.toList
  refine ⟨.ofList (Text.dropEndSlashes homePath.toList), slashes, ?_, ?_, ?_⟩
  · rwa [String.toList_ofList]
  · rw [String.toList_ofList]
    exact Text.getLast?_dropEndSlashes _
  · simp [nodeLocalBindings, Resource.all, Text.underDirectory, Resource.homePath]

end Strategy

/-- **The run does not ask the backend**: on any other it goes the same way, and leaves it as it is. -/
def AsksNothing {α : Type} (run : Run α) (session : Session) : Prop :=
  ∀ backend, run { session with backend := backend } =
    ((run session).1, { (run session).2 with backend := backend })

/-- **The formula does what the strategy says**, whatever the backend holds and the scenario makes fail. -/
structure Formula.Follows (formula : Formula) (strategy : Strategy) (dataset : Dataset)
    (session : Session) : Prop where
  /-- It is of the same kind. -/
  kind : formula.strategy.kind = strategy.kind
  /-- It never lacks nodes. -/
  enough : ∀ nodes, (formula.provision session).1 ≠ .error (.formula (.tooFewNodes nodes))
  /-- It refuses exactly the datasets that are too old. -/
  incompatible_iff : (∃ id format least, (formula.provision session).1 =
    .error (.formula (.incompatibleDataset id format least))) ↔ strategy.Refuses dataset
  /-- A refusal leaves everything as it was. -/
  refused : strategy.Refuses dataset → (formula.provision session).2 = session
  /-- Each cluster is the one that the strategy says. -/
  describes : ∀ cluster, (formula.provision session).1 = .ok cluster → strategy.Describes dataset cluster
  /-- A server elsewhere is taken without a call. -/
  external : ∀ address, strategy = .external address → AsksNothing formula.provision session

namespace Formula

/-! ## Refusals -/

theorem checkFormat_eq_error_iff {minFormat : Option UInt32} {error : FormulaError} :
    dataset.checkFormat minFormat = .error error ↔
      ∃ least, minFormat = some least ∧ dataset.format < least ∧
        error = .incompatibleDataset dataset.id dataset.format least := by
  cases minFormat with
  | none => exact iff_of_false (by rintro ⟨⟩) (by rintro ⟨_, ⟨⟩, -⟩)
  | some least =>
    rw [Dataset.checkFormat]
    by_cases h : dataset.format < least
    · rw [if_pos h]
      constructor
      · intro herror
        exact ⟨least, rfl, h, (Except.error.inj herror).symm⟩
      · rintro ⟨_, ⟨⟩, -, rfl⟩
        rfl
    · rw [if_neg h]
      refine iff_of_false (by rintro ⟨⟩) ?_
      rintro ⟨_, ⟨⟩, hlt, -⟩
      exact h hlt

/-- **A formula that can be carried out is refused for its format only.** -/
theorem objection?_eq_some_iff (hfeasible : strategy.IsFeasible) {error : FormulaError} :
    (Formula.mk dataset strategy).objection? = some error ↔
      dataset.checkFormat strategy.minFormat? = .error error := by
  cases strategy with
  | standalone minFormat =>
    simp only [objection?, Strategy.minFormat?]
    cases dataset.checkFormat minFormat <;> simp
  | dataCenter nodes config minFormat =>
    have hnodes : ¬nodes < Strategy.minNodes := UInt64.not_lt.mpr hfeasible
    simp only [objection?, Strategy.minFormat?, refusal?, if_neg hnodes]
    cases dataset.checkFormat minFormat <;> simp
  | external address => exact iff_of_false (by rintro ⟨⟩) (by rintro ⟨⟩)

/-- A dataset that is too old is refused with what was asked for and what it has. -/
theorem provision_of_tooOld {least : UInt32} (hfeasible : strategy.IsFeasible)
    (hleast : strategy.minFormat? = some least) (hold : dataset.format < least) (session : Session) :
    (Formula.mk dataset strategy).provision session =
      (.error (.formula (.incompatibleDataset dataset.id dataset.format least)), session) := by
  have hcheck := checkFormat_eq_error_iff.mpr ⟨least, hleast, hold, rfl⟩
  exact provision_of_objection ((objection?_eq_some_iff hfeasible).mpr hcheck) session

/-- Any other dataset is not refused. -/
theorem objection?_eq_none (hfeasible : strategy.IsFeasible) (h : ¬strategy.Refuses dataset) :
    (Formula.mk dataset strategy).objection? = none := by
  refine Option.eq_none_iff_forall_ne_some.mpr fun error hsome => ?_
  obtain ⟨least, hleast, hold, -⟩ :=
    checkFormat_eq_error_iff.mp ((objection?_eq_some_iff hfeasible).mp hsome)
  exact h ⟨least, hleast, hold⟩

/-! ## Runs that are not refused -/

/-- **What is not refused fails for the backend or for want of an object store** and nothing else. -/
theorem cause_of_concludes {cause : Failure}
    (h : Concludes backend dataset strategy (.error cause) after) :
    (∃ error, cause = .backend error) ∨ ∃ error, cause = .formula (.missingObjectStore error) := by
  cases h with
  | unhoused => exact .inl ⟨_, rfl⟩
  | dataCenter hends =>
    cases hends with
    | unprovisioned | stopped => exact .inl ⟨_, rfl⟩
    | unbound => exact .inr ⟨_, rfl⟩

/-- **A cluster that comes out is the one that the strategy says.** -/
theorem describes_of_concludes (h : Concludes backend dataset strategy (.ok cluster) after) :
    strategy.Describes dataset cluster := by
  cases h with
  | standalone =>
    exact ⟨rfl, rfl, ⟨_, rfl, rfl, Strategy.keepsLocally_nodeLocalBindings _⟩, rfl⟩
  | external => exact ⟨rfl, rfl, rfl, rfl⟩
  | dataCenter hends =>
    cases hends with
    | finished =>
      refine ⟨rfl, rfl, ?_, rfl⟩
      rw [hostedCluster, List.length_map, List.length_range]

theorem provision_external_asksNothing (dataset : Dataset) (address : String) (session : Session) :
    AsksNothing (Formula.mk dataset (.external address)).provision session :=
  fun _ => rfl

/-- **A formula does what its strategy says** if it can be carried out. -/
theorem follows_of_isFeasible (hfeasible : strategy.IsFeasible) (dataset : Dataset)
    (session : Session) : (Formula.mk dataset strategy).Follows strategy dataset session := by
  have hexternal : ∀ address, strategy = .external address →
      AsksNothing (Formula.mk dataset strategy).provision session := by
    rintro address rfl
    exact provision_external_asksNothing dataset address session
  by_cases hrefuses : strategy.Refuses dataset
  · obtain ⟨least, hleast, hold⟩ := hrefuses
    have hrun := provision_of_tooOld hfeasible hleast hold session
    refine ⟨rfl, ?_, ?_, ?_, ?_, hexternal⟩ <;> rw [hrun]
    · rintro nodes ⟨⟩
    · exact iff_of_true ⟨_, _, _, rfl⟩ ⟨least, hleast, hold⟩
    · exact fun _ => rfl
    · rintro cluster ⟨⟩
  · have hends := provision_concludes (objection?_eq_none hfeasible hrefuses) session
    refine ⟨rfl, fun nodes hfew => ?_, iff_of_false ?_ hrefuses, fun h => absurd h hrefuses,
      fun cluster hcluster => ?_, hexternal⟩
    · rw [hfew] at hends
      rcases cause_of_concludes hends with ⟨_, ⟨⟩⟩ | ⟨_, ⟨⟩⟩
    · rintro ⟨id, format, least, hincompatible⟩
      rw [hincompatible] at hends
      rcases cause_of_concludes hends with ⟨_, ⟨⟩⟩ | ⟨_, ⟨⟩⟩
    · rw [hcluster] at hends
      exact describes_of_concludes hends

end Formula

/-! ## Catalogues -/

/-- A strategy that passes its check can be carried out. -/
theorem Rule.isFeasible_of_checkStrategy {rule : Rule} (h : rule.checkStrategy = .ok ()) :
    rule.strategy.IsFeasible := by
  rw [Rule.checkStrategy] at h
  cases hstrategy : rule.strategy with
  | standalone | external => exact trivial
  | dataCenter nodes config minFormat =>
    rw [hstrategy] at h
    refine UInt64.not_lt.mp fun hfew => ?_
    simp only [if_pos hfew] at h
    cases h

namespace Catalogue

/-- What a dataset is resolved to is the strategy of some rule. -/
theorem exists_rule_of_resolve {resolution : Resolution}
    (h : catalogue.resolve dataset = .ok resolution) :
    ∃ rule ∈ catalogue.rules, rule.strategy = resolution.strategy := by
  cases hid : parseIdentifier dataset.id with
  | error reason =>
    rw [resolve_of_malformed hid] at h
    cases h
  | ok uuid =>
    rcases catalogue.resolve_cases hid with ⟨i, rule, hfirst, hres⟩ | ⟨-, hres⟩
    · obtain rfl := Except.ok.inj (hres.symm.trans h)
      exact ⟨rule, List.mem_of_getElem? hfirst.getElem?_eq, rfl⟩
    · rw [hres] at h
      cases h

/-- **A valid catalogue resolves to strategies that can be carried out.** -/
theorem isFeasible_of_resolve (hvalid : catalogue.validate = .ok ()) {resolution : Resolution}
    (h : catalogue.resolve dataset = .ok resolution) : resolution.strategy.IsFeasible := by
  obtain ⟨rule, hrule, hstrategy⟩ := exists_rule_of_resolve h
  exact hstrategy ▸ Rule.isFeasible_of_checkStrategy (validate_strategy hvalid rule hrule)

theorem host_of_error {error : ResolutionError} (h : catalogue.resolve dataset = .error error) :
    catalogue.host dataset = .error error := by
  rw [host, h]
  rfl

theorem host_of_ok {resolution : Resolution} (h : catalogue.resolve dataset = .ok resolution) :
    catalogue.host dataset = .ok ⟨dataset, resolution.strategy⟩ := by
  rw [host, h]
  rfl

/-- **The layers agree.**  For a valid catalogue making a formula fails as resolving does, and otherwise the
formula does on every backend what the strategy says. -/
theorem host_follows_resolve (hvalid : catalogue.validate = .ok ()) (dataset : Dataset) :
    (∀ error, catalogue.host dataset = .error error ↔ catalogue.resolve dataset = .error error) ∧
    ∀ resolution, catalogue.resolve dataset = .ok resolution →
      ∃ formula, catalogue.host dataset = .ok formula ∧
        ∀ session, formula.Follows resolution.strategy dataset session := by
  refine ⟨fun error => ⟨fun h => ?_, host_of_error⟩, fun resolution h => ?_⟩
  · cases hres : catalogue.resolve dataset with
    | error cause =>
      obtain rfl := Except.error.inj ((host_of_error hres).symm.trans h)
      rfl
    | ok resolution =>
      rw [host_of_ok hres] at h
      cases h
  · exact ⟨_, host_of_ok h, Formula.follows_of_isFeasible (isFeasible_of_resolve hvalid h) dataset⟩

/-- A data center for format 8 is refused to a dataset of format 7, and has two nodes for one of format 8. -/
theorem host_follows_resolve_formats :
    let catalogue : Catalogue := ⟨"one-rule", none, [⟨"all", none, .dataCenter 2 {} (some 8)⟩]⟩
    let session : Session := ⟨{}, []⟩
    catalogue.validate = .ok () ∧
      (∃ formula, catalogue.host .formatSeven = .ok formula ∧
        (∃ id format least, (formula.provision session).1 =
          .error (.formula (.incompatibleDataset id format least))) ∧
        (formula.provision session).2 = session) ∧
      ∃ formula cluster, catalogue.host .formatEight = .ok formula ∧
        (formula.provision session).1 = .ok cluster ∧ cluster.nodes.length = 2 := by
  intro catalogue session
  have hvalid : catalogue.validate = .ok () := rfl
  have hseven : catalogue.resolve .formatSeven = .ok ⟨"all", .dataCenter 2 {} (some 8),
      ⟨"one-rule", Dataset.formatSeven.id, [.evaluated "all" none true], .success⟩⟩ := rfl
  have height : catalogue.resolve .formatEight = .ok ⟨"all", .dataCenter 2 {} (some 8),
      ⟨"one-rule", Dataset.formatEight.id, [.evaluated "all" none true], .success⟩⟩ := rfl
  refine ⟨hvalid, ?_, ?_⟩
  · obtain ⟨formula, hhost, hfollows⟩ := (host_follows_resolve hvalid .formatSeven).2 _ hseven
    have hold : (Strategy.dataCenter 2 {} (some 8)).Refuses .formatSeven := ⟨8, rfl, by decide⟩
    exact ⟨formula, hhost, (hfollows session).incompatible_iff.mpr hold, (hfollows session).refused hold⟩
  · obtain ⟨formula, hhost, hfollows⟩ := (host_follows_resolve hvalid .formatEight).2 _ height
    have hok : (formula.provision session).1.value?.isSome = true := by
      obtain rfl := Except.ok.inj (hhost.symm.trans (host_of_ok height))
      decide +kernel
    cases hrun : (formula.provision session).1 with
    | error | overflow =>
      rw [hrun] at hok
      cases hok
    | ok cluster =>
      exact ⟨formula, cluster, hhost, hrun, ((hfollows session).describes cluster hrun).shape.1⟩

end Catalogue

end DatasetHosting
