import Xacml.DecisionPoint
import Xacml.Proofs.Normal.Trees

/-!
# Decisions of normal forms

No evaluation can tell a policy from what comes back from its written form: a target that holds for
every request and no target at all have the same outcome, the parameters about children are not
looked at, and references stand for the same versions.

* `PolicyTree.evaluateWith_normal` shows this for trees, given how references are followed,
* `PolicySnapshot.find_normal` shows that references are followed alike,
* `Document.Request.load_written` shows that a request comes back as it was.
-/

namespace Xacml

section

variable {m : Type → Type} [Monad m] (facade : Facade m)

/-! ## Targets -/

theorem Target.evaluate_of_matchesAny {target : Target} (h : target.matchesAny = true) :
    target.evaluate facade = pure (.holds []) := by
  unfold evaluate
  rw [if_pos h]

theorem Target.evaluate_normal (target : Target) :
    target.normal.evaluate facade = target.evaluate facade := by
  unfold normal
  split
  case isTrue hany => rw [evaluate_of_matchesAny facade hany, evaluate_of_matchesAny facade rfl]
  case isFalse => rfl

/-! ## Nodes -/

theorem evaluateNode_normal (stack : Stack) (kind : PolicyKind) (header : PolicyHeader)
    (children : List (Candidate m)) :
    evaluateNode facade stack kind header.normal children =
      evaluateNode facade stack kind header children := by
  unfold evaluateNode underTarget
  simp only [PolicyHeader.normal, Target.evaluate_normal]
  rfl

theorem PolicyTree.appliesWith_normal (following : Following m) (tree : PolicyTree) :
    tree.normal.appliesWith facade following = tree.appliesWith facade following := by
  cases tree with
  | policy p =>
      simp only [normal, appliesWith, Policy.normal, PolicyHeader.normal, Target.evaluate_normal]
  | policySet header children =>
      simp only [normal, appliesWith, PolicyHeader.normal, Target.evaluate_normal]
  | reference target => rw [normal]

end

/-! ## Rules -/

section

variable {m : Type → Type} [Monad m] [LawfulMonad m] (facade : Facade m)

namespace Rule

/-- No target is as good as one that holds for every request. -/
theorem targetApplies_normal (rule : Rule) :
    rule.normal.targetApplies facade = rule.targetApplies facade := by
  unfold targetApplies normal
  cases htarget : rule.target with
  | none => rfl
  | some target =>
      cases hany : target.matchesAny with
      | true =>
          simp [Option.filter, hany, Target.evaluate_of_matchesAny facade hany, MatchResult.applies]
      | false => simp [Option.filter, hany]

theorem candidate_normal (stack : Stack) (rule : Rule) :
    rule.normal.candidate facade stack = rule.candidate facade stack := by
  have happlies : rule.normal.applies facade stack = rule.applies facade stack := by
    unfold applies
    rw [targetApplies_normal]
    rfl
  have hevaluate : rule.normal.evaluate facade stack = rule.evaluate facade stack := by
    unfold evaluate
    rw [happlies]
    rfl
  unfold candidate
  rw [hevaluate, targetApplies_normal]
  rfl

end Rule

theorem Policy.evaluate_normal (stack : Stack) (p : Policy) :
    p.normal.evaluate facade stack = p.evaluate facade stack := by
  let candidate := fun child : Child Rule => child.element.candidate facade (stack.enter .rule)
  have hrules : p.normal.rules.map candidate = p.rules.map candidate := by
    rw [normal, List.map_map]
    exact List.map_congr_left fun child _ => child.element.candidate_normal facade _
  rw [evaluate, hrules, evaluate]
  exact evaluateNode_normal facade stack .policy p.header _

end

/-! ## Trees -/

namespace PolicyTree

mutual

/-- A tree is evaluated as what it comes back as. -/
theorem evaluateWith_normal {m : Type → Type} [Monad m] [LawfulMonad m] (facade : Facade m)
    (following : Following m) (stack : Stack) :
    ∀ tree : PolicyTree,
      tree.normal.evaluateWith facade following stack = tree.evaluateWith facade following stack
  | policy p => by rw [normal, evaluateWith, evaluateWith, p.evaluate_normal facade]
  | reference target => by rw [normal]
  | policySet header children => by
      rw [normal, evaluateWith, evaluateWith, candidatesWith_normalAll, evaluateNode_normal]

theorem candidatesWith_normalAll {m : Type → Type} [Monad m] [LawfulMonad m] (facade : Facade m)
    (following : Following m) (stack : Stack) (parameters : String → List CombinerParameter) :
    ∀ children : List (Child PolicyTree),
      candidatesWith facade following stack (normalAll parameters children) =
        candidatesWith facade following stack children
  | [] => by rw [normalAll]
  | ⟨tree, _⟩ :: rest => by
      rw [normalAll, candidatesWith, candidatesWith,
        evaluateWith_normal facade following stack tree, appliesWith_normal,
        candidatesWith_normalAll facade following stack parameters rest]

end

end PolicyTree

/-! ## References -/

namespace PolicySnapshot

theorem accepts_normal (reference : PolicyReference) (tree : PolicyTree) :
    reference.accepts tree.normal = reference.accepts tree := by
  cases tree <;>
    simp [PolicyReference.accepts, PolicyTree.normal, PolicyTree.kind?, PolicyTree.id,
      PolicyTree.header?, Policy.normal, PolicyHeader.normal]

theorem versionOf_normal (tree : PolicyTree) : versionOf tree.normal = versionOf tree := by
  cases tree <;>
    simp [versionOf, PolicyTree.normal, PolicyTree.header?, Policy.normal, PolicyHeader.normal]

theorem later_normal (best : Option PolicyTree) (tree : PolicyTree) :
    later (best.map PolicyTree.normal) tree.normal = (later best tree).map PolicyTree.normal := by
  cases best with
  | none => rfl
  | some other =>
      simp only [Option.map_some, later, versionOf_normal]
      split <;> rfl

theorem all_normal (snapshot : PolicySnapshot) :
    snapshot.normal.all = snapshot.all.map PolicyTree.normal := by
  simp [all, normal]

theorem foldl_later_normal (trees : List PolicyTree) (best : Option PolicyTree) :
    (trees.map PolicyTree.normal).foldl later (best.map PolicyTree.normal) =
      (trees.foldl later best).map PolicyTree.normal := by
  induction trees generalizing best with
  | nil => rfl
  | cons tree rest ih => rw [List.map_cons, List.foldl_cons, List.foldl_cons, later_normal, ih]

/-- A reference stands for what its tree comes back as. -/
theorem find_normal (snapshot : PolicySnapshot) (reference : PolicyReference) :
    snapshot.normal.find reference = (snapshot.find reference).map PolicyTree.normal := by
  have hfilter : (snapshot.all.map PolicyTree.normal).filter reference.accepts =
      (snapshot.all.filter reference.accepts).map PolicyTree.normal := by
    rw [List.filter_map]
    exact congrArg (List.map PolicyTree.normal)
      (List.filter_congr fun tree _ => accepts_normal reference tree)
  rw [find, all_normal, hfilter]
  exact foldl_later_normal _ none

theorem resolve_normal (snapshot : PolicySnapshot) (reference : PolicyReference) :
    snapshot.normal.source.resolve reference =
      (snapshot.source.resolve reference).map PolicyTree.normal := by
  simp only [PolicySource.resolve, source, find_normal]
  cases snapshot.find reference <;> rfl

end PolicySnapshot

/-! ## Decisions -/

section

variable {m : Type → Type} [Monad m] [LawfulMonad m] (snapshot : PolicySnapshot)

namespace Evaluation

variable (facade : Facade m) (maxDepth : Nat) (stack : Stack)

theorem follow_normal (left : Nat) :
    (Evaluation.mk facade snapshot.normal.source maxDepth stack).follow left =
      (Evaluation.mk facade snapshot.source maxDepth stack).follow left := by
  induction left with
  | zero => rfl
  | succ left ih =>
      -- A reference now leads to the normal form of its tree, which is evaluated as the tree.
      simp only [follow, PolicySnapshot.resolve_normal, ih, Following.mk.injEq]
      constructor
      · funext stack reference
        cases snapshot.source.resolve reference with
        | error error => rfl
        | ok tree => exact tree.evaluateWith_normal facade _ _
      · funext reference
        cases snapshot.source.resolve reference with
        | error error => rfl
        | ok tree => exact tree.appliesWith_normal facade _

theorem combineRoots_normal (algorithm : Algorithm) (roots : List PolicyTree) :
    (Evaluation.mk facade snapshot.normal.source maxDepth stack).combineRoots algorithm
        (roots.map PolicyTree.normal) =
      (Evaluation.mk facade snapshot.source maxDepth stack).combineRoots algorithm roots := by
  simp only [combineRoots, evaluate, applies, follow_normal, List.map_map, Function.comp_def,
    PolicyTree.evaluateWith_normal, PolicyTree.appliesWith_normal]

end Evaluation

namespace DecisionPoint

variable (registry : Registry) (config : Config) (resolvers : List (Resolver m)) (stack : Stack)
  (clock : Clock)

theorem decide_normal (request : Request) :
    (DecisionPoint.mk registry config snapshot.normal.source resolvers stack).decide clock request =
      (DecisionPoint.mk registry config snapshot.source resolvers stack).decide clock request := by
  unfold decide
  dsimp only
  split
  case h_1 => rfl
  case h_2 algorithm _ =>
    exact Evaluation.combineRoots_normal snapshot _ _ _ algorithm snapshot.roots

theorem evaluateEach_normal (requests : List Request) :
    (DecisionPoint.mk registry config snapshot.normal.source resolvers stack).evaluateEach clock
        requests =
      (DecisionPoint.mk registry config snapshot.source resolvers stack).evaluateEach clock
        requests := by
  induction requests with
  | nil => rfl
  | cons request rest ih =>
      rw [evaluateEach, evaluateEach, ih, evaluateIndividual, evaluateIndividual, decide_normal]

/-- A decision point answers alike from the policies of a collection and from what they come back
as. -/
theorem evaluate_normal (request : Request) :
    (DecisionPoint.mk registry config snapshot.normal.source resolvers stack).evaluate clock
        request =
      (DecisionPoint.mk registry config snapshot.source resolvers stack).evaluate clock
        request := by
  unfold evaluate
  rw [evaluateEach_normal]

end DecisionPoint

end

/-! ## Requests -/

namespace Document.Request

theorem Attribute.load_written {written : Attribute}
    (hprints : ∀ typed ∈ written.values, typed.PrintsBack) {a : Xacml.Request.Attribute}
    (h : written.load = .ok a) : a.written.load = .ok a := by
  rw [load] at h
  rcases exists_of_bind_eq_ok h with ⟨values, hvalues, h⟩
  cases h
  have hback := mapM_map_eq_ok (eq_ok_of_mapError hvalues) fun typed htyped _ =>
    TypedValue.toValue_ofValue_of_toValue (hprints typed htyped)
  rw [load, Xacml.Request.Attribute.written, hback]
  rfl

theorem Category.load_written {written : Category}
    (hprints : ∀ typed ∈ written.literals, typed.PrintsBack) {c : Xacml.Request.Category}
    (h : written.load = .ok c) : c.written.load = .ok c := by
  rw [load] at h
  split at h
  case isTrue => cases h
  case isFalse hempty =>
    rcases exists_of_bind_eq_ok h with ⟨attributes, hattributes, h⟩
    cases h
    have hback := mapM_map_eq_ok hattributes fun a ha _ =>
      Attribute.load_written (List.forall_mem_flatMap.1 hprints a ha)
    rw [load, Xacml.Request.Category.written, if_neg hempty, hback]
    rfl

/-- A loaded request is loaded from its written form. -/
theorem load_written {request : Document.Request}
    (hprints : ∀ typed ∈ request.literals, typed.PrintsBack) {loaded : Xacml.Request}
    (h : request.load = .ok loaded) : loaded.written.load = .ok loaded := by
  rw [load] at h
  rcases exists_of_bind_eq_ok h with ⟨categories, hcategories, h⟩
  cases h
  have hback := mapM_map_eq_ok hcategories fun c hc _ =>
    Category.load_written (List.forall_mem_flatMap.1 hprints c hc)
  rw [load, Xacml.Request.written, hback]
  rfl

end Document.Request

/-! ## Normal forms decide alike -/

/-- The written forms of a loaded document and of a loaded request are loaded, and a decision point
with the policies of the one answers the other one as a decision point with the original policies
answers the original request. -/
theorem written_decides_alike {registry : Registry} {config : Config} {document : Document}
    {snapshot : PolicySnapshot} {request : Document.Request} {loaded : Request}
    (hprints : ∀ typed ∈ document.literals ++ request.literals, typed.PrintsBack)
    (hdocument : document.load registry config = .ok snapshot)
    (hrequest : request.load = .ok loaded) :
    ∃ again, snapshot.written.load registry config = .ok again ∧
      loaded.written.load = .ok loaded ∧
      ∀ (m : Type → Type) [Monad m] [LawfulMonad m] (settings : Config)
        (resolvers : List (Resolver m)) (stack : Stack) (clock : Clock),
        (DecisionPoint.mk registry settings again.source resolvers stack).evaluateWritten clock
            loaded.written =
          (DecisionPoint.mk registry settings snapshot.source resolvers stack).evaluateWritten clock
            request := by
  -- The request comes back as it was, so only the policies are left to compare.
  rw [List.forall_mem_append] at hprints
  have hback := Document.Request.load_written hprints.2 hrequest
  refine ⟨snapshot.normal, Document.load_written hprints.1 hdocument config, hback, ?_⟩
  intro m _ _ settings resolvers stack clock
  rw [DecisionPoint.evaluateWritten, DecisionPoint.evaluateWritten, hback, hrequest]
  exact DecisionPoint.evaluate_normal snapshot registry settings resolvers stack clock loaded

namespace Rewritten

/-- A document with targets that hold for every request and with literals that are not canonical. -/
def document : Document where
  policies := [.policy {
    header := {
      id := "p"
      version := none
      xacmlVersion := none
      description := none
      target := some (.anyOf [])
      combiningAlgorithm := Level.rules.algorithmId "3.0" "deny-overrides"
      combinerParameters := []
      childParameters := [⟨"r", [⟨"weight", ⟨DataType.double.uri, "2.50", none⟩⟩]⟩]
      obligations := []
      advice := [] }
    definitions := [⟨"open", .value ⟨DataType.boolean.uri, "1", none⟩⟩]
    rules := [⟨"r", .permit, none, some (.anyOf []), some (.variableReference "open"), [], []⟩] }]
  library := []

/-- A request with a double. -/
def request : Document.Request :=
  ⟨false, false, [⟨"c", [⟨"amount", none, true, [⟨DataType.double.uri, "1e3", none⟩]⟩]⟩]⟩

/-- The request as it is loaded. -/
def loaded : Request :=
  ⟨[⟨"c", [⟨"amount", none, [.double (.finite 8796093022208000 (-43))], true⟩]⟩], false, false⟩

end Rewritten

/-- Both are rewritten, the document without its targets, and decided alike. -/
theorem written_decides_alike_rewritten :
    (∀ typed ∈ Rewritten.document.literals ++ Rewritten.request.literals, typed.PrintsBack) ∧
      Rewritten.request.load = .ok Rewritten.loaded ∧
      ∃ snapshot, Rewritten.document.load .standard .default = .ok snapshot ∧
        ∃ again, snapshot.written.load .standard .default = .ok again ∧
          Rewritten.loaded.written.load = .ok Rewritten.loaded ∧
          ∀ (m : Type → Type) [Monad m] [LawfulMonad m] (settings : Config)
            (resolvers : List (Resolver m)) (stack : Stack) (clock : Clock),
            (DecisionPoint.mk .standard settings again.source resolvers stack).evaluateWritten clock
                Rewritten.loaded.written =
              (DecisionPoint.mk .standard settings snapshot.source resolvers stack).evaluateWritten
                clock Rewritten.request := by
  have hprints : ∀ typed ∈ Rewritten.document.literals ++ Rewritten.request.literals,
      typed.PrintsBack := by decide +kernel
  have hrequest : Rewritten.request.load = .ok Rewritten.loaded := rfl
  have haccepted : (Rewritten.document.load .standard .default).isOk = true := by decide +kernel
  cases hdocument : Rewritten.document.load .standard .default with
  | error error =>
      rw [hdocument] at haccepted
      cases haccepted
  | ok snapshot =>
      exact ⟨hprints, hrequest, snapshot, rfl, written_decides_alike hprints hdocument hrequest⟩

end Xacml
