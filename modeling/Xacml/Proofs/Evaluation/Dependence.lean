import Xacml.Proofs.Evaluation.Simulation

/-!
# What a decision depends on

Requests, clocks and resolvers reach a decision through the lookups in the policies alone.

* `PolicyTree.AnsweredAlike` says that two facades give the same answers to the designators and the
  selectors in a tree and in what the references in it stand for,
* `evaluate_eq_of_answeredAlike`: the tree is then evaluated to the same result, whatever else the
  two facades differ in.
-/

namespace Xacml

section

variable {m : Type → Type} [Monad m]

/-- Whether two facades give the same answer to every designator and every selector that occurs in a
tree or in what the references in it stand for. -/
structure PolicyTree.AnsweredAlike (source : PolicySource) (facade facade' : Facade m)
    (tree : PolicyTree) : Prop where
  find {node : PolicyTree} {d : Designator} (occurs : Occurs source node tree)
    (mem : .designator d ∈ node.lookups) : facade.find d.query = facade'.find d.query
  select {node : PolicyTree} {s : Selector} (occurs : Occurs source node tree)
    (mem : .selector s ∈ node.lookups) : facade.select s.query = facade'.select s.query

theorem PolicyTree.AnsweredAlike.looksAlike {source : PolicySource} {facade facade' : Facade m}
    {tree : PolicyTree} (h : tree.AnsweredAlike source facade facade') :
    tree.LooksAlike (fun α (x y : m α) => x = y) source facade facade' := by
  intro node hnode lookup hlookup
  cases lookup with
  | designator d => exact h.find hnode hlookup
  | selector s => exact h.select hnode hlookup

/-- Two evaluations against the same policies that give the same answers to the lookups in a tree
evaluate the tree to the same result and match its target alike, and they combine such trees to the
same result. -/
theorem evaluate_eq_of_answeredAlike (facade facade' : Facade m) (source : PolicySource)
    (maxDepth : Nat) (stack : Stack) :
    (∀ tree : PolicyTree, tree.AnsweredAlike source facade facade' →
      (Evaluation.mk facade source maxDepth stack).evaluate tree =
          (Evaluation.mk facade' source maxDepth stack).evaluate tree ∧
        (Evaluation.mk facade source maxDepth stack).applies tree =
          (Evaluation.mk facade' source maxDepth stack).applies tree) ∧
    ∀ (algorithm : Algorithm) (roots : List PolicyTree),
      (∀ tree ∈ roots, tree.AnsweredAlike source facade facade') →
        (Evaluation.mk facade source maxDepth stack).combineRoots algorithm roots =
          (Evaluation.mk facade' source maxDepth stack).combineRoots algorithm roots := by
  constructor
  · intro tree htree
    exact ⟨Simulation.eq.evaluate source maxDepth stack htree.looksAlike,
      Simulation.eq.applies source maxDepth stack htree.looksAlike⟩
  · intro algorithm roots hroots
    exact Simulation.eq.combineRoots source maxDepth stack algorithm
      fun tree htree => (hroots tree htree).looksAlike

end

namespace SharedRole

/-- The role of the subject, which has to be known. -/
def role : Designator := ⟨⟨"subject", "role", .string, none⟩, true⟩

/-- The target of requests by administrators. -/
def administrators : Target :=
  .anyOf [⟨[⟨[⟨.ofStrict (.comparison (.equal .string)), .string "admin", .designator role⟩]⟩]⟩]

/-- The header of a node with a target, in which a Deny overrides. -/
def header (target : Target) : PolicyHeader :=
  ⟨"node", ⟨[1]⟩, .v3_0, none, target, ⟨"deny-overrides", .overrides .deny⟩, [], [], []⟩

/-- What administrators do is permitted. -/
def policy : Policy :=
  ⟨header administrators, [], [⟨⟨"rule", .permit, none, none, none, [], []⟩, []⟩]⟩

/-- A source in which every reference stands for the policy. -/
def source : PolicySource := ⟨fun _ => .ok (some (.policy policy)), fun _ => .ok []⟩

/-- A policy set that refers to the policy. -/
def tree : PolicyTree :=
  .policySet (header .any) [⟨.reference ⟨.policy, "node", ⟨none, none, none⟩⟩, []⟩]

/-- A request that tells the role. -/
def told : Facade Id :=
  ⟨⟨[⟨"subject", [⟨"role", none, [.string "admin"], true⟩]⟩], false, false⟩,
    ⟨⟨⟨0, 0⟩, none⟩⟩, []⟩

/-- Another request at another time, where a resolver knows the role. -/
def resolved : Facade Id :=
  ⟨⟨[⟨"resource", [⟨"id", none, [.string "r"], true⟩]⟩], true, false⟩, ⟨⟨⟨1, 0⟩, none⟩⟩,
    [.withoutPaths fun _ _ => pure (.ok (.singleton (.string "admin")))]⟩

theorem answeredAlike : tree.AnsweredAlike source told resolved := by
  have hlookups {node : PolicyTree} (h : PolicyTree.Occurs source node tree) :
      ∀ lookup ∈ node.lookups, lookup = .designator role := by
    cases h with
    | self => decide
    | child mem inner =>
        cases List.mem_singleton.1 mem
        cases inner with
        | self => decide
        | reference found inner =>
            cases found
            cases inner
            decide
  constructor
  · intro node d hnode hd
    cases hlookups hnode _ hd
    rfl
  · intro node s hnode hs
    cases hlookups hnode _ hs

/-- The tree is evaluated alike for both, and permits what they ask for. -/
theorem evaluate_told_eq_resolved :
    tree.AnsweredAlike source told resolved ∧
      (Evaluation.mk told source 1 .main).evaluate tree =
        (Evaluation.mk resolved source 1 .main).evaluate tree ∧
      (Id.run ((Evaluation.mk told source 1 .main).evaluate tree)).decision = .permit :=
  ⟨answeredAlike, ((evaluate_eq_of_answeredAlike told resolved source 1 .main).1 tree
    answeredAlike).1, by decide⟩

end SharedRole

end Xacml
