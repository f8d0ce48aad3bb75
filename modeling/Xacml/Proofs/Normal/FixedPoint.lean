import Mathlib.Algebra.Order.BigOperators.Group.List
import Mathlib.Data.List.Flatten
import Xacml.Proofs.Normal.Trees

/-!
# Normal forms written twice

The normal form of a document is loaded, and what is written then is the normal form again, with one
exception: a document tells children apart by their identifiers, so parameters about children that
share an identifier are gathered, and each of the children gets them all.

* `PolicyTree.IsUnambiguous` says that children that share an identifier have no parameters,
* `PolicyTree.written_normal_iff` shows that exactly these trees are written as before,
* `PolicyTree.withoutChildParameters_written_normal` shows that nothing else changes.
-/

namespace Xacml

/-! ## Parameters about children -/

section

variable {α : Type} {id : α → String} {children : List (Child α)}

/-- Whether children that share an identifier have no parameters. -/
def AreUnambiguous (id : α → String) (children : List (Child α)) : Prop :=
  children.Pairwise fun a b => id a.element = id b.element → a.parameters = [] ∧ b.parameters = []

variable (id) in
/-- The parameters of some children are among those under the identifier that they share. -/
theorem sublist_parametersUnder (name : String) {part : List (Child α)} (h : part.Sublist children)
    (hname : ∀ child ∈ part, id child.element = name) :
    (part.flatMap Child.parameters).Sublist (parametersUnder id children name) := by
  have hpart : part.filter (fun child => id child.element = name) = part :=
    List.filter_eq_self.2 fun child hmem => by simpa using hname child hmem
  rw [← hpart]
  exact (h.filter _).flatMap _

theorem parametersUnder_eq_nil {name : String}
    (h : ∀ child ∈ children, id child.element = name → child.parameters = []) :
    parametersUnder id children name = [] := by
  rw [parametersUnder, List.flatMap_eq_nil_iff]
  intro child hmem
  rw [List.mem_filter] at hmem
  exact h child hmem.1 (by simpa using hmem.2)

/-- Where children can be told apart, the parameters under an identifier are those of its child. -/
theorem parametersUnder_eq (h : AreUnambiguous id children) :
    ∀ child ∈ children, parametersUnder id children (id child.element) = child.parameters := by
  induction children with
  | nil => exact fun _ hmem => nomatch hmem
  | cons first rest ih =>
      rcases List.pairwise_cons.1 h with ⟨hfirst, hrest⟩
      intro child hmem
      rw [parametersUnder_cons]
      rcases List.mem_cons.1 hmem with rfl | hmem
      · -- No later child of this name has parameters.
        have hnil := parametersUnder_eq_nil fun other hother hname =>
          (hfirst other hother hname.symm).2
        rw [if_pos rfl, hnil, List.append_nil]
      · split
        -- The first child has the name of a later one, so it has no parameters itself.
        case isTrue hname => rw [(hfirst child hmem hname).1, List.nil_append, ih hrest child hmem]
        case isFalse => exact ih hrest child hmem

/-- The number of parameters in the entries that are written for children. -/
theorem sum_length_written (children : List (Child α)) :
    ((children.filterMap (Child.writtenParameters? id)).map fun entry =>
        entry.parameters.length).sum =
      (children.map fun child => child.parameters.length).sum := by
  induction children with
  | nil => rfl
  | cons child rest ih =>
      by_cases hempty : child.parameters = []
      · have hnone : child.writtenParameters? id = none := by
          simp [Child.writtenParameters?, hempty]
        rw [List.filterMap_cons_none hnone, ih, List.map_cons, List.sum_cons, hempty,
          List.length_nil, Nat.zero_add]
      · have hsome : child.writtenParameters? id =
            some ⟨id child.element, child.parameters.map CombinerParameter.written⟩ := by
          simp [Child.writtenParameters?, hempty]
        rw [List.filterMap_cons_some hsome, List.map_cons, List.map_cons, List.sum_cons,
          List.sum_cons, ih, List.length_map]

/-- Summands that are no smaller are equal if the sums are. -/
theorem eq_of_sum_eq {β : Type} {less more : β → Nat} {items : List β}
    (hle : ∀ item ∈ items, less item ≤ more item)
    (hsum : (items.map more).sum = (items.map less).sum) :
    ∀ item ∈ items, more item = less item := by
  induction items with
  | nil => exact fun _ hmem => nomatch hmem
  | cons first rest ih =>
      rw [List.forall_mem_cons] at hle ⊢
      have hrest := List.sum_le_sum hle.2
      rw [List.map_cons, List.map_cons, List.sum_cons, List.sum_cons] at hsum
      exact ⟨by omega, ih hle.2 (by omega)⟩

/-- The entries written for children that have got the parameters under their identifiers are those
that were written before exactly if the children can be told apart. -/
theorem written_parametersUnder_iff {normal : α → α} (hid : ∀ a, id (normal a) = id a)
    (children : List (Child α)) :
    (children.map fun child =>
        (⟨normal child.element, parametersUnder id children (id child.element)⟩ :
          Child α)).filterMap (Child.writtenParameters? id) =
      children.filterMap (Child.writtenParameters? id) ↔ AreUnambiguous id children := by
  constructor
  · intro h
    -- The same entries hold as many parameters, and no child has got fewer, so none has got more.
    have hsum := congrArg
      (fun entries : List Document.ChildParameters =>
        (entries.map fun entry => entry.parameters.length).sum) h
    simp only [sum_length_written, List.map_map] at hsum
    have hcount := eq_of_sum_eq (fun child hmem => ?_) hsum
    · refine List.pairwise_iff_forall_sublist.2 fun {a b} hpair hname => ?_
      -- The parameters of both children are among those that each of them has got.
      have hlength := (sublist_parametersUnder id (id a.element) hpair
        (by simpa using hname.symm)).length_le
      have ha := hcount a (hpair.subset (by simp))
      have hb := hcount b (hpair.subset (by simp))
      simp only [Function.comp] at ha hb
      rw [← hname] at hb
      simp only [List.flatMap_cons, List.flatMap_nil, List.append_nil,
        List.length_append] at hlength
      constructor <;> refine List.eq_nil_of_length_eq_zero ?_ <;> omega
    · have hlength := (sublist_parametersUnder id (id child.element)
        (List.singleton_sublist.2 hmem)
        fun other hother => by rw [List.mem_singleton.1 hother]).length_le
      simpa using hlength
  · intro h
    rw [List.filterMap_map]
    refine List.filterMap_congr fun child hmem => ?_
    simp only [Function.comp, Child.writtenParameters?, hid, parametersUnder_eq h child hmem]

end

/-! ## Targets, rules and headers -/

theorem Target.written?_normal (target : Target) : target.normal.written? = target.written? := by
  unfold normal
  split
  case isTrue hany =>
    rw [← isNone_written?, Option.isNone_iff_eq_none] at hany
    rw [hany]
    rfl
  case isFalse => rfl

theorem Target.written?_filter (target : Option Target) :
    (target.filter fun target => !target.matchesAny).bind written? = target.bind written? := by
  rw [← written?_getD, getD_filter, written?_normal, written?_getD]

theorem Rule.written_normal (rule : Rule) : rule.normal.written = rule.written := by
  rw [written, written, normal, Target.written?_filter]

theorem PolicyHeader.written_normal (header : PolicyHeader)
    (entries : List Document.ChildParameters) :
    header.normal.written entries = header.written entries := by
  rw [written, written, normal, Target.written?_normal]

/-! ## Policies and trees -/

theorem Policy.written_rules_normal (p : Policy) :
    (p.normal.rules.map fun child => child.element.written) =
      p.rules.map fun child => child.element.written := by
  rw [normal, List.map_map]
  exact List.map_congr_left fun child _ => child.element.written_normal

/-- A policy comes back as it was written exactly if its rules can be told apart. -/
theorem Policy.written_normal_iff (p : Policy) :
    p.normal.written = p.written ↔ AreUnambiguous Rule.id p.rules := by
  have hid : ∀ rule : Rule, rule.normal.id = rule.id := fun _ => rfl
  -- The entries about the rules are all that can differ.
  rw [← written_parametersUnder_iff hid]
  constructor
  · exact fun h => congrArg (fun written => written.header.childParameters) h
  · intro h
    rw [written, written, written_rules_normal]
    simp only [normal, h, PolicyHeader.written_normal]

namespace PolicyTree

theorem id_normal (tree : PolicyTree) : tree.normal.id = tree.id := by
  cases tree <;> simp [normal, id, Policy.normal, PolicyHeader.normal]

mutual

/-- Whether children that share an identifier have no parameters, in every policy and policy set of
a tree. -/
def IsUnambiguous : PolicyTree → Prop
  | policy p => AreUnambiguous Rule.id p.rules
  | policySet _ children => AreUnambiguous id children ∧ AllUnambiguous children
  | reference _ => True

/-- Whether that holds of every child. -/
def AllUnambiguous : List (Child PolicyTree) → Prop
  | [] => True
  | ⟨tree, _⟩ :: rest => IsUnambiguous tree ∧ AllUnambiguous rest

end

mutual

/-- A tree comes back as it was written exactly if all children in it can be told apart. -/
theorem written_normal_iff :
    ∀ tree : PolicyTree, tree.normal.written = tree.written ↔ tree.IsUnambiguous
  | policy p => by
      rw [normal, written, written, Document.Node.policy.injEq, IsUnambiguous]
      exact p.written_normal_iff
  | reference target => by simp [normal, IsUnambiguous]
  | policySet header children => by
      rw [normal, written, written, Document.Node.policySet.injEq, IsUnambiguous,
        writtenAll_normalAll_iff, PolicyHeader.written_normal,
        ← written_parametersUnder_iff id_normal, normalAll_eq_map]
      refine and_congr_left fun _ => ⟨fun h => ?_, fun h => by rw [h]⟩
      exact congrArg Document.Header.childParameters h

theorem writtenAll_normalAll_iff (parameters : String → List CombinerParameter) :
    ∀ children : List (Child PolicyTree),
      writtenAll (normalAll parameters children) = writtenAll children ↔ AllUnambiguous children
  | [] => by simp [normalAll, AllUnambiguous]
  | ⟨tree, _⟩ :: rest => by
      rw [normalAll, writtenAll, writtenAll, List.cons.injEq, AllUnambiguous,
        written_normal_iff tree, writtenAll_normalAll_iff parameters rest]

end

end PolicyTree

/-- Whether children that share an identifier have no parameters, in every policy and policy set of
a collection. -/
def PolicySnapshot.IsUnambiguous (snapshot : PolicySnapshot) : Prop :=
  ∀ tree ∈ snapshot.all, tree.IsUnambiguous

/-- A collection of policies comes back as it was written exactly if all children in it can be told
apart. -/
theorem PolicySnapshot.written_normal_iff (snapshot : PolicySnapshot) :
    snapshot.normal.written = snapshot.written ↔ snapshot.IsUnambiguous := by
  rw [written, written, normal, Document.mk.injEq, List.map_map, List.map_map, List.map_inj_left,
    List.map_inj_left, IsUnambiguous, all, List.forall_mem_append]
  simp only [Function.comp, PolicyTree.written_normal_iff]

/-! ## Everything else -/

namespace Document

/-- A header without the parameters about children. -/
def Header.withoutChildParameters (header : Header) : Header :=
  { header with childParameters := [] }

namespace Node

mutual

/-- A node without the parameters about children, in all nodes inside it. -/
def withoutChildParameters : Node → Node
  | policy p => .policy { p with header := p.header.withoutChildParameters }
  | policySet header children =>
      .policySet header.withoutChildParameters (withoutChildParametersAll children)
  | policyIdReference r => .policyIdReference r
  | policySetIdReference r => .policySetIdReference r

/-- Nodes without the parameters about children. -/
def withoutChildParametersAll : List Node → List Node
  | [] => []
  | node :: rest => withoutChildParameters node :: withoutChildParametersAll rest

end

end Node

/-- A document without the parameters about children. -/
def withoutChildParameters (document : Document) : Document :=
  ⟨document.policies.map Node.withoutChildParameters,
    document.library.map Node.withoutChildParameters⟩

end Document

namespace PolicyTree

mutual

/-- A tree comes back as it was written but for the parameters about children. -/
theorem withoutChildParameters_written_normal :
    ∀ tree : PolicyTree,
      tree.normal.written.withoutChildParameters = tree.written.withoutChildParameters
  | policy p => by
      rw [normal, written, written, Document.Node.withoutChildParameters,
        Document.Node.withoutChildParameters, Policy.written, Policy.written,
        Policy.written_rules_normal]
      simp only [Policy.normal, PolicyHeader.written_normal]
      rfl
  | reference target => by rw [normal]
  | policySet header children => by
      rw [normal, written, written, Document.Node.withoutChildParameters,
        Document.Node.withoutChildParameters, withoutChildParameters_writtenAll_normalAll,
        PolicyHeader.written_normal]
      rfl

theorem withoutChildParameters_writtenAll_normalAll
    (parameters : String → List CombinerParameter) :
    ∀ children : List (Child PolicyTree),
      Document.Node.withoutChildParametersAll (writtenAll (normalAll parameters children)) =
        Document.Node.withoutChildParametersAll (writtenAll children)
  | [] => by rw [normalAll]
  | ⟨tree, _⟩ :: rest => by
      rw [normalAll, writtenAll, writtenAll, Document.Node.withoutChildParametersAll,
        Document.Node.withoutChildParametersAll, withoutChildParameters_written_normal tree,
        withoutChildParameters_writtenAll_normalAll parameters rest]

end

end PolicyTree

theorem PolicySnapshot.withoutChildParameters_written_normal (snapshot : PolicySnapshot) :
    snapshot.normal.written.withoutChildParameters = snapshot.written.withoutChildParameters := by
  simp only [normal, written, Document.withoutChildParameters, List.map_map, Document.mk.injEq,
    List.map_inj_left, Function.comp, PolicyTree.withoutChildParameters_written_normal,
    implies_true, and_self]

/-! ## The fixed point -/

/-- The written form of a loaded document is loaded, under any configuration, and what is written
then differs in the parameters about children at most.  It is the same exactly if no two children
with one identifier have parameters. -/
theorem written_fixed_iff {registry : Registry} {config : Config} {document : Document}
    {snapshot : PolicySnapshot} (hprints : ∀ typed ∈ document.literals, typed.PrintsBack)
    (hload : document.load registry config = .ok snapshot) (config' : Config) :
    ∃ again, snapshot.written.load registry config' = .ok again ∧
      again.written.withoutChildParameters = snapshot.written.withoutChildParameters ∧
      (again.written = snapshot.written ↔ snapshot.IsUnambiguous) :=
  ⟨snapshot.normal, Document.load_written hprints hload config',
    snapshot.withoutChildParameters_written_normal, snapshot.written_normal_iff⟩

namespace SharedName

/-- A document with two rules of one name and a parameter about them. -/
def document : Document where
  policies := [.policy {
    header := {
      id := "p"
      version := none
      xacmlVersion := none
      description := none
      target := none
      combiningAlgorithm := Level.rules.algorithmId "3.0" "deny-overrides"
      combinerParameters := []
      childParameters := [⟨"r", [⟨"weight", ⟨DataType.double.uri, "2.50", none⟩⟩]⟩]
      obligations := []
      advice := [] }
    definitions := []
    rules := [⟨"r", .permit, none, none, none, [], []⟩, ⟨"r", .deny, none, none, none, [], []⟩] }]
  library := []

/-- A rule as it is loaded, with the parameter. -/
def child (effect : Effect) : Child Rule :=
  ⟨⟨"r", effect, none, none, none, [], []⟩,
    [⟨"weight", .double (.finite 5629499534213120 (-51))⟩]⟩

/-- The policies of the document. -/
def snapshot : PolicySnapshot where
  roots := [.policy {
    header := {
      id := "p"
      version := .initial
      schema := .v3_0
      description := none
      target := .any
      algorithm := ⟨Level.rules.algorithmId "3.0" "deny-overrides", .overrides .deny⟩
      parameters := []
      obligations := []
      advice := [] }
    definitions := []
    rules := [child .permit, child .deny] }]
  library := []

end SharedName

/-- Rules that share a name and parameters come back with twice the parameters. -/
theorem written_fixed_iff_sharedName :
    (∀ typed ∈ SharedName.document.literals, typed.PrintsBack) ∧
      SharedName.document.load .standard .default = .ok SharedName.snapshot ∧
      ∃ again, SharedName.snapshot.written.load .standard .default = .ok again ∧
        again.written.withoutChildParameters =
          SharedName.snapshot.written.withoutChildParameters ∧
        again.written ≠ SharedName.snapshot.written := by
  have hprints : ∀ typed ∈ SharedName.document.literals, typed.PrintsBack := by decide +kernel
  have hload : SharedName.document.load .standard .default = .ok SharedName.snapshot := rfl
  rcases written_fixed_iff hprints hload .default with ⟨again, hagain, hrest, hiff⟩
  refine ⟨hprints, hload, again, hagain, hrest, fun heq => ?_⟩
  have hroot := hiff.1 heq _ (List.mem_singleton.2 rfl)
  simp [PolicyTree.IsUnambiguous, AreUnambiguous, SharedName.child] at hroot

end Xacml
