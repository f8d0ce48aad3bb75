import Xacml.Proofs.Normal.Policies

/-!
# Loading written documents

A loaded collection of policies comes back from its written form in its normal form.

* `PolicyTree.normal` and `PolicySnapshot.normal` are what trees and collections come back as,
* `Document.load_written` shows this.
-/

namespace Xacml

/-! ## Normal forms -/

namespace PolicyTree

mutual

/-- What a tree comes back as. -/
def normal : PolicyTree → PolicyTree
  | policy p => .policy p.normal
  | policySet header children =>
      .policySet header.normal (normalAll (parametersUnder id children) children)
  | reference target => .reference target

/-- What children come back as, with the parameters under their identifiers. -/
def normalAll (parameters : String → List CombinerParameter) :
    List (Child PolicyTree) → List (Child PolicyTree)
  | [] => []
  | ⟨tree, _⟩ :: rest => ⟨normal tree, parameters tree.id⟩ :: normalAll parameters rest

end

theorem normalAll_eq_map (parameters : String → List CombinerParameter)
    (children : List (Child PolicyTree)) :
    normalAll parameters children =
      children.map fun child => ⟨child.element.normal, parameters child.element.id⟩ := by
  induction children with
  | nil => simp [normalAll]
  | cons child rest ih => simp [normalAll, ih]

theorem writtenAll_eq_map (children : List (Child PolicyTree)) :
    writtenAll children = children.map fun child => child.element.written := by
  induction children with
  | nil => simp [writtenAll]
  | cons child rest ih => simp [writtenAll, ih]

theorem id_written (tree : PolicyTree) : tree.written.id = tree.id := by
  cases tree with
  | policy p => simp [written, Document.Node.id, id, Policy.written, PolicyHeader.written]
  | policySet header children => simp [written, Document.Node.id, id, PolicyHeader.written]
  | reference target =>
      simp only [written, id, PolicyReference.written]
      split <;> rfl

end PolicyTree

/-- What a collection of policies comes back as. -/
def PolicySnapshot.normal (snapshot : PolicySnapshot) : PolicySnapshot :=
  ⟨snapshot.roots.map PolicyTree.normal, snapshot.library.map PolicyTree.normal⟩

/-! ## Trees -/

namespace Document

theorem Node.literalsAll_eq_flatMap (nodes : List Node) :
    literalsAll nodes = nodes.flatMap literals := by
  induction nodes with
  | nil => simp [literalsAll]
  | cons node rest ih => simp [literalsAll, ih]

namespace Node

variable {registry : Registry}

/-- The obligations of a policy set, which sees no variables. -/
theorem loadObligations_run'_written {written : List Obligation}
    (hprints : ∀ typed ∈ written.flatMap Obligation.literals, typed.PrintsBack)
    {obligations : List ObligationExpr}
    (h : (loadObligations ⟨registry.functions, []⟩ written).run' [] = .ok obligations) :
    (loadObligations ⟨registry.functions, []⟩ (obligations.map ObligationExpr.written)).run' [] =
      .ok obligations := by
  have hscope : Scope.IsRewrittenAs ⟨registry.functions, []⟩ ⟨registry.functions, []⟩ :=
    ⟨rfl, rfl, fun _ hmem => nomatch hmem⟩
  rcases exists_of_map_eq_ok h with ⟨⟨loaded, known⟩, hload, rfl⟩
  rcases loadObligations_repeats hscope written hprints _ _ _ hload with ⟨-, hback⟩
  -- A policy set defines no variable, so there is nothing to rewrite.
  have hrun := hback fun _ _ hdefined => absurd rfl hdefined
  exact congrArg (Except.map Prod.fst) hrun

/-- Every parameter about a loaded child reads back. -/
theorem readsBack_of_loadChildren {inherited : SchemaVersion} {entries : List ChildParameters}
    (hprints : ∀ typed ∈ entries.flatMap ChildParameters.literals, typed.PrintsBack)
    {nodes : List Node} {children : List (Child PolicyTree)}
    (h : loadChildren registry inherited entries nodes = .ok children) :
    ∀ child ∈ children, ∀ parameter ∈ child.parameters, parameter.ReadsBack := by
  induction nodes generalizing children with
  | nil =>
      simp only [loadChildren] at h
      cases h
      exact fun _ hmem => nomatch hmem
  | cons node rest ih =>
      simp only [loadChildren] at h
      rcases exists_of_bind_eq_ok h with ⟨tree, -, h⟩
      rcases exists_of_bind_eq_ok h with ⟨own, hown, h⟩
      rcases exists_of_bind_eq_ok h with ⟨more, hmore, h⟩
      cases h
      exact List.forall_mem_cons.2 ⟨readsBack_of_parametersFor hprints hown, ih hmore⟩

mutual

theorem load_written {inherited : SchemaVersion} :
    ∀ (written : Node), (∀ typed ∈ written.literals, typed.PrintsBack) → ∀ tree,
      load registry inherited written = .ok tree → ∀ inherited',
        load registry inherited' tree.written = .ok tree.normal
  | policy p, hprints, tree, h, inherited' => by
      rw [literals] at hprints
      simp only [load] at h
      rcases exists_of_map_eq_ok h with ⟨loaded, hload, rfl⟩
      rw [PolicyTree.written, load, Policy.load_written hprints hload inherited', PolicyTree.normal]
      rfl
  | policyIdReference r, _, tree, h, inherited' => by
      simp only [load] at h
      rcases exists_of_map_eq_ok h with ⟨reference, hload, rfl⟩
      rcases Reference.load_written hload with ⟨hkind, hback⟩
      rw [PolicyTree.written, PolicyReference.written, PolicyTree.normal]
      simp only [hkind, load, hback]
      rfl
  | policySetIdReference r, _, tree, h, inherited' => by
      simp only [load] at h
      rcases exists_of_map_eq_ok h with ⟨reference, hload, rfl⟩
      rcases Reference.load_written hload with ⟨hkind, hback⟩
      rw [PolicyTree.written, PolicyReference.written, PolicyTree.normal]
      simp only [hkind, load, hback]
      rfl
  | policySet header children, hprints, tree, h, inherited' => by
      rw [literals, List.forall_mem_append] at hprints
      rcases hprints with ⟨hheader, hchildren⟩
      have hparts := hheader
      simp only [Header.literals, List.forall_mem_append] at hparts
      rcases hparts with ⟨⟨⟨-, hentries⟩, hobligations⟩, hadvice⟩
      simp only [load] at h
      replace h := eq_ok_of_mapError h
      rcases exists_of_bind_eq_ok h with ⟨schema, -, h⟩
      rcases exists_of_bind_eq_ok h with ⟨algorithm, halgorithm, h⟩
      rcases exists_of_bind_eq_ok h with ⟨loaded, hload, h⟩
      rcases exists_of_bind_eq_ok h with ⟨_, -, h⟩
      rcases exists_of_bind_eq_ok h with ⟨trees, htrees, h⟩
      rcases exists_of_bind_eq_ok h with ⟨obligations, hload₁, h⟩
      rcases exists_of_bind_eq_ok h with ⟨advice, hload₂, h⟩
      cases h
      rcases Header.load_written hheader hload obligations advice
        (trees.filterMap (Child.writtenParameters? PolicyTree.id)) with ⟨rfl, rfl, hback⟩
      have hreads := readsBack_of_loadChildren hentries htrees
      have hentries' := parametersFor_written PolicyTree.id hreads
      -- The edition is written out, so the children inherit what they inherited before.
      have htrees' := loadChildren_written hentries' children hchildren trees htrees loaded.schema
      have hids :
          checkChildren (trees.filterMap (Child.writtenParameters? PolicyTree.id))
            ((PolicyTree.writtenAll trees).map Node.id) = .ok () := by
        rw [PolicyTree.writtenAll_eq_map, List.map_map]
        refine checkChildren_written PolicyTree.id _ fun child hmem => ?_
        rw [← PolicyTree.id_written]
        exact List.mem_map_of_mem hmem
      -- The written set is loaded part by part, in the order of the original.
      rw [PolicyTree.written, PolicyTree.normal, load]
      refine congrArg (Except.mapError _) (?_ : _ = Except.ok _)
      refine (bind_of_eq_ok (loadSchema_text inherited' loaded.schema)).trans ?_
      refine (bind_of_eq_ok (loadAlgorithm_id halgorithm)).trans ?_
      refine (bind_of_eq_ok hback).trans ?_
      refine (bind_of_eq_ok hids).trans ?_
      refine (bind_of_eq_ok htrees').trans ?_
      refine (bind_of_eq_ok (loadObligations_run'_written hobligations hload₁)).trans ?_
      exact bind_of_eq_ok (loadObligations_run'_written hadvice hload₂)

theorem loadChildren_written {inherited : SchemaVersion} {entries entries' : List ChildParameters}
    {parameters : String → List Xacml.CombinerParameter}
    (hentries : ∀ name, parametersFor entries' name = .ok (parameters name)) :
    ∀ (nodes : List Node), (∀ typed ∈ literalsAll nodes, typed.PrintsBack) → ∀ children,
      loadChildren registry inherited entries nodes = .ok children → ∀ inherited',
        loadChildren registry inherited' entries' (PolicyTree.writtenAll children) =
          .ok (PolicyTree.normalAll parameters children)
  | [], _, children, h, inherited' => by
      simp only [loadChildren] at h
      cases h
      simp only [PolicyTree.writtenAll, PolicyTree.normalAll, loadChildren]
  | node :: rest, hprints, children, h, inherited' => by
      rw [literalsAll, List.forall_mem_append] at hprints
      simp only [loadChildren] at h
      rcases exists_of_bind_eq_ok h with ⟨tree, htree, h⟩
      rcases exists_of_bind_eq_ok h with ⟨own, -, h⟩
      rcases exists_of_bind_eq_ok h with ⟨more, hmore, h⟩
      cases h
      have hback := load_written node hprints.1 tree htree inherited'
      have hrest := loadChildren_written hentries rest hprints.2 more hmore inherited'
      simp only [PolicyTree.writtenAll, PolicyTree.normalAll, loadChildren, hback,
        PolicyTree.id_written, hentries, hrest]
      rfl

end

end Node

/-- Trees come back from their written forms. -/
theorem mapM_load_written {registry : Registry} {inherited : SchemaVersion} {nodes : List Node}
    (hprints : ∀ typed ∈ Node.literalsAll nodes, typed.PrintsBack) {trees : List PolicyTree}
    (h : nodes.mapM (Node.load registry inherited) = .ok trees) (inherited' : SchemaVersion) :
    (trees.map PolicyTree.written).mapM (Node.load registry inherited') =
      .ok (trees.map PolicyTree.normal) := by
  rw [Node.literalsAll_eq_flatMap] at hprints
  refine mapM_map_of_forall fun tree hmem => ?_
  rcases exists_of_mem_mapM h hmem with ⟨node, hnode, hload⟩
  exact Node.load_written node (List.forall_mem_flatMap.1 hprints node hnode) tree hload inherited'

/-- A loaded document comes back from its written form in its normal form, whatever edition the
configuration gives to policies that name none. -/
theorem load_written {registry : Registry} {config : Config} {document : Document}
    (hprints : ∀ typed ∈ document.literals, typed.PrintsBack) {snapshot : PolicySnapshot}
    (h : document.load registry config = .ok snapshot) (config' : Config) :
    snapshot.written.load registry config' = .ok snapshot.normal := by
  rw [literals, List.forall_mem_append] at hprints
  rw [load] at h
  rcases exists_of_bind_eq_ok h with ⟨roots, hroots, h⟩
  rcases exists_of_bind_eq_ok h with ⟨library, hlibrary, h⟩
  cases h
  rw [load, PolicySnapshot.written]
  refine (bind_of_eq_ok (mapM_load_written hprints.1 hroots config'.defaultSchema)).trans ?_
  exact bind_of_eq_ok (mapM_load_written hprints.2 hlibrary config'.defaultSchema)

end Document
end Xacml
