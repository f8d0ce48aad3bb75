import Mathlib.Data.List.Forall2
import Xacml.Proofs.Evaluation.Simulation

/-!
# References and the nodes that they stand for

A tree with references means the tree in which every reference is replaced by the node that it
stands for, as long as following them ends.

* `PolicyTree.references` are the references in a tree, and `PolicyTree.Chain` the chains of
  references that start in it,
* `PolicyTree.Inlines` relates a tree to the one without references that can be resolved; there is
  at most one, and there is one if the chains do not become arbitrarily long,
* `PolicyTree.Inlines.evaluateWith_eq`: both trees are evaluated alike where enough references may
  be opened.
-/

namespace Xacml
namespace PolicyTree

/-! ## Chains of references -/

mutual

/-- The references in a tree, at any depth below policy sets. -/
def references : PolicyTree → List PolicyReference
  | policy _ => []
  | policySet _ children => referencesAll children
  | reference target => [target]

/-- The references in the children of a policy set. -/
def referencesAll : List (Child PolicyTree) → List PolicyReference
  | [] => []
  | ⟨tree, _⟩ :: rest => references tree ++ referencesAll rest

end

theorem referencesAll_eq_flatMap (children : List (Child PolicyTree)) :
    referencesAll children = children.flatMap fun child => child.element.references := by
  induction children with
  | nil => rw [referencesAll, List.flatMap_nil]
  | cons child rest ih => rw [referencesAll, ih, List.flatMap_cons]

theorem mem_references_policySet {header : PolicyHeader} {children : List (Child PolicyTree)}
    {target : PolicyReference} :
    target ∈ (policySet header children).references ↔
      ∃ child ∈ children, target ∈ child.element.references := by
  rw [references, referencesAll_eq_flatMap, List.mem_flatMap]

/-- Whether references form a chain that starts in a tree: each one but the first occurs in the node
that the one before it stands for.  The last one need not stand for anything. -/
def Chain (source : PolicySource) (tree : PolicyTree) : List PolicyReference → Prop
  | [] => True
  | target :: rest =>
      target ∈ tree.references ∧
        (rest = [] ∨ ∃ node, source.resolve target = .ok node ∧ Chain source node rest)

/-- Whether the chains of references that start in a tree are no longer than a limit. -/
def WithinDepth (source : PolicySource) (limit : Nat) (tree : PolicyTree) : Prop :=
  ∀ chain, tree.Chain source chain → chain.length ≤ limit

section

variable {source : PolicySource} {limit : Nat}

/-- A chain that starts in one tree starts in every tree with its references. -/
theorem Chain.mono {tree larger : PolicyTree} {chain : List PolicyReference}
    (h : tree.Chain source chain) (hsubset : tree.references ⊆ larger.references) :
    larger.Chain source chain := by
  cases chain with
  | nil => trivial
  | cons target rest => exact ⟨hsubset h.1, h.2⟩

theorem WithinDepth.child {header : PolicyHeader} {children : List (Child PolicyTree)}
    (h : (policySet header children).WithinDepth source limit) :
    ∀ child ∈ children, child.element.WithinDepth source limit :=
  fun child hchild chain hchain => h chain <| hchain.mono fun _ htarget =>
    mem_references_policySet.2 ⟨child, hchild, htarget⟩

/-- A tree with a reference has a chain of one reference. -/
theorem WithinDepth.pos {tree : PolicyTree} (h : tree.WithinDepth source limit)
    {target : PolicyReference} (htarget : target ∈ tree.references) : 0 < limit :=
  h [target] ⟨htarget, .inl rfl⟩

theorem mem_references_reference (target : PolicyReference) :
    target ∈ (reference target).references := by
  rw [references]
  exact List.mem_singleton_self target

/-- What a reference stands for has chains that are shorter by one. -/
theorem WithinDepth.resolved {target : PolicyReference} {node : PolicyTree}
    (h : (reference target).WithinDepth source (limit + 1))
    (hresolved : source.resolve target = .ok node) : node.WithinDepth source limit := by
  intro chain hchain
  have hlonger := h (target :: chain)
    ⟨mem_references_reference target, .inr ⟨node, hresolved, hchain⟩⟩
  exact Nat.le_of_succ_le_succ hlonger

end

/-! ## Inlining -/

/-- Whether the second tree is the first one with every reference that can be resolved replaced by
what it stands for. -/
inductive Inlines (source : PolicySource) : PolicyTree → PolicyTree → Prop
  | policy {p : Policy} : Inlines source (.policy p) (.policy p)
  | policySet {header : PolicyHeader} {children inlined : List (Child PolicyTree)}
      (parameters : children.map Child.parameters = inlined.map Child.parameters)
      (inner : ∀ pair ∈ children.zip inlined, Inlines source pair.1.element pair.2.element) :
      Inlines source (.policySet header children) (.policySet header inlined)
  | resolved {target : PolicyReference} {node tree : PolicyTree}
      (found : source.resolve target = .ok node) (inner : Inlines source node tree) :
      Inlines source (.reference target) tree
  | unresolved {target : PolicyReference} {error : EvaluationError}
      (failed : source.resolve target = .error error) :
      Inlines source (.reference target) (.reference target)

section

variable {source : PolicySource} {tree inlined : PolicyTree}

/-- A tree can be inlined if its chains of references have a limit: by recursion on the limit, and
on the tree. -/
theorem WithinDepth.exists_inlines {limit : Nat} {tree : PolicyTree}
    (h : tree.WithinDepth source limit) : ∃ inlined, Inlines source tree inlined := by
  match limit, tree with
  | _, .policy p => exact ⟨_, .policy⟩
  | limit, .policySet header children =>
      have heach : ∀ child ∈ children, ∃ inlined : Child PolicyTree,
          child.parameters = inlined.parameters ∧
            Inlines source child.element inlined.element := by
        intro child hchild
        have hsize := sizeOf_element_lt hchild
        rcases exists_inlines (h.child child hchild) with ⟨inlined, hinlined⟩
        exact ⟨⟨inlined, child.parameters⟩, rfl, hinlined⟩
      rcases exists_forall₂ heach with ⟨inlined, hinlined⟩
      refine ⟨.policySet header inlined, .policySet ?_ ?_⟩
      · exact List.forall₂_eq_eq_eq ▸ List.rel_map (fun _ _ h => h.1) hinlined
      · exact fun pair hpair => ((List.forall₂_iff_zip.1 hinlined).2 hpair).2
  | 0, .reference target => exact absurd (h.pos (mem_references_reference target)) (Nat.lt_irrefl 0)
  | limit + 1, .reference target =>
      cases hresolved : source.resolve target with
      | error error => exact ⟨_, .unresolved hresolved⟩
      | ok node =>
          rcases exists_inlines (h.resolved hresolved) with ⟨inlined, hinlined⟩
          exact ⟨inlined, .resolved hresolved hinlined⟩
termination_by (limit, sizeOf tree)
decreasing_by
  · exact Prod.Lex.right _ (by simp only [policySet.sizeOf_spec]; omega)
  · exact Prod.Lex.left _ _ (Nat.lt_succ_self limit)

/-- The children of an inlined policy set correspond to those of the set. -/
theorem forall₂_of_zip {children inlined : List (Child PolicyTree)}
    (parameters : children.map Child.parameters = inlined.map Child.parameters)
    (related : PolicyTree → PolicyTree → Prop)
    (inner : ∀ pair ∈ children.zip inlined, related pair.1.element pair.2.element) :
    List.Forall₂ (fun child child' => related child.element child'.element) children inlined := by
  refine List.forall₂_iff_zip.2 ⟨?_, fun hpair => inner _ hpair⟩
  simpa using congrArg List.length parameters

theorem eq_of_unique_elements {children inlined others : List (Child PolicyTree)}
    (hunique : List.Forall₂ (fun child child' =>
      ∀ other, Inlines source child.element other → other = child'.element) children inlined)
    (hothers : List.Forall₂ (fun child other => Inlines source child.element other.element)
      children others)
    (hparameters : others.map Child.parameters = inlined.map Child.parameters) :
    others = inlined := by
  induction hunique generalizing others with
  | nil =>
      cases hothers
      rfl
  | @cons child child' _ _ hfirst _ ih =>
      cases hothers with
      | @cons _ other _ _ hother hrest =>
          rw [List.map_cons, List.map_cons, List.cons.injEq] at hparameters
          have helement : other.element = child'.element := hfirst _ hother
          have hhead : other = child' := by
            cases other
            cases child'
            exact congrArg₂ Child.mk helement hparameters.1
          rw [hhead, ih hrest hparameters.2]

/-- A tree is inlined in one way. -/
theorem Inlines.unique (h : Inlines source tree inlined) {other : PolicyTree}
    (hother : Inlines source tree other) : other = inlined := by
  induction h generalizing other with
  | policy =>
      cases hother
      rfl
  | @policySet header children inlined parameters inner ih =>
      cases hother with
      | @policySet _ _ others parameters' inner' =>
          have hunique := forall₂_of_zip parameters
            (fun tree inlined => ∀ other, Inlines source tree other → other = inlined)
            fun pair hpair other hother => ih pair hpair hother
          have hothers := forall₂_of_zip parameters' (Inlines source) inner'
          rw [eq_of_unique_elements hunique hothers (parameters'.symm.trans parameters)]
  | resolved found _ ih =>
      cases hother with
      | resolved found' inner' =>
          cases found.symm.trans found'
          exact ih inner'
      | unresolved failed => cases found.symm.trans failed
  | unresolved failed =>
      cases hother with
      | resolved found' => cases failed.symm.trans found'
      | unresolved => rfl

/-- What is left of the references leads nowhere. -/
theorem Inlines.unresolved_references (h : Inlines source tree inlined) :
    ∀ target ∈ inlined.references, ∃ error, source.resolve target = .error error := by
  induction h with
  | policy =>
      intro target htarget
      rw [references] at htarget
      cases htarget
  | @policySet header children inlined parameters inner ih =>
      intro target htarget
      rcases mem_references_policySet.1 htarget with ⟨child, hchild, htarget⟩
      have hinner := forall₂_of_zip parameters (fun _ inlined =>
        ∀ target ∈ inlined.references, ∃ error, source.resolve target = .error error) ih
      rcases exists_left_of_forall₂ hinner hchild with ⟨_, -, hunresolved⟩
      exact hunresolved target htarget
  | resolved _ _ ih => exact ih
  | @unresolved target error failed =>
      intro other hother
      rw [references, List.mem_singleton] at hother
      exact ⟨error, hother ▸ failed⟩

/-- A reference is left only where there was one. -/
theorem Inlines.exists_reference (h : Inlines source tree inlined) {target : PolicyReference}
    (htarget : target ∈ inlined.references) : ∃ target, target ∈ tree.references := by
  induction h with
  | policy => exact ⟨target, htarget⟩
  | @policySet header children inlined parameters inner ih =>
      rcases mem_references_policySet.1 htarget with ⟨child, hchild, htarget⟩
      have hinner := forall₂_of_zip parameters (fun tree inlined =>
        target ∈ inlined.references → ∃ target, target ∈ tree.references) ih
      rcases exists_left_of_forall₂ hinner hchild with ⟨before, hbefore, hreference⟩
      rcases hreference htarget with ⟨other, hother⟩
      exact ⟨other, mem_references_policySet.2 ⟨before, hbefore, hother⟩⟩
  | @resolved target _ _ _ _ _ => exact ⟨target, mem_references_reference target⟩
  | @unresolved target => exact ⟨target, mem_references_reference target⟩

/-- The chains in an inlined tree have one reference, and there is one only if there was one. -/
theorem Inlines.withinDepth (h : Inlines source tree inlined) {limit : Nat}
    (hdepth : tree.WithinDepth source limit) : inlined.WithinDepth source limit := by
  intro chain hchain
  cases chain with
  | nil => exact Nat.zero_le limit
  | cons target rest =>
      rcases hchain with ⟨htarget, rfl | ⟨node, hresolved, -⟩⟩
      · rcases h.exists_reference htarget with ⟨other, hother⟩
        exact hdepth.pos hother
      · rcases h.unresolved_references target htarget with ⟨error, hfailed⟩
        cases hresolved.symm.trans hfailed

end

/-! ## Evaluation -/

section

variable {m : Type → Type} [Monad m] (facade : Facade m) {source : PolicySource} (top : Stack)

theorem candidatesWith_congr {following following' : Following m} {stack stack' : Stack}
    {children others : List (Child PolicyTree)}
    (h : List.Forall₂ (fun child other =>
      child.element.evaluateWith facade following stack =
          other.element.evaluateWith facade following' stack' ∧
        child.element.appliesWith facade following = other.element.appliesWith facade following')
      children others) :
    candidatesWith facade following stack children =
      candidatesWith facade following' stack' others := by
  induction h with
  | nil => rw [candidatesWith, candidatesWith]
  | cons first _ ih => rw [candidatesWith, candidatesWith, first.1, first.2, ih]

/-- How many references may be opened makes no difference once they are as many as chains are long:
by recursion on their number, and on the tree. -/
theorem WithinDepth.evaluateWith_eq (limit limit' : Nat) {left left' : Nat} {tree : PolicyTree}
    (hdepth : tree.WithinDepth source left) (hdepth' : tree.WithinDepth source left')
    (stack : Stack) :
    let following := (Evaluation.mk facade source limit top).follow left
    let following' := (Evaluation.mk facade source limit' top).follow left'
    tree.evaluateWith facade following stack = tree.evaluateWith facade following' stack ∧
      tree.appliesWith facade following = tree.appliesWith facade following' := by
  match left, left', tree with
  | _, _, .policy p => exact ⟨by rw [evaluateWith, evaluateWith], by rw [appliesWith, appliesWith]⟩
  | left, left', .policySet header children =>
      have heach : ∀ child ∈ children, _ := fun child hchild =>
        have hsize := sizeOf_element_lt hchild
        evaluateWith_eq limit limit' (hdepth.child child hchild) (hdepth'.child child hchild)
          (stack.enter .child)
      have hchildren := candidatesWith_congr facade (List.forall₂_same.2 heach)
      exact ⟨by rw [evaluateWith, evaluateWith, hchildren], by rw [appliesWith, appliesWith]⟩
  | 0, _, .reference target =>
      exact absurd (hdepth.pos (mem_references_reference target)) (Nat.lt_irrefl 0)
  | _, 0, .reference target =>
      exact absurd (hdepth'.pos (mem_references_reference target)) (Nat.lt_irrefl 0)
  | left + 1, left' + 1, .reference target =>
      simp only [evaluateWith, appliesWith, Evaluation.follow]
      cases hresolved : source.resolve target with
      | error error => exact ⟨rfl, rfl⟩
      | ok node =>
          have hnode := evaluateWith_eq limit limit' (hdepth.resolved hresolved)
            (hdepth'.resolved hresolved) (stack.enter .resolution)
          exact ⟨by simp only [hnode.1], hnode.2⟩
termination_by (left, sizeOf tree)
decreasing_by
  · exact Prod.Lex.right _ (by simp only [policySet.sizeOf_spec]; omega)
  · exact Prod.Lex.left _ _ (Nat.lt_succ_self left)

/-- The targets of a tree and of the inlined one are matched alike where as many references may be
opened as chains are long. -/
theorem Inlines.appliesWith_eq {tree inlined : PolicyTree} (h : Inlines source tree inlined)
    (limit : Nat) {left left' : Nat} (hdepth : tree.WithinDepth source left)
    (hdepth' : inlined.WithinDepth source left') :
    let evaluation := Evaluation.mk facade source limit top
    tree.appliesWith facade (evaluation.follow left) =
      inlined.appliesWith facade (evaluation.follow left') := by
  induction h generalizing left with
  | policy | policySet => simp only [appliesWith]
  | @resolved target node tree found _ ih =>
      cases left with
      | zero => exact absurd (hdepth.pos (mem_references_reference target)) (Nat.lt_irrefl 0)
      | succ left =>
          simp only [appliesWith, Evaluation.follow, found]
          exact ih (hdepth.resolved found) hdepth'
  | unresolved failed => exact (hdepth.evaluateWith_eq facade top limit limit hdepth' top).2

/-- A tree is evaluated as the inlined one where as many references may be opened as chains are
long, if there is room for all that the tree leads to.  Inlined nodes begin less deep in the
stack. -/
theorem Inlines.evaluateWith_eq {tree inlined : PolicyTree} (h : Inlines source tree inlined)
    (limit : Nat) {left left' : Nat} (hdepth : tree.WithinDepth source left)
    (hdepth' : inlined.WithinDepth source left') {stack stack' : Stack} (hle : stack ≤ stack')
    (hroom : stack.Holds (tree.depthsWith stack.frame (source.depths stack.frame left))) :
    let evaluation := Evaluation.mk facade source limit top
    tree.evaluateWith facade (evaluation.follow left) stack =
      inlined.evaluateWith facade (evaluation.follow left') stack' := by
  intro evaluation
  induction h generalizing left left' stack stack' with
  | @policy p =>
      rw [evaluateWith, evaluateWith, hroom.isLow (zero_mem_depthsWith _ _ _),
        (hroom.of_le hle).isLow (zero_mem_depthsWith _ _ _)]
      rw [depthsWith] at hroom
      have hpolicy := (hroom.mono (List.subset_cons_self _ _)).alike hle
      exact congrArg _ (Simulation.eq.policy (fun lookup _ => facade.related_self lookup) hpolicy)
  | @policySet header children inlined parameters inner ih =>
      rw [evaluateWith, evaluateWith, hroom.isLow (zero_mem_depthsWith _ _ _),
        (hroom.of_le hle).isLow (zero_mem_depthsWith _ _ _)]
      rw [depthsWith] at hroom
      -- The obligations begin where the policy set does, its children behind one more frame.
      have hinner := hroom.mono (List.subset_cons_self _ _)
      have hnode := (hinner.mono (List.subset_append_left _ _)).alike hle
      have heach := (hinner.mono (List.subset_append_right _ _)).enter
      have hchildren :
          candidatesWith facade (evaluation.follow left) (stack.enter .child) children =
            candidatesWith facade (evaluation.follow left') (stack'.enter .child) inlined := by
        refine candidatesWith_congr facade (List.forall₂_iff_zip.2
          ⟨by simpa using congrArg List.length parameters, fun {child child'} hpair => ?_⟩)
        rcases List.of_mem_zip hpair with ⟨hchild, hchild'⟩
        have hdepth := hdepth.child child hchild
        have hdepth' := hdepth'.child child' hchild'
        exact ⟨ih _ hpair hdepth hdepth' (Stack.enter_le_enter hle .child)
            (heach.mono (depthsWith_subset_depthsAllWith _ _ hchild)),
          (inner _ hpair).appliesWith_eq facade top limit hdepth hdepth'⟩
      rw [hchildren]
      exact congrArg _ (Simulation.eq.node (List.forall₂_same.2 fun _ _ => ⟨rfl, rfl, rfl⟩)
        .policySet (fun lookup _ => facade.related_self lookup) hnode)
  | @resolved target node tree found _ ih =>
      cases left with
      | zero => exact absurd (hdepth.pos (mem_references_reference target)) (Nat.lt_irrefl 0)
      | succ left =>
          rw [evaluateWith, hroom.isLow (zero_mem_depthsWith _ _ _)]
          simp only [depthsWith, PolicySource.depths, found] at hroom
          -- The node begins behind the frame of the reference, the inlined one in its place.
          have hnode := (hroom.mono (List.subset_cons_self _ _)).enter
          simp only [evaluation, Evaluation.follow, found]
          exact ih (hdepth.resolved found) hdepth' (Stack.enter_le_of_le hle _) hnode
  | @unresolved target error failed =>
      have hpos := hdepth.pos (mem_references_reference target)
      have hpos' := hdepth'.pos (mem_references_reference target)
      obtain ⟨left, rfl⟩ := Nat.exists_eq_add_one_of_ne_zero hpos.ne'
      obtain ⟨left', rfl⟩ := Nat.exists_eq_add_one_of_ne_zero hpos'.ne'
      rw [evaluateWith, evaluateWith, hroom.isLow (zero_mem_depthsWith _ _ _),
        (hroom.of_le hle).isLow (zero_mem_depthsWith _ _ _)]
      simp only [evaluation, Evaluation.follow, failed]

end

end PolicyTree
end Xacml
