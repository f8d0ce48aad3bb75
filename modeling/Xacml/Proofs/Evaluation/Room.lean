import Xacml.Evaluation.Tree

/-!
# Room on the stack

An evaluation is nested in another one, and so begins deeper in the stack.  Whether one of them
finds too little left is told by how deep they begin.

* `Expr.depths`, `Rule.depths`, `Policy.depths` and `Evaluation.depths` list the depths at which the
  evaluations begin that a part of a policy may lead to,
* `Stack.Holds` says that a stack has room for evaluations at given depths,
* `Stack.Alike` relates stacks that such evaluations cannot tell from each other.
-/

namespace Xacml

/-! ## Depths -/

mutual

/-- How deep in the stack the evaluations begin that an expression may lead to, its own included. -/
def Expr.depths (frame : Call → Nat) : Expr → List Nat
  | .value _ | .designator _ | .selector _ | .function _ => [0]
  | .apply _ args _ => 0 :: (Expr.depthsAll frame args).map (frame .argument + ·)
  | .reference _ definition => 0 :: (Expr.depths frame definition).map (frame .definition + ·)

def Expr.depthsAll (frame : Call → Nat) : List Expr → List Nat
  | [] => []
  | e :: rest => Expr.depths frame e ++ Expr.depthsAll frame rest

end

theorem Expr.zero_mem_depths (frame : Call → Nat) (e : Expr) : 0 ∈ e.depths frame := by
  cases e <;> simp [Expr.depths]

theorem Expr.depths_subset_depthsAll (frame : Call → Nat) {e : Expr} {list : List Expr}
    (h : e ∈ list) : e.depths frame ⊆ depthsAll frame list := by
  induction list with
  | nil => cases h
  | cons first rest ih =>
      rw [depthsAll]
      rcases List.mem_cons.1 h with rfl | h
      · exact List.subset_append_left _ _
      · exact List.subset_append_of_subset_right _ (ih h)

def ObligationExpr.depths (frame : Call → Nat) (o : ObligationExpr) : List Nat :=
  o.assignments.flatMap fun a => (a.expr.depths frame).map (frame .assignment + ·)

def Rule.depths (frame : Call → Nat) (rule : Rule) : List Nat :=
  rule.condition.toList.flatMap (fun e => (e.depths frame).map (frame .condition + ·)) ++
    rule.obligations.flatMap (ObligationExpr.depths frame) ++
    rule.advice.flatMap (ObligationExpr.depths frame)

def PolicyHeader.depths (frame : Call → Nat) (header : PolicyHeader) : List Nat :=
  header.obligations.flatMap (ObligationExpr.depths frame) ++
    header.advice.flatMap (ObligationExpr.depths frame)

def Policy.depths (frame : Call → Nat) (policy : Policy) : List Nat :=
  policy.header.depths frame ++
    policy.rules.flatMap fun child => (child.element.depths frame).map (frame .rule + ·)

namespace PolicyTree

mutual

/-- The depths of a tree, given those that references lead to. -/
def depthsWith (frame : Call → Nat) (following : PolicyReference → List Nat) :
    PolicyTree → List Nat
  | policy p => 0 :: p.depths frame
  | policySet header children =>
      0 :: (header.depths frame ++ (depthsAllWith frame following children).map (frame .child + ·))
  | reference target => 0 :: following target

def depthsAllWith (frame : Call → Nat) (following : PolicyReference → List Nat) :
    List (Child PolicyTree) → List Nat
  | [] => []
  | ⟨tree, _⟩ :: rest => depthsWith frame following tree ++ depthsAllWith frame following rest

end

theorem zero_mem_depthsWith (frame : Call → Nat) (following : PolicyReference → List Nat)
    (tree : PolicyTree) : 0 ∈ tree.depthsWith frame following := by
  cases tree <;> simp [depthsWith]

theorem depthsWith_subset_depthsAllWith (frame : Call → Nat)
    (following : PolicyReference → List Nat) {child : Child PolicyTree}
    {children : List (Child PolicyTree)} (h : child ∈ children) :
    child.element.depthsWith frame following ⊆ depthsAllWith frame following children := by
  induction children with
  | nil => cases h
  | cons first rest ih =>
      rw [depthsAllWith]
      rcases List.mem_cons.1 h with rfl | h
      · exact List.subset_append_left _ _
      · exact List.subset_append_of_subset_right _ (ih h)

end PolicyTree

/-- The depths that a reference leads to when as many references as given may still be opened. -/
def PolicySource.depths (source : PolicySource) (frame : Call → Nat) :
    Nat → PolicyReference → List Nat
  | 0, _ => []
  | left + 1, target =>
      match source.resolve target with
      | .error _ => []
      | .ok tree => (tree.depthsWith frame (source.depths frame left)).map (frame .resolution + ·)

/-- The depths of a tree, together with those of what references stand for. -/
def Evaluation.depths {m : Type → Type} (evaluation : Evaluation m) (tree : PolicyTree) :
    List Nat :=
  tree.depthsWith evaluation.stack.frame
    (evaluation.source.depths evaluation.stack.frame evaluation.maxDepth)

/-! ## Stacks -/

namespace Stack

/-- Whether evaluations that begin at given depths find enough left. -/
def Holds (stack : Stack) (depths : List Nat) : Prop :=
  ∀ depth ∈ depths, required + depth ≤ stack.left

instance (stack : Stack) (depths : List Nat) : Decidable (stack.Holds depths) :=
  inferInstanceAs (Decidable (∀ depth ∈ depths, _))

/-- Stacks with the same frames are compared by what is left of them. -/
instance : LE Stack :=
  ⟨fun stack stack' => stack.frame = stack'.frame ∧ stack.left ≤ stack'.left⟩

variable {stack stack' : Stack} {depths more : List Nat}

theorem le_refl (stack : Stack) : stack ≤ stack :=
  ⟨rfl, Nat.le_refl _⟩

theorem enter_le_of_le (h : stack ≤ stack') (call : Call) : stack.enter call ≤ stack' :=
  ⟨h.1, Nat.le_trans (Nat.sub_le _ _) h.2⟩

theorem enter_le_enter (h : stack ≤ stack') (call : Call) :
    stack.enter call ≤ stack'.enter call :=
  ⟨h.1, by simpa only [enter, h.1] using Nat.sub_le_sub_right h.2 _⟩

theorem Holds.mono (h : stack.Holds depths) (hmore : more ⊆ depths) : stack.Holds more :=
  fun depth hdepth => h depth (hmore hdepth)

theorem Holds.isLow (h : stack.Holds depths) (hzero : 0 ∈ depths) : stack.isLow = false :=
  decide_eq_false (Nat.not_lt.2 (h 0 hzero))

theorem Holds.of_le (h : stack.Holds depths) (hle : stack ≤ stack') : stack'.Holds depths :=
  fun depth hdepth => Nat.le_trans (h depth hdepth) hle.2

/-- Inside a call, there is room for what has room behind the frame of the call. -/
theorem Holds.enter {call : Call} (h : stack.Holds (depths.map (stack.frame call + ·))) :
    (stack.enter call).Holds depths := by
  intro depth hdepth
  have hroom := h _ (List.mem_map_of_mem hdepth)
  simp only [Stack.enter]
  omega

/-- Whether evaluations that begin at given depths cannot tell two stacks from each other: they find
room in both, if the stacks are not the same. -/
def Alike (stack stack' : Stack) (depths : List Nat) : Prop :=
  stack = stack' ∨ stack.frame = stack'.frame ∧ stack.Holds depths ∧ stack'.Holds depths

theorem Alike.refl (stack : Stack) (depths : List Nat) : stack.Alike stack depths :=
  .inl rfl

theorem Holds.alike (h : stack.Holds depths) (hle : stack ≤ stack') :
    stack.Alike stack' depths :=
  .inr ⟨hle.1, h, h.of_le hle⟩

theorem Alike.mono (h : stack.Alike stack' depths) (hmore : more ⊆ depths) :
    stack.Alike stack' more :=
  h.imp_right fun h => ⟨h.1, h.2.1.mono hmore, h.2.2.mono hmore⟩

theorem Alike.isLow_eq (h : stack.Alike stack' depths) (hzero : 0 ∈ depths) :
    stack.isLow = stack'.isLow := by
  rcases h with rfl | ⟨-, h, h'⟩
  · rfl
  · rw [h.isLow hzero, h'.isLow hzero]

theorem Alike.enter {call : Call} (h : stack.Alike stack' (depths.map (stack.frame call + ·))) :
    (stack.enter call).Alike (stack'.enter call) depths := by
  rcases h with rfl | ⟨hframe, h, h'⟩
  · exact .refl _ _
  · rw [hframe] at h'
    exact .inr ⟨hframe, h.enter, h'.enter⟩

end Stack

end Xacml
