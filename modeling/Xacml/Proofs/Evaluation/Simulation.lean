import Mathlib.Data.List.Forall2
import Xacml.Proofs.Evaluation.Outcome
import Xacml.Proofs.Evaluation.Room

/-!
# Evaluations that simulate each other

An evaluation asks for attributes, and otherwise only puts computations together.  A relation
between computations that is kept when they are put together therefore relates two evaluations of a
policy tree as soon as it relates what is found for the lookups in that tree.

* `Expr.lookups`, `Target.lookups`, `Rule.lookups` and `PolicyTree.lookups` list the lookups in the
  parts of a policy,
* `Simulation` is a relation between the computations of two monads that `pure` and `bind` keep,
* `Facade.Related` says that two facades answer a lookup with related computations,
* `Simulation.expression` and `Simulation.policy` relate evaluations with stacks that they cannot
  tell from each other,
* `Simulation.evaluate` and `Simulation.combineRoots` relate the evaluations of trees and of
  combined policies.
-/

namespace Xacml

/-! ## Lookups -/

mutual

/-- The lookups in an expression, and in the definitions of the variables that it refers to. -/
def Expr.lookups : Expr → List Lookup
  | .value _ => []
  | .designator d => [.designator d]
  | .selector s => [.selector s]
  | .apply _ args _ => Expr.lookupsAll args
  | .function _ => []
  | .reference _ definition => Expr.lookups definition

/-- The lookups in several expressions. -/
def Expr.lookupsAll : List Expr → List Lookup
  | [] => []
  | e :: rest => Expr.lookups e ++ Expr.lookupsAll rest

end

/-- The lookups in obligations or advice. -/
def ObligationExpr.lookups (o : ObligationExpr) : List Lookup :=
  o.assignments.flatMap fun a => a.expr.lookups

/-- The lookups of the matches in a target. -/
def Target.lookups (target : Target) : List Lookup :=
  target.allMatches.map Match.lookup

/-- The lookups in a rule. -/
def Rule.lookups (rule : Rule) : List Lookup :=
  rule.target.toList.flatMap Target.lookups ++ rule.condition.toList.flatMap Expr.lookups ++
    rule.obligations.flatMap ObligationExpr.lookups ++ rule.advice.flatMap ObligationExpr.lookups

/-- The lookups in what policies and policy sets have in common. -/
def PolicyHeader.lookups (header : PolicyHeader) : List Lookup :=
  header.target.lookups ++ header.obligations.flatMap ObligationExpr.lookups ++
    header.advice.flatMap ObligationExpr.lookups

/-- The lookups in a policy or in a policy set; those in the children of a set are theirs. -/
def PolicyTree.lookups : PolicyTree → List Lookup
  | policy p => p.header.lookups ++ p.rules.flatMap fun child => child.element.lookups
  | policySet header _ => header.lookups
  | reference _ => []

/-! ## Simulations -/

section

variable {m n : Type → Type} [Monad m] [Monad n]

/-- A relation between the computations of two monads that is kept when computations are put
together. -/
structure Simulation (R : ∀ α : Type, m α → n α → Prop) : Prop where
  pure {α : Type} (a : α) : R α (pure a) (pure a)
  bind {α β : Type} {x : m α} {y : n α} {f : α → m β} {g : α → n β} (first : R α x y)
    (next : ∀ a, R β (f a) (g a)) : R β (x >>= f) (y >>= g)

/-- Putting equal computations together gives equal computations. -/
theorem Simulation.eq : Simulation fun α (x y : m α) => x = y where
  pure _ := rfl
  bind first next := by
    subst first
    exact bind_congr next

/-- Whether two facades answer a lookup with related computations. -/
def Facade.Related (R : ∀ α : Type, m α → n α → Prop) (facade : Facade m) (facade' : Facade n) :
    Lookup → Prop
  | .designator d => R _ (facade.find d.query) (facade'.find d.query)
  | .selector s => R _ (facade.select s.query) (facade'.select s.query)

theorem Facade.related_self (facade : Facade m) (lookup : Lookup) :
    facade.Related (fun α (x y : m α) => x = y) facade lookup := by
  cases lookup <;> rfl

/-- Whether two children to be combined are related. -/
structure Candidate.Related (R : ∀ α : Type, m α → n α → Prop) (child : Candidate m)
    (child' : Candidate n) : Prop where
  evaluate : R _ (child.evaluate ()) (child'.evaluate ())
  applies : R _ (child.applies ()) (child'.applies ())
  effect : child.effect = child'.effect

variable {R : ∀ α : Type, m α → n α → Prop} {facade : Facade m} {facade' : Facade n}
  {stack stack' : Stack}

namespace Simulation

variable (hR : Simulation R)

include hR

/-! ### Lookups -/

theorem designate {d : Designator} (h : facade.Related R facade' (.designator d)) :
    R _ (facade.designate d) (facade'.designate d) :=
  hR.bind h fun _ => hR.pure _

theorem choose {s : Selector} (h : facade.Related R facade' (.selector s)) :
    R _ (facade.choose s) (facade'.choose s) :=
  hR.bind h fun _ => hR.pure _

theorem look {lookup : Lookup} (h : facade.Related R facade' lookup) :
    R _ (facade.look lookup) (facade'.look lookup) := by
  cases lookup with
  | designator d => exact hR.designate h
  | selector s => exact hR.choose h

/-- Resolvers with related answers are asked alike. -/
theorem askEach {expected : DataType} {ask : Resolver m → m (Except EvaluationError Bag)}
    {ask' : Resolver n → n (Except EvaluationError Bag)} {resolvers : List (Resolver m)}
    {resolvers' : List (Resolver n)}
    (h : List.Forall₂ (fun r r' => R _ (ask r) (ask' r')) resolvers resolvers') :
    R _ (askEach expected ask resolvers) (askEach expected ask' resolvers') := by
  induction h with
  | nil => exact hR.pure _
  | cons first _ ih =>
      refine hR.bind first fun answer => ?_
      cases settle? expected answer with
      | some settled => exact hR.pure _
      | none => exact ih

/-- Facades that find alike in their requests and by their clocks, and whose resolvers answer alike,
find alike. -/
theorem find {query : AttributeQuery}
    (hrequest : facade.request.find query = facade'.request.find query)
    (hclock : facade.clock.value? query = facade'.clock.value? query)
    (hresolvers : List.Forall₂
      (fun r r' => R _ (r.find query facade.request) (r'.find query facade'.request))
      facade.resolvers facade'.resolvers) :
    R _ (facade.find query) (facade'.find query) := by
  simp only [Facade.find, hrequest, hclock]
  cases (facade'.request.find query).isEmpty with
  | false => exact hR.pure _
  | true =>
      cases facade'.clock.value? query with
      | some value => exact hR.pure _
      | none => exact hR.askEach hresolvers

/-! ### Functions -/

theorem truth {arg : Lazy m} {arg' : Lazy n} (h : R _ (arg ()) (arg' ())) :
    R _ arg.truth arg'.truth :=
  hR.bind h fun _ => hR.pure _

theorem evaluateAll {args : List (Lazy m)} {args' : List (Lazy n)}
    (h : List.Forall₂ (fun arg arg' => R _ (arg ()) (arg' ())) args args') :
    R _ (evaluateAll args) (evaluateAll args') := by
  induction h with
  | nil => exact hR.pure _
  | cons first _ ih =>
      refine hR.bind first fun outcome => ?_
      cases outcome with
      | error error => exact hR.pure _
      | ok value =>
          refine hR.bind ih fun values => ?_
          cases values <;> exact hR.pure _

theorem shortCircuit (deciding : Bool) (error : Option EvaluationError) {args : List (Lazy m)}
    {args' : List (Lazy n)}
    (h : List.Forall₂ (fun arg arg' => R _ (arg ()) (arg' ())) args args') :
    R _ (LogicalOp.shortCircuit deciding error args)
      (LogicalOp.shortCircuit deciding error args') := by
  induction h generalizing error with
  | nil => exact hR.pure _
  | cons first _ ih =>
      refine hR.bind (hR.truth first) fun outcome => ?_
      cases outcome with
      | error e => exact ih _
      | ok b =>
          dsimp only
          split
          · exact hR.pure _
          · exact ih _

theorem countTrue (needed trues errors : Nat) (error : Option EvaluationError)
    {args : List (Lazy m)} {args' : List (Lazy n)}
    (h : List.Forall₂ (fun arg arg' => R _ (arg ()) (arg' ())) args args') :
    R _ (LogicalOp.countTrue needed trues errors error args)
      (LogicalOp.countTrue needed trues errors error args') := by
  induction h generalizing trues errors error with
  | nil => exact hR.pure _
  | cons first rest ih =>
      -- Both sides have as many arguments left, so they stop at the same place.
      simp only [LogicalOp.countTrue, rest.length_eq]
      split
      · exact hR.pure _
      split
      · exact hR.pure _
      refine hR.bind (hR.truth first) fun outcome => ?_
      cases outcome with
      | error e => exact ih _ _ _
      | ok b => cases b <;> exact ih _ _ _

theorem fold (op : LogicalOp) (function : String) {args : List (Lazy m)} {args' : List (Lazy n)}
    (h : List.Forall₂ (fun arg arg' => R _ (arg ()) (arg' ())) args args') :
    R _ (op.fold function args) (op.fold function args') := by
  cases op with
  | and => exact hR.shortCircuit _ _ h
  | or => exact hR.shortCircuit _ _ h
  | nOf =>
      cases h with
      | nil => exact hR.pure _
      | cons first rest =>
          refine hR.bind first fun count => ?_
          simp only [rest.length_eq]
          split
          · exact hR.pure _
          split
          · exact hR.pure _
          split
          · exact hR.pure _
          · exact hR.countTrue _ _ _ _ rest

theorem applyTo (f : Function) (g? : Option Function) {args : List (Lazy m)}
    {args' : List (Lazy n)}
    (h : List.Forall₂ (fun arg arg' => R _ (arg ()) (arg' ())) args args') :
    R _ (f.applyTo g? args) (f.applyTo g? args') := by
  unfold Function.applyTo
  split
  · exact hR.bind (hR.evaluateAll h) fun _ => hR.pure _
  · exact hR.fold _ _ h
  · exact hR.bind (hR.evaluateAll (List.forall₂_drop 1 h)) fun _ => hR.pure _
  · exact hR.pure _

/-! ### Expressions -/

/-- Where both sides have the same room on the stack, both of them go on, or neither does. -/
theorem guarded {α : Type} (hlow : stack.isLow = stack'.isLow) (a : α) {x : m α} {y : n α}
    (h : R α x y) :
    R α (if stack.isLow then Pure.pure a else x) (if stack'.isLow then Pure.pure a else y) := by
  rw [hlow]
  split
  · exact hR.pure a
  · exact h

theorem guarded_expression {e : Expr} (hstack : stack.Alike stack' (e.depths stack.frame))
    {x : m (Except EvaluationError Datum)} {y : n (Except EvaluationError Datum)} (h : R _ x y) :
    R _ (if stack.isLow then Pure.pure (.error .recursionLimit) else x)
      (if stack'.isLow then Pure.pure (.error .recursionLimit) else y) :=
  hR.guarded (hstack.isLow_eq (Expr.zero_mem_depths _ e)) _ h

omit hR in
mutual

/-- Expressions are evaluated alike: by recursion on the expression, as it is evaluated. -/
theorem expression (hR : Simulation R) (stack stack' : Stack) :
    ∀ e : Expr, (∀ lookup ∈ e.lookups, facade.Related R facade' lookup) →
      stack.Alike stack' (e.depths stack.frame) →
      R _ (e.evaluate facade stack) (e.evaluate facade' stack')
  | .value v, _, hstack => by
      rw [Expr.evaluate, Expr.evaluate]
      exact hR.guarded_expression hstack (hR.pure _)
  | .designator d, h, hstack => by
      rw [Expr.evaluate, Expr.evaluate]
      exact hR.guarded_expression hstack
        (hR.bind (hR.designate (h _ (List.mem_singleton_self _))) fun _ => hR.pure _)
  | .selector s, h, hstack => by
      rw [Expr.evaluate, Expr.evaluate]
      exact hR.guarded_expression hstack
        (hR.bind (hR.choose (h _ (List.mem_singleton_self _))) fun _ => hR.pure _)
  | .apply f args returns, h, hstack => by
      rw [Expr.evaluate, Expr.evaluate]
      refine hR.guarded_expression hstack (hR.applyTo f _ ?_)
      rw [Expr.depths] at hstack
      exact expressions hR _ _ args h (hstack.mono (List.subset_cons_self _ _)).enter
  | .function f, _, hstack => by
      rw [Expr.evaluate, Expr.evaluate]
      exact hR.guarded_expression hstack (hR.pure _)
  | .reference name definition, h, hstack => by
      rw [Expr.evaluate, Expr.evaluate]
      refine hR.guarded_expression hstack ?_
      rw [Expr.depths] at hstack
      exact expression hR _ _ definition h (hstack.mono (List.subset_cons_self _ _)).enter

theorem expressions (hR : Simulation R) (stack stack' : Stack) :
    ∀ list : List Expr, (∀ lookup ∈ Expr.lookupsAll list, facade.Related R facade' lookup) →
      stack.Alike stack' (Expr.depthsAll stack.frame list) →
      List.Forall₂ (fun arg arg' => R _ (arg ()) (arg' ())) (Expr.evaluations facade stack list)
        (Expr.evaluations facade' stack' list)
  | [], _, _ => by
      rw [Expr.evaluations, Expr.evaluations]
      exact .nil
  | e :: rest, h, hstack => by
      rw [Expr.lookupsAll, List.forall_mem_append] at h
      rw [Expr.depthsAll] at hstack
      rw [Expr.evaluations, Expr.evaluations]
      exact .cons (expression hR _ _ e h.1 (hstack.mono (List.subset_append_left _ _)))
        (expressions hR _ _ rest h.2 (hstack.mono (List.subset_append_right _ _)))

end

/-! ### Targets -/

theorem firstMatching {α : Type} {f : α → m MatchResult} {f' : α → n MatchResult}
    (error : Option EvaluationError) {list : List α} (h : ∀ a ∈ list, R _ (f a) (f' a)) :
    R _ (firstMatching f error list) (firstMatching f' error list) := by
  induction list generalizing error with
  | nil => exact hR.pure _
  | cons a rest ih =>
      rw [List.forall_mem_cons] at h
      refine hR.bind h.1 fun outcome => ?_
      cases outcome with
      | holds literals => exact hR.pure _
      | fails => exact ih _ h.2
      | indeterminate e => exact ih _ h.2

theorem allMatching {α : Type} {f : α → m MatchResult} {f' : α → n MatchResult}
    (literals : List Value) (error : Option EvaluationError) {list : List α}
    (h : ∀ a ∈ list, R _ (f a) (f' a)) :
    R _ (allMatching f literals error list) (allMatching f' literals error list) := by
  induction list generalizing literals error with
  | nil => exact hR.pure _
  | cons a rest ih =>
      rw [List.forall_mem_cons] at h
      refine hR.bind h.1 fun outcome => ?_
      cases outcome with
      | holds more => exact ih _ _ h.2
      | fails => exact hR.pure _
      | indeterminate e => exact ih _ _ h.2

theorem eachMatching {α : Type} {f : α → m MatchResult} {f' : α → n MatchResult}
    (literals : List Value) {list : List α} (h : ∀ a ∈ list, R _ (f a) (f' a)) :
    R _ (eachMatching f literals list) (eachMatching f' literals list) := by
  induction list generalizing literals with
  | nil => exact hR.pure _
  | cons a rest ih =>
      rw [List.forall_mem_cons] at h
      refine hR.bind h.1 fun outcome => ?_
      cases outcome with
      | holds more => exact ih _ h.2
      | fails => exact hR.pure _
      | indeterminate e => exact hR.pure _

theorem comparison {mt : Match} (h : facade.Related R facade' mt.lookup) :
    R _ (mt.evaluate facade) (mt.evaluate facade') := by
  refine hR.bind (hR.look h) fun found => ?_
  cases found <;> exact hR.pure _

/-- A target is matched alike in either layout. -/
theorem target {target : Target} (h : ∀ lookup ∈ target.lookups, facade.Related R facade' lookup) :
    R _ (target.evaluate facade) (target.evaluate facade') := by
  have hmatch : ∀ mt ∈ target.allMatches, R _ (mt.evaluate facade) (mt.evaluate facade') :=
    fun mt hmt => hR.comparison (h _ (List.mem_map_of_mem hmt))
  unfold Target.evaluate
  split
  case isTrue => exact hR.pure _
  case isFalse =>
    cases target with
    | legacy sections =>
        refine hR.eachMatching _ fun groups hgroups => ?_
        refine hR.firstMatching _ fun group hgroup => ?_
        refine hR.eachMatching _ fun mt hmt => hmatch mt ?_
        have hsection := (List.mem_filter.1 hgroups).1
        exact List.mem_flatMap.2 ⟨group, List.mem_flatten.2 ⟨groups, hsection, hgroup⟩, hmt⟩
    | anyOf conjuncts =>
        refine hR.allMatching _ _ fun group hgroup => ?_
        refine hR.firstMatching _ fun alternative halternative => ?_
        refine hR.allMatching _ _ fun mt hmt => hmatch mt ?_
        have hmem := List.mem_flatMap.2 ⟨group, hgroup, halternative⟩
        exact List.mem_flatMap.2 ⟨alternative, hmem, hmt⟩

/-! ### Obligations -/

theorem assignments {list : List AssignmentExpr}
    (h : ∀ a ∈ list, ∀ lookup ∈ a.expr.lookups, facade.Related R facade' lookup)
    (hstack : stack.Alike stack'
      (list.flatMap fun a => (a.expr.depths stack.frame).map (stack.frame .assignment + ·))) :
    R _ (evaluateAssignments facade stack list) (evaluateAssignments facade' stack' list) := by
  induction list with
  | nil => exact hR.pure _
  | cons a rest ih =>
      rw [List.forall_mem_cons] at h
      rw [List.flatMap_cons] at hstack
      have hfirst := (hstack.mono (List.subset_append_left _ _)).enter
      refine hR.bind (hR.expression _ _ a.expr h.1 hfirst) fun outcome => ?_
      cases outcome with
      | error error => exact hR.pure _
      | ok datum =>
          exact hR.bind (ih h.2 (hstack.mono (List.subset_append_right _ _))) fun _ => hR.pure _

theorem fulfil (effect : Effect) {list : List ObligationExpr}
    (h : ∀ lookup ∈ list.flatMap ObligationExpr.lookups, facade.Related R facade' lookup)
    (hstack : stack.Alike stack' (list.flatMap (ObligationExpr.depths stack.frame))) :
    R _ (fulfil facade stack effect list) (fulfil facade' stack' effect list) := by
  induction list with
  | nil => exact hR.pure _
  | cons o rest ih =>
      rw [List.flatMap_cons, List.forall_mem_append] at h
      rw [List.flatMap_cons] at hstack
      have hfirst := hstack.mono (List.subset_append_left _ _)
      have hrest := ih h.2 (hstack.mono (List.subset_append_right _ _))
      unfold Xacml.fulfil
      split
      case isTrue =>
        refine hR.bind (hR.assignments (List.forall_mem_flatMap.1 h.1) hfirst) fun outcome => ?_
        cases outcome with
        | error error => exact hR.pure _
        | ok done => exact hR.bind hrest fun _ => hR.pure _
      case isFalse => exact hrest

theorem attachObligations {obligations advice : List ObligationExpr} (result : Result)
    (ho : ∀ lookup ∈ obligations.flatMap ObligationExpr.lookups, facade.Related R facade' lookup)
    (ha : ∀ lookup ∈ advice.flatMap ObligationExpr.lookups, facade.Related R facade' lookup)
    (hstack : stack.Alike stack' (obligations.flatMap (ObligationExpr.depths stack.frame) ++
      advice.flatMap (ObligationExpr.depths stack.frame))) :
    R _ (attachObligations facade stack obligations advice result)
      (attachObligations facade' stack' obligations advice result) := by
  have hboth (effect : Effect) : R _ (fulfilBoth facade stack effect obligations advice)
      (fulfilBoth facade' stack' effect obligations advice) := by
    have hobligations := hR.fulfil effect ho (hstack.mono (List.subset_append_left _ _))
    have hadvice := hR.fulfil effect ha (hstack.mono (List.subset_append_right _ _))
    refine hR.bind hobligations fun outcome => ?_
    cases outcome with
    | error error => exact hR.pure _
    | ok done => exact hR.bind hadvice fun _ => hR.pure _
  unfold Xacml.attachObligations
  split
  · exact hR.pure _
  · refine hR.bind (hboth _) fun outcome => ?_
    cases outcome <;> exact hR.pure _

/-! ### Rules -/

/-- Rules are related children of a policy. -/
theorem rule {rule : Rule} (h : ∀ lookup ∈ rule.lookups, facade.Related R facade' lookup)
    (hstack : stack.Alike stack' (rule.depths stack.frame)) :
    Candidate.Related R (rule.candidate facade stack) (rule.candidate facade' stack') := by
  simp only [Rule.lookups, List.forall_mem_append] at h
  rw [Rule.depths, List.append_assoc] at hstack
  rcases h with ⟨⟨⟨htarget, hcondition⟩, hobligations⟩, hadvice⟩
  have htargetApplies : R _ (rule.targetApplies facade) (rule.targetApplies facade') := by
    unfold Rule.targetApplies
    cases ht : rule.target with
    | none => exact hR.pure _
    | some target =>
        rw [ht] at htarget
        refine hR.bind (hR.target fun lookup hlookup => htarget lookup ?_) fun _ => hR.pure _
        simpa using hlookup
  have hconditionHolds : R _ (rule.conditionHolds facade stack)
      (rule.conditionHolds facade' stack') := by
    have hinner := hstack.mono (List.subset_append_left _ _)
    unfold Rule.conditionHolds
    cases hc : rule.condition with
    | none => exact hR.pure _
    | some condition =>
        rw [hc] at hcondition hinner
        rw [Option.toList_some, List.flatMap_singleton] at hinner
        refine hR.bind (hR.expression _ _ condition (fun lookup hlookup => hcondition lookup ?_)
          hinner.enter) fun _ => hR.pure _
        simpa using hlookup
  have happlies : R _ (rule.applies facade stack) (rule.applies facade' stack') := by
    refine hR.bind htargetApplies fun outcome => ?_
    split
    · exact hconditionHolds
    · exact hR.pure _
  refine ⟨hR.bind happlies fun outcome => ?_, htargetApplies, rfl⟩
  split
  · exact hR.attachObligations _ hobligations hadvice
      (hstack.mono (List.subset_append_right _ _))
  · exact hR.pure _
  · exact hR.pure _

/-! ### Combining -/

section

variable {children : List (Candidate m)} {children' : List (Candidate n)}
  (h : List.Forall₂ (Candidate.Related R) children children')

include h

theorem combineOverrides (winner : Effect) (tally : Tally) (seen : Seen) :
    R _ (combineOverrides winner tally seen children)
      (combineOverrides winner tally seen children') := by
  induction h generalizing tally seen with
  | nil => exact hR.pure _
  | cons first _ ih =>
      refine hR.bind first.evaluate fun result => ?_
      dsimp only
      split
      · exact hR.pure _
      · exact ih _ _

theorem combineUnlessOpposed (fallback : Effect) (tally : Tally) :
    R _ (combineUnlessOpposed fallback tally children)
      (combineUnlessOpposed fallback tally children') := by
  induction h generalizing tally with
  | nil => exact hR.pure _
  | cons first _ ih =>
      refine hR.bind first.evaluate fun result => ?_
      dsimp only
      split
      · exact hR.pure _
      · exact ih _

theorem combineFirstApplicable :
    R _ (combineFirstApplicable children) (combineFirstApplicable children') := by
  induction h with
  | nil => exact hR.pure _
  | cons first _ ih =>
      refine hR.bind first.evaluate fun result => ?_
      split
      · exact ih
      · exact hR.pure _

theorem combineOnlyOneApplicable {found : Option (Candidate m)} {found' : Option (Candidate n)}
    (hfound : Option.Rel (Candidate.Related R) found found') :
    R _ (combineOnlyOneApplicable found children) (combineOnlyOneApplicable found' children') := by
  induction h generalizing found found' with
  | nil =>
      cases hfound with
      | none => exact hR.pure _
      | some child => exact child.evaluate
  | cons first _ ih =>
      refine hR.bind first.applies fun outcome => ?_
      rcases outcome with error | _ | _
      · exact hR.pure _
      · exact ih hfound
      · cases hfound with
        | none => exact ih (.some first)
        | some child => exact hR.pure _

theorem combineLegacyOverrides (winner : Effect) (level : Level) (tally : Tally)
    (seen : LegacySeen) :
    R _ (combineLegacyOverrides winner level tally seen children)
      (combineLegacyOverrides winner level tally seen children') := by
  induction h generalizing tally seen with
  | nil => exact hR.pure _
  | cons first _ ih =>
      refine hR.bind first.evaluate fun result => ?_
      dsimp only
      split
      · exact hR.pure _
      · rw [first.effect]
        exact ih _ _

/-- Every method combines related children to related results. -/
theorem combine (method : Method) : R _ (method.combine children) (method.combine children') := by
  cases method with
  | overrides winner => exact hR.combineOverrides h winner _ _
  | unlessOpposed fallback => exact hR.combineUnlessOpposed h fallback _
  | firstApplicable => exact hR.combineFirstApplicable h
  | onlyOneApplicable => exact hR.combineOnlyOneApplicable h .none
  | legacyOverrides winner level => exact hR.combineLegacyOverrides h winner level _ _

/-! ### Nodes -/

/-- A policy or a policy set with related children is evaluated alike. -/
theorem node (kind : PolicyKind) {header : PolicyHeader}
    (hlookups : ∀ lookup ∈ header.lookups, facade.Related R facade' lookup)
    (hstack : stack.Alike stack' (header.depths stack.frame)) :
    R _ (evaluateNode facade stack kind header children)
      (evaluateNode facade' stack' kind header children') := by
  simp only [PolicyHeader.lookups, List.forall_mem_append] at hlookups
  rcases hlookups with ⟨⟨htarget, hobligations⟩, hadvice⟩
  have hcombine := hR.combine h header.algorithm.method
  refine hR.bind (hR.bind (hR.target htarget) fun outcome => ?_) fun result => ?_
  · cases outcome with
    | holds literals => exact hcombine
    | fails => exact hR.pure _
    | indeterminate error =>
        dsimp only
        split
        · exact hR.pure _
        · exact hR.bind hcombine fun _ => hR.pure _
  · refine hR.bind (hR.attachObligations result hobligations hadvice hstack) fun attached => ?_
    split <;> exact hR.pure _

end

/-- Policies are evaluated alike. -/
theorem policy {policy : Policy}
    (h : ∀ lookup ∈ (PolicyTree.policy policy).lookups, facade.Related R facade' lookup)
    (hstack : stack.Alike stack' (policy.depths stack.frame)) :
    R _ (policy.evaluate facade stack) (policy.evaluate facade' stack') := by
  rw [PolicyTree.lookups, List.forall_mem_append] at h
  rw [Policy.depths] at hstack
  refine hR.node ?_ .policy h.1 (hstack.mono (List.subset_append_left _ _))
  rw [List.forall₂_map_left_iff, List.forall₂_map_right_iff, List.forall₂_same]
  intro child hchild
  have hrule : stack.Alike stack'
      ((child.element.depths stack.frame).map (stack.frame .rule + ·)) :=
    hstack.mono fun _ h => List.mem_append_right _ (List.mem_flatMap.2 ⟨child, hchild, h⟩)
  exact hR.rule (List.forall_mem_flatMap.1 h.2 child hchild) hrule.enter

end Simulation

/-! ## Trees -/

/-- Whether two ways to follow references do so with related computations. -/
structure Following.Related (R : ∀ α : Type, m α → n α → Prop) (following : Following m)
    (following' : Following n) (target : PolicyReference) : Prop where
  evaluate (stack : Stack) :
    R _ (following.evaluate stack target) (following'.evaluate stack target)
  applies : R _ (following.applies target) (following'.applies target)

namespace PolicyTree

/-- Whether two facades answer every lookup in a tree, and in what references in it stand for, with
related computations. -/
def LooksAlike (R : ∀ α : Type, m α → n α → Prop) (source : PolicySource) (facade : Facade m)
    (facade' : Facade n) (tree : PolicyTree) : Prop :=
  ∀ node, Occurs source node tree → ∀ lookup ∈ node.lookups, facade.Related R facade' lookup

variable {source : PolicySource} {tree : PolicyTree}

theorem LooksAlike.child {header : PolicyHeader} {children : List (Child PolicyTree)}
    (h : (policySet header children).LooksAlike R source facade facade') :
    ∀ child ∈ children, child.element.LooksAlike R source facade facade' :=
  fun _ hchild node hnode => h node (.child hchild hnode)

theorem LooksAlike.resolved {target : PolicyReference}
    (h : (reference target).LooksAlike R source facade facade')
    (hresolved : source.resolve target = .ok tree) : tree.LooksAlike R source facade facade' :=
  fun node hnode => h node (.reference hresolved hnode)

theorem Occurs.trans {node inner : PolicyTree} (h : Occurs source inner tree)
    (hinner : Occurs source node inner) : Occurs source node tree := by
  induction h with
  | self => exact hinner
  | child mem _ ih => exact .child mem ih
  | reference resolved _ ih => exact .reference resolved ih

end PolicyTree

namespace Simulation

variable {source : PolicySource} {following : Following m} {following' : Following n}

theorem targetApplies (hR : Simulation R) {tree : PolicyTree}
    (hlook : tree.LooksAlike R source facade facade')
    (hfollow : ∀ target, PolicyTree.Occurs source (.reference target) tree →
      following.Related R following' target) :
    R _ (tree.appliesWith facade following) (tree.appliesWith facade' following') := by
  cases tree with
  | policy p =>
      refine hR.bind (hR.target fun lookup hlookup => hlook _ .self lookup ?_) fun _ => hR.pure _
      simp only [PolicyTree.lookups, PolicyHeader.lookups, List.mem_append, hlookup, true_or]
  | policySet header children =>
      refine hR.bind (hR.target fun lookup hlookup => hlook _ .self lookup ?_) fun _ => hR.pure _
      simp only [PolicyTree.lookups, PolicyHeader.lookups, List.mem_append, hlookup, true_or]
  | reference target => exact (hfollow target .self).applies

mutual

/-- Trees are evaluated alike, if the references in them are followed alike: by recursion on the
tree, as it is evaluated. -/
theorem tree (hR : Simulation R) (stack : Stack) :
    ∀ tree : PolicyTree, tree.LooksAlike R source facade facade' →
      (∀ target, PolicyTree.Occurs source (.reference target) tree →
        following.Related R following' target) →
      R _ (tree.evaluateWith facade following stack) (tree.evaluateWith facade' following' stack)
  | .policy p, hlook, _ => by
      rw [PolicyTree.evaluateWith, PolicyTree.evaluateWith]
      refine hR.guarded rfl _ (hR.policy ?_ (.refl _ _))
      exact hlook _ .self
  | .policySet header children, hlook, hfollow => by
      rw [PolicyTree.evaluateWith, PolicyTree.evaluateWith]
      refine hR.guarded rfl _ (hR.node (candidates hR _ children hlook.child ?_) .policySet
        (hlook _ .self) (.refl _ _))
      exact fun child hchild target htarget => hfollow target (.child hchild htarget)
  | .reference target, _, hfollow => by
      rw [PolicyTree.evaluateWith, PolicyTree.evaluateWith]
      exact hR.guarded rfl _ ((hfollow target .self).evaluate stack)

theorem candidates (hR : Simulation R) (stack : Stack) :
    ∀ children : List (Child PolicyTree),
      (∀ child ∈ children, child.element.LooksAlike R source facade facade') →
      (∀ child ∈ children, ∀ target,
        PolicyTree.Occurs source (.reference target) child.element →
        following.Related R following' target) →
      List.Forall₂ (Candidate.Related R)
        (PolicyTree.candidatesWith facade following stack children)
        (PolicyTree.candidatesWith facade' following' stack children)
  | [], _, _ => by
      rw [PolicyTree.candidatesWith, PolicyTree.candidatesWith]
      exact .nil
  | ⟨element, _⟩ :: rest, hlook, hfollow => by
      rw [List.forall_mem_cons] at hlook hfollow
      rw [PolicyTree.candidatesWith, PolicyTree.candidatesWith]
      refine .cons ⟨?_, ?_, rfl⟩ (candidates hR stack rest hlook.2 hfollow.2)
      · exact tree hR stack element hlook.1 hfollow.1
      · exact hR.targetApplies hlook.1 hfollow.1

end

/-! ## Evaluations -/

variable (hR : Simulation R) (source : PolicySource) (maxDepth : Nat) (stack : Stack)

include hR

/-- References are followed alike: by induction on how many may still be opened. -/
theorem follow (left : Nat) {target : PolicyReference}
    (hlook : (PolicyTree.reference target).LooksAlike R source facade facade') :
    Following.Related R ((Evaluation.mk facade source maxDepth stack).follow left)
      ((Evaluation.mk facade' source maxDepth stack).follow left) target := by
  induction left generalizing target with
  | zero => exact ⟨fun _ => hR.pure _, hR.pure _⟩
  | succ left ih =>
      cases hresolved : source.resolve target with
      | error error =>
          constructor <;> intros <;> simp only [Evaluation.follow, hresolved] <;> exact hR.pure _
      | ok tree =>
          have htree := hlook.resolved hresolved
          have hinner : ∀ inner, PolicyTree.Occurs source (.reference inner) tree →
              Following.Related R ((Evaluation.mk facade source maxDepth stack).follow left)
                ((Evaluation.mk facade' source maxDepth stack).follow left) inner :=
            fun inner h => ih fun node hnode => htree node (h.trans hnode)
          constructor <;> intros <;> simp only [Evaluation.follow, hresolved]
          · exact hR.tree _ tree htree hinner
          · exact hR.targetApplies htree hinner

section

variable {tree : PolicyTree} (hlook : tree.LooksAlike R source facade facade')

include hlook

theorem evaluate : R _ ((Evaluation.mk facade source maxDepth stack).evaluate tree)
    ((Evaluation.mk facade' source maxDepth stack).evaluate tree) :=
  hR.tree stack tree hlook fun _ h =>
    hR.follow source maxDepth stack _ fun node hnode => hlook node (h.trans hnode)

theorem applies : R _ ((Evaluation.mk facade source maxDepth stack).applies tree)
    ((Evaluation.mk facade' source maxDepth stack).applies tree) :=
  hR.targetApplies hlook fun _ h =>
    hR.follow source maxDepth stack _ fun node hnode => hlook node (h.trans hnode)

end

theorem combineRoots (algorithm : Algorithm) {roots : List PolicyTree}
    (hlook : ∀ tree ∈ roots, tree.LooksAlike R source facade facade') :
    R _ ((Evaluation.mk facade source maxDepth stack).combineRoots algorithm roots)
      ((Evaluation.mk facade' source maxDepth stack).combineRoots algorithm roots) := by
  refine hR.combine ?_ algorithm.method
  rw [List.forall₂_map_left_iff, List.forall₂_map_right_iff, List.forall₂_same]
  intro tree htree
  exact ⟨hR.evaluate source maxDepth stack (hlook tree htree),
    hR.applies source maxDepth stack (hlook tree htree), rfl⟩

end Simulation

end

end Xacml
