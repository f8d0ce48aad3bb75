import Xacml.Load.Expr
import Xacml.Proofs.Typing.Ending

/-!
# Accepted expressions

An expression comes into being by loading, or by applying a function to expressions that it takes.

* `Expr.Checked` says that the arguments of every application in an expression, and in the
  definitions that it refers to, have been checked,
* `Expr.Accepted` are the checked expressions and the loaded ones,
* `Scope.loadExpr_gives` and `Expr.Accepted.checked`: only checked expressions are loaded.
-/

namespace Xacml

/-- Whether every application in an expression has passed the check of its function. -/
inductive Expr.Checked : Expr → Prop
  | value (v : Value) : Checked (.value v)
  | designator (d : Designator) : Checked (.designator d)
  | selector (s : Selector) : Checked (.selector s)
  | function (f : Function) : Checked (.function f)
  | reference (name : String) {definition : Expr} (h : Checked definition) :
      Checked (.reference name definition)
  | application {f : Function} {args : List Expr} {e : Expr} (hargs : ∀ a ∈ args, Checked a)
      (h : application? f args = .ok e) : Checked e

/-! ## Loading -/

namespace Loading

/-- Whether a computation gives results of a kind, and adds only checked definitions. -/
def Gives {α : Type} (holds : α → Prop) (x : Loading α) : Prop :=
  ∀ known a known', (∀ definition ∈ known, definition.expr.Checked) →
    x.run known = .ok (a, known') →
      holds a ∧ ∀ definition ∈ known', definition.expr.Checked

namespace Gives

variable {α β : Type} {holds : α → Prop} {holds' : β → Prop}

theorem pure {a : α} (h : holds a) : Gives holds (pure a : Loading α) := by
  intro known b known' hknown hrun
  cases hrun
  exact ⟨h, hknown⟩

theorem bind {x : Loading α} {f : α → Loading β} (h : Gives holds x)
    (hf : ∀ a, holds a → Gives holds' (f a)) : Gives holds' (x >>= f) := by
  intro known b known'' hknown hrun
  rw [StateT.run_bind] at hrun
  rcases exists_of_bind_eq_ok hrun with ⟨⟨a, known'⟩, hx, hrest⟩
  rcases h known a known' hknown hx with ⟨ha, hknown'⟩
  exact hf a ha known' b known'' hknown' hrest

theorem fail (error : LoadError) : Gives holds (fail error : Loading α) := by
  intro known a known' _ hrun
  cases hrun

theorem ofExcept {x : Except LoadError α} (h : ∀ a, x = .ok a → holds a) :
    Gives holds (ofExcept x) := by
  cases x with
  | ok a => exact pure (h a rfl)
  | error error => exact fail error

/-- The definitions known so far are checked. -/
theorem get : Gives (fun known : List VariableDefinition => ∀ d ∈ known, d.expr.Checked)
    (get : Loading (List VariableDefinition)) := by
  intro known a known' hknown hrun
  cases hrun
  exact ⟨hknown, hknown⟩

theorem add {definition : VariableDefinition} (h : definition.expr.Checked) :
    Gives (fun _ => True) (modify fun known => known ++ [definition] : Loading PUnit) := by
  intro known a known' hknown hrun
  cases hrun
  refine ⟨True.intro, fun d hd => ?_⟩
  rcases List.mem_append.1 hd with hd | hd
  · exact hknown d hd
  · exact List.mem_singleton.1 hd ▸ h

end Gives

end Loading

namespace Document.Expr

variable {functions : FunctionRegistry} {resolve : String → Loading Xacml.Expr}

mutual

theorem load_gives (hresolve : ∀ id, (resolve id).Gives Xacml.Expr.Checked) :
    ∀ e : Document.Expr, (load functions resolve e).Gives Xacml.Expr.Checked
  | value v => .ofExcept fun e h => by
      rcases exists_of_map_eq_ok h with ⟨v, -, rfl⟩
      exact .value v
  | designator d => .ofExcept fun e h => by
      rcases exists_of_map_eq_ok h with ⟨d, -, rfl⟩
      exact .designator d
  | selector s => .ofExcept fun e h => by
      rcases exists_of_map_eq_ok h with ⟨s, -, rfl⟩
      exact .selector s
  | function id => .ofExcept fun e h => by
      rcases exists_of_map_eq_ok h with ⟨f, -, rfl⟩
      exact .function f
  | variableReference id => by
      simp only [load]
      exact (hresolve id).bind fun definition h => .pure (.reference id h)
  | apply functionId args => by
      simp only [load]
      refine Loading.Gives.bind (Loading.Gives.ofExcept fun _ _ => True.intro) fun f _ => ?_
      refine (loadAll_gives hresolve args).bind fun args hargs => ?_
      refine .ofExcept fun e h => ?_
      cases happlication : Xacml.Expr.application? f args with
      | ok e' =>
          rw [happlication] at h
          obtain rfl := Except.ok.inj h
          exact .application hargs happlication
      | error error =>
          rw [happlication] at h
          cases h

theorem loadAll_gives (hresolve : ∀ id, (resolve id).Gives Xacml.Expr.Checked) :
    ∀ list : List Document.Expr,
      (loadAll functions resolve list).Gives fun list => ∀ e ∈ list, e.Checked
  | [] => .pure fun _ h => nomatch h
  | e :: rest => by
      simp only [loadAll]
      refine (load_gives hresolve e).bind fun e he => ?_
      refine (loadAll_gives hresolve rest).bind fun rest hrest => ?_
      exact .pure (List.forall_mem_cons.2 ⟨he, hrest⟩)

end

end Document.Expr

namespace Scope

variable (scope : Scope)

theorem resolveWithin_gives (left : Nat) (opened : List String) (id : String) :
    (scope.resolveWithin left opened id).Gives Expr.Checked := by
  induction left generalizing opened id with
  | zero =>
      unfold resolveWithin
      refine Loading.Gives.get.bind fun known hknown => ?_
      split
      case h_1 loaded hfind => exact .pure (hknown loaded (List.mem_of_find?_eq_some hfind))
      case h_2 =>
        split
        · exact .fail _
        · cases scope.definition? id with
          | none => exact .fail _
          | some written => exact .fail _
  | succ left ih =>
      unfold resolveWithin
      refine Loading.Gives.get.bind fun known hknown => ?_
      split
      case h_1 loaded hfind => exact .pure (hknown loaded (List.mem_of_find?_eq_some hfind))
      case h_2 =>
        split
        · exact .fail _
        · cases scope.definition? id with
          | none => exact .fail _
          | some written =>
              refine (Document.Expr.load_gives (ih (id :: opened)) written.expr).bind ?_
              intro expr hexpr
              exact (Loading.Gives.add hexpr).bind fun _ _ => .pure hexpr

theorem loadExpr_gives (written : Document.Expr) :
    (scope.loadExpr written).Gives Expr.Checked :=
  Document.Expr.load_gives (scope.resolveWithin_gives _ _) written

end Scope

/-- Whether an expression is one that loading accepts, or that the checks of functions accept. -/
def Expr.Accepted (e : Expr) : Prop :=
  e.Checked ∨
    ∃ (scope : Scope) (written : Document.Expr) (known : List VariableDefinition),
      (scope.loadExpr written).run [] = .ok (e, known)

theorem Expr.Accepted.checked {e : Expr} (h : e.Accepted) : e.Checked := by
  rcases h with h | ⟨scope, written, known, hrun⟩
  · exact h
  · exact (scope.loadExpr_gives written [] e known (fun _ h => nomatch h) hrun).1

end Xacml
