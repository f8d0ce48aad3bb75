import Xacml.Normal.Expr
import Xacml.Proofs.Normal.Targets

/-!
# Loading written expressions

When the definitions of a scope are replaced by the written forms of what they were loaded as, every
expression that was loaded is loaded from its written form, and the same variables are known before
and after it.

* `Loading.Repeats` says so of one computation, if the other scope has the variables that are known
  then in their written forms (`Scope.Rewrites`),
* `Loading.Adds` says that a computation defines no name that is open,
* `Scope.loadExpr_repeats` and `Scope.loadVariables_repeats` are the results, and
  `Scope.rewrites_of_loadVariables` shows that their condition holds within a policy.
-/

namespace Xacml

/-! ## Computations -/

namespace Loading

variable {α β : Type}

theorem exists_of_run_bind {x : Loading α} {f : α → Loading β} {b : β}
    {known known'' : List VariableDefinition} (h : (x >>= f).run known = .ok (b, known'')) :
    ∃ a known', x.run known = .ok (a, known') ∧ (f a).run known' = .ok (b, known'') := by
  rw [StateT.run_bind] at h
  rcases exists_of_bind_eq_ok h with ⟨⟨a, known'⟩, hx, hf⟩
  exact ⟨a, known', hx, hf⟩

theorem run_bind_of_eq {x : Loading α} {f : α → Loading β} {a : α}
    {known known' : List VariableDefinition} (h : x.run known = .ok (a, known')) :
    (x >>= f).run known = (f a).run known' := by
  rw [StateT.run_bind, h]
  rfl

theorem run_ofExcept_eq_ok {x : Except LoadError α} {a : α} {known known' : List VariableDefinition}
    (h : (ofExcept x).run known = .ok (a, known')) : x = .ok a ∧ known' = known := by
  cases x with
  | ok b =>
      cases h
      exact ⟨rfl, rfl⟩
  | error error => cases h

theorem run_get_bind {f : List VariableDefinition → Loading β} {known : List VariableDefinition} :
    (get >>= f).run known = (f known).run known :=
  rfl

theorem exists_of_run_ofExcept_bind {x : Except LoadError α} {f : α → Loading β} {b : β}
    {known known' : List VariableDefinition} (h : (ofExcept x >>= f).run known = .ok (b, known')) :
    ∃ a, x = .ok a ∧ (f a).run known = .ok (b, known') := by
  cases x with
  | ok a => exact ⟨a, rfl, h⟩
  | error error => cases h

theorem run_ofExcept_bind_of_eq {x : Except LoadError α} {f : α → Loading β} {a : α}
    {known : List VariableDefinition} (h : x = .ok a) :
    (ofExcept x >>= f).run known = (f a).run known := by
  rw [h]
  rfl

/-! ## Open names -/

/-- Whether a computation adds definitions after those that are known, and none of an open name. -/
def Adds (opened : List String) (x : Loading α) : Prop :=
  ∀ known a known', x.run known = .ok (a, known') →
    ∃ more, known' = known ++ more ∧ ∀ definition ∈ more, definition.id ∉ opened

namespace Adds

variable {opened : List String}

theorem pure (a : α) : Adds opened (pure a : Loading α) := by
  intro known b known' hrun
  cases hrun
  exact ⟨[], (List.append_nil known).symm, fun _ hmem => nomatch hmem⟩

theorem ofExcept (x : Except LoadError α) : Adds opened (ofExcept x) := by
  cases x with
  | ok a => exact .pure a
  | error error => exact fun _ _ _ hrun => nomatch hrun

theorem bind {x : Loading α} {f : α → Loading β} (h : Adds opened x)
    (hf : ∀ a, Adds opened (f a)) : Adds opened (x >>= f) := by
  intro known b known'' hrun
  rcases exists_of_run_bind hrun with ⟨a, known', hx, hrest⟩
  rcases h known a known' hx with ⟨more, rfl, hmore⟩
  rcases hf a _ b known'' hrest with ⟨evenMore, rfl, hevenMore⟩
  exact ⟨more ++ evenMore, List.append_assoc .., List.forall_mem_append.2 ⟨hmore, hevenMore⟩⟩

theorem isPrefix {x : Loading α} (h : Adds opened x) {known known' : List VariableDefinition}
    {a : α} (hrun : x.run known = .ok (a, known')) : known <+: known' := by
  rcases h known a known' hrun with ⟨more, rfl, -⟩
  exact List.prefix_append known more

theorem find?_eq_none {x : Loading α} (h : Adds opened x) {known known' : List VariableDefinition}
    {a : α} (hrun : x.run known = .ok (a, known')) {id : String} (hid : id ∈ opened)
    (hknown : known.find? (fun loaded => loaded.id = id) = none) :
    known'.find? (fun loaded => loaded.id = id) = none := by
  rcases h known a known' hrun with ⟨more, rfl, hmore⟩
  rw [List.find?_append, hknown, Option.none_or, List.find?_eq_none]
  intro d hd heq
  have hname : d.id = id := by simpa using heq
  exact hmore d hd (hname ▸ hid)

end Adds

end Loading

/-! ## Repetition -/

/-- Whether a scope defines every known variable of another one by its written form. -/
def Scope.Rewrites (again scope : Scope) (known : List VariableDefinition) : Prop :=
  ∀ id loaded, scope.definition? id ≠ none →
    known.find? (fun loaded => loaded.id = id) = some loaded →
      again.definition? id = some loaded.written

theorem Scope.Rewrites.of_isPrefix {again scope : Scope} {known known' : List VariableDefinition}
    (h : again.Rewrites scope known') (hstart : known <+: known') : again.Rewrites scope known :=
  fun id loaded hid hloaded => h id loaded hid (hstart.find?_eq_some hloaded)

namespace Loading

variable {α β γ : Type} {scope again : Scope}

/-- Whether the results of a computation are given again by the computations that are made of
them, with the same variables known before and after, if the other scope has these variables in
their written forms. -/
def Repeats (scope again : Scope) (x : Loading α) (x' : α → Loading α) : Prop :=
  ∀ known a known', x.run known = .ok (a, known') →
    known <+: known' ∧ (again.Rewrites scope known' → (x' a).run known = .ok (a, known'))

namespace Repeats

theorem pure {a : α} {x' : α → Loading α} (h : x' a = pure a) :
    Repeats scope again (pure a) x' := by
  intro known b known' hrun
  cases hrun
  refine ⟨List.prefix_refl _, fun _ => ?_⟩
  rw [h]
  rfl

theorem ofExcept {x : Except LoadError α} {x' : α → Loading α}
    (h : ∀ a, x = .ok a → x' a = Pure.pure a) : Repeats scope again (ofExcept x) x' := by
  cases x with
  | ok a => exact .pure (h a rfl)
  | error error => exact fun _ _ _ hrun => nomatch hrun

/-- Two computations in turn are repeated in turn. -/
theorem seq {x : Loading α} {y : Loading β} {x' : α → Loading α} {y' : β → Loading β}
    {make : α → β → γ} {whole : γ → Loading γ} (hx : Repeats scope again x x')
    (hy : Repeats scope again y y')
    (hwhole : ∀ a b, whole (make a b) = do
      let a ← x' a
      let b ← y' b
      return make a b) :
    Repeats scope again
      (do
        let a ← x
        let b ← y
        return make a b)
      whole := by
  intro known result known'' hrun
  rcases exists_of_run_bind hrun with ⟨a, known', ha, hrun⟩
  rcases exists_of_run_bind hrun with ⟨b, known'', hb, hrun⟩
  cases hrun
  rcases hx known a known' ha with ⟨hstart, hback⟩
  rcases hy known' b known'' hb with ⟨hstart', hback'⟩
  refine ⟨hstart.trans hstart', fun hknown => ?_⟩
  rw [hwhole, run_bind_of_eq (hback (hknown.of_isPrefix hstart')), run_bind_of_eq (hback' hknown)]
  rfl

end Repeats

end Loading

/-! ## Expressions -/

theorem Expr.eq_apply_of_application? {f : Function} {args : List Expr} {e : Expr}
    (h : application? f args = .ok e) : ∃ returns, e = .apply f args returns := by
  rcases exists_of_map_eq_ok h with ⟨returns, -, rfl⟩
  exact ⟨returns, rfl⟩

namespace Document.Expr

variable {functions : FunctionRegistry} {resolve resolve' : String → Loading Xacml.Expr}
variable {scope again : Scope} {opened : List String}

mutual

theorem load_adds (hresolve : ∀ id, (resolve id).Adds opened) :
    ∀ e : Document.Expr, (load functions resolve e).Adds opened
  | value _ | designator _ | selector _ | function _ => .ofExcept _
  | variableReference id => by
      simp only [load]
      exact (hresolve id).bind fun _ => .pure _
  | apply functionId args => by
      simp only [load]
      refine Loading.Adds.bind (.ofExcept _) fun f => ?_
      exact (loadAll_adds hresolve args).bind fun _ => .ofExcept _

theorem loadAll_adds (hresolve : ∀ id, (resolve id).Adds opened) :
    ∀ list : List Document.Expr, (loadAll functions resolve list).Adds opened
  | [] => .pure _
  | e :: rest => by
      simp only [loadAll]
      refine (load_adds hresolve e).bind fun _ => ?_
      exact (loadAll_adds hresolve rest).bind fun _ => .pure _

end

mutual

theorem load_repeats (hresolve : ∀ id, (resolve id).Repeats scope again fun _ => resolve' id) :
    ∀ e : Document.Expr, (∀ typed ∈ e.literals, typed.PrintsBack) →
      (load functions resolve e).Repeats scope again fun e => load functions resolve' e.written
  | value v, hprints => .ofExcept fun e h => by
      rcases exists_of_map_eq_ok h with ⟨value, hvalue, rfl⟩
      have hback := loadValue_ofValue (hprints v (List.mem_singleton.2 rfl)) hvalue
      simp only [Xacml.Expr.written, load, hback]
      rfl
  | designator d, _ => .ofExcept fun e h => by
      rcases exists_of_map_eq_ok h with ⟨d, -, rfl⟩
      simp only [Xacml.Expr.written, load, d.load_written]
      rfl
  | selector s, _ => .ofExcept fun e h => by
      rcases exists_of_map_eq_ok h with ⟨s, -, rfl⟩
      simp only [Xacml.Expr.written, load, s.load_written]
      rfl
  | function id, _ => .ofExcept fun e h => by
      rcases exists_of_map_eq_ok h with ⟨f, hf, rfl⟩
      simp only [Xacml.Expr.written, load, loadFunction_id hf]
      rfl
  | variableReference id, _ => by
      intro known e known' hrun
      simp only [load] at hrun
      rcases Loading.exists_of_run_bind hrun with ⟨definition, known', hdefinition, hrun⟩
      cases hrun
      -- The definition may be loaded only now, so more can be known after a reference than before.
      rcases hresolve id known definition known' hdefinition with ⟨hstart, hback⟩
      refine ⟨hstart, fun hknown => ?_⟩
      simp only [Xacml.Expr.written, load]
      rw [Loading.run_bind_of_eq (hback hknown)]
      rfl
  | apply functionId args, hprints => by
      intro known e known'' hrun
      simp only [load] at hrun
      rcases Loading.exists_of_run_ofExcept_bind hrun with ⟨f, hf, hrest⟩
      rcases Loading.exists_of_run_bind hrest with ⟨args', known', hargs, hlast⟩
      rcases Loading.run_ofExcept_eq_ok hlast with ⟨happlication, rfl⟩
      rcases loadAll_repeats hresolve args hprints _ _ _ hargs with ⟨hstart, hback⟩
      refine ⟨hstart, fun hknown => ?_⟩
      -- The input check is made on the same arguments again, so it gives the same application.
      rcases Xacml.Expr.eq_apply_of_application? (eq_ok_of_mapError happlication) with
        ⟨returns, rfl⟩
      simp only [Xacml.Expr.written, load]
      rw [Loading.run_ofExcept_bind_of_eq (loadFunction_id hf),
        Loading.run_bind_of_eq (hback hknown), happlication]
      rfl

theorem loadAll_repeats (hresolve : ∀ id, (resolve id).Repeats scope again fun _ => resolve' id) :
    ∀ list : List Document.Expr, (∀ typed ∈ literalsAll list, typed.PrintsBack) →
      (loadAll functions resolve list).Repeats scope again fun list =>
        loadAll functions resolve' (Xacml.Expr.writtenAll list)
  | [], _ => .pure rfl
  | e :: rest, hprints => by
      rcases List.forall_mem_append.1 hprints with ⟨hprints, hprints'⟩
      simp only [loadAll]
      refine (load_repeats hresolve e hprints).seq (loadAll_repeats hresolve rest hprints') ?_
      intro e rest
      simp only [Xacml.Expr.writtenAll, loadAll]

end

end Document.Expr

/-! ## Variables -/

namespace Scope

section

variable {scope : Scope} {left : Nat} {opened : List String} {id : String} {e : Expr}
variable {known known' : List VariableDefinition}

/-- A variable is found among those that are known, or its definition is loaded and then known. -/
theorem resolveWithin_cases (h : (scope.resolveWithin left opened id).run known = .ok (e, known')) :
    (∃ loaded, known.find? (fun loaded => loaded.id = id) = some loaded ∧ e = loaded.expr ∧
        known' = known) ∨
      ∃ written more less, known.find? (fun loaded => loaded.id = id) = none ∧ id ∉ opened ∧
        scope.definition? id = some written ∧ left = less + 1 ∧
        (written.expr.load scope.functions (scope.resolveWithin less (id :: opened))).run known =
          .ok (e, more) ∧ known' = more ++ [⟨id, e⟩] := by
  unfold resolveWithin at h
  rcases Loading.exists_of_run_bind h with ⟨found, _, hget, h⟩
  cases hget
  split at h
  case h_1 loaded hloaded =>
    cases h
    exact .inl ⟨loaded, hloaded, rfl, rfl⟩
  case h_2 hunknown =>
    split at h
    case isTrue => cases h
    case isFalse hopened =>
      split at h
      case h_1 => cases h
      case h_2 => cases h
      case h_3 written less hwritten _ =>
        rcases Loading.exists_of_run_bind h with ⟨expr, more, hload, h⟩
        cases h
        refine .inr ⟨written, more, less, hunknown, ?_, hwritten, rfl, hload, rfl⟩
        simpa using hopened

theorem resolveWithin_of_known {loaded : VariableDefinition}
    (h : known.find? (fun loaded => loaded.id = id) = some loaded) :
    (scope.resolveWithin left opened id).run known = .ok (loaded.expr, known) := by
  unfold resolveWithin
  rw [Loading.run_get_bind, h]
  rfl

theorem resolveWithin_of_load {written : Document.VariableDefinition}
    (hunknown : known.find? (fun loaded => loaded.id = id) = none) (hopened : id ∉ opened)
    (hwritten : scope.definition? id = some written)
    (hload : (written.expr.load scope.functions
      (scope.resolveWithin left (id :: opened))).run known = .ok (e, known')) :
    (scope.resolveWithin (left + 1) opened id).run known = .ok (e, known' ++ [⟨id, e⟩]) := by
  unfold resolveWithin
  rw [Loading.run_get_bind, hunknown]
  simp only [List.contains_eq_mem, hopened, decide_false, Bool.false_eq_true, if_false, hwritten]
  rw [Loading.run_bind_of_eq hload]
  rfl

/-- Loading the definition of a variable opens its name and no other one. -/
theorem resolveWithin_adds (scope : Scope) (left : Nat) (opened : List String) (id : String) :
    (scope.resolveWithin left opened id).Adds opened := by
  induction left generalizing opened id with
  | zero =>
      intro known e known' hrun
      rcases resolveWithin_cases hrun with ⟨_, -, -, rfl⟩ | ⟨_, _, _, -, -, -, hleft, -⟩
      · exact ⟨[], (List.append_nil _).symm, fun _ hmem => nomatch hmem⟩
      · cases hleft
  | succ left ih =>
      intro known e known' hrun
      rcases resolveWithin_cases hrun with
        ⟨_, -, -, rfl⟩ | ⟨written, more, less, -, hopened, -, hleft, hload, rfl⟩
      · exact ⟨[], (List.append_nil _).symm, fun _ hmem => nomatch hmem⟩
      · cases hleft
        -- The definition is loaded with its name open, so it adds no other one under that name.
        rcases Document.Expr.load_adds (ih (id :: opened)) written.expr known e more hload with
          ⟨added, rfl, hadded⟩
        refine ⟨added ++ [⟨id, e⟩], List.append_assoc .., List.forall_mem_append.2 ⟨?_, ?_⟩⟩
        · exact fun d hd hmem => hadded d hd (List.mem_cons_of_mem _ hmem)
        · simpa using hopened

/-- A variable whose definition has just been loaded was not known before. -/
theorem find?_of_load {written : Document.VariableDefinition}
    (hunknown : known.find? (fun loaded => loaded.id = id) = none)
    (hload : (written.expr.load scope.functions
      (scope.resolveWithin left (id :: opened))).run known = .ok (e, known')) :
    (known' ++ [(⟨id, e⟩ : VariableDefinition)]).find? (fun loaded => loaded.id = id) =
      some ⟨id, e⟩ := by
  -- The name is open while its definition is loaded, so nothing becomes known under it then.
  have hnone := (Document.Expr.load_adds (scope.resolveWithin_adds left (id :: opened))
    written.expr).find?_eq_none hload List.mem_cons_self hunknown
  rw [List.find?_append, hnone]
  simp

/-- A variable is known once it has been found. -/
theorem find?_of_resolveWithin
    (h : (scope.resolveWithin left opened id).run known = .ok (e, known')) :
    known'.find? (fun loaded => loaded.id = id) = some ⟨id, e⟩ := by
  rcases resolveWithin_cases h with
    ⟨loaded, hloaded, rfl, rfl⟩ | ⟨written, more, less, hunknown, -, -, -, hload, rfl⟩
  · have hid : loaded.id = id := by simpa using List.find?_some hloaded
    rw [hloaded, ← hid]
  · exact find?_of_load hunknown hload

end

/-! ## Scopes -/

/-- Whether a scope has the functions and the number of definitions of another one, whose literals
print back. -/
structure IsRewrittenAs (scope again : Scope) : Prop where
  functions : again.functions = scope.functions
  count : again.definitions.length = scope.definitions.length
  printsBack : ∀ definition ∈ scope.definitions,
    ∀ typed ∈ definition.expr.literals, typed.PrintsBack

section

variable {scope again : Scope}

theorem resolveWithin_repeats (h : scope.IsRewrittenAs again) (left : Nat)
    (opened : List String) (id : String) :
    (scope.resolveWithin left opened id).Repeats scope again fun _ =>
      again.resolveWithin left opened id := by
  induction left generalizing opened id with
  | zero =>
      intro known e known' hrun
      rcases resolveWithin_cases hrun with ⟨_, hloaded, rfl, rfl⟩ | ⟨_, _, _, -, -, -, hleft, -⟩
      · exact ⟨List.prefix_refl _, fun _ => resolveWithin_of_known hloaded⟩
      · cases hleft
  | succ left ih =>
      intro known e known' hrun
      rcases resolveWithin_cases hrun with ⟨_, hloaded, rfl, rfl⟩ |
        ⟨written, more, less, hunknown, hopened, hwritten, hleft, hload, rfl⟩
      · exact ⟨List.prefix_refl _, fun _ => resolveWithin_of_known hloaded⟩
      · cases hleft
        have hprints := h.printsBack written (List.mem_of_find?_eq_some hwritten)
        have hrepeats := @Document.Expr.load_repeats scope.functions _ _ _ _ (ih (id :: opened))
          written.expr hprints
        rcases hrepeats known e more hload with ⟨hstart, hback⟩
        refine ⟨hstart.trans (List.prefix_append _ _), fun hknown => ?_⟩
        -- Once loaded, the variable is known, and the other scope defines it by its written form.
        have hdefinition := hknown id _ (by simp [hwritten]) (find?_of_load hunknown hload)
        refine resolveWithin_of_load hunknown hopened hdefinition ?_
        rw [h.functions]
        exact hback (hknown.of_isPrefix (List.prefix_append _ _))

theorem resolve_repeats (h : scope.IsRewrittenAs again) (id : String) :
    (scope.resolve id).Repeats scope again fun _ => again.resolve id := by
  unfold resolve
  rw [h.count]
  exact resolveWithin_repeats h _ _ _

/-- A loaded expression is loaded from its written form. -/
theorem loadExpr_repeats (h : scope.IsRewrittenAs again) {written : Document.Expr}
    (hprints : ∀ typed ∈ written.literals, typed.PrintsBack) :
    (scope.loadExpr written).Repeats scope again fun e => again.loadExpr e.written := by
  unfold loadExpr
  rw [h.functions]
  exact Document.Expr.load_repeats (resolve_repeats h) written hprints

/-- The loaded variables are loaded from their written forms. -/
theorem loadVariables_repeats (h : scope.IsRewrittenAs again)
    (definitions : List Document.VariableDefinition) :
    (scope.loadVariables definitions).Repeats scope again fun loaded =>
      again.loadVariables (loaded.map VariableDefinition.written) := by
  induction definitions with
  | nil => exact .pure rfl
  | cons definition rest ih => exact (resolve_repeats h definition.variableId).seq ih fun _ _ => rfl

/-! ## The variables of a policy -/

theorem loadVariables_adds (scope : Scope) (definitions : List Document.VariableDefinition) :
    (scope.loadVariables definitions).Adds [] := by
  induction definitions with
  | nil => exact .pure _
  | cons definition rest ih =>
      exact (resolveWithin_adds scope _ _ _).bind fun _ => ih.bind fun _ => .pure _

/-- Every variable is known in the end as what its definition was loaded as. -/
theorem forall₂_of_loadVariables {definitions : List Document.VariableDefinition}
    {known known' loaded final : List VariableDefinition}
    (h : (scope.loadVariables definitions).run known = .ok (loaded, known'))
    (hfinal : known' <+: final) :
    List.Forall₂
      (fun definition value => value.id = definition.variableId ∧
        final.find? (fun loaded => loaded.id = value.id) = some value)
      definitions loaded := by
  induction definitions generalizing known known' loaded with
  | nil =>
      cases h
      exact .nil
  | cons definition rest ih =>
      rw [loadVariables] at h
      rcases Loading.exists_of_run_bind h with ⟨e, between, he, h⟩
      rcases Loading.exists_of_run_bind h with ⟨more, known', hmore, h⟩
      cases h
      refine .cons ⟨rfl, ?_⟩ (ih hmore hfinal)
      -- What is known about a variable stays, whatever is loaded after it.
      have hstart := (scope.loadVariables_adds rest).isPrefix hmore
      exact (hstart.trans hfinal).find?_eq_some (find?_of_resolveWithin he)

/-- The variables of a policy are known in the end by what their written forms define. -/
theorem rewrites_of_loadVariables {functions functions' : FunctionRegistry}
    {definitions : List Document.VariableDefinition} {known loaded final : List VariableDefinition}
    (h : (loadVariables ⟨functions, definitions⟩ definitions).run [] = .ok (loaded, known))
    (hfinal : known <+: final) :
    Rewrites ⟨functions', loaded.map VariableDefinition.written⟩ ⟨functions, definitions⟩
      final := by
  intro id value hid hvalue
  have hrelated := forall₂_of_loadVariables h hfinal
  rcases Option.ne_none_iff_exists'.1 hid with ⟨definition, hdefinition⟩
  have hname : definition.variableId = id := by simpa using List.find?_some hdefinition
  rcases exists_right_of_forall₂ hrelated (List.mem_of_find?_eq_some hdefinition) with
    ⟨found, hmem, hfound, -⟩
  -- The first variable of the name is the one that is known under it.
  cases hfirst : loaded.find? (fun value => value.id = id) with
  | none =>
      have hother := List.find?_eq_none.1 hfirst found hmem
      exact absurd (hfound.trans hname) (by simpa using hother)
  | some first =>
      have hfirstName : first.id = id := by simpa using List.find?_some hfirst
      rcases exists_left_of_forall₂ hrelated (List.mem_of_find?_eq_some hfirst) with
        ⟨_, -, -, hknown⟩
      rw [hfirstName, hvalue] at hknown
      cases hknown
      rw [definition?, List.find?_map]
      exact congrArg (Option.map VariableDefinition.written) hfirst

theorem duplicate?_congr {definitions more : List Document.VariableDefinition}
    (h : definitions.map Document.VariableDefinition.variableId =
      more.map Document.VariableDefinition.variableId) (seen : List String) :
    duplicate? seen definitions = duplicate? seen more := by
  induction definitions generalizing more seen with
  | nil =>
      rw [List.map_nil, eq_comm, List.map_eq_nil_iff] at h
      rw [h]
  | cons definition rest ih =>
      cases more with
      | nil => cases h
      | cons other more =>
          rw [List.map_cons, List.map_cons, List.cons.injEq] at h
          rw [duplicate?, duplicate?, h.1, ih h.2]

/-- The variables of a policy have the names of their definitions. -/
theorem names_of_loadVariables {definitions : List Document.VariableDefinition}
    {known known' loaded : List VariableDefinition}
    (h : (scope.loadVariables definitions).run known = .ok (loaded, known')) :
    (loaded.map VariableDefinition.written).map Document.VariableDefinition.variableId =
      definitions.map Document.VariableDefinition.variableId := by
  have hrelated := forall₂_of_loadVariables h (List.prefix_refl known')
  have hnames : List.Forall₂ Eq (loaded.map VariableDefinition.id)
      (definitions.map Document.VariableDefinition.variableId) := by
    rw [List.forall₂_map_left_iff, List.forall₂_map_right_iff]
    exact (hrelated.imp fun _ _ h => h.1).flip
  rw [List.forall₂_eq_eq_eq] at hnames
  rw [List.map_map]
  exact hnames

end

end Scope

end Xacml
