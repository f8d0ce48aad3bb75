import Xacml.Normal.Target
import Xacml.Proofs.Normal.Literals
import Xacml.Proofs.Normal.Names

/-!
# Loading written targets

A loaded target is loaded from its written form.  A target that holds for every request is not
written, and so it comes back as no target.

* `Target.normal` is what a target comes back as,
* `Document.loadTarget?_written` shows this for targets that may be absent.
-/

namespace Xacml

/-! ## Lookups -/

theorem Designator.load_written (d : Designator) : d.written.load = .ok d := by
  simp only [Document.Designator.load, Designator.written, loadDataType_uri]
  rfl

theorem Selector.load_written (s : Selector) : s.written.load = .ok s := by
  simp only [Document.Selector.load, Selector.written, loadDataType_uri]
  rfl

theorem Lookup.load_written (lookup : Lookup) : lookup.written.load = .ok lookup := by
  cases lookup with
  | designator d =>
      rw [written, Document.Lookup.load, d.load_written]
      rfl
  | selector s =>
      rw [written, Document.Lookup.load, s.load_written]
      rfl

/-! ## Matches -/

theorem Match.parts_of_make? {f : Function} {value : Value} {lookup : Lookup} {mt : Match}
    (h : make? f value lookup = .ok mt) : mt = ⟨f, value, lookup⟩ := by
  rw [make?] at h
  rcases exists_of_bind_eq_ok h with ⟨returns, -, h⟩
  split at h
  · cases h
    rfl
  · cases h

namespace Document

variable {functions : FunctionRegistry}

theorem Match.load_written {written : Match} {mt : Xacml.Match} (hprints : written.value.PrintsBack)
    (h : written.load functions = .ok mt) : mt.written.load functions = .ok mt := by
  rw [load] at h
  rcases exists_of_bind_eq_ok h with ⟨lookup, -, h⟩
  rcases exists_of_bind_eq_ok h with ⟨f, hf, h⟩
  rcases exists_of_bind_eq_ok h with ⟨value, hvalue, h⟩
  obtain rfl := Xacml.Match.parts_of_make? (eq_ok_of_mapError h)
  simp only [load, Xacml.Match.written, Lookup.load_written, loadFunction_id hf,
    loadValue_ofValue hprints hvalue]
  exact h

theorem AllOf.load_written {written : AllOf} {group : Xacml.AllOf}
    (hprints : ∀ typed ∈ written.literals, typed.PrintsBack)
    (h : written.load functions = .ok group) : group.written.load functions = .ok group := by
  rw [load] at h
  rcases exists_of_bind_eq_ok h with ⟨conjuncts, hconjuncts, h⟩
  cases h
  have hback := mapM_map_eq_ok hconjuncts fun mt hmt _ =>
    Match.load_written (hprints _ (List.mem_map_of_mem hmt))
  rw [load, Xacml.AllOf.written, hback]
  rfl

/-- Conjunctions are loaded from their written forms. -/
theorem AllOf.mapM_load_written {written : List AllOf} {groups : List Xacml.AllOf}
    (hprints : ∀ typed ∈ written.flatMap AllOf.literals, typed.PrintsBack)
    (h : written.mapM (load functions) = .ok groups) :
    (groups.map Xacml.AllOf.written).mapM (load functions) = .ok groups :=
  mapM_map_eq_ok h fun group hgroup _ =>
    load_written (List.forall_mem_flatMap.1 hprints group hgroup)

theorem AnyOf.load_written {written : AnyOf} {group : Xacml.AnyOf}
    (hprints : ∀ typed ∈ written.literals, typed.PrintsBack)
    (h : written.load functions = .ok group) : group.written.load functions = .ok group := by
  rw [load] at h
  rcases exists_of_bind_eq_ok h with ⟨disjuncts, hdisjuncts, h⟩
  cases h
  rw [load, Xacml.AnyOf.written, AllOf.mapM_load_written hprints hdisjuncts]
  rfl

theorem LegacyTarget.load_written {written : LegacyTarget} {target : Xacml.LegacyTarget}
    (hprints : ∀ typed ∈ written.literals, typed.PrintsBack)
    (h : written.load functions = .ok target) : target.written.load functions = .ok target := by
  simp only [literals, List.forall_mem_append] at hprints
  rcases hprints with ⟨⟨⟨hsubjects, hresources⟩, hactions⟩, henvironments⟩
  rw [load] at h
  rcases exists_of_bind_eq_ok h with ⟨subjects, hload, h⟩
  rcases exists_of_bind_eq_ok h with ⟨resources, hload', h⟩
  rcases exists_of_bind_eq_ok h with ⟨actions, hload'', h⟩
  rcases exists_of_bind_eq_ok h with ⟨environments, hload''', h⟩
  cases h
  simp only [load, Xacml.LegacyTarget.written, AllOf.mapM_load_written hsubjects hload,
    AllOf.mapM_load_written hresources hload', AllOf.mapM_load_written hactions hload'',
    AllOf.mapM_load_written henvironments hload''']
  rfl

end Document

/-! ## Targets -/

/-- What a target comes back as: every target that holds for every request is the same. -/
def Target.normal (target : Target) : Target :=
  if target.matchesAny then .any else target

theorem Target.isNone_written? (target : Target) : target.written?.isNone = target.matchesAny := by
  unfold written?
  cases hany : target.matchesAny with
  | true => rfl
  | false => cases target <;> rfl

theorem Target.written?_getD (target : Option Target) :
    (target.getD .any).written? = target.bind written? := by
  cases target <;> rfl

theorem Target.getD_filter (target : Option Target) :
    (target.filter fun target => !target.matchesAny).getD .any = (target.getD .any).normal := by
  cases target with
  | none => rfl
  | some target =>
      unfold normal
      cases h : target.matchesAny <;> simp [Option.filter, h]

namespace Document

variable {functions : FunctionRegistry} {schema : SchemaVersion}

theorem Target.load_written {written again : Target} {target : Xacml.Target}
    (hprints : ∀ typed ∈ written.literals, typed.PrintsBack)
    (h : written.load functions schema = .ok target) (hagain : target.written? = some again) :
    again.load functions schema = .ok target := by
  unfold Xacml.Target.written? at hagain
  split at hagain
  case isTrue => cases hagain
  case isFalse =>
    cases written with
    | anyOf conjuncts =>
        simp only [load] at h
        split at h
        case isTrue => cases h
        case isFalse hlegacy =>
          rcases exists_of_bind_eq_ok h with ⟨loaded, hloaded, h⟩
          cases h
          cases hagain
          have hback := mapM_map_eq_ok hloaded fun group hgroup _ =>
            AnyOf.load_written (List.forall_mem_flatMap.1 hprints group hgroup)
          rw [load, if_neg hlegacy, hback]
          rfl
    | legacy sections =>
        simp only [load] at h
        split at h
        case isTrue hlegacy =>
          rcases exists_of_bind_eq_ok h with ⟨loaded, hloaded, h⟩
          cases h
          cases hagain
          rw [load, if_pos hlegacy, LegacyTarget.load_written hprints hloaded]
          rfl
        case isFalse => cases h

/-- A target that holds for every request comes back as no target, and every other one as it
was. -/
theorem loadTarget?_written {written : Option Target} {target : Option Xacml.Target}
    (hprints : ∀ typed ∈ written.toList.flatMap Target.literals, typed.PrintsBack)
    (h : loadTarget? functions schema written = .ok target) :
    loadTarget? functions schema (target.bind Xacml.Target.written?) =
      .ok (target.filter fun target => !target.matchesAny) := by
  cases written with
  | none =>
      cases h
      rfl
  | some written =>
      rcases exists_of_map_eq_ok h with ⟨target, hload, rfl⟩
      have hany := target.isNone_written?
      rw [Option.bind_some]
      cases hagain : target.written? with
      | none =>
          rw [hagain] at hany
          simp [loadTarget?, Option.filter, ← hany]
      | some again =>
          rw [hagain] at hany
          rw [loadTarget?, Target.load_written (by simpa using hprints) hload hagain]
          simp [Option.filter, ← hany, Except.map]

end Document
end Xacml
