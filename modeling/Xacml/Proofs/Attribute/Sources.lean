import Xacml.Attribute.Facade
import Xacml.Proofs.InTurn

/-!
# Where attributes are found

The values of an attribute come from the first source that knows it: the request, then the clock,
then the resolvers in their order.  Asking a resolver may change a world, so that it matters which
of them are asked.

* `Request.Has` says which values a request has for a query, and `Clock.Tells` what the clock knows,
* `Concludes` says what answers of resolvers come to: those that know nothing are passed over, and
  the first other one is the last to be given,
* `askEach_asked` and `askEach_run`: resolvers are asked in turn up to such an answer, and the
  outcome depends on the answers alone,
* `lookup_first_source`: the order of the sources, for attributes and for paths.
-/

namespace Xacml

/-! ## Requests and clocks -/

theorem Request.Attribute.answers_iff {candidate : Request.Attribute} {query : AttributeQuery} :
    candidate.answers query = true ↔
      candidate.id = query.attributeId ∧
        ∀ issuer ∈ query.issuer, candidate.issuer = some issuer := by
  rw [answers, Bool.and_eq_true, beq_iff_eq]
  cases query.issuer <;> simp

/-- Whether a request has a value for a query: it is one of the type among the values of an
attribute with the category, with the identifier and, if the query names one, with the issuer. -/
def Request.Has (request : Request) (query : AttributeQuery) (value : Value) : Prop :=
  ∃ category ∈ request.categories, category.uri = query.category ∧
    ∃ candidate ∈ category.attributes, candidate.id = query.attributeId ∧
      (∀ issuer ∈ query.issuer, candidate.issuer = some issuer) ∧
        value ∈ candidate.values ∧ value.type = query.dataType

theorem Request.mem_find_iff {request : Request} {query : AttributeQuery} {value : Value} :
    value ∈ (request.find query).members ↔ request.Has query value := by
  simp only [find, valuesFor, List.mem_filter, List.mem_flatMap, Attribute.answers_iff, beq_iff_eq,
    decide_eq_true_eq]
  constructor
  · rintro ⟨⟨candidate, ⟨⟨category, ⟨hcategory, huri⟩, hcandidate⟩, hid, hissuer⟩, hvalue⟩, htype⟩
    exact ⟨category, hcategory, huri, candidate, hcandidate, hid, hissuer, hvalue, htype⟩
  · rintro ⟨category, hcategory, huri, candidate, hcandidate, hid, hissuer, hvalue, htype⟩
    exact ⟨⟨candidate, ⟨⟨category, ⟨hcategory, huri⟩, hcandidate⟩, hid, hissuer⟩, hvalue⟩, htype⟩

theorem Request.isEmpty_find_iff {request : Request} {query : AttributeQuery} :
    (request.find query).isEmpty = true ↔ ∀ value, ¬request.Has query value := by
  rw [Bag.isEmpty, List.isEmpty_iff, List.eq_nil_iff_forall_not_mem]
  simp only [mem_find_iff]

namespace Clock

/-- The time attributes of the environment, each asked for by its own type and by no issuer. -/
inductive Tells (clock : Clock) : AttributeQuery → Value → Prop
  | time : clock.Tells
      ⟨environment, "urn:oasis:names:tc:xacml:1.0:environment:current-time", .time, none⟩
      (.time clock.now.time)
  | date : clock.Tells
      ⟨environment, "urn:oasis:names:tc:xacml:1.0:environment:current-date", .date, none⟩
      (.date clock.now.date)
  | dateTime : clock.Tells
      ⟨environment, "urn:oasis:names:tc:xacml:1.0:environment:current-dateTime", .dateTime, none⟩
      (.dateTime clock.now)

theorem value?_eq_some_iff {clock : Clock} {query : AttributeQuery} {value : Value} :
    clock.value? query = some value ↔ clock.Tells query value := by
  constructor
  · intro h
    rcases query with ⟨category, key, type, issuer⟩
    rw [value?] at h
    split at h
    case isFalse => cases h
    case isTrue hquery =>
      rcases hquery with ⟨rfl, rfl⟩
      rcases Option.filter_eq_some_iff.1 h with ⟨hvalue, htype⟩
      obtain rfl := of_decide_eq_true htype
      unfold valueOf? at hvalue
      dsimp only at hvalue
      split at hvalue <;> cases hvalue <;> constructor
  · rintro (_ | _ | _) <;> rfl

theorem Tells.type_eq {clock : Clock} {query : AttributeQuery} {value : Value}
    (h : clock.Tells query value) : value.type = query.dataType := by
  cases h <;> rfl

end Clock

/-! ## Answers of resolvers -/

/-- Whether an answer settles a lookup of values of a type.  Only the empty bag of that type leaves
it open. -/
def settles (type : DataType) : Except EvaluationError Bag → Bool
  | .ok bag => decide (bag.type ≠ type) || !bag.isEmpty
  | .error _ => true

theorem Bag.eq_empty {bag : Bag} {type : DataType} (htype : bag.type = type)
    (hempty : bag.isEmpty = true) : bag = .empty type := by
  rcases bag with ⟨_, members, _⟩
  obtain rfl : members = [] := List.isEmpty_iff.1 hempty
  subst htype
  rfl

theorem settles_eq_false_iff {type : DataType} {answer : Except EvaluationError Bag} :
    settles type answer = false ↔ answer = .ok (.empty type) := by
  constructor
  · intro h
    cases answer with
    | error error => cases h
    | ok bag =>
        simp only [settles, Bool.or_eq_false_iff, decide_eq_false_iff_not, Bool.not_eq_false',
          ne_eq, not_not] at h
        exact congrArg Except.ok (Bag.eq_empty h.1 h.2)
  · rintro rfl
    simp [settles, Bag.empty, Bag.isEmpty]

/-- The reason for refusing a bag of another type. -/
def mistypedReason (actual wanted : DataType) : String :=
  let actual := actual.name
  let wanted := wanted.name
  s!"resolver returned a bag of {actual} where {wanted} was requested"

/-- What the answers that resolvers have given to a lookup of values of a type come to.  An answer
that leaves the lookup open is passed over; any other one is the last, and is the outcome if it is a
bag of that type.  If none is, the outcome is the empty bag. -/
inductive Concludes (type : DataType) :
    List (Except EvaluationError Bag) → Except EvaluationError Bag → Prop
  | nothing : Concludes type [] (.ok (.empty type))
  | passed {answers : List (Except EvaluationError Bag)} {outcome : Except EvaluationError Bag}
      (hrest : Concludes type answers outcome) :
      Concludes type (.ok (.empty type) :: answers) outcome
  | found {bag : Bag} (htype : bag.type = type) (hmembers : bag.members ≠ []) :
      Concludes type [.ok bag] (.ok bag)
  | failed (error : EvaluationError) :
      Concludes type [.error error] (.error (.of (.resolution error.message)))
  | mistyped {bag : Bag} (htype : bag.type ≠ type) :
      Concludes type [.ok bag] (.error (.of (.resolution (mistypedReason bag.type type))))

namespace Concludes

variable {type : DataType} {answer outcome : Except EvaluationError Bag}
  {answers : List (Except EvaluationError Bag)}

/-- An answer that settles the lookup is turned into its outcome. -/
theorem of_settle? (h : settle? type answer = some outcome) : Concludes type [answer] outcome := by
  unfold settle? at h
  split at h
  case h_1 error =>
    cases h
    exact .failed error
  case h_2 bag =>
    split at h
    case isTrue htype =>
      cases h
      exact .mistyped htype
    case isFalse htype =>
      split at h
      case isTrue => cases h
      case isFalse hmembers =>
        cases h
        exact .found (not_not.1 htype) (by simpa [Bag.isEmpty] using hmembers)

/-- The outcome is a bag of the type, or the error that resolving has failed. -/
theorem sound (h : Concludes type answers outcome) :
    (∃ bag, outcome = .ok bag ∧ bag.type = type) ∨
      ∃ reason, outcome = .error (.of (.resolution reason)) := by
  induction h with
  | nothing => exact .inl ⟨_, rfl, rfl⟩
  | passed hrest ih => exact ih
  | found htype hmembers => exact .inl ⟨_, rfl, htype⟩
  | failed error => exact .inr ⟨_, rfl⟩
  | mistyped htype => exact .inr ⟨_, rfl⟩

end Concludes

theorem settle?_eq_none_iff {type : DataType} {answer : Except EvaluationError Bag} :
    settle? type answer = none ↔ settles type answer = false := by
  cases answer with
  | error error => simp [settle?, settles]
  | ok bag =>
      by_cases htype : bag.type = type
      · cases hempty : bag.isEmpty <;> simp [settle?, settles, htype, hempty]
      · simp [settle?, settles, htype]

/-! ## Asking resolvers -/

section

variable {σ : Type} {type : DataType}
  {ask : Resolver (StateM σ) → StateM σ (Except EvaluationError Bag)} {world after : σ}
  {answers : List (Except EvaluationError Bag)} {outcome : Except EvaluationError Bag}

/-- Where one resolver has answered, the lookup is settled, or the others are asked. -/
theorem run_askEach_cons {resolver : Resolver (StateM σ)} {rest : List (Resolver (StateM σ))}
    {next : σ} {answer : Except EvaluationError Bag}
    (hask : (ask resolver).run world = (answer, next)) :
    (askEach type ask (resolver :: rest)).run world =
      match settle? type answer with
      | some outcome => (outcome, next)
      | none => (askEach type ask rest).run next := by
  rw [askEach, run_bind_eq hask]
  cases settle? type answer <;> rfl

/-- Resolvers are asked in turn, up to the first one whose answer settles the lookup. -/
theorem askEach_asked (type : DataType)
    (ask : Resolver (StateM σ) → StateM σ (Except EvaluationError Bag))
    (resolvers : List (Resolver (StateM σ))) (world : σ) :
    ∃ n answers after outcome,
      Asked (fun answers => answers.any (settles type)) ask resolvers world n answers after ∧
        Concludes type answers outcome := by
  induction resolvers generalizing world with
  | nil => exact ⟨0, [], world, _, .none (.inr rfl), .nothing⟩
  | cons resolver rest ih =>
      generalize hask : (ask resolver).run world = asked
      rcases asked with ⟨answer, next⟩
      cases hsettled : settle? type answer with
      | some outcome =>
          have hsettles : settles type answer = true := by
            rw [← Bool.not_eq_false, ← settle?_eq_none_iff, hsettled]
            exact Option.some_ne_none outcome
          exact ⟨1, [answer], next, outcome, .one rfl hask (.none (.inl (by simp [hsettles]))),
            .of_settle? hsettled⟩
      | none =>
          rw [settle?_eq_none_iff] at hsettled
          rcases ih next with ⟨n, answers, after, outcome, hasked, hconcludes⟩
          refine ⟨n + 1, answer :: answers, after, outcome, .one rfl hask ?_, ?_⟩
          · simpa only [List.any_cons, hsettled, Bool.false_or] using hasked
          · rw [settles_eq_false_iff.1 hsettled]
            exact .passed hconcludes

/-- The answer that settles the lookup is the last one. -/
theorem run_askEach_last {answer : Except EvaluationError Bag}
    (hsettled : settle? type answer = some outcome) {first : List (Resolver (StateM σ))}
    (hfirst : (first.mapM ask).run world = ([answer], after))
    (others : List (Resolver (StateM σ))) :
    (askEach type ask (first ++ others)).run world = (outcome, after) := by
  rcases exists_of_run_mapM hfirst with ⟨resolver, rest, next, rfl, hask, hrest⟩
  rcases eq_nil_of_run_mapM hrest with ⟨rfl, rfl⟩
  rw [List.cons_append, run_askEach_cons hask, hsettled]

/-- The outcome depends on the answers alone.  After an answer that settles the lookup, any others
may follow. -/
theorem askEach_run (h : Concludes type answers outcome) {first others : List (Resolver (StateM σ))}
    (hfirst : (first.mapM ask).run world = (answers, after))
    (hothers : answers.any (settles type) = true ∨ others = []) :
    (askEach type ask (first ++ others)).run world = (outcome, after) := by
  -- Only an answer that is passed over leads to another resolver, in the world that it leaves.
  induction h generalizing first world with
  | nothing =>
      rcases eq_nil_of_run_mapM hfirst with ⟨rfl, rfl⟩
      rcases hothers with hsettled | rfl
      · cases hsettled
      · rfl
  | passed hrest ih =>
      rcases exists_of_run_mapM hfirst with ⟨resolver, rest, next, rfl, hask, hmore⟩
      have hopen : settles type (.ok (.empty type)) = false := settles_eq_false_iff.2 rfl
      rw [List.any_cons, hopen, Bool.false_or] at hothers
      rw [List.cons_append, run_askEach_cons hask, settle?_eq_none_iff.2 hopen]
      exact ih hmore hothers
  | found htype hmembers =>
      refine run_askEach_last ?_ hfirst others
      rw [settle?, if_neg (not_not.2 htype), if_neg (by simpa [Bag.isEmpty] using hmembers)]
  | failed error => exact run_askEach_last rfl hfirst others
  | mistyped htype =>
      refine run_askEach_last ?_ hfirst others
      rw [settle?, if_pos htype]
      rfl

/-! ## Lookups -/

/-- Whether a lookup of values of a type takes the first answer of its resolvers that settles it.
It asks them in turn up to that answer, and any resolvers that have given the same answers up to it,
whatever others follow, lead to the same outcome. -/
def TakesFirstAnswer (type : DataType)
    (ask : Resolver (StateM σ) → StateM σ (Except EvaluationError Bag))
    (lookup : List (Resolver (StateM σ)) → StateM σ (Except EvaluationError Bag))
    (resolvers : List (Resolver (StateM σ))) (world : σ) : Prop :=
  ∃ n answers after outcome,
    Asked (fun answers => answers.any (settles type)) ask resolvers world n answers after ∧
      Concludes type answers outcome ∧ (lookup resolvers).run world = (outcome, after) ∧
      ∀ first others world' after', (first.mapM ask).run world' = (answers, after') →
        answers.any (settles type) = true ∨ others = [] →
          (lookup (first ++ others)).run world' = (outcome, after')

theorem takesFirstAnswer_askEach (type : DataType)
    (ask : Resolver (StateM σ) → StateM σ (Except EvaluationError Bag))
    (resolvers : List (Resolver (StateM σ))) (world : σ) :
    TakesFirstAnswer type ask (askEach type ask) resolvers world := by
  rcases askEach_asked type ask resolvers world with
    ⟨n, answers, after, outcome, hasked, hconcludes⟩
  have hothers : answers.any (settles type) = true ∨ resolvers.drop n = [] :=
    hasked.ended.imp_right fun hn => by rw [hn, List.drop_length]
  have hrun := askEach_run hconcludes hasked.run hothers
  rw [List.take_append_drop] at hrun
  exact ⟨n, answers, after, outcome, hasked, hconcludes, hrun,
    fun first others world' after' => askEach_run hconcludes⟩

/-- What a lookup of values of a type may come to: a bag of that type, or a failure to resolve the
values, which is an error in processing. -/
def IsOutcome (type : DataType) (outcome : Except EvaluationError Bag) : Prop :=
  (∃ bag, outcome = .ok bag ∧ bag.type = type) ∨
    ∃ error reason, outcome = .error error ∧ error.cause = .resolution reason ∧
      error.status.code = .processingError

theorem TakesFirstAnswer.isOutcome {lookup : List (Resolver (StateM σ)) →
    StateM σ (Except EvaluationError Bag)} {resolvers : List (Resolver (StateM σ))}
    (h : TakesFirstAnswer type ask lookup resolvers world) :
    IsOutcome type ((lookup resolvers).run world).1 := by
  rcases h with ⟨n, answers, after, outcome, -, hconcludes, hrun, -⟩
  rw [hrun]
  rcases hconcludes.sound with hbag | ⟨reason, rfl⟩
  · exact .inl hbag
  · exact .inr ⟨_, reason, rfl, rfl, rfl⟩

namespace Facade

variable (facade : Facade (StateM σ)) {query : AttributeQuery}

theorem find_of_request {value : Value} (h : facade.request.Has query value) :
    facade.find query = pure (.ok (facade.request.find query)) := by
  have hsome : (facade.request.find query).isEmpty = false := by
    rw [← Bool.not_eq_true, Request.isEmpty_find_iff]
    exact fun hnone => hnone value h
  simp only [find, hsome]
  rfl

theorem find_of_clock (hrequest : ∀ value, ¬facade.request.Has query value) {value : Value}
    (hclock : facade.clock.Tells query value) :
    facade.find query = pure (.ok (.singleton value)) := by
  simp only [find, Request.isEmpty_find_iff.2 hrequest, Clock.value?_eq_some_iff.2 hclock, if_true]

theorem find_of_resolvers (hrequest : ∀ value, ¬facade.request.Has query value)
    (hclock : ∀ value, ¬facade.clock.Tells query value) :
    facade.find query =
      askEach query.dataType (fun resolver => resolver.find query facade.request)
        facade.resolvers := by
  have hnone : facade.clock.value? query = none :=
    Option.eq_none_iff_forall_ne_some.2 fun value h => hclock value (Clock.value?_eq_some_iff.1 h)
  simp only [find, Request.isEmpty_find_iff.2 hrequest, hnone, if_true]

end Facade

end

/-- The values of an attribute are those that the request has for it, if it has any; no resolver is
asked then, whatever they are.  Nor is one if the request has none and the clock tells the value.
Otherwise, and whenever a path is followed, resolvers are asked in turn up to the first answer that
is not the empty bag of the type that is looked for.  That answer is the outcome if it is a bag of
this type, else resolving has failed, which is an error in processing. -/
theorem lookup_first_source {σ : Type} (facade : Facade (StateM σ)) (world : σ) :
    (∀ query : AttributeQuery,
      let lookup := fun resolvers => Facade.find { facade with resolvers } query
      (∀ value, value ∈ (facade.request.find query).members ↔ facade.request.Has query value) ∧
        ((∃ value, facade.request.Has query value) →
          ∀ resolvers, lookup resolvers = pure (.ok (facade.request.find query))) ∧
        ((∀ value, ¬facade.request.Has query value) →
          (∀ value, facade.clock.Tells query value →
            ∀ resolvers, lookup resolvers = pure (.ok (.singleton value))) ∧
          ((∀ value, ¬facade.clock.Tells query value) →
            TakesFirstAnswer query.dataType (fun resolver => resolver.find query facade.request)
              lookup facade.resolvers world)) ∧
        IsOutcome query.dataType ((facade.find query).run world).1) ∧
    ∀ query : PathQuery,
      TakesFirstAnswer query.dataType (fun resolver => resolver.select query facade.request)
          (fun resolvers => Facade.select { facade with resolvers } query) facade.resolvers world ∧
        IsOutcome query.dataType ((facade.select query).run world).1 := by
  constructor
  · intro query lookup
    have hresolvers (hrequest : ∀ value, ¬facade.request.Has query value)
        (hclock : ∀ value, ¬facade.clock.Tells query value) :
        TakesFirstAnswer query.dataType (fun resolver => resolver.find query facade.request)
          lookup facade.resolvers world := by
      have hlookup : lookup = askEach query.dataType fun resolver =>
          resolver.find query facade.request :=
        funext fun resolvers => Facade.find_of_resolvers { facade with resolvers } hrequest hclock
      rw [hlookup]
      exact takesFirstAnswer_askEach query.dataType _ facade.resolvers world
    refine ⟨fun value => Request.mem_find_iff, ?_, fun hrequest => ⟨?_, hresolvers hrequest⟩, ?_⟩
    · rintro ⟨value, hvalue⟩ resolvers
      exact Facade.find_of_request { facade with resolvers } hvalue
    · intro value hvalue resolvers
      exact Facade.find_of_clock { facade with resolvers } hrequest hvalue
    · by_cases hrequest : ∃ value, facade.request.Has query value
      · rcases hrequest with ⟨value, hvalue⟩
        rw [Facade.find_of_request facade hvalue]
        exact .inl ⟨_, rfl, rfl⟩
      · rw [not_exists] at hrequest
        by_cases hclock : ∃ value, facade.clock.Tells query value
        · rcases hclock with ⟨value, hvalue⟩
          rw [Facade.find_of_clock facade hrequest hvalue]
          exact .inl ⟨_, rfl, hvalue.type_eq⟩
        · exact (hresolvers hrequest (not_exists.1 hclock)).isOutcome
  · intro query
    have hselect := takesFirstAnswer_askEach query.dataType
      (fun resolver => resolver.select query facade.request) facade.resolvers world
    exact ⟨hselect, hselect.isOutcome⟩

end Xacml
