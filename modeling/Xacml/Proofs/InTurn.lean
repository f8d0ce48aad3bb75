import Mathlib.Data.List.Basic

/-!
# Asking items in turn

Several loops ask items one by one and stop once the answers settle the matter.  Asking may have
effects, which are those of a computation over a state, the world.

* `Asked` says which items have been asked: the first ones, each once and in order, until the
  answers are enough or there are no more items,
* `InTurn` says that a loop asks its items in turn, and ends with the first answer that settles the
  matter,
* `InTurn.run`: such a loop has asked exactly those items when it ends, and what it comes to does
  not depend on the others.
-/

namespace Xacml

/-- A computation goes on in the world that its first part leaves. -/
theorem run_bind_eq {σ α β : Type} {x : StateM σ α} {f : α → StateM σ β} {world next : σ} {a : α}
    (h : x.run world = (a, next)) : (x >>= f).run world = (f a).run next := by
  rw [StateT.run_bind, h]
  rfl

/-- Items that have given answers are a first one, with the first answer, and others. -/
theorem exists_of_run_mapM {σ α β : Type} {ask : α → StateM σ β} {items : List α} {world after : σ}
    {answer : β} {answers : List β}
    (h : (items.mapM ask).run world = (answer :: answers, after)) :
    ∃ item rest next, items = item :: rest ∧ (ask item).run world = (answer, next) ∧
      (rest.mapM ask).run next = (answers, after) := by
  cases items with
  | nil => cases h
  | cons item rest =>
      generalize hask : (ask item).run world = asked
      rcases asked with ⟨first, next⟩
      generalize hrest : (rest.mapM ask).run next = others
      rcases others with ⟨answers', after'⟩
      rw [List.mapM_cons, run_bind_eq hask, run_bind_eq hrest] at h
      cases h
      exact ⟨item, rest, next, rfl, hask, hrest⟩

/-- Only no items give no answers. -/
theorem eq_nil_of_run_mapM {σ α β : Type} {ask : α → StateM σ β} {items : List α}
    {world after : σ} (h : (items.mapM ask).run world = ([], after)) :
    items = [] ∧ world = after := by
  cases items with
  | nil =>
      cases h
      exact ⟨rfl, rfl⟩
  | cons item rest =>
      rw [List.mapM_cons, StateT.run_bind] at h
      cases h

/-! ## Items that have been asked -/

section

variable {σ α β : Type}

/-- The first `n` items have been asked in their order, each once: their answers did not settle the
matter before the last of them, and they do now, unless there are no more items.  The world after
that is the world that these questions have left. -/
structure Asked (settled : List β → Bool) (ask : α → StateM σ β) (items : List α) (world : σ)
    (n : Nat) (answers : List β) (after : σ) : Prop where
  bound : n ≤ items.length
  run : ((items.take n).mapM ask).run world = (answers, after)
  before : ∀ k < n, settled (answers.take k) = false
  ended : settled answers = true ∨ n = items.length

namespace Asked

variable {settled : List β → Bool} {ask : α → StateM σ β} {item : α} {items : List α}
  {world next after : σ} {n : Nat} {answer : β} {answers : List β}

/-- No item is asked where there is none, or where the matter is settled. -/
theorem none (h : settled [] = true ∨ items = []) : Asked settled ask items world 0 [] world where
  bound := Nat.zero_le _
  run := rfl
  before _ hk := absurd hk (Nat.not_lt_zero _)
  ended := h.imp_right fun hitems => by rw [hitems, List.length_nil]

/-- The next item is asked where the matter is open. -/
theorem one (hopen : settled [] = false) (hask : (ask item).run world = (answer, next))
    (hrest : Asked (fun rest => settled (answer :: rest)) ask items next n answers after) :
    Asked settled ask (item :: items) world (n + 1) (answer :: answers) after where
  bound := Nat.succ_le_succ hrest.bound
  run := by
    rw [List.take_succ_cons, List.mapM_cons, run_bind_eq hask, run_bind_eq hrest.run]
    rfl
  before k hk := by
    cases k with
    | zero => exact hopen
    | succ k => exact hrest.before k (Nat.lt_of_succ_lt_succ hk)
  ended := hrest.ended.imp_right fun h => congrArg (· + 1) h

/-- Where the matter is not settled, every item has been asked. -/
theorem all_of_open (h : Asked settled ask items world n answers after)
    (hopen : settled answers = false) : n = items.length := by
  refine h.ended.resolve_left fun hsettled => ?_
  rw [hopen] at hsettled
  cases hsettled

/-- What does not depend on the items that follow where the matter is settled does not depend on the
items that have not been asked. -/
theorem others_irrelevant {γ : Type} (h : Asked settled ask items world n answers after)
    (f : List α → γ) {c : γ}
    (hf : ∀ others, settled answers = true ∨ others = [] → f (items.take n ++ others) = c) :
    f items = c ∧
      ∀ others, (n = items.length → others = []) → f (items.take n ++ others) = f items := by
  have hany (others : List α) (hothers : n = items.length → others = []) :
      f (items.take n ++ others) = c :=
    hf others (h.ended.imp_right hothers)
  have hself : f items = c := by
    have hdrop := hany (items.drop n) fun hn => by rw [hn, List.drop_length]
    rwa [List.take_append_drop] at hdrop
  exact ⟨hself, fun others hothers => (hany others hothers).trans hself.symm⟩

end Asked

end

/-! ## Loops that ask in turn -/

section

variable {m : Type → Type} [Monad m] {S α β R : Type}

/-- A loop asks its items in turn: it ends with the first answer that settles the matter, or at the
end of the items, and has a state that it goes on from otherwise. -/
structure InTurn (settles : β → Bool) (ask : α → m β) (loop : S → List α → m R) : Prop where
  nil (state : S) : ∃ result, loop state [] = pure result
  cons (state : S) (item : α) : ∃ (conclude : β → R) (next : β → S), ∀ rest,
    loop state (item :: rest) = do
      let answer ← ask item
      if settles answer then pure (conclude answer) else loop (next answer) rest

end

/-- A loop that asks in turn has asked the first items when it ends, up to the first answer that
settles the matter.  If there is one, any others may follow, with the same result and the same
world. -/
theorem InTurn.run {σ S α β R : Type} {settles : β → Bool} {ask : α → StateM σ β}
    {loop : S → List α → StateM σ R} (h : InTurn settles ask loop) (state : S) (items : List α)
    (world : σ) : ∃ n answers after result,
      Asked (fun answers => answers.any settles) ask items world n answers after ∧
        ∀ others, answers.any settles = true ∨ others = [] →
          (loop state (items.take n ++ others)).run world = (result, after) := by
  -- Each answer leaves a state and a world, and the loop goes on with the other items from these.
  induction items generalizing state world with
  | nil =>
      rcases h.nil state with ⟨result, hloop⟩
      refine ⟨0, [], world, result, .none (.inr rfl), fun others hothers => ?_⟩
      rcases hothers with hsettled | rfl
      · cases hsettled
      · rw [List.take_nil, List.append_nil, hloop]
        rfl
  | cons item rest ih =>
      rcases h.cons state item with ⟨conclude, next, hloop⟩
      generalize hask : (ask item).run world = asked
      rcases asked with ⟨answer, world'⟩
      have hrun (others : List α) : (loop state (item :: others)).run world =
          (if settles answer then pure (conclude answer) else loop (next answer) others).run
            world' := by
        rw [hloop, run_bind_eq hask]
      cases hsettles : settles answer with
      | true =>
          refine ⟨1, [answer], world', conclude answer, .one rfl hask (.none ?_), ?_⟩
          · exact .inl (by simp [hsettles])
          · intro others _
            rw [List.take_succ_cons, List.take_zero, List.cons_append, hrun, hsettles]
            rfl
      | false =>
          rcases ih (next answer) world' with ⟨n, answers, after, result, hasked, hrest⟩
          -- An answer that leaves the matter open does not count among the answers.
          have hany (rest : List β) : (answer :: rest).any settles = rest.any settles := by
            simp [hsettles]
          refine ⟨n + 1, answer :: answers, after, result, .one rfl hask ?_, ?_⟩
          · simpa only [hany] using hasked
          · intro others hothers
            rw [hany] at hothers
            rw [List.take_succ_cons, List.cons_append, hrun, hsettles]
            exact hrest others hothers

/-- Other items in place of those that a loop has not asked would not change how it ends. -/
theorem InTurn.asks_first {σ S α β R : Type} {settles : β → Bool} {ask : α → StateM σ β}
    {loop : S → List α → StateM σ R} (h : InTurn settles ask loop) (state : S) (items : List α)
    (world : σ) : ∃ n answers after result,
      Asked (fun answers => answers.any settles) ask items world n answers after ∧
        (loop state items).run world = (result, after) ∧
        ∀ others, (n = items.length → others = []) →
          (loop state (items.take n ++ others)).run world = (loop state items).run world := by
  rcases h.run state items world with ⟨n, answers, after, result, hasked, hrun⟩
  exact ⟨n, answers, after, result, hasked,
    hasked.others_irrelevant (fun items => (loop state items).run world) hrun⟩

end Xacml
