import StructuralCast.Proofs.Conversion

/-!
Contract: operations that run something unknown once at most.

`Conduct` describes an operation without knowing what it runs: what is run gets a request that fits,
its failure is the failure of the operation, and what the operation hands back stands in a given
relation to the value that was run for. Operations of this kind are put together from steps before and
after (`Conduct.precede`, `Conduct.follow`), and from holding an engine (`Conduct.holding`).

What is run may do anything to the world, as long as that stays settled: over the same registry, with
engines that keep nothing but what they have planned.
-/

namespace StructuralCast

open Step

variable {σ κ α β : Type} {registry : Registry} {world : World σ}

namespace World

/-- A world over a registry whose engines keep nothing but what they have planned over it. -/
structure Settled (registry : Registry) (world : World σ) : Prop where
  sameRegistry : world.registry = registry
  planned : ∀ id, world.Planned id

theorem Follows.settled {before after : World σ} (follows : Follows before after)
    (settled : before.Settled registry) : after.Settled registry :=
  ⟨follows.registry.trans settled.sameRegistry, fun id => follows.planned (settled.planned id)⟩

theorem follows_retain (world : World σ) (id : EngineId) : Follows world (world.retain id) :=
  world.follows_setEngine id _ fun _ => .single (.change (.owners _ _))

theorem follows_release (world : World σ) (id : EngineId) : Follows world (world.release id) :=
  world.follows_setEngine id _ fun _ => .single (.change (.owners _ _))

end World

/-- How an operation goes on in a world, for all that `runs` may be. -/
inductive Conduct (registry : Registry) (fits : κ → Prop) (hands : Value → α → Prop)
    (world : World σ) (operation : (κ → Action σ CallError Value) → Action σ CallError α) : Prop where
  | refuses (cause : CallError) (after : World σ) (follows : World.Follows world after)
      (always : ∀ runs, (operation runs).run world = (.error cause, after))
  | passes (request : κ) (fitting : fits request) (between : World σ)
      (follows : World.Follows world between)
      (finish : Except CallError Value × World σ → Except CallError α × World σ)
      (always : ∀ runs, (operation runs).run world = finish ((runs request).run between))
      (stopped : ∀ cause after, ∃ last, finish (.error cause, after) = (.error cause, last))
      (handed : ∀ value after answer last, after.Settled registry →
        finish (.ok value, after) = (.ok answer, last) →
        hands value answer ∧ World.Follows after last)

namespace Conduct

variable {fits : κ → Prop} {hands : Value → α → Prop} {hands' : Value → β → Prop}

theorem throw (cause : CallError) :
    Conduct registry fits hands world fun _ => (throw cause : Action σ CallError α) :=
  .refuses cause world (refl_of World.Follows world) fun _ => rfl

/-- Running something once, and nothing else. -/
theorem run {request : κ} (fitting : fits request) :
    Conduct registry fits Eq world fun runs : κ → Action σ CallError Value => runs request := by
  refine .passes request fitting world (refl_of World.Follows world) id (fun _ => rfl) ?_ ?_
  · exact fun cause after => ⟨after, rfl⟩
  · intro value after answer last _ finishes
    cases finishes
    exact ⟨rfl, refl_of World.Follows after⟩

/-- What is asked for may be less, and so may be promised. -/
theorem weaken {operation : (κ → Action σ CallError Value) → Action σ CallError α}
    {looser : κ → Prop} {promised : Value → α → Prop}
    (loosen : ∀ request, fits request → looser request)
    (promise : ∀ value answer, hands value answer → promised value answer)
    (conduct : Conduct registry fits hands world operation) :
    Conduct registry looser promised world operation := by
  cases conduct with
  | refuses cause after follows always => exact .refuses cause after follows always
  | passes request fitting between follows finish always stopped handed =>
      refine .passes request (loosen request fitting) between follows finish always stopped ?_
      intro value after answer last settled finishes
      obtain ⟨hands, toLast⟩ := handed value after answer last settled finishes
      exact ⟨promise value answer hands, toLast⟩

/-- A step before the operation. -/
theorem precede {step : Action σ CallError β}
    {next : β → (κ → Action σ CallError Value) → Action σ CallError α}
    (follows : Leads World.Follows world step)
    (rest : ∀ value between, step.run world = (.ok value, between) →
      Conduct registry fits hands between (next value)) :
    Conduct registry fits hands world fun runs => step >>= fun value => next value runs := by
  cases ran : step.run world with
  | mk outcome between =>
      have toBetween := follows.related_of_run ran
      cases outcome with
      | error cause =>
          refine .refuses cause between toBetween fun runs => ?_
          rw [run_bind, ran]
      | ok value =>
          cases rest value between ran with
          | refuses cause after further always =>
              refine .refuses cause after (toBetween.trans further) fun runs => ?_
              rw [run_bind, ran]
              exact always runs
          | passes request fitting middle further finish always stopped handed =>
              refine .passes request fitting middle (toBetween.trans further) finish ?_ stopped handed
              intro runs
              rw [run_bind, ran]
              exact always runs

/-- A step after the operation. -/
theorem follow {operation : (κ → Action σ CallError Value) → Action σ CallError α}
    {next : α → Action σ CallError β} (conduct : Conduct registry fits hands world operation)
    (rest : ∀ value answer after result last, after.Settled registry → hands value answer →
      (next answer).run after = (.ok result, last) →
      hands' value result ∧ World.Follows after last) :
    Conduct registry fits hands' world fun runs => operation runs >>= next := by
  cases conduct with
  | refuses cause after follows always =>
      refine .refuses cause after follows fun runs => ?_
      rw [run_bind, always]
  | passes request fitting between follows finish always stopped handed =>
      refine .passes request fitting between follows
        (fun ran => match finish ran with
          | (.ok answer, after) => (next answer).run after
          | (.error cause, after) => (.error cause, after)) ?_ ?_ ?_
      · intro runs
        rw [run_bind, always]
        obtain ⟨outcome, after⟩ := finish ((runs request).run between)
        cases outcome with
        | error cause => rfl
        | ok answer => rfl
      · intro cause after
        obtain ⟨last, stops⟩ := stopped cause after
        exact ⟨last, by simp only [stops]⟩
      · intro value after result last settled finishes
        cases finished : finish (.ok value, after) with
        | mk outcome middle =>
            simp only [finished] at finishes
            cases outcome with
            | error cause => cases finishes
            | ok answer =>
                obtain ⟨hands, toMiddle⟩ := handed value after answer middle settled finished
                obtain ⟨hands', toLast⟩ :=
                  rest value answer middle result last (toMiddle.settled settled) hands finishes
                exact ⟨hands', toMiddle.trans toLast⟩

/-- An engine is kept alive during the operation. -/
theorem holding {operation : (κ → Action σ CallError Value) → Action σ CallError α} (id : EngineId)
    (conduct : Conduct registry fits hands (world.retain id) operation) :
    Conduct registry fits hands world fun runs => Action.holding id (operation runs) := by
  have toRetained := world.follows_retain id
  by_cases alive : world.isAlive id = true
  · have held : ∀ runs, (Action.holding id (operation runs)).run world =
        (((operation runs).run (world.retain id)).1,
          ((operation runs).run (world.retain id)).2.release id) :=
      fun runs => if_pos alive
    cases conduct with
    | refuses cause after follows always =>
        refine .refuses cause (after.release id)
          ((toRetained.trans follows).trans (after.follows_release id)) fun runs => ?_
        rw [held, always]
    | passes request fitting between follows finish always stopped handed =>
        refine .passes request fitting between (toRetained.trans follows)
          (fun ran => ((finish ran).1, (finish ran).2.release id)) ?_ ?_ ?_
        · intro runs
          rw [held, always]
        · intro cause after
          obtain ⟨last, stops⟩ := stopped cause after
          exact ⟨last.release id, by rw [stops]⟩
        · intro value after answer last settled finishes
          obtain ⟨isOk, isLast⟩ := Prod.mk.inj finishes
          obtain ⟨hands, toFinished⟩ := handed value after answer (finish (.ok value, after)).2
            settled (Prod.ext isOk rfl)
          refine ⟨hands, ?_⟩
          rw [← isLast]
          exact toFinished.trans (World.follows_release _ id)
  · exact .refuses .engineDropped world (refl_of World.Follows world) fun runs => if_neg alive

end Conduct
end StructuralCast
