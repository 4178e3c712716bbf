import StructuralCast.Proofs.Engine.Replay
import StructuralCast.Proofs.World

/-!
Contract: what an engine makes at most once for a pair of types.

A request is `Memoized` by a place for its result: what is there is handed out and nothing changes,
what is handed out is there afterwards, and after a failure nothing is. The factory of exactly one
pair, the delegate factory of a pair and the adapter of static members are all requested in this way:
each is looked up, or else made and kept (`Memoized.of_making`). A result that has been handed out once
is therefore the result for as long as its place keeps it (`Memoized.again`), and nothing is made in
its place.
-/

namespace StructuralCast

open Step

namespace Step

variable {ε σ α : Type} {condition condition' : σ → Prop} {place : σ → Option α}
  {request request' : ExceptT ε (StateM σ) α}

/-- A request whose result has a place of its own, as long as a condition holds. -/
structure Memoized (condition : σ → Prop) (place : σ → Option α)
    (request : ExceptT ε (StateM σ) α) : Prop where
  ready : ∀ state result, condition state → place state = some result →
    request.run state = (.ok result, state)
  kept : ∀ state outcome after, condition state → request.run state = (outcome, after) →
    place after = outcome.toOption

/-- What is found or else made is memoized, if what is made gets a place and a failure to make it none. -/
theorem Memoized.of_making (making : ExceptT ε (StateM σ) α)
    (ready : ∀ state result, condition state → place state = some result →
      request.run state = (.ok result, state))
    (fails : ∀ state cause after, condition state → place state = none →
      making.run state = (.error cause, after) →
        place after = none ∧ request.run state = (.error cause, after))
    (makes : ∀ state result after, condition state → place state = none →
      making.run state = (.ok result, after) →
        ∃ final, place final = some result ∧ request.run state = (.ok result, final)) :
    Memoized condition place request := by
  refine ⟨ready, fun state outcome after valid ran => ?_⟩
  cases found : place state with
  | some earlier =>
      rw [ready state earlier valid found] at ran
      cases ran
      exact found
  | none =>
      cases made : making.run state with
      | mk attempt between =>
          cases attempt with
          | error cause =>
              obtain ⟨missing, failed⟩ := fails state cause between valid found made
              rw [failed] at ran
              cases ran
              exact missing
          | ok value =>
              obtain ⟨final, kept, handed⟩ := makes state value between valid found made
              rw [handed] at ran
              cases ran
              exact kept

/-- What was handed out once is handed out again while its place keeps it. -/
theorem Memoized.again (memoized : Memoized condition place request)
    (memoized' : Memoized condition' place request') {first between later : σ} {result : α}
    (valid : condition first) (hands : request.run first = (.ok result, between))
    (keeps : place between = some result → place later = some result) (valid' : condition' later) :
    request'.run later = (.ok result, later) :=
  memoized'.ready later result valid' (keeps (memoized.kept first _ between valid hands))

end Step

/-! ### Factories and delegate factories -/

namespace Engine

variable {registry : Registry}

theorem memoized_exactFactory (registry : Registry) (shape source : TypeId) :
    Memoized (fun _ => True) (fun engine : Engine => engine.interfaces.find? shape source)
      (exactFactory registry shape source) := by
  have unchanged : ∀ engine outcome after,
      (generate registry shape source).run engine = (outcome, after) →
        after.interfaces = engine.interfaces := by
    intro engine outcome after ran
    rw [← interfaces_generate shape source engine, ran]
  refine .of_making (generate registry shape source) ?_ ?_ ?_
  · intro engine made _ found
    rw [exactFactory_apply, found]
  · intro engine cause after _ missing fails
    rw [exactFactory_apply, missing, fails, unchanged engine _ after fails]
    exact ⟨missing, rfl⟩
  · intro engine made after _ missing makes
    rw [exactFactory_apply, missing, makes]
    rw [← unchanged engine _ after makes] at missing
    exact ⟨_, PairTable.find?_insert_of_missing made missing, rfl⟩

/-- Asks whether two delegates agree and plans the conversions between them. -/
def generateDelegate (registry : Registry) (target source : TypeId) : EngineStep DelegateFactory := do
  let question : StateM Engine Bool := analyzing registry fun setting =>
    (registry.delegateQuestion target source).interpret (ask setting)
  if ← question then raising (registry.synthesizeDelegate (← get).id target source)
  else throw (noCast registry target source)

theorem run_generateDelegate (registry : Registry) (target source : TypeId) (engine : Engine) :
    (generateDelegate registry target source).run engine =
      match analyzing registry (fun setting =>
          (registry.delegateQuestion target source).interpret (ask setting)) engine with
      | (false, between) => (.error (noCast registry target source), between)
      | (true, between) => (registry.synthesizeDelegate between.id target source, between) := by
  rw [generateDelegate, run_bind, run_lift]
  obtain ⟨answer, between⟩ := analyzing registry (fun setting =>
    (registry.delegateQuestion target source).interpret (ask setting)) engine
  cases answer with
  | false => rfl
  | true => rfl

theorem delegates_generateDelegate (target source : TypeId) (engine : Engine) :
    ((generateDelegate registry target source).run engine).2.delegates = engine.delegates := by
  have learns : (analyzing registry (fun setting =>
      (registry.delegateQuestion target source).interpret (ask setting)) engine).2.delegates =
        engine.delegates := rfl
  rw [run_generateDelegate]
  generalize analyzing registry (fun setting =>
    (registry.delegateQuestion target source).interpret (ask setting)) engine = run at learns ⊢
  obtain ⟨answer, between⟩ := run
  cases answer with
  | false => exact learns
  | true => exact learns

/-- What is not there yet is generated and kept. -/
theorem delegateFactory_eq (registry : Registry) (target source : TypeId) (engine : Engine) :
    (delegateFactory registry target source).run engine =
      match engine.delegates.find? target source with
      | some factory => (.ok factory, engine)
      | none =>
        match (generateDelegate registry target source).run engine with
        | (.error cause, after) => (.error cause, after)
        | (.ok factory, after) =>
          (.ok factory,
            { after with delegates := after.delegates.insert target source factory }) := by
  rw [delegateFactory_apply, run_generateDelegate]
  cases engine.delegates.find? target source with
  | some factory => rfl
  | none =>
      obtain ⟨answer, between⟩ := analyzing registry (fun setting =>
        (registry.delegateQuestion target source).interpret (ask setting)) engine
      cases answer with
      | false => rfl
      | true =>
          dsimp only
          cases registry.synthesizeDelegate between.id target source with
          | error cause => rfl
          | ok factory => rfl

theorem memoized_delegateFactory (registry : Registry) (target source : TypeId) :
    Memoized (fun _ => True) (fun engine : Engine => engine.delegates.find? target source)
      (delegateFactory registry target source) := by
  have unchanged : ∀ engine outcome after,
      (generateDelegate registry target source).run engine = (outcome, after) →
        after.delegates = engine.delegates := by
    intro engine outcome after ran
    rw [← delegates_generateDelegate target source engine, ran]
  refine .of_making (generateDelegate registry target source) ?_ ?_ ?_
  · intro engine made _ found
    rw [delegateFactory_eq, found]
  · intro engine cause after _ missing fails
    rw [delegateFactory_eq, missing, fails, unchanged engine _ after fails]
    exact ⟨missing, rfl⟩
  · intro engine made after _ missing makes
    rw [delegateFactory_eq, missing, makes]
    rw [← unchanged engine _ after makes] at missing
    exact ⟨_, PairTable.find?_insert_of_missing made missing, rfl⟩

/-- Two delegate types that the registry knows. -/
def Delegates (registry : Registry) (target source : TypeId) : Prop :=
  knows registry target source = true ∧ (registry.info target).isDelegate = true ∧
    (registry.info source).isDelegate = true

/-- A request about two delegates is one for their factory. -/
theorem requestDelegateFactory_eq {target source : TypeId}
    (delegates : Delegates registry target source) :
    requestDelegateFactory registry target source = delegateFactory registry target source :=
  if_pos delegates

theorem delegates_of_request {target source : TypeId} {engine after : Engine}
    {made : DelegateFactory}
    (makes : (requestDelegateFactory registry target source).run engine = (.ok made, after)) :
    Delegates registry target source := by
  unfold requestDelegateFactory at makes
  split at makes
  case isTrue delegates => exact delegates
  case isFalse => cases makes

/-- A search that fails leaves no factory that serves the pair, and keeps none. -/
theorem missing_of_factory {shape source : TypeId} {engine after : Engine} {cause : CastError}
    (fails : (factory registry shape source).run engine = (.error cause, after)) :
    after.interfaces = engine.interfaces ∧ after.hasFactory registry shape source = false := by
  have again := factory_again fails
  have stillMissing : after.readyFactory? registry shape source = none := by
    cases ready : after.readyFactory? registry shape source with
    | none => rfl
    | some found =>
        rw [factory_apply, ready] at again
        cases again
  refine ⟨?_, by rw [hasFactory, stillMissing]; rfl⟩
  rcases cases_of_factory fails with ⟨_, _, impossible, _⟩ | ⟨_, missing, searches⟩
  · cases impossible
  · exact (firstFactory_fails_again missing searches).1

/-- A question that is put twice has one answer, and the second time it changes nothing. -/
theorem canCast_again (registry : Registry) (target source : TypeId) (engine : Engine) :
    canCast registry target source (canCast registry target source engine).2 =
      canCast registry target source engine := by
  unfold canCast
  split
  case isTrue =>
    have asInquiry : (analyzing registry fun setting => ask setting false target source) =
        analyzing registry fun setting =>
          (Inquiry.question false target source).interpret (ask setting) := by
      simp only [Inquiry.interpret_question]
    rw [asInquiry]
    exact analyzing_again (Inquiry.question false target source) (.refl _)
  case isFalse => rfl

end Engine

/-! ### Requests to the engines of a world -/

namespace World

variable {σ : Type}

/-- An engine that has been made. -/
def Has (world : World σ) (id : EngineId) : Prop := id.index < world.engines.size

theorem engine_setEngine_self {world : World σ} {id : EngineId} (made : world.Has id)
    (engine : Engine) : (world.setEngine id engine).engine id = engine := by
  rw [engine_setEngine, if_pos ⟨rfl, made⟩]

/-- An engine that has not changed leaves the world as it was. -/
theorem setEngine_engine (world : World σ) (id : EngineId) :
    world.setEngine id (world.engine id) = world := by
  have same : world.engines.setIfInBounds id.index (world.engine id) = world.engines := by
    refine Array.ext_getElem? fun index => ?_
    rw [Array.getElem?_setIfInBounds]
    split
    case isTrue same =>
      subst same
      split
      case isTrue bound => simp [World.engine, Array.getD_eq_getD_getElem?, bound]
      case isFalse beyond => rw [Array.getElem?_eq_none (by omega)]
    case isFalse => rfl
  rw [setEngine, same]

end World

namespace Action

variable {σ α : Type}

theorem run_onEngine {ε : Type} {world : World σ} (id : EngineId) (step : StateM Engine α) :
    (onEngine id step : Action σ ε α).run world =
      (.ok (step (world.engine id)).1, world.setEngine id (step (world.engine id)).2) := rfl

/-- A memoized request to an engine is a memoized request to the world that the engine is in. -/
theorem memoized_withEngine {condition : Engine → Prop} {place : Engine → Option α}
    {request : EngineStep α} (memoized : Memoized condition place request) (id : EngineId) :
    Memoized (fun world : World σ => world.Has id ∧ condition (world.engine id))
      (fun world => place (world.engine id)) (withEngine id request) := by
  refine ⟨?_, ?_⟩
  · rintro world result ⟨_, valid⟩ found
    rw [run_withEngine, memoized.ready _ result valid found, World.setEngine_engine]
  · rintro world outcome after ⟨made, valid⟩ ran
    rw [run_withEngine] at ran
    obtain ⟨sameOutcome, rfl⟩ := Prod.mk.inj ran
    rw [World.engine_setEngine_self made]
    exact memoized.kept _ outcome _ valid (Prod.ext sameOutcome rfl)

end Action

/-! ### Static adapters -/

namespace Cast

variable {σ : Type} {world : World σ} {id : EngineId} {shape source : TypeId}

/-- When static members can be presented: the engine is there, the types are known, and the shape is an
interface that the source is not. -/
def Presentable (id : EngineId) (shape source : TypeId) (world : World σ) : Prop :=
  world.Has id ∧ Engine.knows world.registry shape source = true ∧
    Engine.claimsStatic world.registry shape source = true

theorem known_of_staticCast {made : Value} {after : World σ}
    (makes : (staticCast id shape source).run world = (.ok made, after)) :
    Engine.knows world.registry shape source = true ∧
      Engine.claimsStatic world.registry shape source = true := by
  unfold staticCast at makes
  rw [run_bind, run_get] at makes
  dsimp only at makes
  split at makes
  case isTrue valid => exact valid
  case isFalse => cases makes

theorem presentable_of_staticCast {made : Value} {after : World σ} (has : world.Has id)
    (makes : (staticCast id shape source).run world = (.ok made, after)) :
    Presentable id shape source world :=
  ⟨has, known_of_staticCast makes⟩

/-- Makes the adapter of the static members of a type. -/
def makeStatic (id : EngineId) (shape source : TypeId) : Action σ CastError Value := do
  let factory ← generateStatic id (← get).registry shape source
  (adapt factory .null).mapError CastError.call

theorem staticCast_apply (presentable : Presentable id shape source world) :
    (staticCast id shape source).run world =
      match (world.engine id).statics.find? shape source with
      | some ready => (.ok ready, world)
      | none =>
        match (makeStatic id shape source).run world with
        | (.error cause, after) => (.error cause, after)
        | (.ok made, after) =>
          (.ok made, ((keepStatic id shape source made).run after).2) := by
  obtain ⟨_, known, claimed⟩ := presentable
  unfold staticCast
  rw [run_bind, run_get]
  dsimp only
  rw [if_pos ⟨known, claimed⟩]
  cases (world.engine id).statics.find? shape source with
  | some ready => rfl
  | none =>
      show (generateStatic id world.registry shape source >>= _ :
        Action σ CastError Value).run world = _
      have unfolded : (makeStatic id shape source).run world =
          (generateStatic id world.registry shape source >>= fun factory =>
            (adapt factory .null).mapError CastError.call : Action σ CastError Value).run world := rfl
      rw [unfolded, run_bind, run_bind]
      obtain ⟨planned, between⟩ := (generateStatic id world.registry shape source).run world
      cases planned with
      | error cause => rfl
      | ok factory =>
          dsimp only
          rw [run_bind]
          obtain ⟨made, adapted⟩ := ((adapt factory .null).mapError CastError.call).run between
          cases made with
          | error cause => rfl
          | ok adapter => rfl

/-- Planning a static adapter keeps none yet. -/
theorem statics_generateStatic {registry : Registry} {outcome : Except CastError Factory}
    {after : World σ}
    (generates : (generateStatic id registry shape source).run world = (outcome, after)) :
    (after.engine id).statics = (world.engine id).statics ∧
      after.engines.size = world.engines.size := by
  rw [generateStatic, Action.run_withEngine, run_bind] at generates
  have unchanged : ((Engine.resolve registry true shape source).run (world.engine id)).2.statics =
      (world.engine id).statics := rfl
  generalize (Engine.resolve registry true shape source).run (world.engine id) = run
    at generates unchanged
  obtain ⟨resolved, between⟩ := run
  -- Whether the plan succeeds or not, it is made from a blueprint alone.
  have planned : after = world.setEngine id between := by
    cases resolved with
    | error cause => exact (Prod.mk.inj generates).2.symm
    | ok blueprint => exact (Prod.mk.inj generates).2.symm
  subst planned
  refine ⟨?_, by simp [World.setEngine]⟩
  rw [World.engine_setEngine]
  split
  case isTrue => exact unchanged
  case isFalse => rfl

/-- Making a static adapter keeps none yet. -/
theorem statics_makeStatic {outcome : Except CastError Value} {after : World σ}
    (makes : (makeStatic id shape source).run world = (outcome, after)) :
    (after.engine id).statics = (world.engine id).statics ∧
      after.engines.size = world.engines.size := by
  have unfolded : (makeStatic id shape source).run world =
      (generateStatic id world.registry shape source >>= fun factory =>
        (adapt factory .null).mapError CastError.call : Action σ CastError Value).run world := rfl
  rw [unfolded, run_bind] at makes
  cases generates : (generateStatic id world.registry shape source).run world with
  | mk planned between =>
      have same := statics_generateStatic generates
      rw [generates] at makes
      cases planned with
      | error cause =>
          cases makes
          exact same
      | ok factory =>
          have beside : World.Apart between after :=
            (apart_adapt factory .null).related_of_run (Action.after_of_mapError makes)
          rw [beside.engine, beside.engines]
          exact same

/-- The adapter of static members is made once, after a plan, and kept. -/
theorem memoized_staticCast (id : EngineId) (shape source : TypeId) :
    Memoized (Presentable id shape source)
      (fun world : World σ => (world.engine id).statics.find? shape source)
      (staticCast id shape source) := by
  refine .of_making (makeStatic id shape source) ?_ ?_ ?_
  · intro world made presentable found
    rw [staticCast_apply presentable, found]
  · intro world cause after presentable missing fails
    rw [staticCast_apply presentable, missing, fails, (statics_makeStatic fails).1]
    exact ⟨missing, rfl⟩
  · intro world made after presentable missing makes
    obtain ⟨sameStatics, sameSize⟩ := statics_makeStatic makes
    rw [staticCast_apply presentable, missing, makes]
    refine ⟨_, ?_, rfl⟩
    have present : after.Has id := by
      rw [World.Has, sameSize]
      exact presentable.1
    show ((after.setEngine id _).engine id).statics.find? shape source = some made
    rw [World.engine_setEngine_self present]
    rw [← sameStatics] at missing
    exact PairTable.find?_insert_of_missing made missing

end Cast
end StructuralCast
