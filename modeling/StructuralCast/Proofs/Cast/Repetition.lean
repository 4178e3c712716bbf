import StructuralCast.Proofs.Cast.Layer
import StructuralCast.Proofs.Engine.History

/-!
Contract: casting a value, and casting what a cast has made of it.

What a cast makes of a value has the same plain value below, equals it, and has one layer at most
(`Cast.Layer`). Casting on from there comes to the same as casting on from the value itself, for every
type that the registry has issued: all that the engine finds out the first time it has ready the second
time (`Cast.byStrategy_again`). A type that was never issued makes a difference: the refusal names the
type of the value as it was given.
-/

namespace StructuralCast

open Step

namespace Action

variable {σ α β : Type} {world later after : World σ}

/-- A step that changes nothing more when it is repeated has the same outcome in a world whose engine
is still as the first run has left it. -/
theorem withEngine_again {id : EngineId} {step : EngineStep α}
    (again : ∀ engine outcome after, step.run engine = (outcome, after) →
      step.run after = (outcome, after))
    (same : later.engine id = ((withEngine id step).run world).2.engine id) :
    ((withEngine id step).run later).1 = ((withEngine id step).run world).1 := by
  rw [run_withEngine] at same
  rw [run_withEngine, run_withEngine, same, World.engine_setEngine]
  dsimp only
  split
  case isTrue =>
    exact congrArg Prod.fst (again (world.engine id) (step.run (world.engine id)).1
      (step.run (world.engine id)).2 rfl)
  case isFalse => rfl

/-- Where such a step is followed by one that is apart from engines, repeating both fails for the same
cause, or comes to the second one with the same value. -/
theorem withEngine_bind_again {id : EngineId} {step : EngineStep α} {next : α → Action σ CastError β}
    {outcome : Except CastError β}
    (again : ∀ engine outcome after, step.run engine = (outcome, after) →
      step.run after = (outcome, after))
    (apart : ∀ value between, Leads World.Apart between (next value))
    (ran : (withEngine id step >>= next).run world = (outcome, after))
    (same : later.engine id = after.engine id) :
    (∃ cause, outcome = .error cause ∧
        ((withEngine id step >>= next).run later).1 = .error cause) ∨
      ∃ value between between', between.registry = world.registry ∧
        between'.registry = later.registry ∧ (next value).run between = (outcome, after) ∧
        (withEngine id step >>= next).run later = (next value).run between' := by
  have repeated : later.engine id = ((withEngine id step).run world).2.engine id →
      ((withEngine id step).run later).1 = ((withEngine id step).run world).1 := withEngine_again again
  have types : ∀ start : World σ, ((withEngine id step).run start).2.registry = start.registry :=
    fun _ => rfl
  have typesThen := types world
  have typesLater := types later
  rw [run_bind] at ran ⊢
  generalize (withEngine id step).run world = run at ran repeated typesThen
  generalize (withEngine id step).run later = run' at repeated typesLater ⊢
  obtain ⟨handed, between⟩ := run
  obtain ⟨handed', between'⟩ := run'
  cases handed with
  | error cause =>
      cases ran
      obtain rfl : handed' = .error cause := repeated same
      exact .inl ⟨cause, rfl, rfl⟩
  | ok value =>
      have beside : World.Apart between after := (apart value between).related_of_run ran
      obtain rfl : handed' = .ok value := repeated (same.trans (beside.engine id))
      exact .inr ⟨value, between, between', typesThen, typesLater, ran, rfl⟩

end Action

namespace Cast

variable {σ : Type} {world later after : World σ} {id : EngineId} {target : TypeId}
  {value plain made : Value}

/-- Two outcomes of casting one plain value that come to the same: one failure, one value, texts of one
content that are written from an enum, or layers of one factory over the plain value. -/
inductive SameOutcome (plain : Value) : Except CastError Value → Except CastError Value → Prop where
  | refused (cause : CastError) : SameOutcome plain (.error cause) (.error cause)
  | value (made : Value) : SameOutcome plain (.ok made) (.ok made)
  | written {type : TypeId} {number : Int64} (isEnum : plain = .enumeration type number)
      (first second : Ref) (content : String) :
      SameOutcome plain (.ok (.text first content)) (.ok (.text second content))
  | adapter (factory : Factory) (first second : Ref) (relays others : List (Option RelayId)) :
      SameOutcome plain (.ok (.adapter first factory plain relays))
        (.ok (.adapter second factory plain others))
  | adapted {c : Callable} (isCallable : plain = .callable c) (factory : DelegateFactory)
      (first second : Ref) :
      SameOutcome plain (.ok (.callable (.adapted first factory c)))
        (.ok (.callable (.adapted second factory c)))

theorem SameOutcome.cause_eq {first second : CastError}
    (same : SameOutcome plain (.error first) (.error second)) : first = second := by
  cases same
  rfl

/-! ### Making an adapter again -/

theorem relayed_map (relay : Option RelayId) (factory : Factory) (source : Value)
    (slots : List EventSlot) :
    ((do
        let others ← connect factory source slots
        return relay :: others : Action σ CallError (List (Option RelayId))).run world).1.map
        (fun _ => ()) =
      ((connect factory source slots).run world).1.map fun _ => () := by
  rw [run_bind]
  obtain ⟨outcome, between⟩ := (connect factory source slots).run world
  cases outcome with
  | error cause => rfl
  | ok relays => rfl

/-- Whether the relays of an adapter can be subscribed depends on the registry alone. -/
theorem connect_again (factory : Factory) (source : Value) (slots : List EventSlot)
    (sameTypes : later.registry = world.registry) :
    ((connect factory source slots).run later).1.map (fun _ => ()) =
      ((connect factory source slots).run world).1.map fun _ => () := by
  induction slots generalizing world later with
  | nil => rfl
  | cons slot rest inductionHypothesis =>
      simp only [connect]
      cases slot.relay with
      | none =>
          show ((do
              let others ← connect factory source rest
              return none :: others : Action σ CallError (List (Option RelayId))).run later).1.map
              (fun _ => ()) = _
          rw [relayed_map, inductionHypothesis sameTypes]
          exact (relayed_map none factory source rest).symm
      | some plan =>
          rw [run_bind, run_bind]
          dsimp only [run_bind, run_get]
          rw [sameTypes]
          cases eventKey world.registry factory source slot.sourceEvent with
          | error cause => rfl
          | ok key =>
              have subscribed : ∀ start : World σ, Leads World.Apart start (do
                  let id ← Action.newRelayList
                  Action.subscribe key (.relay ⟨id, plan, factory.engine⟩)
                  pure (some id) : Action σ CallError (Option RelayId)) := by
                intro start
                refine Leads.bind Action.apart_newRelayList fun id between _ => ?_
                exact Leads.bind (Action.apart_subscribe _ _) fun _ _ _ => Leads.pure _
              have typesThen := (subscribed world).registry
              have typesLater := (subscribed later).registry
              dsimp only
              refine (relayed_map _ factory source rest).trans ?_
              refine .trans ?_ (relayed_map _ factory source rest).symm
              exact inductionHypothesis (typesLater.trans (sameTypes.trans typesThen.symm))

/-- Adapting a source again fails for the same cause, or gives an adapter of the same factory. -/
theorem adapt_again (factory : Factory) (source : Value)
    (sameTypes : later.registry = world.registry) :
    (∃ cause, ((adapt factory source).run world).1 = .error cause ∧
        ((adapt factory source).run later).1 = .error cause) ∨
      ∃ first second relays others,
        ((adapt factory source).run world).1 = .ok (.adapter first factory source relays) ∧
          ((adapt factory source).run later).1 = .ok (.adapter second factory source others) := by
  have same := connect_again factory source factory.events sameTypes
  unfold adapt
  rw [run_bind, run_bind]
  generalize (connect factory source factory.events).run world = run at same ⊢
  generalize (connect factory source factory.events).run later = run' at same ⊢
  obtain ⟨outcome, between⟩ := run
  obtain ⟨outcome', between'⟩ := run'
  cases outcome with
  | error cause =>
      cases outcome' with
      | ok others => cases same
      | error cause' =>
          cases same
          exact .inl ⟨cause, rfl, rfl⟩
  | ok relays =>
      cases outcome' with
      | error cause' => cases same
      | ok others => exact .inr ⟨_, _, relays, others, rfl, rfl⟩

/-! ### Casting again -/

theorem byInterface_again {outcome : Except CastError Value}
    (ran : (byStrategy id target plain .interface).run world = (outcome, after))
    (sameTypes : later.registry = world.registry) (sameEngine : later.engine id = after.engine id) :
    SameOutcome plain outcome ((byStrategy id target plain .interface).run later).1 := by
  unfold byStrategy at ran ⊢
  rw [run_bind] at ran ⊢
  dsimp only [run_get] at ran ⊢
  rw [sameTypes]
  rcases Action.withEngine_bind_again (fun _ _ _ => Engine.factory_again)
    (fun factory between => apart_adapt factory plain) ran sameEngine with
    ⟨cause, rfl, fails⟩ | ⟨factory, between, between', typesThen, typesLater, makes, remakes⟩
  · rw [fails]
    exact .refused cause
  · rw [remakes, Action.run_mapError]
    rw [Action.run_mapError] at makes
    obtain ⟨rfl, _⟩ := Prod.mk.inj makes
    rcases adapt_again factory plain (typesLater.trans (sameTypes.trans typesThen.symm)) with
      ⟨cause, failsThen, failsLater⟩ | ⟨first, second, relays, others, makesThen, makesLater⟩
    · rw [failsThen, failsLater]
      exact .refused _
    · rw [makesThen, makesLater]
      exact .adapter factory first second relays others

theorem byDelegate_again {outcome : Except CastError Value}
    (ran : (byStrategy id target plain .delegate).run world = (outcome, after))
    (sameTypes : later.registry = world.registry) (sameEngine : later.engine id = after.engine id) :
    SameOutcome plain outcome ((byStrategy id target plain .delegate).run later).1 := by
  unfold byStrategy at ran ⊢
  rw [run_bind] at ran ⊢
  dsimp only [run_get] at ran ⊢
  rw [sameTypes]
  cases plain with
  | callable c =>
      have apart : ∀ (factory : DelegateFactory) (between : World σ), Leads World.Apart between (do
          return .callable (.adapted (← Action.freshRef) factory c) : Action σ CastError Value) :=
        fun _ _ => Leads.bind Action.apart_freshRef fun _ _ _ => Leads.pure _
      rcases Action.withEngine_bind_again (fun _ _ _ => Engine.delegateFactory_again) apart ran
        sameEngine with ⟨cause, rfl, fails⟩ | ⟨factory, between, between', _, _, makes, remakes⟩
      · dsimp only
        rw [fails]
        exact .refused cause
      · dsimp only
        rw [remakes]
        cases makes
        exact .adapted rfl factory _ _
  | _ =>
      cases ran
      exact .refused _

theorem byEnumText_again {outcome : Except CastError Value}
    (ran : (byStrategy id target plain .enumText).run world = (outcome, after))
    (sameTypes : later.registry = world.registry) :
    SameOutcome plain outcome ((byStrategy id target plain .enumText).run later).1 := by
  unfold byStrategy at ran ⊢
  rw [run_bind] at ran ⊢
  dsimp only [run_get] at ran ⊢
  rw [sameTypes]
  cases plain with
  | text ref content =>
      dsimp only at ran ⊢
      cases parses : parseEnum world.registry target content with
      | error cause =>
          rw [parses] at ran
          cases ran
          exact .refused _
      | ok parsed =>
          rw [parses] at ran
          cases ran
          exact .value parsed
  | enumeration type number =>
      dsimp only at ran ⊢
      split at ran
      case isTrue toText =>
        cases ran
        rw [if_pos toText]
        exact .written rfl _ _ _
      case isFalse noText =>
        cases ran
        rw [if_neg noText]
        exact .refused _
  | _ =>
      cases ran
      exact .refused _

/-- A strategy that is used again comes to the same. -/
theorem byStrategy_again {strategy : Strategy} {outcome : Except CastError Value}
    (ran : (byStrategy id target plain strategy).run world = (outcome, after))
    (sameTypes : later.registry = world.registry) (sameEngine : later.engine id = after.engine id) :
    SameOutcome plain outcome ((byStrategy id target plain strategy).run later).1 := by
  cases strategy with
  | interface => exact byInterface_again ran sameTypes sameEngine
  | delegate => exact byDelegate_again ran sameTypes sameEngine
  | enumText => exact byEnumText_again ran sameTypes
  | genericParam =>
      cases ran
      exact .value plain

/-- A cast that is repeated comes to the same. -/
theorem cast_again {outcome : Except CastError Value}
    (ran : (cast id target value).run world = (outcome, after))
    (sameTypes : later.registry = world.registry) (sameEngine : later.engine id = after.engine id) :
    SameOutcome value.unadapt outcome ((cast id target value).run later).1 := by
  unfold cast at ran ⊢
  rw [run_bind] at ran ⊢
  dsimp only [run_get] at ran ⊢
  rw [sameTypes]
  split at ran
  case isTrue unknown =>
    cases ran
    rw [if_pos unknown]
    exact .refused _
  case isFalse known =>
    rw [if_neg known]
    split at ran
    case isTrue isNull =>
      cases ran
      rw [if_pos isNull]
      exact .value .null
    case isFalse hasValue =>
      rw [if_neg hasValue]
      split at ran
      case isTrue admitted =>
        cases ran
        rw [if_pos admitted]
        exact .value value.unadapt
      case isFalse notAdmitted =>
        rw [if_neg notAdmitted]
        cases claimant :
            Strategy.claimant? world.registry target (value.unadapt.type?.getD .object) with
        | some strategy =>
            rw [claimant] at ran
            exact byStrategy_again ran sameTypes sameEngine
        | none =>
            rw [claimant] at ran
            cases ran
            exact .refused _

theorem cast_of_not_issued (unknown : world.registry.issued target = false) :
    (cast id target value).run world = (.error (failure world.registry target value), world) := by
  unfold cast
  rw [run_bind]
  dsimp only [run_get]
  rw [unknown]
  rfl

/-- For a type that was issued, a cast looks at nothing but the plain value below the layers. -/
theorem cast_congr {among : Registry → Prop} {left right : Value} (genuineLeft : left.Genuine among)
    (genuineRight : right.Genuine among)
    (same : left.unadapt = right.unadapt) (issued : world.registry.issued target) :
    (cast id target left).run world = (cast id target right).run world := by
  have nullity : left.isNull = right.isNull := by
    rw [← left.isNull_unadapt genuineLeft, same, right.isNull_unadapt genuineRight]
  unfold cast
  rw [run_bind, run_bind]
  dsimp only [run_get]
  rw [issued, nullity, same]
  rfl

/-- What a cast makes of a value has the same plain value below, equals it, and is that plain value or
one layer over it. To cast it on comes to the same as to cast the value on, one after the other in
either order, if the registry has issued the further type, and is refused like that if it has not. -/
theorem recast_eq_cast (tended : world.Tended id) (obtainable : Obtainable (fun _ => True) value)
    (untranslated : ¬ TranslatesEnum world.registry target value.unadapt)
    (casts : (cast id target value).run world = (.ok made, after)) :
    made.unadapt = value.unadapt ∧ made.equals value = true ∧ Layer id target value.unadapt made ∧
      ∀ later : World σ, later.registry = world.registry → ∀ further,
        (later.registry.issued further = true →
          SameOutcome value.unadapt ((cast id further made).run later).1
              ((cast id further value).run ((cast id further made).run later).2).1 ∧
            SameOutcome value.unadapt ((cast id further value).run later).1
              ((cast id further made).run ((cast id further value).run later).2).1) ∧
        (later.registry.issued further = false →
          ((cast id further made).run later).1 = .error (failure later.registry further made) ∧
            ((cast id further value).run later).1 =
              .error (failure later.registry further value)) := by
  have genuine := obtainable.genuine
  have makes := made_of_cast tended.planned casts
  have nullity := null_of_cast genuine casts
  have genuineMade := makes.genuine trivial (value.genuine_unadapt genuine) nullity
  have layer := makes.layer untranslated nullity
  have sameBelow : made.unadapt = value.unadapt := layer.unadapt_eq value.unadapt_unadapt
  have samePeeled : made.peel = value.peel := layer.peel_eq.trans (value.peel_unadapt genuine)
  refine ⟨sameBelow, Value.equals_of_peel samePeeled, layer, fun later _ further =>
    ⟨fun issued => ?_, fun unknown => ?_⟩⟩
  · have asValue : ∀ start : World σ, start.registry = later.registry →
        (cast id further made).run start = (cast id further value).run start := by
      intro start sameTypes
      exact cast_congr genuineMade genuine sameBelow (sameTypes ▸ issued)
    have sameTypes : ((cast id further value).run later).2.registry = later.registry :=
      World.Follows.registry (follows_cast id further value)
    have again : SameOutcome value.unadapt ((cast id further value).run later).1
        ((cast id further value).run ((cast id further value).run later).2).1 :=
      cast_again rfl sameTypes rfl
    refine ⟨?_, ?_⟩
    · rw [asValue later rfl]
      exact again
    · rw [asValue _ sameTypes]
      exact again
  · rw [cast_of_not_issued unknown, cast_of_not_issued unknown]
    exact ⟨rfl, rfl⟩

/-! ### An instance -/

/-- An object of the class that has links. -/
def node : Value := .object ⟨0, ⟨17⟩, "Node"⟩

/-- A node is cast to the shape with links, which does not translate an enumeration. -/
theorem node_casts : ∃ made after,
    (cast ⟨0⟩ ⟨16⟩ node).run (newcomer Registry.linked) = (.ok made, after) ∧
      made.type? = some ⟨16⟩ ∧ after.registry = Registry.linked ∧
      ¬ TranslatesEnum (newcomer Registry.linked).registry ⟨16⟩ node.unadapt := by
  have checked : ((cast ⟨0⟩ ⟨16⟩ node).run (newcomer Registry.linked)).1.toOption.bind Value.type? =
        some ⟨16⟩ ∧
      ¬ Strategy.enumText.claims Registry.linked ⟨16⟩ ⟨17⟩ = true := by
    decide +kernel
  obtain ⟨made, found, shaped⟩ := Option.bind_eq_some_iff.1 checked.1
  have casts : (cast ⟨0⟩ ⟨16⟩ node).run (newcomer Registry.linked) = (.ok made, _) :=
    Prod.ext (ok_of_toOption found) rfl
  exact ⟨made, _, casts, shaped,
    World.Follows.registry ((follows_cast ⟨0⟩ ⟨16⟩ node).related_of_run casts),
    fun translates => checked.2 translates.2⟩

/-- A node that is cast to the shape, and then to the class, is the node again. -/
theorem node_recast : ∃ made after,
    (cast ⟨0⟩ ⟨16⟩ node).run (newcomer Registry.linked) = (.ok made, after) ∧
      made.unadapt = node ∧ made.equals node = true ∧
      SameOutcome node ((cast ⟨0⟩ ⟨17⟩ made).run after).1
        ((cast ⟨0⟩ ⟨17⟩ node).run ((cast ⟨0⟩ ⟨17⟩ made).run after).2).1 := by
  obtain ⟨made, after, casts, _, sameTypes, untranslated⟩ := node_casts
  obtain ⟨below, equal, _, further⟩ := recast_eq_cast (newcomer_tended Registry.linked)
    (.plain rfl) untranslated casts
  have issued : after.registry.issued ⟨17⟩ = true := by
    rw [sameTypes, Registry.linked_issued]
    rfl
  exact ⟨made, after, casts, below, equal, ((further after sameTypes ⟨17⟩).1 issued).1⟩

/-- To cast the adapter and to cast the value come to different failures for a type that was never
issued: each names the type of what it was given. -/
theorem refusals_differ :
    ¬ ∀ (world after : World Unit) (id : EngineId) (target : TypeId) (value made : Value),
      world.registry.Grown → world.registry.Acyclic → world.registry.InterfacesAreRoots →
        world.Tended id → Obtainable (fun _ => True) value →
          ¬ TranslatesEnum world.registry target value.unadapt →
            (cast id target value).run world = (.ok made, after) → ∀ further,
              SameOutcome value.unadapt ((cast id further made).run after).1
                ((cast id further value).run ((cast id further made).run after).2).1 := by
  intro claimed
  obtain ⟨made, after, casts, shaped, sameTypes, untranslated⟩ := node_casts
  have unknown : after.registry.issued ⟨999⟩ = false := by
    rw [sameTypes, Registry.linked_issued]
    rfl
  have same := claimed _ _ ⟨0⟩ ⟨16⟩ node made Registry.linked_grown Registry.linked_orderly.acyclic
    Registry.linked_orderly.roots (newcomer_tended Registry.linked) (.plain rfl) untranslated casts ⟨999⟩
  rw [cast_of_not_issued unknown, cast_of_not_issued unknown] at same
  have equal : failure after.registry ⟨999⟩ made = failure after.registry ⟨999⟩ node := same.cause_eq
  rw [failure, failure, shaped, sameTypes] at equal
  exact absurd equal (by decide +kernel)

end Cast
end StructuralCast
