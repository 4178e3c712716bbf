import StructuralCast.Proofs.Engine.Replay
import StructuralCast.Proofs.Registry.Assignable
import StructuralCast.Proofs.Value.Wrapper

/-!
Contract: what a cast makes of a value.

A cast succeeds in one of three ways (`Cast.cases_of_cast`). It takes off all that engines have put on
a value, and what it makes of the rest is one of a few things (`Cast.Made`): the rest itself, one layer
over it, or, where an enum is written as text or read from it, another plain value. `Cast.Obtainable`
are the values that a host can come by, from plain ones by casts of any engine, by presenting static
members, and by wrapping values itself. All of them are genuine (`Cast.Obtainable.genuine`), so what a
layer is put on is never null.
-/

namespace StructuralCast

open Step

namespace World

variable {σ : Type} {world after : World σ} {id : EngineId}

/-- An engine of a world that nothing but operations over the registry of the world has changed. -/
structure Tended (world : World σ) (id : EngineId) : Prop where
  named : (world.engine id).id = id
  reachable : Engine.Reachable world.registry (world.engine id)

/-- An engine of a world that keeps nothing but what it has planned over the registry of the world. -/
structure Planned (world : World σ) (id : EngineId) : Prop where
  named : (world.engine id).id = id
  planned : Engine.Planned world.registry (world.engine id)

theorem Tended.planned (tended : world.Tended id) : world.Planned id :=
  ⟨tended.named, tended.reachable.planned⟩

theorem Follows.planned (follows : Follows world after) (planned : world.Planned id) :
    after.Planned id := by
  have edits := (follows.engines id planned.named).edits
  refine ⟨edits.sameId.1.trans planned.named, ?_⟩
  rw [follows.registry]
  exact edits.planned planned.planned

end World

namespace Cast

variable {σ : Type} {world after : World σ} {id : EngineId} {target : TypeId}
  {value plain made : Value} {registry : Registry}

/-- Whether a cast of a plain value writes an enum as text or reads one from it. -/
def TranslatesEnum (registry : Registry) (target : TypeId) (plain : Value) : Prop :=
  registry.admits target plain.type? = false ∧
    Strategy.enumText.claims registry target (plain.type?.getD .object) = true

/-- What a cast may make of a plain value. -/
inductive Made (registry : Registry) (id : EngineId) (target : TypeId) (plain : Value) :
    Value → Prop where
  | null (isNull : plain = .null) : Made registry id target plain plain
  | fits (isInstance : registry.admits target plain.type? = true) :
      Made registry id target plain plain
  | generic (isGeneric : registry.kind target = .genericParam) : Made registry id target plain plain
  | adapter (ref : Ref) (factory : Factory) (relays : List (Option RelayId)) (owner : TypeId)
      (plans : registry.Plans id false target owner factory) :
      Made registry id target plain (.adapter ref factory plain relays)
  | adapted (ref : Ref) (factory : DelegateFactory) (c : Callable) (isCallable : plain = .callable c)
      (plans : registry.PlansDelegate id target c.type factory) :
      Made registry id target plain (.callable (.adapted ref factory c))
  | written (ref : Ref) (content : String) (toText : target = .text)
      (translates : TranslatesEnum registry target plain) :
      Made registry id target plain (.text ref content)
  | read (number : Int64) (translates : TranslatesEnum registry target plain) :
      Made registry id target plain (.enumeration target number)

/-! ### One cast -/

/-- What is made for a shape is an adapter of a factory that was planned for it. -/
theorem adapter_of_interface (planned : world.Planned id)
    (casts : (byStrategy id target plain .interface).run world = (.ok made, after)) :
    ∃ ref factory relays owner, made = .adapter ref factory plain relays ∧
      world.registry.Plans id false target owner factory := by
  obtain ⟨factory, between, searches, adapts⟩ := adapts_of_interface casts
  obtain ⟨owner, plans⟩ := planned.planned.plans_of_factory (Action.ok_of_withEngine searches)
  rw [planned.named] at plans
  obtain ⟨ref, relays, rfl⟩ := adapter_of_adapt adapts
  exact ⟨ref, factory, relays, owner, rfl, plans⟩

/-- What is made for a delegate type is a callable of a delegate factory that was planned for it. -/
theorem adapted_of_delegate (planned : world.Planned id)
    (casts : (byStrategy id target plain .delegate).run world = (.ok made, after)) :
    ∃ ref factory c, plain = .callable c ∧ made = .callable (.adapted ref factory c) ∧
      world.registry.PlansDelegate id target c.type factory := by
  obtain ⟨c, factory, between, ref, isCallable, searches, same⟩ := wraps_of_delegate casts
  have plans := planned.planned.plans_of_delegateFactory (Action.ok_of_withEngine searches)
  rw [planned.named] at plans
  exact ⟨ref, factory, c, isCallable, same, plans⟩

/-- What is made of an enum is a text, what is made of a text is an enum value. -/
theorem eq_of_enumText
    (casts : (byStrategy id target plain .enumText).run world = (.ok made, after)) :
    (target = .text ∧ ∃ ref content, made = .text ref content) ∨
      ∃ number, made = .enumeration target number := by
  unfold byStrategy at casts
  rw [run_bind] at casts
  dsimp only [run_get] at casts
  cases plain with
  | text ref content =>
      dsimp only at casts
      cases parses : parseEnum world.registry target content with
      | error cause =>
          rw [parses] at casts
          cases casts
      | ok parsed =>
          rw [parses] at casts
          cases casts
          unfold parseEnum at parses
          dsimp only at parses
          split at parses
          case h_1 variant _ =>
            cases parses
            exact .inr ⟨variant.value, rfl⟩
          case h_2 =>
            split at parses
            case h_1 number _ =>
              cases parses
              exact .inr ⟨number, rfl⟩
            case h_2 => cases parses
  | enumeration type number =>
      dsimp only at casts
      split at casts
      case isTrue toText =>
        cases casts
        exact .inl ⟨toText, _, _, rfl⟩
      case isFalse => cases casts
  | _ => cases casts

/-- The ways in which a cast succeeds: a null stays null, an instance of the target stays as it is below
its layers, and what is there of anything else is made by a strategy in charge of the two types. -/
theorem cases_of_cast (casts : (cast id target value).run world = (.ok made, after)) :
    world.registry.issued target = true ∧
      (value.isNull = true ∧ made = .null ∨
        value.isNull = false ∧ world.registry.admits target value.unadapt.type? = true ∧
          made = value.unadapt ∨
        value.isNull = false ∧ world.registry.admits target value.unadapt.type? = false ∧
          ∃ strategy : Strategy,
            strategy.claims world.registry target (value.unadapt.type?.getD .object) = true ∧
              (byStrategy id target value.unadapt strategy).run world = (.ok made, after)) := by
  unfold cast at casts
  rw [run_bind] at casts
  dsimp only [run_get] at casts
  split at casts
  case isTrue => cases casts
  case isFalse isIssued =>
    refine ⟨by simpa using isIssued, ?_⟩
    split at casts
    case isTrue isNull =>
      cases casts
      exact .inl ⟨isNull, rfl⟩
    case isFalse present =>
      rw [Bool.not_eq_true] at present
      split at casts
      case isTrue isInstance =>
        cases casts
        exact .inr (.inl ⟨present, isInstance, rfl⟩)
      case isFalse misfits =>
        rw [Bool.not_eq_true] at misfits
        split at casts
        case h_1 strategy claimant =>
          exact .inr (.inr ⟨present, misfits, strategy, List.find?_some claimant, casts⟩)
        case h_2 => cases casts

/-- What fits the target stays as it is below its layers. -/
theorem run_cast_of_admits (issued : world.registry.issued target = true)
    (present : value.isNull = false)
    (fits : world.registry.admits target value.unadapt.type? = true) :
    (cast id target value).run world = (.ok value.unadapt, world) := by
  unfold cast
  rw [run_bind, run_get]
  simp only [issued, present, fits, Bool.not_true, Bool.false_eq_true, if_false, if_true, run_pure]

/-- What does not fit the target is cast by the strategy in charge. -/
theorem run_cast_of_claimant (issued : world.registry.issued target = true)
    (present : value.isNull = false)
    (misfits : world.registry.admits target value.unadapt.type? = false) {strategy : Strategy}
    (claimed : Strategy.claimant? world.registry target (value.unadapt.type?.getD .object) =
      some strategy) :
    (cast id target value).run world = (byStrategy id target value.unadapt strategy).run world := by
  unfold cast
  rw [run_bind, run_get]
  simp only [issued, present, misfits, claimed, Bool.not_true, Bool.false_eq_true, if_false]

theorem made_of_cast (planned : world.Planned id)
    (casts : (cast id target value).run world = (.ok made, after)) :
    Made world.registry id target value.unadapt made := by
  obtain ⟨_, ⟨isNull, rfl⟩ | ⟨_, isInstance, rfl⟩ | ⟨_, misfits, strategy, claims, ran⟩⟩ :=
    cases_of_cast casts
  · cases value with
    | null => exact .null rfl
    | _ => cases isNull
  · exact .fits isInstance
  · cases strategy with
    | interface =>
        obtain ⟨ref, factory, relays, owner, rfl, plans⟩ := adapter_of_interface planned ran
        exact .adapter ref factory relays owner plans
    | delegate =>
        obtain ⟨ref, factory, c, isCallable, rfl, plans⟩ := adapted_of_delegate planned ran
        exact .adapted ref factory c isCallable plans
    | enumText =>
        have translates : TranslatesEnum world.registry target value.unadapt := ⟨misfits, claims⟩
        rcases eq_of_enumText ran with ⟨toText, ref, content, rfl⟩ | ⟨number, rfl⟩
        · exact .written ref content toText translates
        · exact .read number translates
    | genericParam =>
        cases ran
        simp only [Strategy.claims, Bool.and_eq_true, decide_eq_true_eq] at claims
        exact .generic claims.1.1.1

/-- Nothing is made of null. -/
theorem null_of_cast {among : Registry → Prop} (genuine : value.Genuine among)
    (casts : (cast id target value).run world = (.ok made, after))
    (isNull : value.unadapt.isNull = true) : made = .null := by
  rw [value.isNull_unadapt genuine] at isNull
  obtain ⟨_, ⟨_, same⟩ | ⟨present, _⟩ | ⟨present, _⟩⟩ := cases_of_cast casts
  · exact same
  · exact absurd (isNull.symm.trans present) Bool.noConfusion
  · exact absurd (isNull.symm.trans present) Bool.noConfusion

private theorem present_of_adapter {ref : Ref} {factory : Factory} {relays : List (Option RelayId)}
    (nullity : plain.isNull = true → Value.adapter ref factory plain relays = .null) :
    plain.isNull = false := by
  by_contra isNull
  cases nullity (by simpa using isNull)

/-- What a cast makes of a value is genuine again. -/
theorem Made.genuine {among : Registry → Prop} (allowed : among registry)
    (makes : Made registry id target plain made) (genuine : plain.Genuine among)
    (nullity : plain.isNull = true → made = .null) : made.Genuine among := by
  cases makes with
  | null => exact genuine
  | fits => exact genuine
  | generic => exact genuine
  | written => trivial
  | read => trivial
  | adapter ref factory relays owner plans =>
      obtain ⟨rfl, rfl, rfl, _⟩ := plans.subject
      exact ⟨⟨registry, allowed, present_of_adapter nullity ▸ plans⟩, genuine⟩
  | adapted ref factory c isCallable plans =>
      subst isCallable
      obtain ⟨_, _, _, _, _, rfl, rfl, _⟩ := plans.subject
      exact ⟨⟨registry, allowed, plans⟩, genuine⟩

/-- What a cast makes of a value is an instance of its target or null, unless that is a generic
parameter. -/
theorem Made.isInstance (makes : Made registry id target plain made)
    (notGeneric : registry.kind target ≠ .genericParam) :
    made = .null ∨ registry.admits target made.type? = true := by
  cases makes with
  | null isNull => exact .inl isNull
  | fits isInstance => exact .inr isInstance
  | generic isGeneric => exact absurd isGeneric notGeneric
  | written ref content toText =>
      subst toText
      exact .inr Registry.admits_self
  | read number => exact .inr Registry.admits_self
  | adapter ref factory relays owner plans =>
      obtain ⟨_, rfl, _, _⟩ := plans.subject
      exact .inr Registry.admits_self
  | adapted ref factory c isCallable plans =>
      obtain ⟨_, _, _, _, _, _, rfl, _⟩ := plans.subject
      exact .inr Registry.admits_self

/-- What presents static members is an adapter over nothing. -/
theorem adapter_of_staticCast (planned : world.Planned id) {shape source : TypeId}
    (casts : (staticCast id shape source).run world = (.ok made, after)) :
    ∃ ref factory relays, made = .adapter ref factory .null relays ∧
      world.registry.Plans id true shape source factory := by
  unfold staticCast at casts
  rw [run_bind] at casts
  dsimp only [run_get] at casts
  split at casts
  case isFalse => cases casts
  case isTrue =>
    split at casts
    case h_1 ready stored =>
      cases casts
      obtain ⟨ref, factory, relays, rfl, plans⟩ := planned.planned.statics shape source made stored
      exact ⟨ref, factory, relays, rfl, planned.named ▸ plans⟩
    case h_2 =>
      obtain ⟨factory, between, generates, casts⟩ := ok_of_run_bind casts
      obtain ⟨adapter, adapted, makes, casts⟩ := ok_of_run_bind casts
      obtain ⟨ref, relays, rfl⟩ := adapter_of_adapt (Action.ok_of_mapError makes)
      cases casts
      exact ⟨ref, factory, relays, rfl, plans_of_generateStatic generates⟩

theorem genuine_of_staticCast {among : Registry → Prop} (planned : world.Planned id)
    (allowed : among world.registry) {shape source : TypeId}
    (casts : (staticCast id shape source).run world = (.ok made, after)) : made.Genuine among := by
  obtain ⟨ref, factory, relays, rfl, plans⟩ := adapter_of_staticCast planned casts
  obtain ⟨rfl, rfl, rfl, _⟩ := plans.subject
  exact ⟨⟨world.registry, allowed, plans⟩, trivial⟩

/-! ### Values that a host can come by -/

/-- The values that a host can come by with the engines of some registries. -/
inductive Obtainable (among : Registry → Prop) : Value → Prop where
  | plain {value : Value} (unwrapped : value.facade? = none) : Obtainable among value
  | proxy (ref : Ref) (shape : TypeId) (shapeName : String) {inner : Value}
      (before : Obtainable among inner) : Obtainable among (.proxy ref shape shapeName inner)
  | foreign (ref : Ref) (type : TypeId) (body : HostBody) {inner : Value}
      (before : Obtainable among inner) : Obtainable among (.callable (.foreign ref type body inner))
  | cast {σ : Type} {world after : World σ} {id : EngineId} (tended : world.Tended id)
      (allowed : among world.registry) {target : TypeId} {value made : Value}
      (before : Obtainable among value)
      (casts : (cast id target value).run world = (.ok made, after)) : Obtainable among made
  | staticCast {σ : Type} {world after : World σ} {id : EngineId} (tended : world.Tended id)
      (allowed : among world.registry) {shape source : TypeId} {made : Value}
      (casts : (staticCast id shape source).run world = (.ok made, after)) : Obtainable among made

theorem Obtainable.genuine {among : Registry → Prop} (obtainable : Obtainable among value) :
    value.Genuine among := by
  induction obtainable with
  | @plain value unwrapped =>
      cases value with
      | callable c =>
          cases c with
          | native => trivial
          | adapted => cases unwrapped
          | foreign => cases unwrapped
      | adapter => cases unwrapped
      | proxy => cases unwrapped
      | _ => trivial
  | proxy ref shape shapeName _ inductionHypothesis => exact inductionHypothesis
  | foreign ref type body _ inductionHypothesis => exact inductionHypothesis
  | @cast _ world _ id tended allowed target value made _ casts inductionHypothesis =>
      exact (made_of_cast tended.planned casts).genuine allowed
        (value.genuine_unadapt inductionHypothesis) (null_of_cast inductionHypothesis casts)
  | staticCast tended allowed casts => exact genuine_of_staticCast tended.planned allowed casts

/-! ### Layers -/

/-- A plain value, or one layer of an engine for a target directly over it. -/
inductive Layer (id : EngineId) (target : TypeId) (plain : Value) : Value → Prop where
  | bare : Layer id target plain plain
  | adapter (ref : Ref) (factory : Factory) (relays : List (Option RelayId))
      (ofEngine : factory.engine = id) (ofTarget : factory.shape = target)
      (side : factory.isStatic = false) (present : plain.isNull = false) :
      Layer id target plain (.adapter ref factory plain relays)
  | adapted (ref : Ref) (factory : DelegateFactory) (c : Callable) (isCallable : plain = .callable c)
      (ofEngine : factory.engine = id) (ofTarget : factory.target = target) :
      Layer id target plain (.callable (.adapted ref factory c))

/-- Unless it translates an enum, what a cast makes has one layer at most. -/
theorem Made.layer (makes : Made registry id target plain made)
    (untranslated : ¬ TranslatesEnum registry target plain)
    (nullity : plain.isNull = true → made = .null) : Layer id target plain made := by
  cases makes with
  | null => exact .bare
  | fits => exact .bare
  | generic => exact .bare
  | written _ _ _ translates => exact absurd translates untranslated
  | read _ translates => exact absurd translates untranslated
  | adapter ref factory relays owner plans =>
      obtain ⟨ofEngine, ofTarget, _, side⟩ := plans.subject
      exact .adapter ref factory relays ofEngine ofTarget side (present_of_adapter nullity)
  | adapted ref factory c isCallable plans =>
      obtain ⟨_, _, _, _, _, ofEngine, ofTarget, _⟩ := plans.subject
      exact .adapted ref factory c isCallable ofEngine ofTarget

namespace Layer

theorem unadapt_eq (layer : Layer id target plain made) (isPlain : plain.unadapt = plain) :
    made.unadapt = plain := by
  cases layer with
  | bare => exact isPlain
  | adapter ref factory relays _ _ side _ =>
      simp only [Value.unadapt, side]
      exact isPlain
  | adapted ref factory c isCallable =>
      subst isCallable
      exact isPlain

theorem peel_eq (layer : Layer id target plain made) : made.peel = plain.peel := by
  cases layer with
  | bare => rfl
  | adapter ref factory relays _ _ _ present =>
      simp only [Value.peel, present]
      rfl
  | adapted ref factory c isCallable =>
      subst isCallable
      rfl

end Layer

/-! ### A new engine -/

/-- A world with one engine, which is new. -/
def newcomer (registry : Registry) : World Unit :=
  { World.initial () with
    registry := registry
    engines := #[Engine.fresh ⟨0⟩ Config.standard] }

theorem newcomer_tended (registry : Registry) : (newcomer registry).Tended ⟨0⟩ :=
  ⟨rfl, .fresh ⟨0⟩ Config.standard⟩

end Cast
end StructuralCast
