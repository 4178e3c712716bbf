import StructuralCast.Proofs.Event.Wrapping
import StructuralCast.Proofs.Session

/-!
Contract: casts that an engine has been made ready for.

A preparation for a shape leaves a factory ready for the pair, unless the source is assignable, and the
pair has one ready for the rest of the session (`hasFactory_of_prepare`). A cast of a value of that type
asks the engine for nothing new then. What may still fail is the connection of the adapter: its relays
are subscribed to the events of the source, and only an object has any (`adapt_cases`).

`cast_of_prepared` says what such a cast comes to, and `struct_refused_when_ready` that being an object
matters: a value of a struct type is refused although the engine was ready.
-/

namespace StructuralCast

open Step

variable {σ : Type}

/-- The first event that the adapters of a factory relay. -/
def Factory.firstRelayed? (factory : Factory) : Option EventSlot :=
  factory.events.find? (·.relay.isSome)

def Value.isObject : Value → Bool
  | object _ => true
  | _ => false

/-! ### Connecting an adapter -/

namespace Cast

variable {world : World σ} {factory : Factory} {source : Value} {slots : List EventSlot}

/-- Where no event is relayed, there is nothing to connect. -/
theorem connect_unrelayed (direct : slots.find? (·.relay.isSome) = none) :
    (connect factory source slots).run world = (.ok (slots.map fun _ => none), world) := by
  induction slots with
  | nil => rfl
  | cons slot rest inductionHypothesis =>
      rw [List.find?_cons] at direct
      cases isRelayed : slot.relay with
      | some plan =>
          rw [isRelayed] at direct
          cases direct
      | none =>
          rw [isRelayed] at direct
          rw [connect_cons_direct isRelayed, run_bind, inductionHypothesis direct]
          rfl

/-- A source without events of its own is refused for the first event that is relayed. -/
theorem connect_refused {cause : String → CallError} {slot : EventSlot}
    (unkeyed : ∀ event, eventKey world.registry factory source event = .error (cause event))
    (first : slots.find? (·.relay.isSome) = some slot) :
    (connect factory source slots).run world = (.error (cause slot.sourceEvent), world) := by
  induction slots with
  | nil => cases first
  | cons head rest inductionHypothesis =>
      rw [List.find?_cons] at first
      cases isRelayed : head.relay with
      | some plan =>
          rw [isRelayed] at first
          obtain rfl := Option.some.inj first
          exact run_connect_cons_error isRelayed (unkeyed head.sourceEvent)
      | none =>
          rw [isRelayed] at first
          rw [connect_cons_direct isRelayed, run_bind, inductionHypothesis first]

/-- An adapter of instances is made of every source, unless it relays events and the source is no object. -/
theorem adapt_cases (world : World σ) (source : Value) (side : factory.isStatic = false) :
    (source.isObject = true ∨ factory.firstRelayed? = none) ∧
        (∃ ref relays after,
          (adapt factory source).run world = (.ok (.adapter ref factory source relays), after)) ∨
      ∃ slot, source.isObject = false ∧ factory.firstRelayed? = some slot ∧
        (adapt factory source).run world =
          (.error (.unknownMember (world.registry.typeName source) slot.sourceEvent), world) := by
  have made : ∀ relays after,
      (connect factory source factory.events).run world = (.ok relays, after) →
        ∃ ref relays after,
          (adapt factory source).run world = (.ok (.adapter ref factory source relays), after) := by
    intro relays after connected
    refine ⟨⟨after.nextRef⟩, relays, { after with nextRef := after.nextRef + 1 }, ?_⟩
    rw [adapt, run_bind, connected]
    rfl
  by_cases object : source.isObject = true
  · have keyed : ∃ key, eventKey world.registry factory source "" = .ok key := by
      cases source with
      | object o => exact ⟨_, if_neg (by simp [side])⟩
      | _ => cases object
    obtain ⟨key, keyed⟩ := keyed
    obtain ⟨relays, after, connected⟩ := connect_ok keyed factory.events world
    exact .inl ⟨.inl object, made relays after connected⟩
  · cases first : factory.firstRelayed? with
    | none =>
        exact .inl ⟨.inr rfl, made _ world (connect_unrelayed first)⟩
    | some slot =>
        have unkeyed : ∀ event, eventKey world.registry factory source event =
            .error (.unknownMember (world.registry.typeName source) event) := by
          intro event
          cases source with
          | object o => exact absurd rfl object
          | _ => simp only [eventKey, side, Bool.false_eq_true, if_false]
        refine .inr ⟨slot, by simpa using object, rfl, ?_⟩
        rw [adapt, run_bind, connect_refused unkeyed first]

/-- An adapter of instances that is over no object relays nothing and keeps no lists. -/
theorem direct_of_adapt {made : Value} {after : World σ} (side : factory.isStatic = false)
    (notObject : source.isObject = false)
    (adapts : (adapt factory source).run world = (.ok made, after)) :
    factory.firstRelayed? = none ∧
      ∃ ref, made = .adapter ref factory source (factory.events.map fun _ => none) := by
  rcases adapt_cases world source side with ⟨object | direct, _⟩ | ⟨_, _, _, refused⟩
  · rw [notObject] at object
    cases object
  · refine ⟨direct, ?_⟩
    rw [adapt, run_bind, connect_unrelayed direct] at adapts
    cases adapts
    exact ⟨_, rfl⟩
  · rw [adapts] at refused
    cases refused

end Cast

/-! ### Being ready -/

/-- A preparation for a shape leaves a factory ready, unless the source is assignable. -/
theorem Engine.hasFactory_of_prepare {registry : Registry} {shape source : TypeId}
    {engine after : Engine} (isShape : registry.kind shape = .interface)
    (prepares : (prepare registry shape source).run engine = (.ok (), after)) :
    knows registry shape source = true ∧
      (registry.assignable shape source = true ∨ after.hasFactory registry shape source = true) := by
  have claimed : Strategy.claimant? registry shape source = some .interface := by
    simp [Strategy.claimant?, Strategy.all, Strategy.claims, isShape]
  unfold prepare at prepares
  split at prepares
  case isFalse => cases prepares
  case isTrue known =>
    refine ⟨known, ?_⟩
    split at prepares
    case isTrue assignable => exact .inl assignable
    case isFalse =>
      rw [claimed] at prepares
      obtain ⟨made, between, searched, ends⟩ := ok_of_run_bind prepares
      cases ends
      rw [hasFactory, ready_of_factory searched]
      exact .inr rfl

namespace World

variable {world : World σ} {id : EngineId} {start : σ}

/-- The factories that an engine keeps for its casts are for instances. -/
theorem Acts.forInstances (history : Acts (initial start) world) {shape source : TypeId}
    {made : Factory} (kept : (world.engine id).interfaces.find? shape source = some made) :
    made.isStatic = false := by
  have noneYet : ¬ (initial start).Has id := Nat.not_lt_zero id.index
  obtain ⟨config, accrues⟩ := history.accrues.newcomers id noneYet
  exact (accrues.forInstances shape source made kept).resolve_left fun found => nomatch found

end World

namespace Cast

variable {world prepared later : World σ} {id : EngineId} {target source : TypeId} {value : Value}

section Run

variable (known : Engine.knows world.registry target source = true) (isSource : value.type? = some source)
  (plain : value.unadapt = value)

include known isSource plain

/-- An instance of the target stays as it is. -/
theorem run_cast_of_assignable (fits : world.registry.assignable target source = true) :
    (cast id target value).run world = (.ok value, world) := by
  have issued : world.registry.issued target = true := (Bool.and_eq_true_iff.1 known).1
  have isInstance : world.registry.admits target value.unadapt.type? = true := by
    rw [plain, isSource]
    exact fits
  rw [run_cast_of_admits issued (Value.present_of_type isSource) isInstance, plain]

/-- Where a factory is ready, a cast for a shape comes to making an adapter of it. -/
theorem run_cast_of_ready {ready : Factory} (isShape : world.registry.kind target = .interface)
    (misfits : world.registry.assignable target source = false)
    (isReady : (world.engine id).readyFactory? world.registry target source = some ready) :
    (cast id target value).run world =
      ((adapt ready value).mapError CastError.call).run world := by
  have issued : world.registry.issued target = true := (Bool.and_eq_true_iff.1 known).1
  have misfit : world.registry.admits target value.unadapt.type? = false := by
    rw [plain, isSource]
    exact misfits
  have claimed : Strategy.claimant? world.registry target (value.unadapt.type?.getD .object) =
      some .interface := by
    simp [Strategy.claimant?, Strategy.all, Strategy.claims, isShape]
  have found : (Action.withEngine id (Engine.factory world.registry target source)).run world =
      (.ok ready, world) := by
    have unchanged : (Engine.factory world.registry target source).run (world.engine id) =
        (.ok ready, world.engine id) := by
      rw [Engine.factory_apply, isReady]
    rw [Action.run_withEngine, unchanged, World.setEngine_engine]
  rw [run_cast_of_claimant issued (Value.present_of_type isSource) misfit claimed, plain]
  unfold byStrategy
  rw [run_bind, run_get]
  dsimp only
  rw [isSource, Option.getD_some, run_bind, found]

end Run

/-- Whatever has gone before, and whatever happens in the meantime: a pair that was prepared for a shape is
assignable later on, or has a factory ready. -/
theorem ready_of_prepared {start : σ} (history : World.Acts (World.initial start) world)
    (has : world.Has id) (isShape : world.registry.kind target = .interface)
    (prepares : (Action.withEngine id (Engine.prepare world.registry target source)).run world =
      (.ok (), prepared))
    (further : World.Acts prepared later) :
    Engine.knows later.registry target source = true ∧ later.registry.kind target = .interface ∧
      (later.registry.assignable target source = true ∨
        later.registry.assignable target source = false ∧
          ∃ ready, (later.engine id).readyFactory? later.registry target source = some ready ∧
            ready.isStatic = false) := by
  have toPrepared : World.Acts world prepared := by
    have act := World.Act.prepare world id target source
    rw [prepares] at act
    exact .single act
  have there : World.Acts (World.initial start) prepared := history.trans toPrepared
  have grown : prepared.registry.Grown := (Registry.retains_of_develops there.accrues.develops .initial).2
  obtain ⟨retains, grownLater⟩ := Registry.retains_of_develops further.accrues.develops grown
  have hasThen : prepared.Has id := (toPrepared.accrues.engines id has).1
  rw [Action.run_withEngine] at prepares
  obtain ⟨isOk, rfl⟩ := Prod.mk.inj prepares
  obtain ⟨known, readyThen⟩ := Engine.hasFactory_of_prepare isShape (Prod.ext isOk rfl)
  refine ⟨retains.knows known, retains.kind_eq isShape (by decide), ?_⟩
  cases fits : later.registry.assignable target source with
  | true => exact .inl rfl
  | false =>
      have misfitsThen : ¬ world.registry.assignable target source = true := by
        intro assignable
        have stillFits := retains.assignable grown.closed grownLater.closed assignable
        rw [fits] at stillFits
        cases stillFits
      obtain ⟨_, accrues⟩ := further.accrues.engines id hasThen
      rw [World.engine_setEngine_self has] at accrues
      have readyLater := accrues.hasFactory retains (readyThen.resolve_left misfitsThen)
      obtain ⟨ready, isReady⟩ := Option.isSome_iff_exists.1 readyLater
      obtain ⟨_, _, kept⟩ := List.exists_of_findSome?_eq_some isReady
      exact .inr ⟨rfl, ready, isReady, World.Acts.forInstances (there.trans further) kept⟩

/-- After a preparation, a cast of a value of the source type asks for no further factory. The value is
cast, unless it is no object and the factory relays events. -/
theorem cast_of_prepared {start : σ} (history : World.Acts (World.initial start) world)
    (has : world.Has id) (isShape : world.registry.kind target = .interface)
    (prepares : (Action.withEngine id (Engine.prepare world.registry target source)).run world =
      (.ok (), prepared))
    (further : World.Acts prepared later) (isSource : value.type? = some source)
    (plain : value.unadapt = value) :
    ∃ outcome after, (cast id target value).run later = (outcome, after) ∧
      after.engines = later.engines ∧
        (later.registry.assignable target source = true ∧ outcome = .ok value ∨
          later.registry.assignable target source = false ∧
            ∃ ready, (later.engine id).readyFactory? later.registry target source = some ready ∧
              ((value.isObject = true ∨ ready.firstRelayed? = none) ∧
                  (∃ ref relays, outcome = .ok (.adapter ref ready value relays)) ∨
                ∃ slot, value.isObject = false ∧ ready.firstRelayed? = some slot ∧
                  outcome = .error
                    (.call (.unknownMember (later.registry.name source) slot.sourceEvent)))) := by
  obtain ⟨known, isShapeLater, fits | ⟨misfits, ready, isReady, side⟩⟩ :=
    ready_of_prepared history has isShape prepares further
  · exact ⟨_, later, run_cast_of_assignable known isSource plain fits, rfl, .inl ⟨fits, rfl⟩⟩
  · have runs := run_cast_of_ready known isSource plain isShapeLater misfits isReady
    have beside : Leads World.Apart later (adapt ready value) := apart_adapt ready value
    rw [runs, Action.run_mapError]
    refine ⟨_, _, rfl, beside.engines, .inr ⟨misfits, ready, isReady, ?_⟩⟩
    rcases adapt_cases later value side with ⟨suits, ref, relays, after, adapts⟩ |
      ⟨slot, notObject, first, refused⟩
    · rw [adapts]
      exact .inl ⟨suits, ref, relays, rfl⟩
    · have named : later.registry.typeName value = later.registry.name source := by
        rw [Registry.typeName, isSource]
      rw [refused, named]
      exact .inr ⟨slot, notObject, first, rfl⟩

end Cast

/-! ### Events that are relayed -/

namespace Studio

/-- An engine over types 16 to 19: delegates that take any value and a text, a shape with an event of the
former, and a type of the given kind with the event of the latter. -/
def opened (kind : TypeKind) : World Unit :=
  let declare (world : World Unit) (name : String) (kind : TypeKind) (definition : Definition) :=
    { world with registry := (world.registry.register (.named name) kind definition).1 }
  let founded := ((World.initial ()).addEngine Config.standard).2
  let report := declare founded "Report" .delegate
    { Definition.empty with invoke := some ⟨[.object], .void⟩ }
  let notice := declare report "Notice" .delegate
    { Definition.empty with invoke := some ⟨[.text], .void⟩ }
  let reporter := declare notice "Reporter" .interface
    { Definition.empty with events := [⟨"Said", ⟨16⟩, false⟩] }
  declare reporter "Speaker" kind { Definition.empty with events := [⟨"Said", ⟨17⟩, false⟩] }

theorem opened_history (kind : TypeKind) : World.Acts (World.initial ()) (opened kind) :=
  ((((Relation.ReflTransGen.single (.addEngine _ _)).tail (.register _ _ _ _)).tail
    (.register _ _ _ _)).tail (.register _ _ _ _)).tail (.register _ _ _ _)

theorem opened_has (kind : TypeKind) : (opened kind).Has ⟨0⟩ :=
  Nat.one_pos

/-- The engine gets ready to cast the type to the shape. -/
def prepared (kind : TypeKind) : World Unit :=
  ((Action.withEngine ⟨0⟩ (Engine.prepare (opened kind).registry ⟨18⟩ ⟨19⟩)).run (opened kind)).2

/-- An object is cast, and its event is relayed. -/
theorem object_cast_when_ready :
    ∃ made after, (Cast.cast ⟨0⟩ ⟨18⟩ (.object ⟨0, ⟨19⟩, "Speaker"⟩)).run (prepared .classType) =
        (.ok made, after) ∧
      after.engines = (prepared .classType).engines := by
  have checked : (opened .classType).registry.kind ⟨18⟩ = .interface ∧
      ((Action.withEngine ⟨0⟩ (Engine.prepare (opened .classType).registry ⟨18⟩ ⟨19⟩)).run
        (opened .classType)).1.toOption = some () := by
    decide +kernel
  have prepares : (Action.withEngine ⟨0⟩
      (Engine.prepare (opened .classType).registry ⟨18⟩ ⟨19⟩)).run (opened .classType) =
        (.ok (), prepared .classType) :=
    Prod.ext (ok_of_toOption checked.2) rfl
  have isSource : (Value.object ⟨0, ⟨19⟩, "Speaker"⟩).type? = some ⟨19⟩ := rfl
  obtain ⟨outcome, after, ran, unchanged, fits | ⟨_, ready, _, made | refused⟩⟩ :=
    Cast.cast_of_prepared (opened_history .classType) (opened_has .classType) checked.1 prepares
      .refl isSource rfl
  · obtain ⟨_, rfl⟩ := fits
    exact ⟨_, after, ran, unchanged⟩
  · obtain ⟨_, ref, relays, rfl⟩ := made
    exact ⟨_, after, ran, unchanged⟩
  · obtain ⟨_, impossible, _⟩ := refused
    cases impossible

/-- A value of a struct type has no events, so it is refused although the engine is ready for its type. -/
theorem struct_refused_when_ready :
    ¬ ∀ (world prepared later : World Unit) (id : EngineId) (target source : TypeId) (value : Value),
      World.Acts (World.initial ()) world → world.Has id →
        world.registry.kind target = .interface →
          (Action.withEngine id (Engine.prepare world.registry target source)).run world =
              (.ok (), prepared) →
            World.Acts prepared later → later.registry = world.registry →
              value.type? = some source → value.adapter? = none →
                ∃ made after, (Cast.cast id target value).run later = (.ok made, after) := by
  intro claimed
  have checked : (opened .structType).registry.kind ⟨18⟩ = .interface ∧
      ((Action.withEngine ⟨0⟩ (Engine.prepare (opened .structType).registry ⟨18⟩ ⟨19⟩)).run
        (opened .structType)).1.toOption = some () ∧
      ((Cast.cast ⟨0⟩ ⟨18⟩ (.struct ⟨19⟩ [])).run (prepared .structType)).1.isOk = false := by
    decide +kernel
  obtain ⟨isShape, ready, refused⟩ := checked
  have prepares : (Action.withEngine ⟨0⟩
      (Engine.prepare (opened .structType).registry ⟨18⟩ ⟨19⟩)).run (opened .structType) =
        (.ok (), prepared .structType) :=
    Prod.ext (ok_of_toOption ready) rfl
  obtain ⟨made, after, casts⟩ := claimed (opened .structType) (prepared .structType)
    (prepared .structType) ⟨0⟩ ⟨18⟩ ⟨19⟩ (.struct ⟨19⟩ []) (opened_history .structType)
    (opened_has .structType) isShape prepares .refl rfl rfl rfl
  rw [casts] at refused
  cases refused

end Studio
end StructuralCast
