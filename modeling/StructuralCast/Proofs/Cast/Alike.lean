import StructuralCast.Proofs.Engine.Agreement
import StructuralCast.Proofs.Forwarding.Counterpart

/-!
Contract: what two engines make in place of each other.

An engine that casts a value makes an adapter of its own, so what two engines make of one value is never
the same. It is alike (`Value.Alike`): for one target, over values that are alike. Casts do not tell
alike values apart, and what two engines make of them is alike again (`Cast.agree_cast`); to a target
that the engines are of one mind about they fail together as well. So do the conversions of a slot
(`Action.agree_convertAll`).
-/

namespace StructuralCast

open Step

/-! ### Values -/

/-- One value, or two texts of one content. -/
inductive Value.Restates : Value → Value → Prop where
  | same (value : Value) : Restates value value
  | text (ref ref' : Ref) (content : String) : Restates (.text ref content) (.text ref' content)

/-- What two engines make in place of each other: values that are the same, texts of one content, or
layers for one target over values that are alike. -/
inductive Value.Alike : Value → Value → Prop where
  | same (value : Value) : Alike value value
  | text (ref ref' : Ref) (content : String) : Alike (.text ref content) (.text ref' content)
  | adapter {factory factory' : Factory} {source source' : Value} (ref ref' : Ref)
      (relays relays' : List (Option RelayId)) (shape : factory.shape = factory'.shape)
      (side : factory.isStatic = false) (side' : factory'.isStatic = false)
      (sources : Alike source source') :
      Alike (.adapter ref factory source relays) (.adapter ref' factory' source' relays')
  | adapted (ref ref' : Ref) (factory : DelegateFactory) (engine : EngineId) (inner : Callable) :
      Alike (.callable (.adapted ref factory inner))
        (.callable (.adapted ref' { factory with engine := engine } inner))

namespace Value

variable {value value' : Value}

instance : Std.Refl Alike := ⟨.same⟩

theorem Restates.alike (restates : value.Restates value') : value.Alike value' := by
  cases restates with
  | same => exact .same value
  | text ref ref' content => exact .text ref ref' content

theorem Alike.isNull_eq (alike : value.Alike value') : value.isNull = value'.isNull := by
  cases alike with
  | same => rfl
  | text => rfl
  | adapter => rfl
  | adapted => rfl

theorem Alike.type?_eq (alike : value.Alike value') : value.type? = value'.type? := by
  cases alike with
  | same => rfl
  | text => rfl
  | adapter _ _ _ _ shape => exact congrArg some shape
  | adapted => rfl

/-- Below all layers there is the same. -/
theorem Alike.unadapt (alike : value.Alike value') : value.unadapt.Restates value'.unadapt := by
  induction alike with
  | same value => exact .same value.unadapt
  | text ref ref' content => exact .text ref ref' content
  | adapter _ _ _ _ _ side side' _ inductionHypothesis =>
      simp only [Value.unadapt, side, side']
      exact inductionHypothesis
  | adapted _ _ _ _ inner => exact .same (.callable inner.unadapt)

end Value

/-! ### Worlds that tend an engine -/

namespace World

variable {σ : Type} {registry : Registry} {id : EngineId} {world : World σ}

/-- A world over a registry, with an engine that nothing but operations over it has changed. -/
structure Tending (registry : Registry) (id : EngineId) (world : World σ) : Prop where
  sameRegistry : world.registry = registry
  tended : world.Tended id

theorem Tending.reachable (tending : world.Tending registry id) :
    Engine.Reachable registry (world.engine id) :=
  tending.sameRegistry ▸ tending.tended.reachable

/-- Owners come and go. -/
theorem Tending.setOwners (tending : world.Tending registry id) (other : EngineId) (count : Nat) :
    (world.setEngine other { world.engine other with owners := count }).Tending registry id := by
  refine ⟨tending.sameRegistry, ?_, ?_⟩
  · rw [engine_setEngine]
    split
    case isTrue same =>
      obtain ⟨rfl, _⟩ := same
      exact tending.tended.named
    case isFalse => exact tending.tended.named
  · rw [engine_setEngine]
    split
    case isTrue same =>
      obtain ⟨rfl, _⟩ := same
      exact tending.tended.reachable.owners count
    case isFalse => exact tending.tended.reachable

theorem Tending.retain (tending : world.Tending registry id) (other : EngineId) :
    (world.retain other).Tending registry id :=
  tending.setOwners other _

theorem Tending.release (tending : world.Tending registry id) (other : EngineId) :
    (world.release other).Tending registry id :=
  tending.setOwners other _

end World

namespace Cast

variable {σ : Type} {registry : Registry} {world world' : World σ} {id id' : EngineId}
  {target : TypeId} {value value' plain plain' : Value}

theorem tending_cast (id : EngineId) (target : TypeId) (value : Value) :
    Leads (Keeps (World.Tending registry id)) world (cast id target value) := by
  rintro ⟨rfl, named, reachable⟩
  have follows : World.Follows world ((cast id target value).run world).2 :=
    follows_cast id target value
  refine ⟨follows.registry, (follows.engines id named).edits.sameId.1.trans named, ?_⟩
  rw [follows.registry]
  exact .cast rfl named reachable target value

/-! ### Casts side by side -/

/-- An adapter that has nothing to relay can be made of any value. -/
theorem adapt_quiet {factory : Factory} (quiet : factory.events = []) (source : Value) :
    ∃ ref, ((adapt factory source).run world).1 = .ok (.adapter ref factory source []) := by
  unfold adapt
  rw [quiet]
  exact ⟨_, rfl⟩

/-- A factory for a quiet shape has nothing to relay. -/
theorem events_of_quiet {answer : TypeId → TypeId → Bool} {shape source : TypeId} {factory : Factory}
    (plans : registry.PlansBy answer id shape source factory) (quiet : registry.Quiet shape) :
    factory.events = [] := by
  obtain ⟨members, found, slots⟩ := plans.slots
  refine List.filterMap_eq_nil_iff.2 fun slot isSlot => ?_
  obtain ⟨required, isRequired, isFor⟩ := exists_of_mem_right slots isSlot
  have binds := isFor.binds
  have noEvent := quiet members found required isRequired
  cases wanted : required.member with
  | method wanted =>
      simp only [wanted] at binds
      obtain ⟨method, rfl, _⟩ := binds
      rfl
  | property wanted =>
      simp only [wanted] at binds
      obtain ⟨property, rfl, _⟩ := binds
      rfl
  | event wanted =>
      rw [wanted] at noEvent
      exact absurd rfl noEvent

/-- Adapters of two engines for one shape over alike values. -/
theorem alike_of_interface {made made' : Value} {after after' : World σ}
    (planned : world.Planned id) (planned' : world'.Planned id')
    (restates : plain.Restates plain')
    (casts : (byStrategy id target plain .interface).run world = (.ok made, after))
    (casts' : (byStrategy id' target plain' .interface).run world' = (.ok made', after')) :
    made.Alike made' := by
  obtain ⟨ref, factory, relays, owner, rfl, plans⟩ := adapter_of_interface planned casts
  obtain ⟨ref', factory', relays', owner', rfl, plans'⟩ := adapter_of_interface planned' casts'
  obtain ⟨_, shape, _, side⟩ := plans.subject
  obtain ⟨_, shape', _, side'⟩ := plans'.subject
  exact .adapter ref ref' relays relays' (shape.trans shape'.symm) side side' restates.alike

/-- Callables of two engines for one delegate type over one callable. -/
theorem alike_of_delegate {made made' : Value} {after after' : World σ}
    (planned : world.Planned id) (planned' : world'.Planned id')
    (sameRegistry : world'.registry = world.registry) (restates : plain.Restates plain')
    (casts : (byStrategy id target plain .delegate).run world = (.ok made, after))
    (casts' : (byStrategy id' target plain' .delegate).run world' = (.ok made', after')) :
    made.Alike made' := by
  obtain ⟨ref, factory, c, rfl, rfl, _, synthesizes⟩ := adapted_of_delegate planned casts
  obtain ⟨ref', factory', c', rfl, rfl, _, synthesizes'⟩ := adapted_of_delegate planned' casts'
  cases restates
  rw [sameRegistry, Registry.synthesizeDelegate_rename id id', synthesizes] at synthesizes'
  obtain rfl := Except.ok.inj synthesizes'
  exact .adapted ref ref' factory id' c

/-- Two engines make adapters together for a shape that they are of one mind about. -/
theorem together_interface (orderly : registry.Orderly) (tending : world.Tending registry id)
    (tending' : world'.Tending registry id') (unanimous : registry.Unanimous target)
    (restates : plain.Restates plain') :
    Agree False (fun _ _ => True) ((byStrategy id target plain .interface).run world).1
      ((byStrategy id' target plain' .interface).run world').1 := by
  have type : plain.type? = plain'.type? := restates.alike.type?_eq
  have agreed := tending.reachable.agree_factory tending'.reachable orderly unanimous
    (plain.type?.getD .object)
  have adapts : ∀ {made : Factory} {source : TypeId} {asked : Engine} {after : Engine}
      (value : Value) (start : World σ), Engine.Reachable registry asked →
      (Engine.factory registry target source).run asked = (.ok made, after) →
        ∃ adapter, ((Action.mapError CastError.call (adapt made value)).run start).1 = .ok adapter := by
    intro made source asked after value start reachable hands
    obtain ⟨owner, _, answer, plans⟩ := reachable.owner_of_factory hands
    obtain ⟨ref, makes⟩ := adapt_quiet (events_of_quiet plans unanimous.2) value
    rw [Action.run_mapError, makes]
    exact ⟨_, rfl⟩
  unfold byStrategy
  rw [run_bind, run_bind]
  dsimp only [run_get]
  rw [tending.sameRegistry, tending'.sameRegistry, ← type]
  refine Agree.bind agreed fun made made' after after' ran ran' _ => ?_
  obtain ⟨adapter, makes⟩ := adapts plain after tending.reachable (Action.ok_of_withEngine ran)
  obtain ⟨adapter', makes'⟩ := adapts plain' after' tending'.reachable (Action.ok_of_withEngine ran')
  rw [makes, makes']
  exact .ok trivial

/-- Two engines make callables together for a delegate type. -/
theorem together_delegate (orderly : registry.Orderly) (tending : world.Tending registry id)
    (tending' : world'.Tending registry id') (plainBases : registry.PlainBases)
    (restates : plain.Restates plain') :
    Agree False (fun _ _ => True) ((byStrategy id target plain .delegate).run world).1
      ((byStrategy id' target plain' .delegate).run world').1 := by
  have type : plain.type? = plain'.type? := restates.alike.type?_eq
  unfold byStrategy
  rw [run_bind, run_bind]
  dsimp only [run_get]
  rw [tending.sameRegistry, tending'.sameRegistry]
  cases restates with
  | text => exact .error _
  | same =>
      cases plain with
      | callable c =>
          have agreed := tending.reachable.agree_delegateFactory tending'.reachable orderly plainBases
            target c.type
          exact Agree.bind agreed fun _ _ _ _ _ _ _ => .ok trivial
      | _ => exact .error _

/-- Enums are written and read in one way. -/
theorem agree_enumText (sameRegistry : world'.registry = world.registry)
    (restates : plain.Restates plain') :
    Agree False Value.Alike ((byStrategy id target plain .enumText).run world).1
      ((byStrategy id' target plain' .enumText).run world').1 := by
  unfold byStrategy
  rw [run_bind, run_bind]
  dsimp only [run_get]
  rw [sameRegistry]
  cases restates with
  | text ref ref' content =>
      dsimp only
      cases parseEnum world.registry target content with
      | ok parsed => exact .ok (.same parsed)
      | error cause => exact .error _
  | same =>
      cases plain with
      | text ref content =>
          dsimp only
          cases parseEnum world.registry target content with
          | ok parsed => exact .ok (.same parsed)
          | error cause => exact .error _
      | enumeration type number =>
          dsimp only
          split
          case isTrue => exact .ok (.text _ _ _)
          case isFalse => exact .error _
      | _ => exact .error _

theorem agree_byStrategy (orderly : registry.Orderly) (tending : world.Tending registry id)
    (tending' : world'.Tending registry id') (strategy : Strategy) (restates : plain.Restates plain') :
    Agree (¬ registry.Unanimous target) Value.Alike
      ((byStrategy id target plain strategy).run world).1
      ((byStrategy id' target plain' strategy).run world').1 := by
  have sameRegistry := tending'.sameRegistry.trans tending.sameRegistry.symm
  cases strategy with
  | interface =>
      refine .of_ok (fun unanimous => ?_) fun made made' makes makes' => ?_
      · exact together_interface orderly tending tending' (not_not.1 unanimous) restates
      · exact alike_of_interface tending.tended.planned tending'.tended.planned restates
          (Prod.ext makes rfl) (Prod.ext makes' rfl)
  | delegate =>
      refine .of_ok (fun unanimous => ?_) fun made made' makes makes' => ?_
      · exact together_delegate orderly tending tending' (not_not.1 unanimous).1 restates
      · exact alike_of_delegate tending.tended.planned tending'.tended.planned sameRegistry restates
          (Prod.ext makes rfl) (Prod.ext makes' rfl)
  | enumText => exact (agree_enumText sameRegistry restates).mono False.elim fun _ _ alike => alike
  | genericParam => exact .ok restates.alike

/-- What two engines make of alike values is alike. Either may fail alone only for a target that engines
are of different minds about. -/
theorem agree_cast (orderly : registry.Orderly) (tending : world.Tending registry id)
    (tending' : world'.Tending registry id') (target : TypeId) (alike : value.Alike value') :
    Agree (¬ registry.Unanimous target) Value.Alike ((cast id target value).run world).1
      ((cast id' target value').run world').1 := by
  have restates := alike.unadapt
  have type := restates.alike.type?_eq
  unfold cast
  rw [run_bind, run_bind]
  dsimp only [run_get]
  rw [tending.sameRegistry, tending'.sameRegistry, ← alike.isNull_eq, ← type, failure, failure,
    failure, failure, ← alike.type?_eq, ← type]
  split
  case isTrue => exact .error _
  case isFalse =>
    split
    case isTrue => exact .ok (.same .null)
    case isFalse =>
      split
      case isTrue => exact .ok restates.alike
      case isFalse =>
        cases Strategy.claimant? registry target (value.unadapt.type?.getD .object) with
        | none => exact .error _
        | some strategy => exact agree_byStrategy orderly tending tending' strategy restates

end Cast

/-! ### Conversions side by side -/

/-- A conversion that engines may be of different minds about. -/
def Conversion.Divides (registry : Registry) : Conversion → Prop
  | .duck target => ¬ registry.Unanimous target
  | _ => False

namespace Action

variable {σ : Type} {registry : Registry} {world world' : World σ} {id id' : EngineId}
  {conversions : List Conversion} {values values' : List Value} {value value' : Value}

theorem tending_convert (id : EngineId) (conversion : Conversion) (value : Value) :
    Leads (Keeps (World.Tending registry id)) world (convert id conversion value) :=
  leads_convert (Cast.tending_cast id) conversion value

theorem tending_convertAll (id : EngineId) (pairs : List (Conversion × Value)) :
    Leads (Keeps (World.Tending registry id)) world (convertAll id pairs) :=
  leads_convertAll (fun _ => Cast.tending_cast id) pairs

/-- A conversion does not tell alike values apart. -/
theorem agree_convert (orderly : registry.Orderly) (tending : world.Tending registry id)
    (tending' : world'.Tending registry id') (conversion : Conversion) (alike : value.Alike value') :
    Agree (conversion.Divides registry) Value.Alike ((convert id conversion value).run world).1
      ((convert id' conversion value').run world').1 := by
  have type := alike.type?_eq
  unfold convert
  rw [run_bind, run_bind]
  dsimp only [run_get]
  rw [tending.sameRegistry, tending'.sameRegistry, Registry.typeName, Registry.typeName, ← type,
    ← alike.isNull_eq]
  cases conversion with
  | identity => exact .ok alike
  | passThrough => exact .ok alike
  | unbox target =>
      dsimp only
      split
      case isTrue => exact .error _
      case isFalse =>
        split
        case isTrue => exact .ok alike
        case isFalse => exact .error _
  | downcast target =>
      dsimp only
      split
      case isTrue => exact .ok alike
      case isFalse => exact .error _
  | duck target =>
      refine Agree.bind ((Cast.agree_cast orderly tending tending' target alike).mapError _) ?_
      intro made made' after after' _ _ alike
      rw [← alike.isNull_eq]
      split
      case isTrue => exact .error _
      case isFalse => exact .ok alike

/-- Neither do the conversions of a list of values. -/
theorem agree_convertAll (orderly : registry.Orderly) (tending : world.Tending registry id)
    (tending' : world'.Tending registry id') (conversions : List Conversion)
    (alike : List.Forall₂ Value.Alike values values') :
    Agree (∃ conversion ∈ conversions, conversion.Divides registry) (List.Forall₂ Value.Alike)
      ((convertAll id (conversions.zip values)).run world).1
      ((convertAll id' (conversions.zip values')).run world').1 := by
  induction conversions generalizing values values' world world' with
  | nil => exact .ok .nil
  | cons conversion conversions inductionHypothesis =>
      cases alike with
      | nil => exact .ok .nil
      | @cons value value' values values' here further =>
          have converts := agree_convert orderly tending tending' conversion here
          refine Agree.bind (converts.mono ?_ fun _ _ alike => alike) ?_
          · exact fun divides => ⟨conversion, List.mem_cons_self, divides⟩
          intro converted converted' between between' ran ran' made
          have others := inductionHypothesis
            ((tending_convert id conversion value).related_of_run ran tending)
            ((tending_convert id' conversion value').related_of_run ran' tending') further
          refine Agree.bind (others.mono ?_ fun _ _ alike => alike) ?_
          · rintro ⟨other, isOther, divides⟩
            exact ⟨other, List.mem_cons_of_mem _ isOther, divides⟩
          intro rest rest' _ _ _ _ restMade
          exact .ok (.cons made restMade)

end Action
end StructuralCast
