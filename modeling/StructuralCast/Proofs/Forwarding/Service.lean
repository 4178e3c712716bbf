import StructuralCast.Proofs.Forwarding.Conduct
import StructuralCast.Proofs.Forwarding.Slot

/-!
Contract: what serves a use of an adapter, and on which terms.

`Terms` are the types that the two sides of a use declare: for what goes in, and for a result on
every step of its way out. `Adapter.Use.service?` finds the routine that a use ends at, which for
adapters over adapters is that of the innermost one, and the terms of the way there.

What is known of a result at the end of its way is `Terms.warrant`: the last conversion that looked
at it vouches for its type, or, if none did, the member that it came from. The terms are `Sound` if
the type that is declared for the result admits that. They always are where every slot on the way
declares a result that can be assigned to the one it was looked up for (`Terms.Regular`), as on a way
of one step.
-/

namespace StructuralCast

open Step

/-- A step of a result on its way out, from the type that a member declares to the one that a shape
declares. Without a conversion, null takes the place of the result. -/
structure Passage where
  target : TypeId
  source : TypeId
  conversion : Option Conversion

/-- The types of a use: pairs of what the source declares to receive and what the shape declares to
take, the result that the source declares, and the way of the result, its last step first. -/
structure Terms where
  arguments : List (TypeId × TypeId)
  assigned : Option (TypeId × TypeId)
  declared : TypeId
  passages : List Passage

/-- What runs for a use in the end. -/
structure Service where
  routine : RoutineId
  receiver : Value
  terms : Terms

namespace Passage

/-- The step that a call takes back; a shape that declares no result discards it. -/
def back (target source : TypeId) (conversion : Conversion) : Passage :=
  ⟨target, source, if target = .void then none else some conversion⟩

def warrant (passage : Passage) (known : Option TypeId) : Option TypeId :=
  match passage.conversion with
  | some conversion => conversion.warrant passage.target known
  | none => none

/-- Whether a result is at most tested on a step. -/
def Plain (passage : Passage) : Prop :=
  ∃ conversion, passage.conversion = some conversion ∧ ∀ target, conversion ≠ .duck target

def Planned (registry : Registry) (passage : Passage) : Prop :=
  match passage.conversion with
  | some conversion => registry.planConversion passage.target passage.source = .ok conversion
  | none => passage.target = .void

/-- Takes a result over a step. -/
def carry {σ : Type} (passage : Passage) (engine : EngineId) (result : Value) :
    Action σ CallError Value :=
  match passage.conversion with
  | some conversion => Action.convert engine conversion result
  | none => return .null

theorem carry_back {σ : Type} (engine : EngineId) (target source : TypeId)
    (conversion : Conversion) (result : Value) :
    ((back target source conversion).carry engine result : Action σ CallError Value) =
      if target = .void then return .null else Action.convert engine conversion result := by
  unfold back carry
  by_cases discards : target = .void
  · simp only [if_pos discards]
  · simp only [if_neg discards]

/-- The step back carries out no other conversion. -/
theorem eq_of_mem_back {target source : TypeId} {conversion other : Conversion}
    (member : other ∈ (back target source conversion).conversion) : other = conversion := by
  unfold back at member
  split at member
  case isTrue => cases member
  case isFalse => exact (Option.some.inj member).symm

theorem follows_carry {σ : Type} {world : World σ} (engine : EngineId) (passage : Passage)
    (result : Value) : Leads World.Follows world (passage.carry engine result) := by
  unfold carry
  split
  case h_1 => exact Action.follows_convert engine _ result
  case h_2 => exact Leads.pure _

theorem planned_back {registry : Registry} {target source : TypeId} {conversion : Conversion}
    (plans : registry.planConversion target source = .ok conversion) :
    (back target source conversion).Planned registry := by
  unfold back Planned
  by_cases discards : target = .void
  · simp only [if_pos discards]
    exact discards
  · simp only [if_neg discards]
    exact plans

end Passage

namespace Terms

variable {registry : Registry} {terms : Terms}

/-- What a routine receives is as the source declares it, where both sides declare proper types. -/
def Receives (registry : Registry) (terms : Terms) (args : List Value) (assigned : Value) : Prop :=
  registry.Suits terms.arguments args ∧
    ∀ pair ∈ terms.assigned, registry.Proper pair.1 → registry.Proper pair.2 →
      registry.admits pair.1 assigned.type? = true

/-- What is known of a result at the end of its way. -/
def warrant (terms : Terms) : Option TypeId :=
  terms.passages.foldr Passage.warrant (some terms.declared)

/-- The type that is declared for the result admits all that is known of it. -/
def Sound (registry : Registry) (terms : Terms) : Prop :=
  ∀ outer ∈ terms.passages.head?, registry.admits outer.target terms.warrant = true

/-- No shape on the way declares a generic parameter for the result. -/
def Concrete (registry : Registry) (terms : Terms) : Prop :=
  ∀ passage ∈ terms.passages, registry.kind passage.target ≠ .genericParam

/-- All types on the way of a result are proper. -/
def Proper (registry : Registry) (terms : Terms) : Prop :=
  ∀ passage ∈ terms.passages, registry.Proper passage.target ∧ registry.Proper passage.source

/-- Every step goes on from a type that can be assigned to the one it starts from. -/
def Regular (registry : Registry) (terms : Terms) : Prop :=
  terms.passages.IsChain fun outer inner => registry.assignable outer.source inner.target = true

/-- Every step was planned, and the way starts at what the source declares. -/
def Planned (registry : Registry) (terms : Terms) : Prop :=
  (∀ passage ∈ terms.passages, passage.Planned registry) ∧
    ∃ inner ∈ terms.passages.getLast?, inner.source = terms.declared

/-- What a use hands back for the value of a routine. If that is as the source declares it and the
terms are sound, it is as the shape declares it. That they are sound is necessary, too, for a value of
just the type that is known, unless it is converted by a cast or discarded on its way. -/
def Returns (registry : Registry) (terms : Terms) (value handed : Value) : Prop :=
  ∀ outer ∈ terms.passages.head?,
    (terms.Concrete registry → registry.admits terms.declared value.type? = true →
      terms.Sound registry → registry.admits outer.target handed.type? = true) ∧
    ((∀ passage ∈ terms.passages, passage.Plain) → value.type? = terms.warrant →
      registry.admits outer.target handed.type? = true → terms.Sound registry)

/-- What is known of a value at the end of its way, in terms of what it was. -/
def Delivers (registry : Registry) (terms : Terms) (value handed : Value) : Prop :=
  (terms.Concrete registry → registry.admits terms.declared value.type? = true →
      registry.Covers terms.warrant handed.type?) ∧
    ((∀ passage ∈ terms.passages, passage.Plain) → handed = value)

/-- The way starts with the value itself. -/
theorem delivers_start (arguments : List (TypeId × TypeId)) (assigned : Option (TypeId × TypeId))
    (declared : TypeId) (value : Value) :
    Delivers registry ⟨arguments, assigned, declared, []⟩ value value :=
  ⟨fun _ isInstance => isInstance, fun _ => rfl⟩

/-- What is known after one step more. -/
theorem Delivers.step {σ : Type} {world after : World σ} {id : EngineId}
    (settled : world.Settled registry) {passage : Passage} (planned : passage.Planned registry)
    {value answer handed : Value} (delivers : terms.Delivers registry value answer)
    (carries : (passage.carry id answer).run world = (.ok handed, after)) :
    Delivers registry { terms with passages := passage :: terms.passages } value handed := by
  obtain rfl := settled.sameRegistry
  obtain ⟨target, source, conversion⟩ := passage
  unfold Passage.carry at carries
  refine ⟨fun concrete isInstance => ?_, fun plain => ?_⟩
  · have covers := delivers.1 (fun passage member => concrete passage (List.mem_cons_of_mem _ member))
      isInstance
    have notGeneric := concrete _ List.mem_cons_self
    cases conversion with
    | none =>
        cases carries
        rfl
    | some conversion =>
        exact Action.covers_of_convert (settled.planned id) planned notGeneric covers carries
  · have same := delivers.2 fun passage member => plain passage (List.mem_cons_of_mem _ member)
    obtain ⟨conversion', isConversion, notDuck⟩ := plain _ List.mem_cons_self
    cases isConversion
    rw [Action.eq_of_convert notDuck carries, same]

theorem Delivers.returns (orderly : registry.Orderly) (apart : registry.ValuesApart)
    {value handed : Value} (delivers : terms.Delivers registry value handed) :
    terms.Returns registry value handed := by
  intro outer isOuter
  refine ⟨fun concrete isInstance sound => ?_, fun plain exactly isInstance other isOther => ?_⟩
  · apply Registry.admits_of_covers orderly apart (sound outer isOuter)
    exact delivers.1 concrete isInstance
  · rw [delivers.2 plain, exactly] at isInstance
    obtain rfl : other = outer := Option.mem_unique isOther isOuter
    exact isInstance

theorem planned_single {arguments : List (TypeId × TypeId)} {assigned : Option (TypeId × TypeId)}
    {passage : Passage} (plans : passage.Planned registry) :
    Planned registry ⟨arguments, assigned, passage.source, [passage]⟩ :=
  ⟨List.forall_mem_singleton.2 plans, passage, rfl, rfl⟩

theorem Planned.cons {passage : Passage} (planned : terms.Planned registry)
    (plans : passage.Planned registry) :
    Planned registry { terms with passages := passage :: terms.passages } := by
  obtain ⟨arguments, assigned, declared, passages⟩ := terms
  obtain ⟨others, inner, isInner, starts⟩ := planned
  refine ⟨List.forall_mem_cons.2 ⟨plans, others⟩, inner, ?_, starts⟩
  dsimp only at isInner ⊢
  cases passages with
  | nil => cases isInner
  | cons next rest => rwa [List.getLast?_cons_cons]

/-- On a regular way, the declared types vouch for each other. -/
theorem Planned.sound (orderly : registry.Orderly) (apart : registry.ValuesApart)
    (planned : terms.Planned registry) (proper : terms.Proper registry)
    (regular : terms.Regular registry) : terms.Sound registry := by
  obtain ⟨arguments, assigned, declared, passages⟩ := terms
  intro outer isOuter
  show registry.admits outer.target (passages.foldr Passage.warrant (some declared)) = true
  obtain ⟨plans, starts⟩ := planned
  dsimp only [Proper, Regular] at *
  induction passages generalizing outer with
  | nil => cases isOuter
  | cons first rest inductionHypothesis =>
      cases isOuter
      rw [List.foldr_cons]
      obtain ⟨properTarget, properSource⟩ := proper first List.mem_cons_self
      have vouched : registry.admits first.source
          (rest.foldr Passage.warrant (some declared)) = true := by
        cases rest with
        | nil =>
            obtain ⟨_, isFirst, sameType⟩ := starts
            cases isFirst
            obtain rfl : first.source = declared := sameType
            exact Registry.admits_self
        | cons next others =>
            have further := inductionHypothesis
              (fun passage member => proper passage (List.mem_cons_of_mem _ member))
              (List.isChain_cons_cons.1 regular).2 next rfl
              (fun passage member => plans passage (List.mem_cons_of_mem _ member))
              (by rwa [List.getLast?_cons_cons] at starts)
            apply Registry.admits_of_assignable orderly apart
              (List.isChain_cons_cons.1 regular).1 further
      have planned := plans first List.mem_cons_self
      unfold Passage.warrant
      unfold Passage.Planned at planned
      cases conversion : first.conversion with
      | none =>
          rw [conversion] at planned
          exact absurd planned properTarget.1
      | some conversion' =>
          rw [conversion] at planned
          exact Registry.admits_warrant orderly apart planned properTarget properSource.1 vouched

end Terms

/-! ### The service of a use -/

namespace Service

/-- The same service, with one step more on the way back. -/
def through (service : Service) (passage : Passage) : Service :=
  { service with terms := { service.terms with passages := passage :: service.terms.passages } }

def Receives (registry : Registry) (service : Service) (call : HostCall) : Prop :=
  call.routine = service.routine ∧ call.receiver = service.receiver ∧
    service.terms.Receives registry call.args call.assigned

end Service

namespace Factory

/-- What serves a method slot over a source; `enter` is about the adapter that the source is. -/
def serviceVia? (registry : Registry) (enter : String → List TypeId → Option Service)
    (factory : Factory) (source : Value) (slot : MethodSlot) : Option Service :=
  let method := factory.dispatchMethod registry source slot.source
  let passage := Passage.back slot.result method.result slot.resultConversion
  match method.body with
  | some routine =>
    some ⟨routine, source, ⟨method.params.zip slot.params, none, method.result, [passage]⟩⟩
  | none => (enter method.name method.params).map (·.through passage)

def service? (registry : Registry) (factory : Factory) (slot : MethodSlot) :
    Value → Option Service
  | .adapter ref inner innerSource relays =>
    serviceVia? registry
      (fun name params => (inner.slotWithSignature? name params).bind fun innerSlot =>
        service? registry inner innerSlot innerSource)
      factory (.adapter ref inner innerSource relays) slot
  | source => serviceVia? registry (fun _ _ => none) factory source slot

/-- What serves the reading of a property slot. -/
def getterService? (registry : Registry) (factory : Factory) (source : Value)
    (slot : PropertySlot) : Option Service :=
  let property := factory.dispatchProperty registry source slot.source
  (property.getter.bind Accessor.body).map fun routine =>
    ⟨routine, source, ⟨property.index.zip slot.index, none, property.type,
      [⟨slot.type, property.type, some slot.onGet⟩]⟩⟩

/-- What serves an assignment to a property slot. -/
def setterService? (registry : Registry) (factory : Factory) (source : Value)
    (slot : PropertySlot) : Option Service :=
  let property := factory.dispatchProperty registry source slot.source
  (property.setter.bind Accessor.body).map fun routine =>
    ⟨routine, source, ⟨property.index.zip slot.index, some (property.type, slot.type), .void, []⟩⟩

end Factory

namespace Adapter

/-- The ways to use an adapter. -/
inductive Use where
  | call (name : String) (args : List Value)
  | callSignature (name : String) (params : List TypeId) (args : List Value)
  | callSlot (index : Nat) (args : List Value)
  | get (name : String)
  | set (name : String) (assigned : Value)
  | getIndex (index : List Value)
  | setIndex (index : List Value) (assigned : Value)

namespace Use

variable {σ : Type}

/-- Carries out a use; an assignment hands back null. -/
def run (host : Host σ) (adapter : Adapter) : Use → Action σ CallError Value
  | call name args => adapter.call host name args
  | callSignature name params args => adapter.callSignature host name params args
  | callSlot index args => adapter.callSlot host index args
  | get name => adapter.get host name
  | set name assigned => do
    adapter.set host name assigned
    return .null
  | getIndex index => adapter.getIndex host index
  | setIndex index assigned => do
    adapter.setIndex host index assigned
    return .null

/-- What serves a use of an adapter, if anything does. -/
def service? (registry : Registry) (adapter : Adapter) : Use → Option Service
  | call name args =>
    (selectSlot registry adapter.factory name args).toOption.bind fun slot =>
      adapter.factory.service? registry slot adapter.source
  | callSignature name params _ =>
    (adapter.factory.slotWithSignature? name params).bind fun slot =>
      adapter.factory.service? registry slot adapter.source
  | callSlot index _ =>
    adapter.factory.methods[index]?.bind fun slot =>
      adapter.factory.service? registry slot adapter.source
  | get name =>
    (propertySlot? adapter.factory name PropertySlot.readable).bind
      (adapter.factory.getterService? registry adapter.source)
  | set name _ =>
    (propertySlot? adapter.factory name PropertySlot.writable).bind
      (adapter.factory.setterService? registry adapter.source)
  | getIndex index =>
    (indexerSlot? adapter.factory index.length PropertySlot.readable).bind
      (adapter.factory.getterService? registry adapter.source)
  | setIndex index _ =>
    (indexerSlot? adapter.factory index.length PropertySlot.writable).bind
      (adapter.factory.setterService? registry adapter.source)

end Use
end Adapter

/-- The terms of a callable that an engine has put over another one. -/
def Callable.terms? (registry : Registry) : Callable → Option Terms
  | .adapted _ factory inner =>
    (registry.info inner.type).invoke.map fun offered =>
      ⟨offered.params.zip factory.params, none, offered.result,
        [.back factory.result offered.result factory.resultConversion]⟩
  | _ => none

end StructuralCast
