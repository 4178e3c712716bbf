import StructuralCast.Proofs.Event.Subscription
import StructuralCast.Proofs.Forwarding.Pair

/-!
Contract: what surrounds the use of a slot.

Whatever it is that runs in the end, an adapter checks what it is given, converts it, and converts what
comes back. `Factory.calling`, `Factory.reading` and `Factory.writing` are these frames, with what runs
as a parameter; for events it is `Adapter.handling`. A use of an adapter is a use of the slot that it
selects (`Use.run_of_method`, `Use.run_of_property`).

A frame does not tell apart what runs alike in the worlds that its own steps lead to (`handling_congr` and
its kin). These are worlds over the same registry.
-/

namespace StructuralCast

open Step

variable {σ α : Type} {world : World σ}

namespace Action

/-- An engine is kept alive during either of two actions that go on alike. -/
theorem holding_congr {id : EngineId} {action action' : Action σ CallError α}
    (alike : action.run (world.retain id) = action'.run (world.retain id)) :
    (holding id action).run world = (holding id action').run world := by
  by_cases alive : world.isAlive id = true
  · rw [run_holding alive, run_holding alive, alike]
  · rw [show (holding id action).run world = _ from if_neg alive,
      show (holding id action').run world = _ from if_neg alive]

theorem checkArguments_bind_congr {member : String} {params : List TypeId} {args : List Value}
    {next next' : Unit → Action σ CallError α} (alike : (next ()).run world = (next' ()).run world) :
    (checkArguments member params args >>= next).run world =
      (checkArguments member params args >>= next').run world := by
  refine run_bind_congr fun _ between checks => ?_
  obtain ⟨_, rfl⟩ := Prod.mk.inj checks
  exact alike

theorem convertAll_bind_congr {id : EngineId} {pairs : List (Conversion × Value)}
    {next next' : List Value → Action σ CallError α}
    (alike : ∀ converted between, between.registry = world.registry →
      (next converted).run between = (next' converted).run between) :
    (convertAll id pairs >>= next).run world = (convertAll id pairs >>= next').run world :=
  run_bind_congr fun converted between converts =>
    alike converted between ((follows_convertAll id pairs).related_of_run converts).registry

end Action

/-! ### Frames -/

/-- Runs a method on a source. One without a body is called through the adapter that the source is, if it
is one. -/
def Method.enter (host : Host σ) (method : Method) (source : Value) (args : List Value) :
    Action σ CallError Value :=
  match method.body, source.adapter? with
  | none, some inner => inner.callSignature host method.name method.params args
  | _, _ => method.invoke host source args

namespace Factory

variable {factory : Factory} {args index : List Value} {assigned : Value}

/-- The call of a slot, with what is run on the converted arguments. -/
def calling (factory : Factory) (slot : MethodSlot) (args : List Value)
    (inner : List Value → Action σ CallError Value) : Action σ CallError Value := do
  Action.checkArguments slot.name slot.params args
  let converted ← Action.convertAll factory.engine (slot.argConversions.zip args)
  let result ← inner converted
  if slot.result = .void then return .null
  else Action.convert factory.engine slot.resultConversion result

/-- The reading of a slot, with what is run on the converted index. -/
def reading (factory : Factory) (slot : PropertySlot) (index : List Value)
    (inner : List Value → Action σ CallError Value) : Action σ CallError Value := do
  Action.checkArguments slot.name slot.index index
  let converted ← Action.convertAll factory.engine (slot.indexConversions.zip index)
  let value ← inner converted
  Action.convert factory.engine slot.onGet value

/-- An assignment to a slot, with what is run on the converted index and the converted value. -/
def writing (factory : Factory) (slot : PropertySlot) (index : List Value) (assigned : Value)
    (inner : List Value → Value → Action σ CallError Unit) : Action σ CallError Unit := do
  Action.checkArguments slot.name slot.index index
  Action.checkArguments slot.name [slot.type] [assigned]
  let converted ← Action.convertAll factory.engine (slot.indexConversions.zip index)
  let value ← Action.convert factory.engine slot.onSet assigned
  inner converted value

theorem forward_eq (host : Host σ) (factory : Factory) (slot : MethodSlot) (args : List Value)
    (source : Value) :
    factory.forward host slot args source =
      forwardVia host (source.adapter?.map fun inner => inner.callSignature host) factory source slot
        args := by
  cases source with
  | adapter => rw [forward]; rfl
  | _ => simp only [forward, Value.adapter?, Option.map_none]

/-- Calling a slot enters the method that is dispatched to. -/
theorem run_forward (host : Host σ) (factory : Factory) (slot : MethodSlot) (args : List Value)
    (source : Value) :
    (factory.forward host slot args source).run world =
      (factory.calling slot args
        ((factory.dispatchMethod world.registry source slot.source).enter host source)).run world := by
  rw [forward_eq]
  unfold forwardVia calling
  refine Action.checkArguments_bind_congr (Action.convertAll_bind_congr ?_)
  intro converted between sameTypes
  rw [run_bind, run_get]
  dsimp only
  rw [sameTypes]
  unfold Method.enter
  cases (factory.dispatchMethod world.registry source slot.source).body with
  | none =>
      cases source.adapter? with
      | none => rfl
      | some inner => rfl
  | some routine => rfl

/-- A method without a body whose receiver is an adapter is called through that one. -/
theorem run_forward_adapter {host : Host σ} {slot : MethodSlot} {ref : Ref} {inner : Factory}
    {innerSource : Value} {relays : List (Option RelayId)} {method : Method}
    (dispatches : factory.dispatchMethod world.registry (.adapter ref inner innerSource relays)
      slot.source = method) (bodiless : method.body = none) :
    (factory.forward host slot args (.adapter ref inner innerSource relays)).run world =
      (factory.calling slot args
        (Adapter.callSignature host ⟨ref, inner, innerSource, relays⟩ method.name method.params)).run
        world := by
  rw [run_forward, dispatches]
  unfold Method.enter
  rw [bodiless]
  rfl

end Factory

namespace Adapter

variable {host : Host σ} {adapter : Adapter}

theorem run_read (slot : PropertySlot) (index : List Value) :
    (adapter.read host slot index).run world =
      (Action.holding adapter.factory.engine (adapter.factory.reading slot index fun converted =>
        (adapter.factory.dispatchProperty world.registry adapter.source slot.source).get host
          adapter.source converted)).run world := by
  unfold read Factory.reading
  refine Action.holding_congr (Action.checkArguments_bind_congr (Action.convertAll_bind_congr ?_))
  intro converted between sameTypes
  rw [run_bind, run_get]
  dsimp only
  rw [sameTypes]
  rfl

theorem run_write (slot : PropertySlot) (index : List Value) (assigned : Value) :
    (adapter.write host slot index assigned).run world =
      (Action.holding adapter.factory.engine
        (adapter.factory.writing slot index assigned fun converted value =>
          (adapter.factory.dispatchProperty world.registry adapter.source slot.source).set host
            adapter.source converted value)).run world := by
  unfold write Factory.writing
  refine Action.holding_congr (Action.checkArguments_bind_congr
    (Action.checkArguments_bind_congr (Action.convertAll_bind_congr ?_)))
  intro converted between sameTypes
  refine run_bind_congr fun value after converts => ?_
  have follows : World.Follows between after :=
    (Action.follows_convert adapter.factory.engine slot.onSet assigned).related_of_run converts
  rw [run_bind, run_get]
  dsimp only
  rw [follows.registry, sameTypes]
  rfl

/-- A handler is used in one way or another, if the two go on alike for the event that is named. -/
theorem handling_congr {name : String} {value : Value} {idle : α}
    {use use' : Registry → EventSlot → Option RelayId → Callable → Action σ CallError α}
    (alike : ∀ slot list c between, adapter.event? name = .ok (slot, list) →
      between.registry = world.registry →
      (use world.registry slot list c).run between = (use' world.registry slot list c).run between) :
    (adapter.handling name value idle use).run world =
      (adapter.handling name value idle use').run world := by
  unfold handling
  refine Action.holding_congr ?_
  rw [run_bind, run_bind, run_get]
  dsimp only
  refine run_bind_congr fun found between looks => ?_
  obtain ⟨named, rfl⟩ := Prod.mk.inj looks
  refine run_bind_congr fun handler after handles => ?_
  obtain ⟨_, rfl⟩ := Prod.mk.inj handles
  cases handler with
  | none => rfl
  | some c => exact alike found.1 found.2 c _ named rfl

/-! ### The slot of a use -/

namespace Use

/-- What a use passes, without what it assigns. -/
def args : Use → List Value
  | call _ args | callSignature _ _ args | callSlot _ args => args
  | get _ | set _ _ => []
  | getIndex index | setIndex index _ => index

def assigned? : Use → Option Value
  | set _ assigned | setIndex _ assigned => some assigned
  | _ => none

variable {use : Use}

theorem mem_methods_of_slot? {registry : Registry} {slot : MethodSlot}
    (selects : use.slot? registry adapter = some (.method slot)) : slot ∈ adapter.factory.methods := by
  cases use with
  | call name args =>
      obtain ⟨_, found, same⟩ := Option.map_eq_some_iff.1 selects
      cases same
      exact mem_of_selectSlot (ok_of_toOption found)
  | callSignature name params args =>
      obtain ⟨_, found, same⟩ := Option.map_eq_some_iff.1 selects
      cases same
      exact Factory.mem_of_slotWithSignature? found
  | callSlot index args =>
      obtain ⟨_, found, same⟩ := Option.map_eq_some_iff.1 selects
      cases same
      exact List.mem_of_getElem? found
  | get | set | getIndex | setIndex =>
      obtain ⟨_, _, impossible⟩ := Option.map_eq_some_iff.1 selects
      cases impossible

theorem mem_properties_of_slot? {registry : Registry} {slot : PropertySlot}
    (selects : use.slot? registry adapter = some (.property slot)) :
    slot ∈ adapter.factory.properties := by
  cases use with
  | call | callSignature | callSlot =>
      obtain ⟨_, _, impossible⟩ := Option.map_eq_some_iff.1 selects
      cases impossible
  | get | set =>
      obtain ⟨_, found, same⟩ := Option.map_eq_some_iff.1 selects
      cases same
      exact mem_of_propertySlot? found
  | getIndex | setIndex =>
      obtain ⟨_, found, same⟩ := Option.map_eq_some_iff.1 selects
      cases same
      exact mem_of_indexerSlot? found

/-- A use that selects a method calls its slot. -/
theorem run_of_method {slot : MethodSlot}
    (selects : use.slot? world.registry adapter = some (.method slot)) :
    (use.run host adapter).run world = (Action.holding adapter.factory.engine
      (adapter.factory.forward host slot use.args adapter.source)).run world := by
  cases use with
  | call name args =>
      obtain ⟨_, found, same⟩ := Option.map_eq_some_iff.1 selects
      cases same
      have selected : selectSlot (world.retain adapter.factory.engine).registry adapter.factory name
          args = .ok slot := ok_of_toOption found
      simp only [run, Adapter.call, Use.args]
      refine Action.holding_congr ?_
      rw [run_bind, run_get]
      dsimp only
      rw [selected]
      rfl
  | callSignature name params args =>
      obtain ⟨_, found, same⟩ := Option.map_eq_some_iff.1 selects
      cases same
      simp only [run, Adapter.callSignature, Factory.callSignatureVia, found, Use.args]
  | callSlot index args =>
      obtain ⟨_, found, same⟩ := Option.map_eq_some_iff.1 selects
      cases same
      simp only [run, Adapter.callSlot, found, Use.args]
  | get | set | getIndex | setIndex =>
      obtain ⟨_, _, impossible⟩ := Option.map_eq_some_iff.1 selects
      cases impossible

/-- A use that selects a property reads or writes its slot. -/
theorem run_of_property {registry : Registry} {slot : PropertySlot}
    (selects : use.slot? registry adapter = some (.property slot)) :
    use.run host adapter =
      match use.assigned? with
      | none => adapter.read host slot use.args
      | some assigned => do
        adapter.write host slot use.args assigned
        return .null := by
  cases use with
  | call | callSignature | callSlot =>
      obtain ⟨_, _, impossible⟩ := Option.map_eq_some_iff.1 selects
      cases impossible
  | get name =>
      obtain ⟨_, found, same⟩ := Option.map_eq_some_iff.1 selects
      cases same
      simp only [run, Adapter.get, found, assigned?, args]
  | set name assigned =>
      obtain ⟨_, found, same⟩ := Option.map_eq_some_iff.1 selects
      cases same
      simp only [run, Adapter.set, found, assigned?, args]
  | getIndex index =>
      obtain ⟨_, found, same⟩ := Option.map_eq_some_iff.1 selects
      cases same
      simp only [run, Adapter.getIndex, found, assigned?, args]
  | setIndex index assigned =>
      obtain ⟨_, found, same⟩ := Option.map_eq_some_iff.1 selects
      cases same
      simp only [run, Adapter.setIndex, found, assigned?, args]

end Use
end Adapter
end StructuralCast
