import StructuralCast.Proofs.Forwarding.Abreast

/-!
Contract: using two adapters of one value side by side.

The adapters are for one shape, one over a factory for the type of the value and one over a factory for
that type or for a type above it (`Adapter.Paired`). A use selects counterparts in both. If it matches,
that is, if these are bound to members of the same types, then both uses go on side by side
(`Adapter.Paired.abreast`): they check and convert the same, and run the same member on the value.
A conversion may be a cast that only one of the engines is able to make; such a use divides them
(`Adapter.Use.Divides`).
-/

namespace StructuralCast

open Step

variable {σ : Type} {registry : Registry} {id id' : EngineId} {world world' : World σ}

/-! ### Members -/

section Members

variable {excuse : Prop} {receiver : Value} {args args' : List Value}

theorem abreast_invoke (method : Method) (receiver : Value)
    (alike : List.Forall₂ Value.Alike args args') (tending : world.Tending registry id)
    (tending' : world'.Tending registry id') :
    Abreast registry id id' excuse Value.Alike world world'
      (fun host => method.invoke host receiver args) fun host => method.invoke host receiver args' := by
  unfold Method.invoke
  cases method.body with
  | none => exact .throw _
  | some routine => exact .run ⟨rfl, rfl, alike, .same .null⟩ tending tending'

theorem abreast_get (property : Property) (receiver : Value)
    (alike : List.Forall₂ Value.Alike args args') (tending : world.Tending registry id)
    (tending' : world'.Tending registry id') :
    Abreast registry id id' excuse Value.Alike world world'
      (fun host => property.get host receiver args) fun host => property.get host receiver args' := by
  unfold Property.get
  cases property.getter with
  | none => exact .throw _
  | some accessor =>
      dsimp only
      cases accessor.body with
      | none => exact .throw _
      | some routine => exact .run ⟨rfl, rfl, alike, .same .null⟩ tending tending'

theorem abreast_set (property : Property) (receiver : Value) {assigned assigned' : Value}
    (alike : List.Forall₂ Value.Alike args args') (assignments : assigned.Alike assigned')
    (tending : world.Tending registry id) (tending' : world'.Tending registry id') :
    Abreast registry id id' excuse Eq world world'
      (fun host => property.set host receiver args assigned)
      fun host => property.set host receiver args' assigned' := by
  unfold Property.set
  cases property.setter with
  | none => exact .throw _
  | some accessor =>
      dsimp only
      cases accessor.body with
      | none => exact .throw _
      | some routine =>
          have requests : HostCall.Alike ⟨routine, receiver, args, assigned⟩
              ⟨routine, receiver, args', assigned'⟩ := ⟨rfl, rfl, alike, assignments⟩
          refine (Abreast.run requests tending tending').follow ?_ ?_ ?_
          · exact fun _ _ => Leads.pure _
          · exact fun _ _ => Leads.pure _
          · exact fun _ _ _ _ _ _ _ => .ok rfl

end Members

/-! ### Slots -/

/-- The conversions that a use of a slot may carry out. -/
def Slot.conversions : Slot → List Conversion
  | .method slot => slot.argConversions ++ [slot.resultConversion]
  | .property slot => slot.indexConversions ++ [slot.onGet, slot.onSet]
  | .event _ => []

section Slots

variable {excuse : Prop} {factory factory' : Factory} {source : Value} {args : List Value}

/-- Slots that agree are called in one way. -/
theorem abreast_forwardVia (orderly : registry.Orderly) {slot slot' : MethodSlot}
    (agrees : slot.Agrees registry factory factory' source slot')
    (excused : ∀ conversion ∈ (Slot.method slot).conversions, conversion.Divides registry → excuse)
    (tending : world.Tending registry factory.engine)
    (tending' : world'.Tending registry factory'.engine) (args : List Value) :
    Abreast registry factory.engine factory'.engine excuse Value.Alike world world'
      (fun host => factory.forwardVia host none source slot args)
      fun host => factory'.forwardVia host none source slot' args := by
  obtain ⟨name, params, result, argConversions, resultConversion, method⟩ := agrees
  unfold Factory.forwardVia
  rw [← name, ← params, ← result, ← argConversions, ← resultConversion]
  refine .checked tending tending' ?_
  refine .converted orderly tending tending' ?_ (List.forall₂_refl args) ?_
  · exact fun conversion member => excused conversion (List.mem_append_left _ member)
  intro received received' between between' tending tending' alikes
  refine .looked ?_
  rw [tending.sameRegistry, tending'.sameRegistry, ← method]
  generalize factory.dispatchMethod registry source slot.source = chosen
  have invokes : Abreast registry factory.engine factory'.engine excuse Value.Alike between between'
      (fun host => chosen.invoke host source received)
      fun host => chosen.invoke host source received' :=
    abreast_invoke chosen source alikes tending tending'
  simp only [← Passage.carry_back _ slot.result chosen.result slot.resultConversion]
  have goes := invokes.back orderly (.back slot.result chosen.result slot.resultConversion) (by
    intro conversion carried
    obtain rfl := Passage.eq_of_mem_back carried
    exact excused _ (List.mem_append_right _ List.mem_cons_self))
  cases chosen.body with
  | none => exact goes
  | some routine => exact goes

end Slots

/-! ### Adapters of one value -/

namespace Adapter

/-- Two adapters of one value for one shape. The factory of the second was made for the type of the
value, that of the first for a type above it. -/
structure Paired (registry : Registry) (type : TypeId) (adapter adapter' : Adapter) : Prop where
  sources : adapter'.source = adapter.source
  typed : adapter.source.type? = some type
  unwrapped : adapter.source.adapter? = none
  side : adapter.factory.isStatic = false
  above : adapter.factory.source ∈ registry.chain type
  exactly : adapter'.factory.source = type
  shapeName : adapter'.factory.shapeName = adapter.factory.shapeName
  slots : List.Forall₂ (Slot.Counterpart registry adapter.factory.source adapter'.factory.source)
    adapter.factory.slots adapter'.factory.slots

/-- Whether what an adapter uses in place of a bound property has the accessors that the slot needs. -/
def reaches (registry : Registry) (adapter : Adapter) : Slot → Bool
  | .method _ => true
  | .property slot =>
    slot.accessible (adapter.factory.dispatchProperty registry adapter.source slot.source)
  | .event _ => true

/-- The slots that a use selects in two adapters are bound to members that declare the same types, and
the first adapter reaches what its slot needs. -/
structure Use.Matches (registry : Registry) (adapter adapter' : Adapter) (use : Use) : Prop where
  declared : ∀ slot ∈ use.slot? registry adapter, ∀ slot' ∈ use.slot? registry adapter',
    slot.declared = slot'.declared
  accessible : ∀ slot ∈ use.slot? registry adapter, adapter.reaches registry slot = true

instance (registry : Registry) (adapter adapter' : Adapter) (use : Use) :
    Decidable (use.Matches registry adapter adapter') :=
  decidable_of_iff
    ((∀ slot ∈ use.slot? registry adapter, ∀ slot' ∈ use.slot? registry adapter',
        slot.declared = slot'.declared) ∧
      ∀ slot ∈ use.slot? registry adapter, adapter.reaches registry slot = true)
    ⟨fun ⟨declared, accessible⟩ => ⟨declared, accessible⟩,
      fun matching => ⟨matching.declared, matching.accessible⟩⟩

/-- A use for which a conversion may be carried out that engines are of different minds about. -/
def Use.Divides (registry : Registry) (adapter : Adapter) (use : Use) : Prop :=
  ∃ slot ∈ use.slot? registry adapter, ∃ conversion ∈ slot.conversions, conversion.Divides registry

section Properties

variable {adapter adapter' : Adapter} {excuse : Prop} {slot slot' : PropertySlot}

/-- Slots that agree are read in one way. -/
theorem abreast_read (orderly : registry.Orderly) (sources : adapter'.source = adapter.source)
    (agrees : slot.Agrees registry adapter.factory adapter'.factory adapter.source slot')
    (excused : ∀ conversion ∈ (Slot.property slot).conversions, conversion.Divides registry → excuse)
    (ready : world.Ready registry adapter.factory.engine)
    (ready' : world'.Ready registry adapter'.factory.engine) (index : List Value) :
    Abreast registry adapter.factory.engine adapter'.factory.engine excuse Value.Alike world world'
      (fun host => adapter.read host slot index) fun host => adapter'.read host slot' index := by
  obtain ⟨name, _, indexTypes, indexConversions, onGet, _, property⟩ := agrees
  unfold Adapter.read
  rw [← name, ← indexTypes, ← indexConversions, ← onGet, sources]
  refine .holding ready ready' fun held held' => ?_
  refine .checked held held' ?_
  refine .converted orderly held held' ?_ (List.forall₂_refl index) ?_
  · exact fun conversion member => excused conversion (List.mem_append_left _ member)
  intro received received' between between' tending tending' alikes
  refine .looked ?_
  rw [tending.sameRegistry, tending'.sameRegistry, ← property]
  generalize adapter.factory.dispatchProperty registry adapter.source slot.source = chosen
  have gets : Abreast registry adapter.factory.engine adapter'.factory.engine excuse Value.Alike between
      between' (fun host => chosen.get host adapter.source received)
      fun host => chosen.get host adapter.source received' :=
    abreast_get chosen adapter.source alikes tending tending'
  refine gets.back orderly ⟨slot.type, chosen.type, some slot.onGet⟩ fun conversion carried => ?_
  obtain rfl := Option.some.inj carried
  exact excused _ (List.mem_append_right _ List.mem_cons_self)

/-- Slots that agree are written in one way. -/
theorem abreast_write (orderly : registry.Orderly) (sources : adapter'.source = adapter.source)
    (agrees : slot.Agrees registry adapter.factory adapter'.factory adapter.source slot')
    (excused : ∀ conversion ∈ (Slot.property slot).conversions, conversion.Divides registry → excuse)
    (ready : world.Ready registry adapter.factory.engine)
    (ready' : world'.Ready registry adapter'.factory.engine) (index : List Value) (assigned : Value) :
    Abreast registry adapter.factory.engine adapter'.factory.engine excuse Eq world world'
      (fun host => adapter.write host slot index assigned)
      fun host => adapter'.write host slot' index assigned := by
  obtain ⟨name, slotType, indexTypes, indexConversions, _, onSet, property⟩ := agrees
  unfold Adapter.write
  rw [← name, ← slotType, ← indexTypes, ← indexConversions, ← onSet, sources]
  refine .holding ready ready' fun held held' => ?_
  refine .checked held held' ?_
  refine .checked held held' ?_
  refine .converted orderly held held' ?_ (List.forall₂_refl index) ?_
  · exact fun conversion member => excused conversion (List.mem_append_left _ member)
  intro received received' between between' tending tending' alikes
  have converts := Action.agree_convert orderly tending tending' slot.onSet (.same assigned)
  refine .precede (converts.mono (excused slot.onSet ?_) fun _ _ alikes => alikes) ?_
  · simp [Slot.conversions]
  intro value value' middle middle' ran ran' values
  have tends := (Action.tending_convert _ slot.onSet assigned).related_of_run ran tending
  have tends' := (Action.tending_convert _ slot.onSet assigned).related_of_run ran' tending'
  refine .looked ?_
  rw [tends.sameRegistry, tends'.sameRegistry, ← property]
  exact abreast_set _ adapter.source alikes values tends tends'

end Properties

/-! ### Every use -/

namespace Paired

variable {type : TypeId} {adapter adapter' : Adapter} {use : Use}

theorem unknown_eq (paired : Paired registry type adapter adapter') (member : String) :
    adapter'.factory.unknown member = adapter.factory.unknown member := by
  rw [Factory.unknown, Factory.unknown, paired.shapeName]

theorem excused_of_selected {slot : Slot} (selected : use.slot? registry adapter = some slot) :
    ∀ conversion ∈ slot.conversions, conversion.Divides registry → use.Divides registry adapter :=
  fun conversion member divides => ⟨slot, selected, conversion, member, divides⟩

/-- A call by name selects counterparts, or fails in one way. -/
theorem agree_selectSlot (paired : Paired registry type adapter adapter') (name : String)
    (args : List Value) :
    Agree False (MethodSlot.Counterpart registry adapter.factory.source adapter'.factory.source)
      (selectSlot registry adapter.factory name args)
      (selectSlot registry adapter'.factory name args) := by
  have named := List.rel_filter (p := fun slot => decide (slot.name = name))
    (q := fun slot => decide (slot.name = name))
    (fun slot slot' counterpart => by simp only [counterpart.called.1])
    (counterparts_methods paired.slots)
  have fitting := List.rel_filter (p := fun slot => decide (slot.params.length = args.length))
    (q := fun slot => decide (slot.params.length = args.length))
    (fun slot slot' counterpart => by simp only [counterpart.called.2]) named
  have accepting := rel_find?
    (fun slot => (slot.params.zip args).all fun pair => registry.accepts pair.1 pair.2)
    (fun slot => (slot.params.zip args).all fun pair => registry.accepts pair.1 pair.2)
    (fun slot slot' counterpart => by rw [counterpart.called.2]) fitting
  unfold selectSlot
  dsimp only
  rcases cases_of_rel accepting with ⟨missing, missing'⟩ | ⟨slot, slot', found, found', counterpart⟩
  · rw [missing, missing']
    generalize (adapter.factory.methods.filter _).filter _ = candidates at fitting ⊢
    generalize (adapter'.factory.methods.filter _).filter _ = candidates' at fitting ⊢
    generalize adapter.factory.methods.filter _ = others at named ⊢
    generalize adapter'.factory.methods.filter _ = others' at named ⊢
    cases fitting with
    | cons => exact .error _
    | nil =>
        cases named with
        | nil =>
            rw [Factory.unknown, Factory.unknown, paired.shapeName]
            exact .error _
        | cons counterpart _ =>
            dsimp only
            rw [counterpart.called.2]
            exact .error _
  · rw [found, found']
    exact .ok counterpart

/-- Only adapters forward to slots of what they are over. -/
theorem forward_eq {host : Host σ} {factory : Factory} {source : Value}
    (unwrapped : source.adapter? = none) (slot : MethodSlot) (args : List Value) :
    factory.forward host slot args source = factory.forwardVia host none source slot args := by
  cases source with
  | adapter => cases unwrapped
  | _ => rfl

/-- What a use calls in both adapters is called in one way. -/
theorem abreast_forward (paired : Paired registry type adapter adapter') (orderly : registry.Orderly)
    (matching : use.Matches registry adapter adapter') {slot slot' : MethodSlot}
    (counterpart : slot.Counterpart registry adapter.factory.source adapter'.factory.source slot')
    (selected : use.slot? registry adapter = some (.method slot))
    (selected' : use.slot? registry adapter' = some (.method slot'))
    (tending : world.Tending registry adapter.factory.engine)
    (tending' : world'.Tending registry adapter'.factory.engine) (args : List Value) :
    Abreast registry adapter.factory.engine adapter'.factory.engine (use.Divides registry adapter)
      Value.Alike world world'
      (fun host => adapter.factory.forward host slot args adapter.source)
      fun host => adapter'.factory.forward host slot' args adapter'.source := by
  have agrees := counterpart.agrees orderly paired.side paired.typed paired.above paired.exactly
    (matching.declared _ selected _ selected')
  simp only [paired.sources, forward_eq paired.unwrapped]
  exact abreast_forwardVia orderly agrees (excused_of_selected selected) tending tending' args

/-- What a use reads in both adapters is read in one way. -/
theorem abreast_readSlot (paired : Paired registry type adapter adapter') (orderly : registry.Orderly)
    (matching : use.Matches registry adapter adapter') {slot slot' : PropertySlot}
    (counterpart : slot.Counterpart registry adapter.factory.source adapter'.factory.source slot')
    (selected : use.slot? registry adapter = some (.property slot))
    (selected' : use.slot? registry adapter' = some (.property slot'))
    (ready : world.Ready registry adapter.factory.engine)
    (ready' : world'.Ready registry adapter'.factory.engine) (index : List Value) :
    Abreast registry adapter.factory.engine adapter'.factory.engine (use.Divides registry adapter)
      Value.Alike world world' (fun host => adapter.read host slot index)
      fun host => adapter'.read host slot' index := by
  have agrees := counterpart.agrees orderly paired.side paired.typed paired.above paired.exactly
    (matching.declared _ selected _ selected') (matching.accessible _ selected)
  exact abreast_read orderly paired.sources agrees (excused_of_selected selected) ready ready' index

/-- What a use writes in both adapters is written in one way. -/
theorem abreast_writeSlot (paired : Paired registry type adapter adapter') (orderly : registry.Orderly)
    (matching : use.Matches registry adapter adapter') {slot slot' : PropertySlot}
    (counterpart : slot.Counterpart registry adapter.factory.source adapter'.factory.source slot')
    (selected : use.slot? registry adapter = some (.property slot))
    (selected' : use.slot? registry adapter' = some (.property slot'))
    (ready : world.Ready registry adapter.factory.engine)
    (ready' : world'.Ready registry adapter'.factory.engine) (index : List Value) (assigned : Value) :
    Abreast registry adapter.factory.engine adapter'.factory.engine (use.Divides registry adapter)
      Eq world world' (fun host => adapter.write host slot index assigned)
      fun host => adapter'.write host slot' index assigned := by
  have agrees := counterpart.agrees orderly paired.side paired.typed paired.above paired.exactly
    (matching.declared _ selected _ selected') (matching.accessible _ selected)
  exact abreast_write orderly paired.sources agrees (excused_of_selected selected) ready ready' index
    assigned

theorem abreast_call (paired : Paired registry type adapter adapter') (orderly : registry.Orderly)
    {name : String} {args : List Value}
    (matching : Use.Matches registry adapter adapter' (.call name args))
    (ready : world.Ready registry adapter.factory.engine)
    (ready' : world'.Ready registry adapter'.factory.engine) :
    Abreast registry adapter.factory.engine adapter'.factory.engine
      (Use.Divides registry adapter (.call name args)) Value.Alike world world'
      (fun host => adapter.call host name args) fun host => adapter'.call host name args := by
  unfold Adapter.call
  refine .holding ready ready' fun held held' => .looked ?_
  rw [held.sameRegistry, held'.sameRegistry]
  have selects := paired.agree_selectSlot name args
  refine .precede (selects.mono False.elim fun _ _ counterpart => counterpart) ?_
  intro slot slot' between between' ran ran' counterpart
  obtain ⟨isOk, rfl⟩ := Prod.mk.inj ran
  obtain ⟨isOk', rfl⟩ := Prod.mk.inj ran'
  have selected : Use.slot? registry adapter (.call name args) = some (.method slot) := by
    rw [Use.slot?, isOk]
    rfl
  have selected' : Use.slot? registry adapter' (.call name args) = some (.method slot') := by
    rw [Use.slot?, isOk']
    rfl
  exact paired.abreast_forward orderly matching counterpart selected selected' held held' args

theorem rel_propertySlot? (paired : Paired registry type adapter adapter') (name : String)
    {usable : PropertySlot → Bool} (usably : ∀ slot slot' : PropertySlot,
      slot.Counterpart registry adapter.factory.source adapter'.factory.source slot' →
        usable slot = usable slot') :
    Option.Rel (PropertySlot.Counterpart registry adapter.factory.source adapter'.factory.source)
      (propertySlot? adapter.factory name usable) (propertySlot? adapter'.factory name usable) := by
  refine rel_find? _ _ (fun slot slot' counterpart => ?_) (counterparts_properties paired.slots)
  rw [counterpart.used.1, counterpart.used.2.1, usably slot slot' counterpart]

theorem rel_indexerSlot? (paired : Paired registry type adapter adapter') (arity : Nat)
    {usable : PropertySlot → Bool} (usably : ∀ slot slot' : PropertySlot,
      slot.Counterpart registry adapter.factory.source adapter'.factory.source slot' →
        usable slot = usable slot') :
    Option.Rel (PropertySlot.Counterpart registry adapter.factory.source adapter'.factory.source)
      (indexerSlot? adapter.factory arity usable) (indexerSlot? adapter'.factory arity usable) := by
  refine rel_find? _ _ (fun slot slot' counterpart => ?_) (counterparts_properties paired.slots)
  rw [counterpart.used.2.1, usably slot slot' counterpart]

theorem abreast_callSignature (paired : Paired registry type adapter adapter')
    (orderly : registry.Orderly) {name : String} {params : List TypeId} {args : List Value}
    (matching : Use.Matches registry adapter adapter' (.callSignature name params args))
    (ready : world.Ready registry adapter.factory.engine)
    (ready' : world'.Ready registry adapter'.factory.engine) :
    Abreast registry adapter.factory.engine adapter'.factory.engine
      (Use.Divides registry adapter (.callSignature name params args)) Value.Alike world world'
      (fun host => adapter.callSignature host name params args)
      fun host => adapter'.callSignature host name params args := by
  have selects := rel_find? (fun slot => slot.name = name && slot.params = params)
    (fun slot => slot.name = name && slot.params = params)
    (fun slot slot' counterpart => by rw [counterpart.called.1, counterpart.called.2])
    (counterparts_methods paired.slots)
  unfold Adapter.callSignature Factory.callSignatureVia Factory.slotWithSignature?
  refine .holding ready ready' fun held held' => ?_
  rcases cases_of_rel selects with ⟨missing, missing'⟩ | ⟨slot, slot', found, found', counterpart⟩
  · rw [missing, missing', paired.unknown_eq]
    exact .throw _
  · rw [found, found']
    exact paired.abreast_forward orderly matching counterpart (congrArg (Option.map Slot.method) found)
      (congrArg (Option.map Slot.method) found') held held' args

theorem abreast_callSlot (paired : Paired registry type adapter adapter')
    (orderly : registry.Orderly) {index : Nat} {args : List Value}
    (matching : Use.Matches registry adapter adapter' (.callSlot index args))
    (ready : world.Ready registry adapter.factory.engine)
    (ready' : world'.Ready registry adapter'.factory.engine) :
    Abreast registry adapter.factory.engine adapter'.factory.engine
      (Use.Divides registry adapter (.callSlot index args)) Value.Alike world world'
      (fun host => adapter.callSlot host index args) fun host => adapter'.callSlot host index args := by
  have selects := rel_getElem? (counterparts_methods paired.slots) index
  unfold Adapter.callSlot
  refine .holding ready ready' fun held held' => ?_
  rcases cases_of_rel selects with ⟨missing, missing'⟩ | ⟨slot, slot', found, found', counterpart⟩
  · rw [missing, missing', paired.unknown_eq]
    exact .throw _
  · rw [found, found']
    exact paired.abreast_forward orderly matching counterpart (congrArg (Option.map Slot.method) found)
      (congrArg (Option.map Slot.method) found') held held' args

/-- Whatever the use, both adapters go on side by side. -/
theorem abreast (paired : Paired registry type adapter adapter') (orderly : registry.Orderly)
    (matching : use.Matches registry adapter adapter')
    (ready : world.Ready registry adapter.factory.engine)
    (ready' : world'.Ready registry adapter'.factory.engine) :
    Abreast registry adapter.factory.engine adapter'.factory.engine (use.Divides registry adapter)
      Value.Alike world world' (fun host => use.run host adapter) fun host => use.run host adapter' := by
  have readable : ∀ slot slot' : PropertySlot,
      slot.Counterpart registry adapter.factory.source adapter'.factory.source slot' →
        slot.readable = slot'.readable := fun _ _ counterpart => counterpart.used.2.2.1
  have writable : ∀ slot slot' : PropertySlot,
      slot.Counterpart registry adapter.factory.source adapter'.factory.source slot' →
        slot.writable = slot'.writable := fun _ _ counterpart => counterpart.used.2.2.2
  cases use with
  | call name args => exact paired.abreast_call orderly matching ready ready'
  | callSignature name params args => exact paired.abreast_callSignature orderly matching ready ready'
  | callSlot index args => exact paired.abreast_callSlot orderly matching ready ready'
  | get name =>
      simp only [Use.run, Adapter.get]
      rcases cases_of_rel (paired.rel_propertySlot? name readable) with ⟨missing, missing'⟩ |
        ⟨slot, slot', found, found', counterpart⟩
      · rw [missing, missing', paired.unknown_eq]
        exact .throw _
      · rw [found, found']
        exact paired.abreast_readSlot orderly matching counterpart
          (congrArg (Option.map Slot.property) found) (congrArg (Option.map Slot.property) found') ready ready' []
  | getIndex index =>
      simp only [Use.run, Adapter.getIndex]
      rcases cases_of_rel (paired.rel_indexerSlot? index.length readable) with ⟨missing, missing'⟩ |
        ⟨slot, slot', found, found', counterpart⟩
      · rw [missing, missing', paired.unknown_eq]
        exact .throw _
      · rw [found, found']
        exact paired.abreast_readSlot orderly matching counterpart
          (congrArg (Option.map Slot.property) found) (congrArg (Option.map Slot.property) found') ready ready'
          index
  | set name assigned =>
      simp only [Use.run, Adapter.set]
      refine .assigned ?_
      rcases cases_of_rel (paired.rel_propertySlot? name writable) with ⟨missing, missing'⟩ |
        ⟨slot, slot', found, found', counterpart⟩
      · rw [missing, missing', paired.unknown_eq]
        exact .throw _
      · rw [found, found']
        exact paired.abreast_writeSlot orderly matching counterpart
          (congrArg (Option.map Slot.property) found) (congrArg (Option.map Slot.property) found') ready ready' []
          assigned
  | setIndex index assigned =>
      simp only [Use.run, Adapter.setIndex]
      refine .assigned ?_
      rcases cases_of_rel (paired.rel_indexerSlot? index.length writable) with ⟨missing, missing'⟩ |
        ⟨slot, slot', found, found', counterpart⟩
      · rw [missing, missing', paired.unknown_eq]
        exact .throw _
      · rw [found, found']
        exact paired.abreast_writeSlot orderly matching counterpart
          (congrArg (Option.map Slot.property) found) (congrArg (Option.map Slot.property) found') ready
          ready' index assigned

end Paired
end Adapter
end StructuralCast
