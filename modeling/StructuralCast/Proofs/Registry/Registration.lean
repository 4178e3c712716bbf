import StructuralCast.Proofs.Registry.Development

/-!
Contract: what a host can rely on while it builds a registry.

A `Registration` is one call of the host, which the registry may accept or refuse. The host makes any
number of them (`registered`), whatever comes of each.

Types and keys are two views of one array, so each step is described twice: `find?_add` and `find?_set`
say what it does to the types, `lookup_add` and `lookup_set` what it does to the keys. `Sound` is what
every step keeps, `Kept` adds what no later call can undo, and `kept_of_registered` says that both are
there from the start. `assignable_preorder_lasting` is about the order of the types.
-/

namespace StructuralCast

/-- A call by which a host builds a registry. -/
inductive Registration where
  | declare (key : TypeKey) (kind : TypeKind)
  | genericParam (owner : GenericOwner) (position : Nat) (name : String)
  | define (id : TypeId) (definition : Definition)
  | register (key : TypeKey) (kind : TypeKind) (definition : Definition)

namespace Registration

/-- The registry after a call, and the type that the call was about or why it was refused. -/
def perform (registry : Registry) : Registration → Registry × Except RegistryError TypeId
  | declare key kind =>
    match registry.declare key kind with
    | .error cause => (registry, .error cause)
    | .ok (declared, id) => (declared, .ok id)
  | genericParam owner position name =>
    let answer := registry.genericParam owner position name
    (answer.1, .ok answer.2)
  | define id definition =>
    match registry.define id definition with
    | .error cause => (registry, .error cause)
    | .ok defined => (defined, .ok id)
  | register key kind definition => registry.register key kind definition

end Registration

namespace Registry

/-- The registry after any number of calls, accepted or refused. -/
def registered (registry : Registry) (calls : List Registration) : Registry :=
  calls.foldl (fun known call => (call.perform known).1) registry

variable {registry before after : Registry}

/-! ### What one step does to the keys -/

/-- A key is looked up among the keys and ids of the types, so nothing else about a type matters. -/
theorem lookup_eq_of_labels
    (labels : after.types.map (fun info => (info.key, info.id)) =
      before.types.map (fun info => (info.key, info.id))) : after.lookup = before.lookup := by
  have byLabel : ∀ (registry : Registry) (key : TypeKey), registry.lookup key =
      ((registry.types.map fun info => (info.key, info.id)).find? fun label =>
        label.1 = key && !isReserved label.2).map Prod.snd := by
    intro registry key
    rw [Array.find?_map, Option.map_map]
    rfl
  funext key
  rw [byLabel after, byLabel before, labels]

/-- A definition leaves a type under the key that it was declared under. -/
theorem lookup_set {id : TypeId} {current : TypeInfo} (found : registry.find? id = some current)
    (definition : Definition) :
    (Registry.mk (registry.types.setIfInBounds id.raw (current.define definition))).lookup =
      registry.lookup := by
  apply lookup_eq_of_labels
  refine Array.ext_getElem? fun index => ?_
  have changed := find?_set found (current.define definition) ⟨index⟩
  simp only [find?] at changed found
  rw [Array.getElem?_map, Array.getElem?_map, changed]
  split
  case isTrue same =>
    subst same
    rw [found]
    rfl
  case isFalse => rfl

/-- A new type is found under its key, unless there is an older one. -/
theorem lookup_add (large : TypeId.firstDynamic ≤ registry.size) (name : String) (key : TypeKey)
    (kind : TypeKind) (other : TypeKey) :
    (registry.add name key kind).1.lookup other =
      (registry.lookup other).or (if key = other then some ⟨registry.size⟩ else none) := by
  have dynamic : isReserved ⟨registry.size⟩ = false := by
    have beyond : ¬ registry.size < TypeId.firstDynamic := by omega
    simp [isReserved, beyond]
  show ((registry.types.push (TypeInfo.declared ⟨registry.size⟩ name key kind)).find? _).map _ = _
  rw [Array.find?_push, Option.map_or]
  congr 1
  by_cases same : key = other
  · rw [if_pos (by simp [TypeInfo.declared, same, dynamic]), if_pos same]
    rfl
  · rw [if_neg (by simp [TypeInfo.declared, same]), if_neg same]
    rfl

/-- A key that is looked up belongs to a type that has it. -/
theorem exists_of_lookup {key : TypeKey} {id : TypeId} (looked : registry.lookup key = some id) :
    ∃ info ∈ registry.types, info.id = id ∧ info.key = key ∧ isReserved id = false := by
  obtain ⟨info, found, rfl⟩ := Option.map_eq_some_iff.1 looked
  have fits := Array.find?_some found
  simp only [Bool.and_eq_true, decide_eq_true_eq, Bool.not_eq_true'] at fits
  exact ⟨info, Array.mem_of_find?_eq_some found, rfl, fits⟩

/-! ### What every step keeps -/

/-- Types have their place for an id and are found under their keys. -/
structure Sound (registry : Registry) : Prop where
  large : TypeId.firstDynamic ≤ registry.size
  numbered : ∀ id info, registry.find? id = some info → info.id = id
  looked : ∀ id info, registry.find? id = some info → isReserved id = false →
    registry.lookup info.key = some id

theorem sound_initial : Sound Registry.initial := by
  have inPlace : ∀ raw < TypeId.firstDynamic, ∀ info ∈ Registry.initial.find? ⟨raw⟩,
      info.id = ⟨raw⟩ ∧ (isReserved ⟨raw⟩ = false →
        Registry.initial.lookup info.key = some ⟨raw⟩) := by decide +kernel
  have within : ∀ {id : TypeId} {info : TypeInfo}, Registry.initial.find? id = some info →
      id.raw < TypeId.firstDynamic := by
    intro id info found
    rw [← size_initial]
    exact issued_iff.1 (issued_iff_find?.2 ⟨info, found⟩)
  exact
    { large := Nat.le_of_eq size_initial.symm
      numbered := fun id info found => (inPlace id.raw (within found) info found).1
      looked := fun id info found => (inPlace id.raw (within found) info found).2 }

/-- Only a key that is free is given to a new type, so the older types are still found. -/
theorem Sound.add (sound : Sound registry) {key : TypeKey} (free : registry.lookup key = none)
    (name : String) (kind : TypeKind) : Sound (registry.add name key kind).1 := by
  refine ⟨by rw [size_add]; exact Nat.le_succ_of_le sound.large, fun id info found => ?_,
    fun id info found dynamic => ?_⟩
  · rw [find?_add] at found
    split at found
    case isTrue last =>
      cases found
      exact congrArg TypeId.mk last.symm
    case isFalse => exact sound.numbered id info found
  · rw [lookup_add sound.large]
    rw [find?_add] at found
    split at found
    case isTrue last =>
      cases found
      rw [show (TypeInfo.declared ⟨registry.size⟩ name key kind).key = key from rfl, free,
        if_pos rfl, ← last]
      rfl
    case isFalse =>
      rw [sound.looked id info found dynamic]
      rfl

theorem Sound.set (sound : Sound registry) {id : TypeId} {current : TypeInfo}
    (found : registry.find? id = some current) (definition : Definition) :
    Sound ⟨registry.types.setIfInBounds id.raw (current.define definition)⟩ := by
  refine ⟨by simpa [size] using sound.large, fun other info foundThen => ?_,
    fun other info foundThen dynamic => ?_⟩
  · rw [find?_set found] at foundThen
    split at foundThen
    case isTrue same =>
      subst same
      cases foundThen
      exact sound.numbered other current found
    case isFalse => exact sound.numbered other info foundThen
  · rw [lookup_set found]
    rw [find?_set found] at foundThen
    split at foundThen
    case isTrue same =>
      subst same
      cases foundThen
      exact sound.looked other current found dynamic
    case isFalse => exact sound.looked other info foundThen dynamic

theorem Develops.sound (develops : Develops before after) (sound : Sound before) : Sound after := by
  rcases develops.cases with rfl | ⟨name, key, kind, free, rfl⟩ | ⟨id, current, definition, found, _, rfl⟩
  · exact sound
  · exact sound.add free name kind
  · exact sound.set found definition

/-! ### What no step takes back -/

/-- A key stays with the type that it was given to first. -/
theorem Develops.lookup (develops : Develops before after)
    (large : TypeId.firstDynamic ≤ before.size) {key : TypeKey} {id : TypeId}
    (looked : before.lookup key = some id) : after.lookup key = some id := by
  rcases develops.cases with rfl | ⟨name, other, kind, _, rfl⟩ | ⟨_, current, definition, present, _, rfl⟩
  · exact looked
  · rw [lookup_add large, looked]
    rfl
  · rw [lookup_set present, looked]

/-- A call takes a registry no, one or two steps further. -/
theorem develops_perform (registry : Registry) (call : Registration) :
    Relation.ReflTransGen Develops registry (call.perform registry).1 := by
  cases call with
  | declare key kind =>
      simp only [Registration.perform]
      split
      case h_1 => exact .refl
      case h_2 accepted => exact .single (.declare accepted)
  | genericParam owner position name => exact .single (.genericParam registry owner position name)
  | define id definition =>
      simp only [Registration.perform]
      split
      case h_1 => exact .refl
      case h_2 accepted => exact .single (.define accepted)
  | register key kind definition => exact develops_register registry key kind definition

theorem develops_registered (registry : Registry) (calls : List Registration) :
    Relation.ReflTransGen Develops registry (registry.registered calls) := by
  induction calls generalizing registry with
  | nil => exact .refl
  | cons call calls inductionHypothesis =>
      exact (develops_perform registry call).trans (inductionHypothesis _)

/-- What one step keeps and what it does not take back, over any number of steps. -/
theorem sound_of_develops (develops : Relation.ReflTransGen Develops before after)
    (sound : Sound before) : Sound after ∧
      (∀ id info, before.find? id = some info → info.defined = true → after.find? id = some info) ∧
      ∀ key id, before.lookup key = some id → after.lookup key = some id := by
  induction develops with
  | refl => exact ⟨sound, fun _ _ found _ => found, fun _ _ looked => looked⟩
  | tail earlier step inductionHypothesis =>
      obtain ⟨soundThen, _, looked⟩ := inductionHypothesis
      exact ⟨step.sound soundThen, fun _ _ => find?_of_develops (earlier.tail step),
        fun key id lookedFirst => step.lookup soundThen.large (looked key id lookedFirst)⟩

/-! ### The whole contract -/

/-- The registry has a bare declaration of a key more, and is the same otherwise. -/
structure Bare (before after : Registry) (key : TypeKey) (kind : TypeKind) : Prop where
  free : before.lookup key = none
  size : after.size = before.size + 1
  find? : ∀ id, after.find? id =
    if id = ⟨before.size⟩ then
      some (TypeInfo.declared ⟨before.size⟩ (before.keyName key) key kind)
    else before.find? id
  lookup : ∀ other, after.lookup other =
    if other = key then some ⟨before.size⟩ else before.lookup other

theorem bare_add (large : TypeId.firstDynamic ≤ registry.size) {key : TypeKey}
    (free : registry.lookup key = none) (kind : TypeKind) :
    Bare registry (registry.add (registry.keyName key) key kind).1 key kind := by
  refine ⟨free, size_add _ _ _ _, fun id => ?_, fun other => ?_⟩
  · rw [find?_add]
    obtain ⟨raw⟩ := id
    simp only [TypeId.mk.injEq]
  · rw [lookup_add large]
    by_cases same : other = key
    · subst same
      rw [free, if_pos rfl]
      rfl
    · rw [if_neg (Ne.symm same), if_neg same, Option.or_none]

/-- What a host can rely on of a registry, whatever it asks of it next. -/
structure Kept (registry : Registry) : Prop where
  /-- Types are numbered from zero on, without gaps and without repetitions. -/
  numbers : registry.types.toList.map TypeInfo.id = registry.ids ∧ registry.ids.Nodup
  /-- The next type gets the next number, which is a proper one while there are any. -/
  next : ∀ key kind, registry.lookup key = none →
    ∃ declared, (Registration.declare key kind).perform registry = (declared, .ok ⟨registry.size⟩) ∧
      Bare registry declared key kind ∧
      (registry.size < TypeId.absent.raw → (TypeId.mk registry.size).isAbsent = false)
  /-- No two types have the same key, reserved slots apart. -/
  keys : ∀ left right leftInfo rightInfo, registry.find? left = some leftInfo →
    registry.find? right = some rightInfo → isReserved left = false → isReserved right = false →
      leftInfo.key = rightInfo.key → left = right
  looked : ∀ id info, registry.find? id = some info → isReserved id = false →
    registry.lookup info.key = some id
  lookedOnly : ∀ key id, registry.lookup key = some id → isReserved id = false ∧
    ∃ info, registry.find? id = some info ∧ info.key = key
  /-- A type that is not defined takes a definition, and no other type or key changes. -/
  defines : ∀ id info definition, registry.find? id = some info → info.defined = false →
    (∀ mentioned ∈ definition.referencedTypes, registry.issued mentioned = true) →
      ∃ after, (Registration.define id definition).perform registry = (after, .ok id) ∧
        (∀ other, after.find? other =
          if other = id then some (info.define definition) else registry.find? other) ∧
        after.lookup = registry.lookup
  /-- Definitions mention types that have been given out. -/
  mentions : ∀ id info, registry.find? id = some info →
    ∀ mentioned ∈ info.referencedTypes, registry.issued mentioned = true
  /-- What is defined stays as it is. -/
  constant : ∀ id info, registry.find? id = some info → info.defined = true →
    ∀ calls, (registry.registered calls).find? id = some info
  declareRefused : ∀ key kind cause after,
    (Registration.declare key kind).perform registry = (after, .error cause) → after = registry
  defineRefused : ∀ id definition cause after,
    (Registration.define id definition).perform registry = (after, .error cause) → after = registry
  /-- A registration that is refused leaves no more than the declaration. -/
  registerRefused : ∀ key kind definition cause after,
    (Registration.register key kind definition).perform registry = (after, .error cause) →
      (registry.declare key kind = .error cause ∧ after = registry) ∨
        (after.define ⟨registry.size⟩ definition = .error cause ∧ Bare registry after key kind)
  /-- A generic parameter is the same type whenever and under whatever name it is asked for. -/
  generic : ∀ owner position name, ∃ id,
    ((Registration.genericParam owner position name).perform registry).2 = .ok id ∧
      ∀ calls name', let later :=
          ((Registration.genericParam owner position name).perform registry).1.registered calls
        (Registration.genericParam owner position name').perform later = (later, .ok id)

theorem Sound.ids_eq (sound : Sound registry) :
    registry.types.toList.map TypeInfo.id = registry.ids := by
  refine List.ext_getElem (by simp [ids, size]) fun raw within _ => ?_
  have bound : raw < registry.types.size := by simpa using within
  have inPlace := sound.numbered ⟨raw⟩ _ (Array.getElem?_eq_getElem bound)
  simpa [ids] using inPlace

theorem ids_nodup (registry : Registry) : registry.ids.Nodup :=
  List.nodup_range.map fun _ _ same => congrArg TypeId.raw same

/-- A declaration is refused only for a key that is taken. -/
theorem declare_of_free {key : TypeKey} (free : registry.lookup key = none) (kind : TypeKind) :
    registry.declare key kind = .ok (registry.add (registry.keyName key) key kind) := by
  simp [declare, free]

/-- A definition is refused only for a type that is unknown or defined, or if it mentions what is
unknown. -/
theorem define_of_issued {id : TypeId} {info : TypeInfo} {definition : Definition}
    (found : registry.find? id = some info) (undefinedYet : info.defined = false)
    (issued : ∀ mentioned ∈ definition.referencedTypes, registry.issued mentioned = true) :
    registry.define id definition =
      .ok ⟨registry.types.setIfInBounds id.raw (info.define definition)⟩ := by
  have allIssued : (definition.referencedTypes.find? fun mentioned =>
      !registry.issued mentioned) = none := by
    refine List.find?_eq_none.2 fun mentioned member => ?_
    simp [issued mentioned member]
  simp [define, found, allIssued, undefinedYet]

/-- A registration is refused by its declaration, or by its definition once the key is declared. -/
theorem register_eq_error (large : TypeId.firstDynamic ≤ registry.size) {key : TypeKey}
    {kind : TypeKind} {definition : Definition} {cause : RegistryError}
    (refused : registry.register key kind definition = (after, .error cause)) :
    (registry.declare key kind = .error cause ∧ after = registry) ∨
      (after.define ⟨registry.size⟩ definition = .error cause ∧ Bare registry after key kind) := by
  unfold register at refused
  split at refused
  case h_1 declaring =>
    cases refused
    exact .inl ⟨declaring, rfl⟩
  case h_2 declared id declaring =>
    obtain ⟨free, result⟩ := declare_eq_ok declaring
    obtain ⟨same, rfl⟩ := Prod.mk.inj result
    split at refused
    case h_1 defining =>
      cases refused
      refine .inr ⟨defining, ?_⟩
      rw [same]
      exact bare_add large free kind
    case h_2 => cases refused

/-- A generic parameter that has a type is not declared again. -/
theorem genericParam_of_lookup {owner : GenericOwner} {position : Nat} {id : TypeId}
    (looked : registry.lookup (.genericParam owner position) = some id) (name : String) :
    registry.genericParam owner position name = (registry, id) := by
  simp [genericParam, looked]

theorem perform_genericParam_of_lookup {owner : GenericOwner} {position : Nat} {id : TypeId}
    (looked : registry.lookup (.genericParam owner position) = some id) (name : String) :
    (Registration.genericParam owner position name).perform registry = (registry, .ok id) := by
  simp only [Registration.perform, genericParam_of_lookup looked]

/-- Whoever asks for a generic parameter finds it under its key from then on. -/
theorem lookup_genericParam (large : TypeId.firstDynamic ≤ registry.size) (owner : GenericOwner)
    (position : Nat) (name : String) :
    (registry.genericParam owner position name).1.lookup (.genericParam owner position) =
      some (registry.genericParam owner position name).2 := by
  rcases genericParam_eq registry owner position name with ⟨existing, looked, same⟩ | ⟨free, new⟩
  · rw [same, looked]
  · rw [new, lookup_add large, free, if_pos rfl]
    rfl

theorem Sound.kept (sound : Sound registry) (grown : registry.Grown) : Kept registry := by
  refine
    { numbers := ⟨sound.ids_eq, ids_nodup registry⟩
      next := fun key kind free => ?next
      keys := fun left right leftInfo rightInfo foundLeft foundRight dynamicLeft dynamicRight same => ?keys
      looked := sound.looked
      lookedOnly := fun key id looked => ?lookedOnly
      defines := fun id info definition found undefinedYet issued => ?defines
      mentions := fun id info found => ?mentions
      constant := fun id info found defined calls => ?constant
      declareRefused := fun key kind cause after refused => ?declareRefused
      defineRefused := fun id definition cause after refused => ?defineRefused
      registerRefused := fun key kind definition cause after refused =>
        register_eq_error sound.large refused
      generic := fun owner position name => ?generic }
  case next =>
    refine ⟨_, ?_, bare_add sound.large free kind, fun few => ?_⟩
    · simp only [Registration.perform, declare_of_free free]
      rfl
    · have other : registry.size ≠ TypeId.absent.raw := Nat.ne_of_lt few
      exact decide_eq_false fun same => other (congrArg TypeId.raw same)
  case keys =>
    have foundByLeft := sound.looked left leftInfo foundLeft dynamicLeft
    have foundByRight := sound.looked right rightInfo foundRight dynamicRight
    rw [same, foundByRight] at foundByLeft
    exact (Option.some.inj foundByLeft).symm
  case lookedOnly =>
    obtain ⟨info, member, isIt, hasKey, dynamic⟩ := exists_of_lookup looked
    obtain ⟨raw, bound, rfl⟩ := Array.getElem_of_mem member
    have found : registry.find? ⟨raw⟩ = some registry.types[raw] := Array.getElem?_eq_getElem bound
    have inPlace := sound.numbered ⟨raw⟩ _ found
    rw [isIt] at inPlace
    subst inPlace
    exact ⟨dynamic, _, found, hasKey⟩
  case defines =>
    refine ⟨_, ?_, find?_set found _, lookup_set found definition⟩
    simp only [Registration.perform, define_of_issued found undefinedYet issued]
  case mentions =>
    rw [← info_of_find? found]
    exact grown.closed id
  case constant =>
    exact (sound_of_develops (develops_registered registry calls) sound).2.1 id info found defined
  case declareRefused =>
    simp only [Registration.perform] at refused
    split at refused
    case h_1 => exact (Prod.mk.inj refused).1.symm
    case h_2 => cases refused
  case defineRefused =>
    simp only [Registration.perform] at refused
    split at refused
    case h_1 => exact (Prod.mk.inj refused).1.symm
    case h_2 => cases refused
  case generic =>
    have asked := Develops.genericParam registry owner position name
    have looked := lookup_genericParam sound.large owner position name
    refine ⟨(registry.genericParam owner position name).2, rfl, fun calls name' => ?_⟩
    have later := (sound_of_develops (develops_registered _ calls)
      (asked.sound sound)).2.2 _ _ looked
    exact perform_genericParam_of_lookup later name'

/-- However a host builds a registry, and whatever is refused on the way, the contract is kept. -/
theorem kept_of_registered (calls : List Registration) :
    Kept (Registry.initial.registered calls) := by
  have develops := develops_registered Registry.initial calls
  exact (sound_of_develops develops sound_initial).1.kept (retains_of_develops develops .initial).2

/-! ### Assignability -/

/-- No call takes an assignment back, whether the registry accepts the call or not. -/
theorem assignable_registered (grown : registry.Grown) (calls : List Registration)
    {target source : TypeId} (assignable : registry.assignable target source = true) :
    (registry.registered calls).assignable target source = true := by
  obtain ⟨retains, grownThen⟩ := retains_of_develops (develops_registered registry calls) grown
  exact retains.assignable grown.closed grownThen.closed assignable

/-- Assignability is a preorder, and what can be assigned can still be assigned after more calls. -/
theorem assignable_preorder_lasting (orderly : registry.Orderly) :
    (∀ type, registry.assignable type type = true) ∧
      (∀ outer middle inner, registry.assignable outer middle = true →
        registry.assignable middle inner = true → registry.assignable outer inner = true) ∧
      ∀ calls target source, registry.assignable target source = true →
        (registry.registered calls).assignable target source = true :=
  ⟨fun _ => assignable_iff.2 (.inl rfl), fun _ _ _ => assignable_trans orderly,
    fun calls _ _ => assignable_registered orderly.grown calls⟩

/-- Interfaces 16 and 17 extend each other. Class 18 implements interface 16, class 19 is derived from
class 18, and type 20 is only declared. -/
def guild : Registry :=
  initial.registered
    [ .declare (.named "Member") .interface, .declare (.named "Elder") .interface,
      .define ⟨16⟩ { Definition.empty with interfaces := [⟨17⟩] },
      .define ⟨17⟩ { Definition.empty with interfaces := [⟨16⟩] },
      .register (.named "Smith") .classType
        { Definition.empty with base := some .object, interfaces := [⟨16⟩] },
      .register (.named "Farrier") .classType { Definition.empty with base := some ⟨18⟩ },
      .declare (.named "Apprentice") .classType ]

theorem guild_orderly : guild.Orderly :=
  .of_earlier (retains_of_develops (develops_registered _ _) .initial).2 (by decide +kernel)

/-- A farrier is a smith, smiths are members and members are elders. So a farrier is an elder, and
stays one while an apprentice is defined, whatever else is asked for in vain. -/
theorem guild_preorder_lasting :
    guild.assignable ⟨17⟩ ⟨16⟩ = true ∧ guild.assignable ⟨16⟩ ⟨17⟩ = true ∧
      guild.assignable ⟨17⟩ ⟨19⟩ = true ∧ guild.assignable .void .void = true ∧
      guild.assignable ⟨18⟩ ⟨20⟩ = false ∧
      ∃ calls, (guild.registered calls).assignable ⟨18⟩ ⟨20⟩ = true ∧
        (guild.registered calls).assignable ⟨17⟩ ⟨19⟩ = true := by
  obtain ⟨reflexive, transitive, lasting⟩ := assignable_preorder_lasting guild_orderly
  have elder : guild.assignable ⟨17⟩ ⟨19⟩ = true :=
    transitive ⟨17⟩ ⟨16⟩ ⟨19⟩ (by decide +kernel)
      (transitive ⟨16⟩ ⟨18⟩ ⟨19⟩ (by decide +kernel) (by decide +kernel))
  refine ⟨by decide +kernel, by decide +kernel, elder, reflexive .void, by decide +kernel,
    [ .define ⟨20⟩ { Definition.empty with base := some ⟨19⟩ },
      .define ⟨19⟩ Definition.empty, .genericParam (.type ⟨20⟩) 0 "T" ],
    by decide +kernel, lasting _ _ _ elder⟩

end Registry
end StructuralCast
