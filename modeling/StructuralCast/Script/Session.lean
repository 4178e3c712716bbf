import StructuralCast.Script.Operation
import StructuralCast.World

/-!
Contract: scripts, and what a running script keeps.

A script is a list of terms. The routines of its host are lists of terms too: they are stored when
the definition or callable that brings them is evaluated, and run with a frame of their own.

Names are session-wide: some for values, some for types, for engines and for handler
lists. A later binding of a name hides the earlier one.
-/

namespace StructuralCast.Script

inductive Term where
  | null
  | bool (truth : Bool)
  | int (number : Int64)
  | text (content : String)
  | float (bits : UInt64)
  | enumeration (type : TypeRef) (value : Int64)
  | struct (fields : List Term) (type : TypeRef)
  | named (name : String)
  | receiver
  | argument (index : Nat)
  | assigned
  | create (type : TypeRef)
  | callable (type : TypeRef) (body : List Term)
  | proxy (inner : Term) (shape : TypeRef) (name : String)
  | foreignCallable (inner : Term) (type : TypeRef) (name : String)
  /-- Calls a value with the arguments of the body, if it can be called. -/
  | forwardTo (inner : Value)
  | perform (operation : Operation Term) (boundAs : Option String)

/-- Why a step fails. A script can also be at fault itself. -/
inductive Fault where
  | cast (cause : CastError)
  | call (cause : CallError)
  | registry (cause : RegistryError)
  | script (message : String)

/-- What a body sees of its call. -/
structure Frame where
  receiver : Value
  args : List Value
  assigned : Value

def Frame.outermost : Frame := ⟨.null, [], .null⟩

/-- A note that a script took, with the names in force at that time. -/
structure LogEntry where
  tag : String
  values : List Value
  registry : Registry

/-- Names and what they stand for, the latest first. -/
structure Names (α : Type) where
  entries : List (String × α)

namespace Names

variable {α : Type}

def find? (names : Names α) (name : String) : Option α := names.entries.lookup name

def bind (names : Names α) (name : String) (entry : α) : Names α :=
  ⟨(name, entry) :: names.entries.filter (·.1 ≠ name)⟩

def erase (names : Names α) (name : String) : Names α := ⟨names.entries.filter (·.1 ≠ name)⟩

end Names

structure Session where
  routines : Array (List Term)
  values : Names Value
  typeNames : Names TypeId
  engines : Names EngineId
  multicasts : Names (List Callable)
  /-- The delegate factories that were asked for, the latest first. -/
  delegateFactories : List DelegateFactory
  log : List LogEntry

namespace Session

/-- The name of the engine that every session starts with. -/
def mainEngine : String := "main"

def initial : Session :=
  { routines := #[], values := ⟨[]⟩,
    typeNames := ⟨[("object", .object), ("void", .void), ("bool", .bool), ("int", .int),
      ("float", .float), ("string", .text), ("NONE", .absent)]⟩,
    engines := ⟨[]⟩, multicasts := ⟨[]⟩, delegateFactories := [], log := [] }

end Session

abbrev Run (α : Type) : Type := Action Session Fault α

namespace Run

def session : Run Session := do return (← get).host

def modifySession (change : Session → Session) : Run Unit :=
  modify fun world => { world with host := change world.host }

def registry : Run Registry := do return (← get).registry

/-- The script names something that is not there, or not of the right sort. -/
def wrong {α : Type} (message : String) : Run α := throw (.script message)

def resolveType : TypeRef → Run TypeId
  | .raw number => return ⟨number⟩
  | .named name => do
    match (← session).typeNames.find? name with
    | some id => return id
    | none => wrong ("no type " ++ name)

def resolveTypes (types : List TypeRef) : Run (List TypeId) := types.mapM resolveType

def engineNamed (name : String) : Run EngineId := do
  match (← session).engines.find? name with
  | some id => return id
  | none => wrong ("no engine " ++ name)

def bindVariable (name : Option String) (value : Value) : Run Unit :=
  match name with
  | some name => modifySession fun s => { s with values := s.values.bind name value }
  | none => return ()

def bindType (name : Option String) (id : TypeId) : Run Unit :=
  match name with
  | some name => modifySession fun s => { s with typeNames := s.typeNames.bind name id }
  | none => return ()

/-- Stores a body and gives it its number. -/
def addRoutine (body : List Term) : Run RoutineId := do
  let routines := (← session).routines
  modifySession fun s => { s with routines := routines.push body }
  return ⟨routines.size⟩

def resolveKey : KeyRef → Run TypeKey
  | .named path => return .named path
  | .constructed definition args => return .constructed definition (← resolveTypes args)
  | .genericParam owner method position => do
    let id ← resolveType owner
    match method with
    | some name => return .genericParam (.method id name) position
    | none => return .genericParam (.type id) position

def resolveBody : Option (List Term) → Run (Option RoutineId)
  | some body => some <$> addRoutine body
  | none => return none

def resolveAccessor : Option (AccessorSketch (List Term)) → Run (Option Accessor)
  | some sketch => return some ⟨sketch.visibility, ← resolveBody sketch.body⟩
  | none => return none

def resolveMethod (sketch : MethodSketch (List Term)) : Run Method := do
  return { name := sketch.name, params := ← resolveTypes sketch.params,
           result := ← resolveType sketch.result, isStatic := sketch.isStatic,
           genericArity := sketch.genericArity, visibility := sketch.visibility,
           body := ← resolveBody sketch.body }

def resolveProperty (sketch : PropertySketch (List Term)) : Run Property := do
  return { name := sketch.name, type := ← resolveType sketch.type,
           index := ← resolveTypes sketch.index, getter := ← resolveAccessor sketch.getter,
           setter := ← resolveAccessor sketch.setter, isStatic := sketch.isStatic }

def resolveSignature : Option SignatureSketch → Run (Option Signature)
  | some sketch => return some ⟨← resolveTypes sketch.params, ← resolveType sketch.result⟩
  | none => return none

def resolveBase : Option TypeRef → Run (Option TypeId)
  | some base => some <$> resolveType base
  | none => return none

/-- Looks up the types of a definition and stores its bodies. -/
def resolveDefinition (sketch : DefinitionSketch (List Term)) : Run Definition := do
  let base ← resolveBase sketch.base
  let interfaces ← resolveTypes sketch.interfaces
  let methods ← sketch.methods.mapM resolveMethod
  let properties ← sketch.properties.mapM resolveProperty
  let events ← sketch.events.mapM fun event => do
    return (⟨event.name, ← resolveType event.handler, event.isStatic⟩ : Event)
  let fields ← sketch.fields.mapM fun field => do
    return (⟨field.name, ← resolveType field.type, field.isStatic⟩ : Field)
  let invoke ← resolveSignature sketch.invoke
  return { base := base, interfaces := interfaces, methods := methods, properties := properties,
           events := events, fields := fields, variants := sketch.variants, invoke := invoke,
           genericArity := sketch.genericArity, flags := sketch.flags }

end Run
end StructuralCast.Script
