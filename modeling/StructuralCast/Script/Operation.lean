import StructuralCast.TypeInfo
import StructuralCast.Engine

/-!
Contract: the operations that a script can ask for.

An operation holds the terms for its values, of a type `τ` that is fixed elsewhere, and names types
the way a script does: by a name of the session, or by number. Fields stand in the order in which
they are evaluated.
-/

namespace StructuralCast.Script

inductive TypeRef where
  | named (name : String)
  | raw (number : Nat)

inductive KeyRef where
  | named (path : String)
  | constructed (definition : String) (args : List TypeRef)
  | genericParam (owner : TypeRef) (method : Option String) (position : Nat)

structure AccessorSketch (β : Type) where
  visibility : Visibility
  body : Option β

structure MethodSketch (β : Type) where
  name : String
  params : List TypeRef
  result : TypeRef
  isStatic : Bool
  genericArity : Nat
  visibility : Visibility
  body : Option β

structure PropertySketch (β : Type) where
  name : String
  type : TypeRef
  index : List TypeRef
  getter : Option (AccessorSketch β)
  setter : Option (AccessorSketch β)
  isStatic : Bool

structure EventSketch where
  name : String
  handler : TypeRef
  isStatic : Bool

structure FieldSketch where
  name : String
  type : TypeRef
  isStatic : Bool

structure SignatureSketch where
  params : List TypeRef
  result : TypeRef

/-- A definition before its types are looked up, with bodies of type `β`. -/
structure DefinitionSketch (β : Type) where
  base : Option TypeRef
  interfaces : List TypeRef
  methods : List (MethodSketch β)
  properties : List (PropertySketch β)
  events : List EventSketch
  fields : List FieldSketch
  variants : List Variant
  invoke : Option SignatureSketch
  genericArity : Nat
  flags : TypeFlags

/-- Whose events are meant: those of an object, or the static ones of a type. -/
inductive TableRef (τ : Type) where
  | ofObject (on : τ)
  | ofType (type : TypeRef)

/-- The arguments of a raised event: given, or those of the body that raises it. -/
inductive RaiseArgs (τ : Type) where
  | given (args : List τ)
  | forwarded

/-- Questions to the registry, and additions to it. -/
inductive RegistryOperation (τ : Type) where
  | declare (key : KeyRef) (kind : TypeKind) (label : Option String)
  | register (key : KeyRef) (kind : TypeKind) (sketch : DefinitionSketch (List τ))
      (label : Option String)
  | genericParam (owner : TypeRef) (method : Option String) (position : Nat) (name : String)
      (label : Option String)
  | lookup (key : KeyRef) (label : Option String)
  | define (type : TypeRef) (sketch : DefinitionSketch (List τ))
  | contains (type : TypeRef)
  | isValueType (type : TypeRef)
  | typeCount
  | registryDump
  | name (type : TypeRef)
  | kind (type : TypeRef)
  | chain (type : TypeRef)
  | distance (derived ancestor : TypeRef)
  | interfaces (type : TypeRef)
  | assignable (target source : TypeRef)
  | instanceOf (value : τ) (target : TypeRef)
  | typeOf (value : τ)
  | typeId (type : TypeRef)
  | describe (type : TypeRef)
  | findMember (type : TypeRef) (name : String)
  | variantValued (type : TypeRef) (value : Int64)
  | invokeMethod (on : τ) (args : List τ) (type : TypeRef) (index : Nat)
  | getProperty (on : τ) (args : List τ) (type : TypeRef) (index : Nat)
  | setProperty (on : τ) (args : List τ) (value : τ) (type : TypeRef) (index : Nat)
  | capabilities (type : TypeRef)
  | sameSignature (left right : TypeRef)

/-- Operations on values, event tables and handler lists. -/
inductive ValueOperation (τ : Type) where
  | val (value : τ)
  | fail (message : String)
  | log (tag : String) (values : List τ)
  | add (left right : τ)
  | concat (values : List τ)
  | display (value : τ)
  | dump (value : τ)
  | equal (left right : τ)
  | sameAllocation (left right : τ)
  | distinct (values : List τ)
  | inspect (value : τ)
  | peel (value : τ)
  | field (on : τ) (name : String)
  | setField (on : τ) (value : τ) (name : String)
  | invoke (on : τ) (args : List τ)
  | raise (args : RaiseArgs τ) (event : String) (table : TableRef τ)
  | tableAdd (value : τ) (event : String) (table : TableRef τ)
  | tableRemove (value : τ) (event : String) (table : TableRef τ)
  | handlerCount (event : String) (table : TableRef τ)
  | multicastAdd (name : String) (value : τ)
  | multicastRemove (name : String) (value : τ)
  | multicastInvoke (name : String) (args : List τ)

/-- Operations on engines. -/
inductive EngineOperation (τ : Type) where
  | newEngine (name : String) (config : Config)
  | cloneEngine (name : String) (existing : String)
  | dropEngine
  | cast (value : τ) (target : TypeRef)
  | canCast (target source : TypeRef)
  | canCastValue (value : τ) (target : TypeRef)
  | prepare (target source : TypeRef)
  | isPrepared (target source : TypeRef)
  | staticCast (shape source : TypeRef)
  | canStaticCast (shape source : TypeRef)
  | isStaticPrepared (shape source : TypeRef)
  | prepareStatic (shape source : TypeRef)
  | uncast (value : τ)
  | delegateFactory (target source : TypeRef)
  | counts
  | engineDump

/-- Operations on adapters. -/
inductive AdapterOperation (τ : Type) where
  | source (on : τ)
  | sameFactory (left right : τ)
  | factory (on : τ)
  | slots (on : τ)
  | call (on : τ) (name : String) (args : List τ)
  | callSignature (on : τ) (args : List τ) (name : String) (params : List TypeRef)
  | callSlot (on : τ) (index : Nat) (args : List τ)
  | get (on : τ) (name : String)
  | set (on : τ) (name : String) (value : τ)
  | getIndex (on : τ) (args : List τ)
  | setIndex (on : τ) (args : List τ) (value : τ)
  | subscribe (on : τ) (name : String) (value : τ)
  | unsubscribe (on : τ) (name : String) (value : τ)

inductive Operation (τ : Type) where
  | registry (operation : RegistryOperation τ)
  | value (operation : ValueOperation τ)
  | engine (name : String) (operation : EngineOperation τ)
  | adapter (operation : AdapterOperation τ)

end StructuralCast.Script
