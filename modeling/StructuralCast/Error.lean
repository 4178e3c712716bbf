import StructuralCast.Member

/-!
Contract: why an operation fails.

`RegistryError` is about registering types, `CallError` about using a member or a callable, and
`CastError` about casting. Each cause carries the names that its message shows. A failed cast
inside a call is told to the caller through `CastError.toCallError`.
-/

namespace StructuralCast

inductive CallError where
  | nullValue (expected : String)
  | typeMismatch (expected found : String)
  | invalidCast (source target : String)
  | arityMismatch (member : String) (expected found : Nat)
  | missingBody (member : String)
  | unknownMember (owner member : String)
  | unknownVariant (enumName name : String)
  | engineDropped
  | host (message : String)
  | adapter (message : String)
deriving DecidableEq

inductive RegistryError where
  | ambiguousTypes (first second : String)
  | unknownType (id : TypeId)
  | alreadyDefined (name : String)
  | notInstantiable (name : String)
deriving DecidableEq

inductive CastError where
  | registry (cause : RegistryError)
  | unsupportedMember (shape member : String) (kind : MemberKind)
  | memberNotImplemented (shape source member : String)
  | invalidCast (source target : String)
  | noConversion (source target : String)
  | call (cause : CallError)
deriving DecidableEq

private def quote (name : String) : String := "`" ++ name ++ "`"

private def noCast (source target : String) : String :=
  "a conversion from " ++ quote source ++ " to " ++ quote target ++ " does not exist"

def CallError.message : CallError → String
  | nullValue expected => "null value where " ++ quote expected ++ " is required"
  | typeMismatch expected found =>
    "type mismatch: expected " ++ quote expected ++ ", found " ++ quote found
  | invalidCast source target => noCast source target
  | arityMismatch member expected found =>
    quote member ++ " takes " ++ toString expected ++ " argument(s), " ++ toString found ++ " given"
  | missingBody member => quote member ++ " has no implementation"
  | unknownMember owner member => quote owner ++ " has no member " ++ quote member
  | unknownVariant enumName name => quote name ++ " is not a variant of " ++ quote enumName
  | engineDropped => "the cast engine backing this adapter has been dropped"
  | host message => message
  | adapter message => "adapter failure: " ++ message

def RegistryError.message : RegistryError → String
  | ambiguousTypes first second =>
    "types cannot be distinguished from one another for keying:\n  type 1: " ++ first ++
      "\n  type 2: " ++ second
  | unknownType id => "type id " ++ id.dump ++ " was not issued by this registry"
  | alreadyDefined name => "type " ++ quote name ++ " is already defined"
  | notInstantiable name => "type " ++ quote name ++ " cannot be instantiated"

def CastError.message : CastError → String
  | registry cause => cause.message
  | unsupportedMember shape member kind =>
    quote shape ++ " declares " ++ kind.word ++ " " ++ quote member ++
      ", which an adapter cannot implement"
  | memberNotImplemented shape source member =>
    quote source ++ " has no compatible implementation of " ++ quote (shape ++ "::" ++ member)
  | invalidCast source target => noCast source target
  | noConversion source target =>
    "no conversion plan from " ++ quote source ++ " to " ++ quote target ++
      " despite a compatible verdict"
  | call cause => cause.message

/-- What a failed cast looks like to the caller of a member that needed it. -/
def CastError.toCallError : CastError → CallError
  | call cause => cause
  | invalidCast source target => .invalidCast source target
  | other => .adapter other.message

end StructuralCast
