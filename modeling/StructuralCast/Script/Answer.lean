import StructuralCast.Script.Session

/-!
Contract: what the steps of a script answer.

Most answers are values; the others are what a question asked for, in the terms of the library.
`Answer.toValue` says what an answer is worth inside an expression.
-/

namespace StructuralCast.Script

/-- What the accessors of a value give. -/
structure Inspection where
  value : Value
  callable : Option String
  facade : Option (TypeId × String × Value)

inductive Answer where
  | done
  | value (value : Value)
  /-- The result of the last handler, if there was any handler. -/
  | raised (last : Option Value)
  | truth (truth : Bool)
  | count (number : Nat)
  | optionalCount (number : Option Nat)
  | text (content : String)
  | optionalText (content : Option String)
  | type (id : TypeId)
  | optionalType (id : Option TypeId)
  | types (ids : List TypeId)
  | typeOf (id : Option TypeId) (name : String)
  | typeId (id : TypeId)
  | description (issued : Bool) (info : TypeInfo)
  | members (methods : List Method) (property : Option Property) (event : Option Event)
      (variant : Option Variant)
  | comparison (equal hashEqual : Bool)
  | positions (numbers : List Nat)
  | inspection (inspection : Inspection)
  | multicast (removed : Option Bool) (size : Nat)
  | settings (config : Config)
  | delegateFactory (factory : DelegateFactory) (sameAsLast : Option Bool)
  | counts (verdicts factories : Nat)
  | capabilities (members : List ShapeMember)
  | matrix (rows : List (List Bool))
  | factory (factory : Factory)
  | slots (factory : Factory)

namespace Answer

/-- The value that an answer is, if it is one. -/
def value? : Answer → Option Value
  | value v => some v
  | raised last => last
  | _ => none

/-- What an answer is worth as an operand. -/
def toValue : Answer → Value
  | value v => v
  | raised (some v) => v
  | truth b => .bool b
  | _ => .null

end Answer

def Fault.ofCall {α : Type} (action : Action Session CallError α) : Run α :=
  action.mapError Fault.call

def Fault.ofCast {α : Type} (action : Action Session CastError α) : Run α :=
  action.mapError Fault.cast

/-- What a failing body tells those who called it. -/
def Fault.toCallError : Fault → CallError
  | cast cause => cause.toCallError
  | call cause => cause
  | registry cause => .host cause.message
  | script message => .host ("driver: " ++ message)

end StructuralCast.Script
