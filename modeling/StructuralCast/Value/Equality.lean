import StructuralCast.Value

/-!
Contract: when two values are equal, and what they feed to a hash.

Wrappers are looked through on both sides, so a wrapper equals what it wraps. Plain values are equal
by content, except that objects and callables are equal only to themselves, as is a wrapper around
null. Floats are told apart by their bits, with one exception each way: all NaNs are equal, and so
are the two zeros.
-/

namespace StructuralCast

/-- The bits that stand for a float in comparisons. -/
def floatKey (bits : UInt64) : UInt64 :=
  match Text.Binary64.decode bits with
  | .nan => 0x7ff8000000000000
  | .finite _ 0 _ => 0
  | _ => bits

mutual

/-- Compares a value with one whose wrappers are off. -/
def Value.equalsPeeled : Value → Value → Bool
  | .null, other => other.isNull
  | .bool truth, .bool truth' => truth = truth'
  | .int number, .int number' => number = number'
  | .float bits, .float bits' => floatKey bits = floatKey bits'
  | .text _ content, .text _ content' => content = content'
  | .enumeration type value, .enumeration type' value' => type = type' && value = value'
  | .struct type fields, .struct type' fields' =>
    type = type' && Value.fieldsEqual fields fields'
  | .object o, .object o' => o.number = o'.number
  | .callable c, other => c.equalsPeeled other
  | .adapter ref factory source relays, other =>
    if source.isNull then Value.sameAllocation (.adapter ref factory source relays) other
    else source.equalsPeeled other
  | .proxy ref shape shapeName inner, other =>
    if inner.isNull then Value.sameAllocation (.proxy ref shape shapeName inner) other
    else inner.equalsPeeled other
  | _, _ => false

def Callable.equalsPeeled : Callable → Value → Bool
  | .native number type routine, other =>
    Value.sameAllocation (.callable (.native number type routine)) other
  | .adapted _ _ inner, other => inner.equalsPeeled other
  | .foreign ref type body inner, other =>
    if inner.isNull then Value.sameAllocation (.callable (.foreign ref type body inner)) other
    else inner.equalsPeeled other

def Value.fieldsEqual : List Value → List Value → Bool
  | [], [] => true
  | left :: lefts, right :: rights =>
    left.equalsPeeled right.peel && Value.fieldsEqual lefts rights
  | _, _ => false

end

/-- Equality of values. -/
def Value.equals (left right : Value) : Bool := left.equalsPeeled right.peel

/-- What a value hands to a hash function. -/
inductive HashToken where
  | kind (index : Nat)
  | bool (truth : Bool)
  | int (number : Int64)
  | float (key : UInt64)
  | text (content : String)
  | type (id : TypeId)
  | length (count : Nat)
  | allocation (identity : Allocation)
deriving DecidableEq

mutual

/-- A wrapper hands on what its content hands on; around null it hands on its identity. -/
def Value.feed : Value → List HashToken
  | .null => [.kind 0]
  | .bool truth => [.kind 1, .bool truth]
  | .int number => [.kind 2, .int number]
  | .float bits => [.kind 3, .float (floatKey bits)]
  | .text _ content => [.kind 4, .text content]
  | .enumeration type value => [.kind 5, .type type, .int value]
  | .struct type fields => [.kind 6, .type type, .length fields.length] ++ Value.feedAll fields
  | .object o => [.kind 7, .allocation (.object o.number)]
  | .callable c => c.feed
  | .adapter ref _ source _ =>
    if source.isNull then [.allocation (.wrapper ref)] else source.feed
  | .proxy ref _ _ inner =>
    if inner.isNull then [.allocation (.wrapper ref)] else inner.feed

def Callable.feed : Callable → List HashToken
  | .native number _ _ => [.kind 8, .allocation (.native number)]
  | .adapted _ _ inner => inner.feed
  | .foreign ref _ _ inner =>
    if inner.isNull then [.allocation (.callable ref)] else inner.feed

def Value.feedAll : List Value → List HashToken
  | [] => []
  | value :: rest => value.feed ++ Value.feedAll rest

end

/-- For each value, the position of the first one that equals it. -/
def Value.classes (values : List Value) : List Nat :=
  values.map fun value => (values.findIdx? fun earlier => earlier.equals value).getD 0

end StructuralCast
