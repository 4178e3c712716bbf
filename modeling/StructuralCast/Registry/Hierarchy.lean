import StructuralCast.Registry
import StructuralCast.Traversal

/-!
Contract: how registered types are related.

A type has at most one base, so its ancestors form a chain; `chain` follows it for as many steps as
there are types, which is enough where no type is its own ancestor. Interfaces extend each other
freely, cycles included; `interfaces` walks them depth first, starting from those that the chain
declares. `assignable` is native assignability: identity, `object`, the chain, and the interfaces.
-/

namespace StructuralCast.Registry

/-- The base of a type, if the type was given out and has one. -/
def base? (registry : Registry) (id : TypeId) : Option TypeId :=
  (registry.find? id).bind (·.base)

def ancestors (registry : Registry) : Nat → TypeId → List TypeId
  | 0, _ => []
  | steps + 1, id =>
    match registry.base? id with
    | none => []
    | some base => base :: registry.ancestors steps base

/-- A type and its ancestors, the most derived first. -/
def chain (registry : Registry) (id : TypeId) : List TypeId :=
  id :: registry.ancestors registry.size id

/-- How many steps up the chain lead from a type to one of its ancestors. -/
def distance? (registry : Registry) (derived ancestor : TypeId) : Option Nat :=
  (registry.chain derived).idxOf? ancestor

/-- The interfaces that a type itself declares. -/
def extended (registry : Registry) (id : TypeId) : List TypeId := (registry.info id).interfaces

/-- All interfaces of a type: those of its chain and those that they extend. -/
def interfaces (registry : Registry) (id : TypeId) : List TypeId :=
  preorder registry.extended registry.ids ((registry.chain id).flatMap registry.extended)

/-- Whether a value of type `source` is one of type `target` as it stands. -/
def assignable (registry : Registry) (target source : TypeId) : Bool :=
  if target = source then true
  else if target = .void ∨ source = .void then false
  else if target = .object then true
  else if target ∈ registry.chain source then true
  else (registry.info target).isInterface && decide (target ∈ registry.interfaces source)

/-- Native assignability in one direction or the other. -/
def related (registry : Registry) (left right : TypeId) : Bool :=
  registry.assignable left right || registry.assignable right left

/-- Whether a value fits a type, where no type means the null value: it fits everything but `void`
and the value types. -/
def admits (registry : Registry) (target : TypeId) : Option TypeId → Bool
  | some type => registry.assignable target type
  | none => target ≠ .void && !registry.isValueType target

/-- Types that are further apart than this are not told apart. -/
def leastCloseness : Int := -2147483648

/-- How close two compatible types are: 0 when identical, minus their distance on a chain, and -1
for all others. -/
def closeness (registry : Registry) (left right : TypeId) : Int :=
  if left = right then 0
  else
    match registry.distance? left right <|> registry.distance? right left with
    | some steps => max leastCloseness (Int.neg steps)
    | none => -1

end StructuralCast.Registry
