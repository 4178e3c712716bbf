import StructuralCast.Registry.Hierarchy

/-!
Contract: the families of conversions that go beyond native assignability.

Each strategy claims pairs of types by their kinds alone. The first one that claims a pair performs
the cast, so their order in `Strategy.all` is the order of precedence.
-/

namespace StructuralCast

inductive Strategy where
  | interface
  | delegate
  | enumText
  | genericParam
deriving DecidableEq

namespace Strategy

def all : List Strategy := [interface, delegate, enumText, genericParam]

/-- Whether a strategy is in charge of casting `source` to `target`. -/
def claims (registry : Registry) (target source : TypeId) : Strategy → Bool
  | interface => registry.kind target = .interface
  | delegate => registry.kind target = .delegate && registry.kind source = .delegate
  | enumText =>
    (registry.kind target = .enumType && source = .text) ||
      (target = .text && registry.kind source = .enumType)
  | genericParam =>
    registry.kind target = .genericParam && registry.kind source = .genericParam &&
      (registry.info target).genericPosition?.isSome &&
      (registry.info target).genericPosition? = (registry.info source).genericPosition?

/-- The strategy that casts `source` to `target`, if there is one. -/
def claimant? (registry : Registry) (target source : TypeId) : Option Strategy :=
  all.find? (claims registry target source)

end Strategy
end StructuralCast
