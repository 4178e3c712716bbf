import StructuralCast.Strategy

/-!
Contract: the step that a value takes between a shape and the member that serves it.

A conversion is planned once from the two declared types. What is left for the time of the call is
a test of the value (`unbox`, `downcast`), a cast by the engine (`duck`) or nothing at all.
-/

namespace StructuralCast

open Text

inductive Conversion where
  | identity
  | unbox (target : TypeId)
  | downcast (target : TypeId)
  | passThrough
  | duck (target : TypeId)
deriving DecidableEq

namespace Conversion

def dump : Conversion → String
  | identity => "Identity"
  | unbox target => Dump.record "Unbox" [("to", target.dump)]
  | downcast target => Dump.record "Downcast" [("to", target.dump)]
  | passThrough => "PassThrough"
  | duck target => Dump.record "Duck" [("to", target.dump)]

end Conversion

namespace Registry

/-- The conversion from `source` to `target`. It exists for every pair that is related natively, or
that a strategy claims in one direction or the other. -/
def planConversion (registry : Registry) (target source : TypeId) : Except CastError Conversion :=
  if target = source ∨ target = .void ∨ source = .void then .ok .identity
  else if registry.related target source then
    if registry.isValueType target then
      .ok (if registry.isValueType source then .identity else .unbox target)
    else .ok (if registry.assignable target source then .identity else .downcast target)
  else if registry.kind target = .genericParam ∧ registry.kind source = .genericParam then
    .ok .passThrough
  else if (Strategy.claimant? registry target source).isSome ∨
      (Strategy.claimant? registry source target).isSome then
    .ok (.duck target)
  else .error (.noConversion (registry.name source) (registry.name target))

/-- The conversions between two lists of types of one length. -/
def planConversions (registry : Registry) (targets sources : List TypeId) :
    Except CastError (List Conversion) :=
  (targets.zip sources).mapM fun pair => registry.planConversion pair.1 pair.2

end Registry
end StructuralCast
