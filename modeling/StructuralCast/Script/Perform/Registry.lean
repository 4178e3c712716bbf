import StructuralCast.Script.Operand
import StructuralCast.Invocation

/-!
Contract: what a script may do with the registry.

Declarations and definitions change it, the other operations ask it. Members can be run on any
receiver here, without an adapter and without checks.
-/

namespace StructuralCast.Script

open Run

variable (eval : Term → Run Value) (host : Host Session)

/-- Takes over the registry after a definition of a type. -/
def adopt (id : TypeId) (outcome : Except RegistryError Registry) : Run Unit :=
  match outcome with
  | .ok registry => modify fun world => world.defineType registry id
  | .error cause => throw (.registry cause)

def performRegistry : RegistryOperation Term → Run Answer
  | .declare key kind label => do
    let typeKey ← resolveKey key
    match (← registry).declare typeKey kind with
    | .error cause => throw (.registry cause)
    | .ok (declared, id) =>
      modify fun world => { world with registry := declared }
      bindType label id
      return .type id
  | .register key kind sketch label => do
    let typeKey ← resolveKey key
    let definition ← resolveDefinition sketch
    let (known, outcome) := (← registry).register typeKey kind definition
    modify fun world => { world with registry := known }
    match outcome with
    | .error cause => throw (.registry cause)
    | .ok id =>
      bindType label id
      return .type id
  | .genericParam owner method position name label => do
    let ownerId ← resolveType owner
    let genericOwner :=
      match method with
      | some methodName => GenericOwner.method ownerId methodName
      | none => GenericOwner.type ownerId
    let (declared, id) := (← registry).genericParam genericOwner position name
    modify fun world => { world with registry := declared }
    bindType label id
    return .type id
  | .lookup key label => do
    let found := (← registry).lookup (← resolveKey key)
    match found with
    | some id => bindType label id
    | none => pure ()
    return .optionalType found
  | .define type sketch => do
    let id ← resolveType type
    let definition ← resolveDefinition sketch
    adopt id ((← registry).define id definition)
    return .done
  | .contains type => do return .truth ((← registry).issued (← resolveType type))
  | .isValueType type => do return .truth ((← registry).isValueType (← resolveType type))
  | .typeCount => do return .count (← registry).size
  | .registryDump => do return .text (← registry).dump
  | .name type => do return .text ((← registry).name (← resolveType type))
  | .kind type => do return .text ((← registry).kind (← resolveType type)).dump
  | .chain type => do return .types ((← registry).chain (← resolveType type))
  | .distance derived ancestor => do
    let derivedId ← resolveType derived
    let ancestorId ← resolveType ancestor
    return .optionalCount ((← registry).distance? derivedId ancestorId)
  | .interfaces type => do return .types ((← registry).interfaces (← resolveType type))
  | .assignable target source => do
    let targetId ← resolveType target
    let sourceId ← resolveType source
    return .truth ((← registry).assignable targetId sourceId)
  | .instanceOf value target => do
    let operand ← eval value
    let targetId ← resolveType target
    return .truth ((← registry).admits targetId operand.type?)
  | .typeOf value => do
    let operand ← eval value
    return .typeOf operand.type? ((← registry).typeName operand)
  | .typeId type => do return .typeId (← resolveType type)
  | .describe type => do
    let id ← resolveType type
    let known ← registry
    return .description (known.issued id) (known.info id)
  | .findMember type name => do
    let info := (← registry).info (← resolveType type)
    return .members (info.methodsNamed name) (info.propertyNamed? name) (info.eventNamed? name)
      (info.variantNamed? name)
  | .variantValued type value => do
    let info := (← registry).info (← resolveType type)
    return .optionalText ((info.variantValued? value).map Variant.name)
  | .invokeMethod on args type index => do
    let receiver ← eval on
    let operands ← evalAll eval args
    let info := (← registry).info (← resolveType type)
    match info.methods[index]? with
    | some method => return .value (← Fault.ofCall (method.invoke host receiver operands))
    | none => wrong "no such method"
  | .getProperty on args type index => do
    let receiver ← eval on
    let operands ← evalAll eval args
    let info := (← registry).info (← resolveType type)
    match info.properties[index]? with
    | some property => return .value (← Fault.ofCall (property.get host receiver operands))
    | none => wrong "no such property"
  | .setProperty on args value type index => do
    let receiver ← eval on
    let operands ← evalAll eval args
    let assigned ← eval value
    let info := (← registry).info (← resolveType type)
    match info.properties[index]? with
    | some property =>
      Fault.ofCall (property.set host receiver operands assigned)
      return .done
    | none => wrong "no such property"
  | .capabilities type => do
    let id ← resolveType type
    match (← registry).shapeMembers id with
    | .ok members => return .capabilities members
    | .error cause => throw (.cast cause)
  | .sameSignature left right => do
    let leftId ← resolveType left
    let rightId ← resolveType right
    let known ← registry
    match known.shapeMembers leftId, known.shapeMembers rightId with
    | .ok rows, .ok columns =>
      return .matrix (rows.map fun row => columns.map fun column =>
        row.member.sameSignature column.member)
    | .error cause, _ => throw (.cast cause)
    | _, .error cause => throw (.cast cause)

end StructuralCast.Script
