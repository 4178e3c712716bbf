import StructuralCast.Registry.Hierarchy

/-!
Contract: what a shape asks for and what a source type offers.

A shape asks for its own members and for those of every interface that it extends, each signature
once. A type with a field is no shape, because an adapter has no place to keep one.

A source type offers its own members and those of its ancestors, an interface those of the
interfaces that it extends, and on its static side a type offers only what it declares itself.
-/

namespace StructuralCast

/-- A member that a shape asks for, with the type that declares it. -/
structure ShapeMember where
  declaring : TypeId
  member : Member
deriving DecidableEq

namespace ShapeMember

/-- The member as it is shown in messages. -/
def describe (registry : Registry) (required : ShapeMember) : String :=
  let member := required.member
  let head := registry.name member.result ++ " " ++ member.name
  let params := Text.Dump.commaSeparated (member.params.map registry.name)
  let arity :=
    if member.genericArity = 0 then "" else "<" ++ toString member.genericArity ++ ">"
  match member.kind with
  | .event => "event " ++ head
  | .property | .field => head
  | .method => head ++ arity ++ "(" ++ params ++ ")"
  | .indexer => head ++ arity ++ "[" ++ params ++ "]"

end ShapeMember

namespace Definition

/-- The members that an adapter can implement: methods, then properties, then events. -/
def members (definition : Definition) : List Member :=
  definition.methods.map .method ++ definition.properties.map .property ++
    definition.events.map .event

end Definition

namespace Registry

/-- The types that have a say in what a shape asks for, in the order of their first mention. -/
def shapeTypes (registry : Registry) (shape : TypeId) : List TypeId :=
  preorder registry.extended registry.ids [shape]

def declaredBy (registry : Registry) (id : TypeId) : List ShapeMember :=
  (registry.info id).members.map (ShapeMember.mk id)

/-- Adds a member unless its signature is there already. -/
def addMember (found : List ShapeMember) (required : ShapeMember) : List ShapeMember :=
  if found.any fun earlier => earlier.member.sameSignature required.member then found
  else found ++ [required]

/-- The first field that stands in the way of a shape. -/
def firstField? (registry : Registry) (types : List TypeId) : Option (TypeInfo × Field) :=
  types.findSome? fun id =>
    let info := registry.info id
    info.fields.head?.map (info, ·)

/-- Everything that a shape asks for, one entry per signature, in order of first declaration. -/
def shapeMembers (registry : Registry) (shape : TypeId) : Except CastError (List ShapeMember) :=
  let types := registry.shapeTypes shape
  match registry.firstField? types with
  | some (info, field) => .error (.unsupportedMember info.name field.name .field)
  | none => .ok ((types.flatMap registry.declaredBy).foldl addMember [])

end Registry

/-- The members that a source type offers. -/
structure Offer where
  methods : List Method
  properties : List Property
  events : List Event
deriving DecidableEq

namespace Offer

/-- The types whose members a source type offers. -/
def owners (registry : Registry) (source : TypeId) (onStatic : Bool) : List TypeId :=
  if onStatic then [source]
  else if (registry.info source).isInterface then source :: registry.interfaces source
  else registry.chain source

/-- What a type offers on its static or on its instance side. -/
def of (registry : Registry) (source : TypeId) (onStatic : Bool) : Offer :=
  let infos := (owners registry source onStatic).map registry.info
  { methods := infos.flatMap fun info => info.methods.filter (·.isStatic = onStatic)
    properties := infos.flatMap fun info => info.properties.filter (·.isStatic = onStatic)
    events := infos.flatMap fun info => info.events.filter (·.isStatic = onStatic) }

end Offer
end StructuralCast
