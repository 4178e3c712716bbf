/-!
Contract: the identity of a type.

A `TypeId` is the number that a registry gave to a type, in order of registration. Six primitive
types have fixed numbers, the numbers up to `firstDynamic` are reserved, and `TypeId.absent` is
never given out. Two ids are the same type exactly when their numbers are equal.
-/

namespace StructuralCast

structure TypeId where
  raw : Nat
deriving DecidableEq

namespace TypeId

def object : TypeId := ⟨0⟩
def void : TypeId := ⟨1⟩
def bool : TypeId := ⟨2⟩
def int : TypeId := ⟨3⟩
def float : TypeId := ⟨4⟩
def text : TypeId := ⟨5⟩

/-- The id that stands for no type at all. -/
def absent : TypeId := ⟨4294967295⟩

/-- The number of the first type that a host registers. -/
def firstDynamic : Nat := 16

def primitiveNames : List String := ["object", "void", "bool", "int", "float", "string"]

def primitiveName? (id : TypeId) : Option String := primitiveNames[id.raw]?

def isPrimitive (id : TypeId) : Bool := id.raw < primitiveNames.length

def isAbsent (id : TypeId) : Bool := id = absent

/-- The text of an id where no registry is at hand to name it. -/
def dump (id : TypeId) : String :=
  if id.isAbsent then "TypeId::NONE"
  else
    match id.primitiveName? with
    | some name => "TypeId::" ++ name.toUpper
    | none => "TypeId(" ++ toString id.raw ++ ")"

end TypeId
end StructuralCast
