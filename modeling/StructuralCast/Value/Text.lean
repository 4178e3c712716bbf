import StructuralCast.Value

/-!
Contract: the two texts of a value.

`display` is for readers and looks through wrappers, so that a wrapper reads like what it wraps; one
around null shows its shape. `dump` shows how a value is built, wrappers included.
-/

namespace StructuralCast

open Text

mutual

def Value.display : Value → String
  | .null => "null"
  | .bool truth => toString truth
  | .int number => toString number.toInt
  | .float bits => FloatFormat.plain.write bits
  | .text _ content => content
  | .enumeration _ value => toString value.toInt
  | .struct _ fields => "(" ++ Dump.commaSeparated (Value.displayAll fields) ++ ")"
  | .object o => o.typeName
  | .callable c => c.display
  | .adapter _ factory source _ =>
    if source.isNull then "<" ++ factory.shapeName ++ ">" else source.display
  | .proxy _ _ shapeName inner =>
    if inner.isNull then "<" ++ shapeName ++ ">" else inner.display

def Callable.display : Callable → String
  | .native _ _ _ => "<callable>"
  | .adapted _ _ inner => inner.display
  | .foreign _ _ body inner =>
    if inner.isNull then "<" ++ body.shapeName ++ ">" else inner.display

def Value.displayAll : List Value → List String
  | [] => []
  | value :: rest => value.display :: Value.displayAll rest

end

def Callable.dump (c : Callable) : String :=
  let body :=
    match c.facade? with
    | none => "<native>"
    | some (_, shapeName, _) => "<delegate adapter " ++ shapeName ++ ">"
  Dump.record "Callable" [("ty", c.type.dump), ("body", body)]

def Instance.dump (o : Instance) : String :=
  Dump.openRecord "Instance"
    [("ty", o.type.dump), ("type_name", Quoted.encode o.typeName)]

mutual

def Value.dump : Value → String
  | .null => "Null"
  | .bool truth => Dump.tuple "Bool" [toString truth]
  | .int number => Dump.tuple "Int" [toString number.toInt]
  | .float bits => Dump.tuple "Float" [FloatFormat.explicit.write bits]
  | .text _ content => Dump.tuple "Str" [Quoted.encode content]
  | .enumeration type value =>
    Dump.tuple "Enum"
      [Dump.record "EnumValue" [("ty", type.dump), ("value", toString value.toInt)]]
  | .struct type fields =>
    Dump.tuple "Struct"
      [Dump.record "StructValue"
        [("ty", type.dump), ("fields", Dump.list (Value.dumpAll fields))]]
  | .object o => Dump.tuple "Object" [o.dump]
  | .callable c => Dump.tuple "Callable" [c.dump]
  | .adapter _ factory source _ =>
    Dump.tuple "Proxy" ["<" ++ factory.shapeName ++ " adapter over " ++ source.dump ++ ">"]
  | .proxy _ _ shapeName inner =>
    Dump.tuple "Proxy" ["<" ++ shapeName ++ " adapter over " ++ inner.dump ++ ">"]

def Value.dumpAll : List Value → List String
  | [] => []
  | value :: rest => value.dump :: Value.dumpAll rest

end

end StructuralCast
