/-!
Contract: the layout of structural dumps.

A record is its name and its named fields in braces, a tuple its name and its parts in round
brackets, a list its items in square brackets; everything stands on one line.
-/

namespace StructuralCast.Text.Dump

def commaSeparated (items : List String) : String := String.intercalate ", " items

def list (items : List String) : String := "[" ++ commaSeparated items ++ "]"

def tuple (name : String) (parts : List String) : String := name ++ "(" ++ commaSeparated parts ++ ")"

private def field (entry : String × String) : String := entry.1 ++ ": " ++ entry.2

def record (name : String) (fields : List (String × String)) : String :=
  name ++ " \x7b " ++ commaSeparated (fields.map field) ++ " \x7d"

/-- A record that leaves some of its fields out. -/
def openRecord (name : String) (fields : List (String × String)) : String :=
  name ++ " \x7b " ++ commaSeparated (fields.map field ++ [".."]) ++ " \x7d"

def option : Option String → String
  | none => "None"
  | some text => tuple "Some" [text]

end StructuralCast.Text.Dump
