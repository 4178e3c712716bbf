import StructuralCast.Text.Printable

/-!
Contract: text between double quotes.

A quote and a backslash are written behind a backslash, NUL, tab, line feed and carriage return have
short names, every other character that is not printable is written as its code point in
hexadecimal, and all else stands for itself.
-/

namespace StructuralCast.Text.Quoted

private def codePoint (c : Char) : List Char :=
  ['\\', 'u', '{'] ++ Nat.toDigits 16 c.toNat ++ ['}']

def encodeChar (c : Char) : List Char :=
  match c with
  | '\x00' => ['\\', '0']
  | '\t' => ['\\', 't']
  | '\r' => ['\\', 'r']
  | '\n' => ['\\', 'n']
  | '\\' => ['\\', '\\']
  | '"' => ['\\', '"']
  | c => if isPrintable c then [c] else codePoint c

def encode (s : String) : String :=
  String.ofList ('"' :: s.toList.flatMap encodeChar ++ ['"'])

end StructuralCast.Text.Quoted
