import ChangeRelay.Json.Basic
import ChangeRelay.Decimal.Text

/-!
# JSON text

`Json.render` writes a value compactly: no blank between tokens, members in key order, numbers
in the kind they hold (`Decimal.jsonText` for doubles). In a string, the quote and the backslash
are escaped, as is every control character below U+0020 (by its short escape where JSON has one,
else as `\u00XX` in lower-case hex); every other character is written as it is.
-/

namespace ChangeRelay

/-- The lower-case hex digit of `n < 16`. -/
def hexDigit (n : Nat) : Char :=
  if n < 10 then Char.ofNat (48 + n) else Char.ofNat (87 + n)

/-- The characters that stand for `c` inside a JSON string. -/
def jsonEscape (c : Char) : List Char :=
  if c = '"' then ['\\', '"']
  else if c = '\\' then ['\\', '\\']
  else if c = '\n' then ['\\', 'n']
  else if c = '\r' then ['\\', 'r']
  else if c = '\t' then ['\\', 't']
  else if c.toNat = 8 then ['\\', 'b']
  else if c.toNat = 12 then ['\\', 'f']
  else if c.toNat < 32 then ['\\', 'u', '0', '0', hexDigit (c.toNat / 16), hexDigit (c.toNat % 16)]
  else [c]

/-- A string as a JSON string literal. -/
def jsonQuote (s : String) : String :=
  String.ofList ('"' :: (s.toList.flatMap jsonEscape ++ ['"']))

namespace Number

/-- A number as JSON text. -/
def render : Number → String
  | .nat n => toString n
  | .negInt n => toString n
  | .float x => Decimal.jsonText x

end Number

namespace Json

mutual

/-- A value as compact JSON text. -/
def render : Json → String
  | .null => "null"
  | .bool b => if b then "true" else "false"
  | .num n => n.render
  | .str s => jsonQuote s
  | .arr xs => "[" ++ renderElems xs ++ "]"
  | .obj fs => "\x7b" ++ renderFields fs ++ "\x7d"

/-- Array elements, comma separated. -/
def renderElems : List Json → String
  | [] => ""
  | [x] => render x
  | x :: xs => render x ++ "," ++ renderElems xs

/-- Object members, comma separated. -/
def renderFields : List (String × Json) → String
  | [] => ""
  | [(k, v)] => jsonQuote k ++ ":" ++ render v
  | (k, v) :: rest => jsonQuote k ++ ":" ++ render v ++ "," ++ renderFields rest

end

end Json

end ChangeRelay
