/-!
# Quoted text in messages

Messages show a text value in double quotes. Inside them the quote and the backslash are
escaped, NUL, tab, line feed and carriage return take their short escapes, and a character that
prints as nothing (a control character, a format character such as a zero-width space or a byte
order mark, a private-use or noncharacter code point, a combining mark) is written as
`\u{hex}` in lower-case hex without leading zeros. Everything else is written as it is.
-/

namespace ChangeRelay.Text

/-- Code points that print as nothing and are written as escapes. -/
def invisible (n : Nat) : Bool :=
  n < 0x20 || (0x7F ≤ n && n ≤ 0x9F) || n == 0xAD ||
  (0x300 ≤ n && n ≤ 0x36F) || n == 0x61C || n == 0x180E ||
  (0x200B ≤ n && n ≤ 0x200F) || (0x2028 ≤ n && n ≤ 0x202E) ||
  (0x2060 ≤ n && n ≤ 0x206F) || n == 0xFEFF || (0xFFF9 ≤ n && n ≤ 0xFFFB) ||
  (0xE000 ≤ n && n ≤ 0xF8FF) || (0xFE00 ≤ n && n ≤ 0xFE0F) ||
  n % 0x10000 == 0xFFFE || n % 0x10000 == 0xFFFF || 0xF0000 ≤ n || (0xE0000 ≤ n && n ≤ 0xE0FFF)

/-- Lower-case hex digits of `n`, without leading zeros. -/
def hexText (n : Nat) : String :=
  String.ofList ((Nat.toDigits 16 n))

/-- The characters that stand for `c` between the quotes. -/
def quotedChar (c : Char) : List Char :=
  if c = '"' then ['\\', '"']
  else if c = '\\' then ['\\', '\\']
  else if c.toNat = 0 then ['\\', '0']
  else if c = '\t' then ['\\', 't']
  else if c = '\n' then ['\\', 'n']
  else if c = '\r' then ['\\', 'r']
  else if invisible c.toNat then ("\\u\x7b" ++ hexText c.toNat ++ "\x7d").toList
  else [c]

/-- A text in double quotes, escaped as messages show it. -/
def quoted (s : String) : String :=
  String.ofList ('"' :: (s.toList.flatMap quotedChar ++ ['"']))

/-- An optional text as messages show it: `None`, or `Some("…")`. -/
def quotedOption : Option String → String
  | none => "None"
  | some s => "Some(" ++ quoted s ++ ")"

/-- A list of texts as messages show it: `["a", "b"]`. -/
def quotedList (xs : List String) : String :=
  "[" ++ ", ".intercalate (xs.map quoted) ++ "]"

end ChangeRelay.Text
