/-!
# YAML text: positions, faults and character classes

A `Mark` is a place in the text: a byte offset, and a line and column counted from zero (columns
in characters). A `Problem` is a fault of the reader, the scanner or the parser: what is wrong
and where, and optionally what was being read and where that began. `Problem.message` writes
one as `problem at line L column C, context at line L column C`, places counted from one; a
place at the very start of the text is left out, as is a context place equal to the problem's;
a fault of the reader, which knows only a byte offset, says `at position N`.

The character classes are those of the YAML 1.1 grammar as the scanner uses them; the text ends
in a NUL character, which no text may contain (`allowedChar`).
-/

namespace ChangeRelay.Yaml

/-- A place in the text. -/
structure Mark where
  /-- Bytes before the place. -/
  index : Nat := 0
  line : Nat := 0
  /-- Characters before the place on its line. -/
  column : Nat := 0
  deriving Inhabited, Repr, DecidableEq

namespace Mark

/-- Whether the place is the start of the text. -/
def isStart (m : Mark) : Bool := m.line == 0 && m.column == 0

/-- The place in words, counted from one. -/
def text (m : Mark) : String :=
  "line " ++ toString (m.line + 1) ++ " column " ++ toString (m.column + 1)

end Mark

/-- A fault found while reading YAML text. -/
structure Problem where
  /-- What is wrong. -/
  problem : String
  mark : Mark
  /-- The byte offset of a fault of the reader, which has no place. -/
  offset : Nat := 0
  /-- What was being read when the fault was found, and where that began. -/
  context : Option (String × Mark) := none
  deriving Inhabited, Repr

/-- The fault in words. -/
def Problem.message (p : Problem) : String :=
  let place :=
    if !p.mark.isStart then " at " ++ p.mark.text
    else if p.offset != 0 then " at position " ++ toString p.offset
    else ""
  let context := match p.context with
    | some (c, m) =>
      let same := m.line == p.mark.line && m.column == p.mark.column
      ", " ++ c ++ (if !m.isStart && !same then " at " ++ m.text else "")
    | none => ""
  p.problem ++ place ++ context

/-- How a scalar was written. -/
inductive ScalarStyle where
  | plain
  | singleQuoted
  | doubleQuoted
  | literal
  | folded
  deriving DecidableEq, Repr, Inhabited

/-- The space and the tab. -/
def isBlank (c : Char) : Bool := c == ' ' || c == '\t'

/-- The line breaks: carriage return, line feed, next line, line and paragraph separators. -/
def isBreak (c : Char) : Bool :=
  c == '\r' || c == '\n' || c == '\x85' || c == '\u2028' || c == '\u2029'

/-- The end of the text. -/
def isEnd (c : Char) : Bool := c == '\x00'

/-- A line break or the end. -/
def isBreakOrEnd (c : Char) : Bool := isBreak c || isEnd c

/-- A blank, a line break or the end. -/
def isBlankOrEnd (c : Char) : Bool := isBlank c || isBreakOrEnd c

/-- A character of anchor names, tag handles and directive names. -/
def isWordChar (c : Char) : Bool := c.isAlphanum || c == '_' || c == '-'

/-- The value of a hexadecimal digit. -/
def hexValue (c : Char) : Option Nat :=
  if '0' ≤ c ∧ c ≤ '9' then some (c.toNat - '0'.toNat)
  else if 'a' ≤ c ∧ c ≤ 'f' then some (c.toNat - 'a'.toNat + 10)
  else if 'A' ≤ c ∧ c ≤ 'F' then some (c.toNat - 'A'.toNat + 10)
  else none

/-- The characters a YAML text may hold: tab, line feed, carriage return, the printable ASCII
characters, next line, and the rest of Unicode but the surrogates and the two noncharacters at
the end of the basic plane. -/
def allowedChar (c : Char) : Bool :=
  let v := c.toNat
  v == 0x09 || v == 0x0A || v == 0x0D || (0x20 ≤ v && v ≤ 0x7E) || v == 0x85 ||
    (0xA0 ≤ v && v ≤ 0xD7FF) || (0xE000 ≤ v && v ≤ 0xFFFD) || (0x10000 ≤ v && v ≤ 0x10FFFF)

theorem isBlankOrEnd_of_isEnd {c : Char} (h : isEnd c = true) : isBlankOrEnd c = true := by
  simp [isBlankOrEnd, isBreakOrEnd, h]

end ChangeRelay.Yaml
