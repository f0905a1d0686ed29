/-!
# Blank characters

`isBlank` is the Unicode `White_Space` property: the ASCII blanks and controls from tab to
carriage return, the next line control, the no-break spaces, the ogham space mark, the spaces of
General Punctuation, the line and paragraph separators and the ideographic space. `trimBlank`
drops such characters from both ends of a text; an identifier that trims to nothing is empty.
-/

namespace ChangeRelay.Text

/-- The Unicode `White_Space` property. -/
def isBlank (c : Char) : Bool :=
  let n := c.toNat
  (9 ≤ n && n ≤ 13) || n == 32 || n == 0x85 || n == 0xA0 || n == 0x1680 ||
  (0x2000 ≤ n && n ≤ 0x200A) || n == 0x2028 || n == 0x2029 || n == 0x202F ||
  n == 0x205F || n == 0x3000

/-- A text without blanks at either end. -/
def trimBlank (s : String) : String :=
  String.ofList ((s.toList.dropWhile isBlank).reverse.dropWhile isBlank).reverse

/-- Whether a text is empty once blanks are dropped from its ends. -/
def isBlankText (s : String) : Bool := s.toList.all isBlank

end ChangeRelay.Text
