import ChangeRelay.Yaml.Token

/-!
# Scanning YAML scalars

A scalar may span lines. Its line breaks are folded the same way in plain and quoted scalars: a
single line break between two pieces of text becomes a space, and of several breaks in a row
the first is dropped and the others kept; blanks around breaks are dropped. A `Folding` holds
what lies between two pieces of text until the next piece shows whether the scalar goes on.

* A plain scalar ends at `: ` (and, in a flow collection, at `,[]{}`), at ` #`, at a document
  marker, or at a line indented less than its block.
* A quoted scalar ends at its closing quote; in single quotes `''` is a quote, in double quotes
  the backslash escapes a character, a code (`\x`, `\u`, `\U`) or a line break.
* A block scalar (`|` literal, `>` folded) runs while lines are indented at least as its first
  non-empty line (or as the indicator says); its final breaks are kept, chomped to one, or
  dropped, by the chomping indicator.
-/

namespace ChangeRelay.Yaml

namespace Scan

/-- What lies between two pieces of a scalar's text. -/
structure Folding where
  text : String := ""
  /-- The first line break after a piece of text. -/
  leadingBreak : String := ""
  /-- The line breaks after it. -/
  trailingBreaks : String := ""
  /-- Blanks after a piece of text on the same line. -/
  whitespaces : String := ""
  /-- Whether a line break was seen since the last piece of text. -/
  leadingBlanks : Bool := false

/-- Adds what lies between two pieces of text, folded, before the next piece. -/
def Folding.join (f : Folding) : Folding :=
  if f.leadingBlanks then
    if f.leadingBreak.startsWith "\n" then
      if f.trailingBreaks.isEmpty then
        { f with text := f.text.push ' ', leadingBreak := "", leadingBlanks := false }
      else
        { f with text := f.text ++ f.trailingBreaks, trailingBreaks := "", leadingBreak := "",
                 leadingBlanks := false }
    else
      { f with text := f.text ++ f.leadingBreak ++ f.trailingBreaks, leadingBreak := "",
               trailingBreaks := "", leadingBlanks := false }
  else { f with text := f.text ++ f.whitespaces, whitespaces := "" }

/-- Whether the current line starts with a document marker: `---` or `...` then a blank. -/
def atDocumentMarker : ScanM Bool := do
  let s ← get
  if s.mark.column != 0 then return false
  let c0 ← ahead 0
  let c1 ← ahead 1
  let c2 ← ahead 2
  let c3 ← ahead 3
  pure (((c0 == '-' && c1 == '-' && c2 == '-') || (c0 == '.' && c1 == '.' && c2 == '.')) &&
    isBlankOrEnd c3)

/-! ## Plain scalars -/

/-- Reads the text of a plain scalar up to a blank, folding in what came before it. -/
def plainPiece (start : Mark) (f : Folding) (stop : Mark) : Nat → ScanM (Folding × Mark)
  | 0 => exhausted
  | n + 1 => do
    let c ← here
    if isBlankOrEnd c then return (f, stop)
    let c1 ← ahead 1
    let flow := (← get).flowLevel != 0
    if flow && c == ':' && (c1 == ',' || c1 == '?' || c1 == '[' || c1 == ']' || c1 == '{' ||
        c1 == '}') then
      failWhile "while scanning a plain scalar" start "found unexpected ':'"
    if (c == ':' && isBlankOrEnd c1) ||
        (flow && (c == ',' || c == '[' || c == ']' || c == '{' || c == '}')) then
      return (f, stop)
    let f := if f.leadingBlanks || !f.whitespaces.isEmpty then f.join else f
    let text ← read f.text
    plainPiece start { f with text } (← mark) n

/-- Reads the blanks and breaks after a piece of a plain scalar. -/
def plainBlanks (start : Mark) (indent : Int) (f : Folding) : Nat → ScanM Folding
  | 0 => exhausted
  | n + 1 => do
    let c ← here
    if isBlank c then
      let s ← get
      if f.leadingBlanks && (s.mark.column : Int) < indent && c == '\t' then
        failWhile "while scanning a plain scalar" start
          "found a tab character that violates indentation"
      if !f.leadingBlanks then
        let w ← read f.whitespaces
        plainBlanks start indent { f with whitespaces := w } n
      else
        skip
        plainBlanks start indent f n
    else if isBreak c then
      if !f.leadingBlanks then
        let b ← readLine f.leadingBreak
        plainBlanks start indent { f with whitespaces := "", leadingBreak := b, leadingBlanks := true } n
      else
        let b ← readLine f.trailingBreaks
        plainBlanks start indent { f with trailingBreaks := b } n
    else pure f

/-- Reads the lines of a plain scalar. -/
def plainLines (start : Mark) (indent : Int) (f : Folding) (stop : Mark) :
    Nat → ScanM (Folding × Mark)
  | 0 => exhausted
  | n + 1 => do
    if ← atDocumentMarker then return (f, stop)
    if (← here) == '#' then return (f, stop)
    let (f, stop) ← plainPiece start f stop (← budget)
    let c ← here
    if !(isBlank c || isBreak c) then return (f, stop)
    let f ← plainBlanks start indent f (← budget)
    let s ← get
    if s.flowLevel == 0 && (s.mark.column : Int) < indent then return (f, stop)
    plainLines start indent f stop n

/-- Scans a plain scalar. -/
def plainScalar : ScanM Token := do
  let s ← get
  let start := s.mark
  let (f, stop) ← plainLines start (s.indent + 1) {} start (← budget)
  if f.leadingBlanks then modify fun s => { s with simpleKeyAllowed := true }
  pure ⟨.scalar f.text .plain, start, stop⟩

/-! ## Quoted scalars -/

/-- The character a one-letter escape stands for. -/
def escapedChar : Char → Option Char
  | '0' => some '\x00'
  | 'a' => some '\x07'
  | 'b' => some '\x08'
  | 't' => some '\t'
  | '\t' => some '\t'
  | 'n' => some '\n'
  | 'v' => some '\x0b'
  | 'f' => some '\x0c'
  | 'r' => some '\r'
  | 'e' => some '\x1b'
  | ' ' => some ' '
  | '"' => some '"'
  | '/' => some '/'
  | '\'' => some '\''
  | '\\' => some '\\'
  | 'N' => some '\x85'
  | '_' => some '\xa0'
  | 'L' => some '\u2028'
  | 'P' => some '\u2029'
  | _ => none

/-- The number of hexadecimal digits of a code escape. -/
def codeLength : Char → Nat
  | 'x' => 2
  | 'u' => 4
  | 'U' => 8
  | _ => 0

/-- Reads `k` hexadecimal digits. -/
def hexCode (start : Mark) (acc : Nat) : Nat → ScanM Nat
  | 0 => pure acc
  | k + 1 => do
    match hexValue (← here) with
    | some v =>
      skip
      hexCode start (acc * 16 + v) k
    | none =>
      failWhile "while parsing a quoted scalar" start "did not find expected hexdecimal number"

/-- Reads a backslash escape. -/
def escape (start : Mark) (text : String) : ScanM String := do
  let e ← ahead 1
  let len := codeLength e
  if len == 0 then
    match escapedChar e with
    | some c =>
      skip
      skip
      pure (text.push c)
    | none => failWhile "while parsing a quoted scalar" start "found unknown escape character"
  else
    skip
    skip
    -- The digits are checked before any is taken.
    let s ← get
    let digits := (List.range len).map fun k => s.chars.getD (s.pos + k) '\x00'
    if !digits.all fun d => (hexValue d).isSome then
      failWhile "while parsing a quoted scalar" start "did not find expected hexdecimal number"
    let value := digits.foldl (fun acc d => acc * 16 + (hexValue d).getD 0) 0
    if (0xD800 ≤ value && value ≤ 0xDFFF) || value > 0x10FFFF then
      failWhile "while parsing a quoted scalar" start "found invalid Unicode character escape code"
    for _ in List.range len do skip
    pure (text.push (Char.ofNat value))

/-- Reads the text of a quoted scalar up to a blank or its closing quote; whether a line break
was escaped. -/
def quotedPiece (start : Mark) (single : Bool) (text : String) :
    Nat → ScanM (String × Bool)
  | 0 => exhausted
  | n + 1 => do
    let c ← here
    if isBlankOrEnd c then return (text, false)
    let c1 ← ahead 1
    if single && c == '\'' && c1 == '\'' then
      skip
      skip
      quotedPiece start single (text.push '\'') n
    else if c == (if single then '\'' else '"') then return (text, false)
    else if !single && c == '\\' && isBreak c1 then
      skip
      skipLine
      return (text, true)
    else if !single && c == '\\' then
      quotedPiece start single (← escape start text) n
    else
      quotedPiece start single (← read text) n

/-- Reads the blanks and breaks inside a quoted scalar. -/
def quotedBlanks (f : Folding) : Nat → ScanM Folding
  | 0 => exhausted
  | n + 1 => do
    let c ← here
    if isBlank c then
      if !f.leadingBlanks then
        let w ← read f.whitespaces
        quotedBlanks { f with whitespaces := w } n
      else
        skip
        quotedBlanks f n
    else if isBreak c then
      if !f.leadingBlanks then
        let b ← readLine f.leadingBreak
        quotedBlanks { f with whitespaces := "", leadingBreak := b, leadingBlanks := true } n
      else
        let b ← readLine f.trailingBreaks
        quotedBlanks { f with trailingBreaks := b } n
    else pure f

/-- Reads the lines of a quoted scalar up to its closing quote. -/
def quotedLines (start : Mark) (single : Bool) (f : Folding) : Nat → ScanM String
  | 0 => exhausted
  | n + 1 => do
    if ← atDocumentMarker then
      failWhile "while scanning a quoted scalar" start "found unexpected document indicator"
    if isEnd (← here) then
      failWhile "while scanning a quoted scalar" start "found unexpected end of stream"
    let (text, escapedBreak) ← quotedPiece start single f.text (← budget)
    if (← here) == (if single then '\'' else '"') then return text
    let f ← quotedBlanks { f with text, leadingBlanks := escapedBreak } (← budget)
    let f := f.join
    quotedLines start single f n

/-- Scans a quoted scalar. -/
def quotedScalar (single : Bool) : ScanM Token := do
  let start ← mark
  skip
  let text ← quotedLines start single {} (← budget)
  skip
  pure ⟨.scalar text (if single then .singleQuoted else .doubleQuoted), start, ← mark⟩

/-! ## Block scalars -/

/-- Reads the indentation and empty lines before a line of a block scalar, fixing the scalar's
indentation when it is not known yet; the breaks read, and the place after the last (`stop`
is the place where reading began). -/
def blockBreaks (start : Mark) (indent : Nat) (breaks : String) (stop : Mark) (widest : Nat) :
    Nat → ScanM (Nat × String × Mark)
  | 0 => exhausted
  | n + 1 => do
    skipWhile' indent (← budget)
    let s ← get
    let widest := max widest s.mark.column
    let c ← here
    if (indent == 0 || s.mark.column < indent) && c == '\t' then
      failWhile "while scanning a block scalar" start
        "found a tab character where an indentation space is expected"
    if !isBreak c then
      let indent :=
        if indent == 0 then max (max widest (s.indent + 1).toNat) 1 else indent
      return (indent, breaks, stop)
    let breaks ← readLine breaks
    blockBreaks start indent breaks (← mark) widest n
where
  /-- Moves past indentation spaces. -/
  skipWhile' (indent : Nat) : Nat → ScanM Unit
    | 0 => pure ()
    | k + 1 => do
      let s ← get
      if (indent == 0 || s.mark.column < indent) && (← here) == ' ' then
        skip
        skipWhile' indent k
      else pure ()

/-- Reads the lines of a block scalar. -/
def blockLines (start : Mark) (literal : Bool) (indent : Nat) (text leadingBreak trailing : String)
    (leadingBlank : Bool) (stop : Mark) : Nat → ScanM (String × String × String × Mark)
  | 0 => exhausted
  | n + 1 => do
    let s ← get
    let c ← here
    if !(s.mark.column == indent && !isEnd c) then return (text, leadingBreak, trailing, stop)
    let trailingBlank := isBlank c
    let (text, leadingBreak) :=
      if !literal && leadingBreak.startsWith "\n" && !leadingBlank && !trailingBlank then
        (if trailing.isEmpty then text.push ' ' else text, "")
      else (text ++ leadingBreak, "")
    let text := text ++ trailing
    let leadingBlank := isBlank c
    let text ← readWhile (fun c => !isBreakOrEnd c) text (← budget)
    let leadingBreak ← readLine leadingBreak
    let (indent, trailing, stop) ← blockBreaks start indent "" (← mark) 0 (← budget)
    blockLines start literal indent text leadingBreak trailing leadingBlank stop n

/-- Scans a block scalar, literal or folded. -/
def blockScalar (literal : Bool) : ScanM Token := do
  let start ← mark
  skip
  let c ← here
  let (chomping, increment) ← do
    if c == '+' || c == '-' then
      let chomping : Int := if c == '+' then 1 else -1
      skip
      let d ← here
      if d.isDigit then
        if d == '0' then
          failWhile "while scanning a block scalar" start "found an indentation indicator equal to 0"
        skip
        pure (chomping, d.toNat - '0'.toNat)
      else pure (chomping, 0)
    else if c.isDigit then
      if c == '0' then
        failWhile "while scanning a block scalar" start "found an indentation indicator equal to 0"
      skip
      let d ← here
      if d == '+' || d == '-' then
        skip
        pure ((if d == '+' then 1 else -1 : Int), c.toNat - '0'.toNat)
      else pure (0, c.toNat - '0'.toNat)
    else pure (0, 0)
  skipWhile isBlank (← budget)
  if (← here) == '#' then skipWhile (fun c => !isBreakOrEnd c) (← budget)
  if !isBreakOrEnd (← here) then
    failWhile "while scanning a block scalar" start "did not find expected comment or line break"
  if isBreak (← here) then skipLine
  let s ← get
  let indent : Nat :=
    if increment != 0 then (if s.indent ≥ 0 then (s.indent + increment).toNat else increment) else 0
  let (indent, trailing, stop) ← blockBreaks start indent "" (← mark) 0 (← budget)
  let (text, leadingBreak, trailing, stop) ←
    blockLines start literal indent "" "" trailing false stop (← budget)
  let text := if chomping != -1 then text ++ leadingBreak else text
  let text := if chomping == 1 then text ++ trailing else text
  pure ⟨.scalar text (if literal then .literal else .folded), start, stop⟩

end Scan

end ChangeRelay.Yaml
