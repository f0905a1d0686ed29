import ChangeRelay.Yaml.Scalar

/-!
# The YAML scanner

`fetchNextToken` scans the next token after blanks and comments, deciding by its first
characters what it is; `fetchMoreTokens` scans until the head of the queue can no longer turn
out to be a simple key (a possible simple key waiting on the head keeps it from being taken).
Block collections open and close by indentation: a `-`, `?` or simple key deeper than the
current block opens one, a line indented less closes those it leaves.

The faults are worded as the scanner reports them, with the place of the problem and of what was
being read.
-/

namespace ChangeRelay.Yaml

namespace Scan

/-! ## Directives -/

/-- Reads a directive's name. -/
def directiveName (start : Mark) : ScanM String := do
  let name ← readWhile isWordChar "" (← budget)
  if name.isEmpty then
    failWhile "while scanning a directive" start "could not find expected directive name"
  if !isBlankOrEnd (← here) then
    failWhile "while scanning a directive" start "found unexpected non-alphabetical character"
  pure name

/-- Reads one number of a `%YAML` version. -/
def versionNumber (start : Mark) (value length : Nat) : Nat → ScanM Nat
  | 0 => exhausted
  | n + 1 => do
    let c ← here
    if c.isDigit then
      if length + 1 > 9 then
        failWhile "while scanning a %YAML directive" start "found extremely long version number"
      skip
      versionNumber start (value * 10 + (c.toNat - '0'.toNat)) (length + 1) n
    else if length == 0 then
      failWhile "while scanning a %YAML directive" start "did not find expected version number"
    else pure value

/-- Reads the version of a `%YAML` directive. -/
def versionValue (start : Mark) : ScanM (Nat × Nat) := do
  skipWhile isBlank (← budget)
  let major ← versionNumber start 0 0 (← budget)
  if (← here) != '.' then
    failWhile "while scanning a %YAML directive" start "did not find expected digit or '.' character"
  skip
  let minor ← versionNumber start 0 0 (← budget)
  pure (major, minor)

/-- A character of tag URIs; in a verbatim tag also `,[]`. -/
def isUriChar (verbatim : Bool) (c : Char) : Bool :=
  isWordChar c || ";/?:@&=+$.%!~*'()".contains c || (verbatim && ",[]".contains c)

/-- Reads URI-escaped octets (`%XX`) making up one character, as UTF-8. -/
def uriEscapes (directive : Bool) (start : Mark) (acc : List UInt8) (width : Nat) :
    Nat → ScanM (List UInt8)
  | 0 => exhausted
  | n + 1 => do
    let context := if directive then "while parsing a %TAG directive" else "while parsing a tag"
    let c0 ← here
    let c1 ← ahead 1
    let c2 ← ahead 2
    match c0 == '%', hexValue c1, hexValue c2 with
    | true, some h, some l =>
      let octet := h * 16 + l
      let width ←
        if width == 0 then
          let w :=
            if octet &&& 0x80 == 0 then 1
            else if octet &&& 0xE0 == 0xC0 then 2
            else if octet &&& 0xF0 == 0xE0 then 3
            else if octet &&& 0xF8 == 0xF0 then 4 else 0
          if w == 0 then failWhile context start "found an incorrect leading UTF-8 octet"
          pure w
        else
          if octet &&& 0xC0 != 0x80 then
            failWhile context start "found an incorrect trailing UTF-8 octet"
          pure width
      skip
      skip
      skip
      let acc := acc ++ [octet.toUInt8]
      if width - 1 == 0 || (width == 1) then pure acc
      else uriEscapes directive start acc (width - 1) n
    | _, _, _ => failWhile context start "did not find URI escaped octet"

/-- Reads the characters of a tag URI after `head`. -/
def tagUriChars (verbatim directive : Bool) (start : Mark) (text : String) (length : Nat) :
    Nat → ScanM (String × Nat)
  | 0 => exhausted
  | n + 1 => do
    let c ← here
    if !isUriChar verbatim c then return (text, length)
    if c == '%' then
      let octets ← uriEscapes directive start [] 0 (← budget)
      let piece := (String.fromUTF8? (ByteArray.mk octets.toArray)).getD ""
      tagUriChars verbatim directive start (text ++ piece) (length + 1) n
    else
      tagUriChars verbatim directive start (← read text) (length + 1) n

/-- Reads a tag URI; `head` is a handle already read that turned out to begin the URI. -/
def tagUri (verbatim directive : Bool) (head : String) (start : Mark) : ScanM String := do
  let headLength := head.length
  let text := if headLength > 1 then String.ofList (head.toList.drop 1) else ""
  let (text, length) ← tagUriChars verbatim directive start text headLength (← budget)
  if length == 0 then
    failWhile (if directive then "while parsing a %TAG directive" else "while parsing a tag")
      start "did not find expected tag URI"
  pure text

/-- Reads a tag handle: `!`, `!!` or `!word!` (for a tag, `!word` may begin its URI). -/
def tagHandle (directive : Bool) (start : Mark) : ScanM String := do
  if (← here) != '!' then
    failWhile (if directive then "while scanning a tag directive" else "while scanning a tag")
      start "did not find expected '!'"
  let text ← read ""
  let text ← readWhile isWordChar text (← budget)
  if (← here) == '!' then read text
  else
    if directive && text != "!" then
      failWhile "while parsing a tag directive" start "did not find expected '!'"
    pure text

/-- Reads the handle and expansion of a `%TAG` directive. -/
def tagDirectiveValue (start : Mark) : ScanM (String × String) := do
  skipWhile isBlank (← budget)
  let handle ← tagHandle true start
  if !isBlank (← here) then
    failWhile "while scanning a %TAG directive" start "did not find expected whitespace"
  skipWhile isBlank (← budget)
  let expansion ← tagUri true true "" start
  if !isBlankOrEnd (← here) then
    failWhile "while scanning a %TAG directive" start "did not find expected whitespace or line break"
  pure (handle, expansion)

/-- Scans a directive. -/
def directive : ScanM Token := do
  let start ← mark
  skip
  let name ← directiveName start
  let kind ←
    if name == "YAML" then
      let (major, minor) ← versionValue start
      pure (TokenKind.versionDirective major minor)
    else if name == "TAG" then
      let (handle, expansion) ← tagDirectiveValue start
      pure (TokenKind.tagDirective handle expansion)
    else failWhile "while scanning a directive" start "found unknown directive name"
  let stop ← mark
  skipWhile isBlank (← budget)
  if (← here) == '#' then skipWhile (fun c => !isBreakOrEnd c) (← budget)
  if !isBreakOrEnd (← here) then
    failWhile "while scanning a directive" start "did not find expected comment or line break"
  if isBreak (← here) then skipLine
  pure ⟨kind, start, stop⟩

/-! ## Anchors and tags -/

/-- Scans an anchor (`&name`) or an alias (`*name`). -/
def anchorOrAlias (isAnchor : Bool) : ScanM Token := do
  let start ← mark
  skip
  let name ← readWhile isWordChar "" (← budget)
  let stop ← mark
  let c ← here
  if name.isEmpty || !(isBlankOrEnd c || "?:,]\x7d%@`".contains c) then
    failWhile (if isAnchor then "while scanning an anchor" else "while scanning an alias") start
      "did not find expected alphabetic or numeric character"
  pure ⟨if isAnchor then .anchor name else .aliasRef name, start, stop⟩

/-- Scans a tag: `!<uri>`, `!handle!suffix`, `!suffix` or `!`. -/
def tag : ScanM Token := do
  let start ← mark
  let (handle, suffix) ← do
    if (← ahead 1) == '<' then
      skip
      skip
      let suffix ← tagUri true false "" start
      if (← here) != '>' then
        failWhile "while scanning a tag" start "did not find the expected '>'"
      skip
      pure ("", suffix)
    else
      let handle ← tagHandle false start
      if handle.length > 1 && handle.startsWith "!" && handle.endsWith "!" then
        pure (handle, ← tagUri false false "" start)
      else
        let suffix ← tagUri false false handle start
        if suffix.isEmpty then pure ("", "!") else pure ("!", suffix)
  let c ← here
  if !isBlankOrEnd c then
    if (← get).flowLevel == 0 || c != ',' then
      failWhile "while scanning a tag" start "did not find expected whitespace or line break"
  pure ⟨.tag handle suffix, start, ← mark⟩

/-! ## Fetching tokens -/

/-- Skips blanks, comments and line breaks up to the next token. A tab may not begin a line of
the block context, nor follow `-`, `?` or `:` there. -/
def scanToNextToken : Nat → ScanM Unit
  | 0 => pure ()
  | n + 1 => do
    if (← get).mark.column == 0 && (← here) == '\uFEFF' then skip
    let s ← get
    skipWhile (fun c => c == ' ' || ((s.flowLevel != 0 || !s.simpleKeyAllowed) && c == '\t'))
      (← budget)
    if (← here) == '#' then skipWhile (fun c => !isBreakOrEnd c) (← budget)
    if isBreak (← here) then
      skipLine
      if (← get).flowLevel == 0 then modify fun s => { s with simpleKeyAllowed := true }
      scanToNextToken n
    else pure ()

/-- The start of the stream. -/
def fetchStreamStart : ScanM Unit := do
  modify fun s => { s with indent := -1, simpleKeys := s.simpleKeys.push {},
                           simpleKeyAllowed := true, streamStartProduced := true }
  let m ← mark
  enqueue ⟨.streamStart, m, m⟩

/-- The end of the stream, on a line of its own. -/
def fetchStreamEnd : ScanM Unit := do
  modify fun s =>
    if s.mark.column != 0 then { s with mark := { s.mark with column := 0, line := s.mark.line + 1 } }
    else s
  unrollIndent (-1)
  removeSimpleKey
  modify fun s => { s with simpleKeyAllowed := false }
  let m ← mark
  enqueue ⟨.streamEnd, m, m⟩

/-- A directive. -/
def fetchDirective : ScanM Unit := do
  unrollIndent (-1)
  removeSimpleKey
  modify fun s => { s with simpleKeyAllowed := false }
  enqueue (← directive)

/-- A `---` or `...` marker. -/
def fetchDocumentIndicator (kind : TokenKind) : ScanM Unit := do
  unrollIndent (-1)
  removeSimpleKey
  modify fun s => { s with simpleKeyAllowed := false }
  let start ← mark
  skip
  skip
  skip
  enqueue ⟨kind, start, ← mark⟩

/-- A single-character token. -/
def fetchIndicator (kind : TokenKind) : ScanM Unit := do
  let start ← mark
  skip
  enqueue ⟨kind, start, ← mark⟩

/-- `[` or `{`. -/
def fetchFlowCollectionStart (kind : TokenKind) : ScanM Unit := do
  saveSimpleKey
  increaseFlowLevel
  modify fun s => { s with simpleKeyAllowed := true }
  fetchIndicator kind

/-- `]` or `}`. -/
def fetchFlowCollectionEnd (kind : TokenKind) : ScanM Unit := do
  removeSimpleKey
  decreaseFlowLevel
  modify fun s => { s with simpleKeyAllowed := false }
  fetchIndicator kind

/-- `,`. -/
def fetchFlowEntry : ScanM Unit := do
  removeSimpleKey
  modify fun s => { s with simpleKeyAllowed := true }
  fetchIndicator .flowEntry

/-- `-` before an entry of a block sequence. -/
def fetchBlockEntry : ScanM Unit := do
  let s ← get
  if s.flowLevel == 0 then
    if !s.simpleKeyAllowed then fail none "block sequence entries are not allowed in this context"
    rollIndent s.mark.column none .blockSequenceStart s.mark
  removeSimpleKey
  modify fun s => { s with simpleKeyAllowed := true }
  fetchIndicator .blockEntry

/-- `?` before a key. -/
def fetchKey : ScanM Unit := do
  let s ← get
  if s.flowLevel == 0 then
    if !s.simpleKeyAllowed then fail none "mapping keys are not allowed in this context"
    rollIndent s.mark.column none .blockMappingStart s.mark
  removeSimpleKey
  modify fun s => { s with simpleKeyAllowed := s.flowLevel == 0 }
  fetchIndicator .key

/-- `:` before a value; a possible simple key before it becomes a key. -/
def fetchValue : ScanM Unit := do
  let k ← topKey
  if k.possible then
    let s ← get
    insertToken (k.tokenNumber - s.tokensParsed) ⟨.key, k.mark, k.mark⟩
    rollIndent k.mark.column (some k.tokenNumber) .blockMappingStart k.mark
    setTopKey { k with possible := false }
    modify fun s => { s with simpleKeyAllowed := false }
  else
    let s ← get
    if s.flowLevel == 0 then
      if !s.simpleKeyAllowed then fail none "mapping values are not allowed in this context"
      rollIndent s.mark.column none .blockMappingStart s.mark
    modify fun s => { s with simpleKeyAllowed := s.flowLevel == 0 }
  fetchIndicator .value

/-- An anchor or an alias, which may begin a simple key. -/
def fetchAnchor (isAnchor : Bool) : ScanM Unit := do
  saveSimpleKey
  modify fun s => { s with simpleKeyAllowed := false }
  enqueue (← anchorOrAlias isAnchor)

/-- A tag, which may begin a simple key. -/
def fetchTag : ScanM Unit := do
  saveSimpleKey
  modify fun s => { s with simpleKeyAllowed := false }
  enqueue (← tag)

/-- A block scalar. -/
def fetchBlockScalar (literal : Bool) : ScanM Unit := do
  removeSimpleKey
  modify fun s => { s with simpleKeyAllowed := true }
  enqueue (← blockScalar literal)

/-- A quoted scalar, which may be a simple key. -/
def fetchQuotedScalar (single : Bool) : ScanM Unit := do
  saveSimpleKey
  modify fun s => { s with simpleKeyAllowed := false }
  enqueue (← quotedScalar single)

/-- A plain scalar, which may be a simple key. -/
def fetchPlainScalar : ScanM Unit := do
  saveSimpleKey
  modify fun s => { s with simpleKeyAllowed := false }
  enqueue (← plainScalar)

/-- Characters that cannot begin a plain scalar, unless a non-blank follows some of them. -/
def indicatorChars : String := "-?:,[]\x7b\x7d#&*!|>'\"%@`"

/-- Scans the next token. -/
def fetchNextToken : ScanM Unit := do
  if !(← get).streamStartProduced then
    fetchStreamStart
    return
  scanToNextToken (← budget)
  staleSimpleKeys
  unrollIndent (← get).mark.column
  let s ← get
  let col := s.mark.column
  let flow := s.flowLevel != 0
  let c ← here
  let c1 ← ahead 1
  let c2 ← ahead 2
  let c3 ← ahead 3
  if isEnd c then fetchStreamEnd
  else if col == 0 && c == '%' then fetchDirective
  else if col == 0 && c == '-' && c1 == '-' && c2 == '-' && isBlankOrEnd c3 then
    fetchDocumentIndicator .documentStart
  else if col == 0 && c == '.' && c1 == '.' && c2 == '.' && isBlankOrEnd c3 then
    fetchDocumentIndicator .documentEnd
  else if c == '[' then fetchFlowCollectionStart .flowSequenceStart
  else if c == '{' then fetchFlowCollectionStart .flowMappingStart
  else if c == ']' then fetchFlowCollectionEnd .flowSequenceEnd
  else if c == '}' then fetchFlowCollectionEnd .flowMappingEnd
  else if c == ',' then fetchFlowEntry
  else if c == '-' && isBlankOrEnd c1 then fetchBlockEntry
  else if c == '?' && (flow || isBlankOrEnd c1) then fetchKey
  else if c == ':' && (flow || isBlankOrEnd c1) then fetchValue
  else if c == '*' then fetchAnchor false
  else if c == '&' then fetchAnchor true
  else if c == '!' then fetchTag
  else if c == '|' && !flow then fetchBlockScalar true
  else if c == '>' && !flow then fetchBlockScalar false
  else if c == '\'' then fetchQuotedScalar true
  else if c == '"' then fetchQuotedScalar false
  else if !(isBlankOrEnd c || indicatorChars.contains c) || (c == '-' && !isBlank c1) ||
      (!flow && (c == '?' || c == ':') && !isBlankOrEnd c1) then
    fetchPlainScalar
  else
    failWhile "while scanning for the next token" s.mark "found character that cannot start any token"

/-- Whether a possible simple key waits on the head of the queue. -/
def keyPendsOnHead : ScanM Bool := do
  let s ← get
  pure (s.simpleKeys.any fun k => k.possible && k.tokenNumber == s.tokensParsed)

/-- Scans until the head of the queue is a token the parser may take. -/
def fetchMoreTokens : Nat → ScanM Unit
  | 0 => exhausted
  | n + 1 => do
    let needMore ← do
      if (← get).queue.isEmpty then pure true
      else
        staleSimpleKeys
        keyPendsOnHead
    if needMore then
      fetchNextToken
      fetchMoreTokens n
    else modify fun s => { s with tokenAvailable := true }

/-- Rounds enough for `fetchMoreTokens`: each scans a character or ends the stream. -/
def tokenBudget : ScanM Nat := do
  let s ← get
  pure (2 * (s.chars.size - s.pos) + 8)

end Scan

end ChangeRelay.Yaml
