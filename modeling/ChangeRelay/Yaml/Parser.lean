import ChangeRelay.Yaml.Scanner

/-!
# The YAML parser

The parser turns tokens into events: the stream's and each document's start and end, scalars,
aliases, and the starts and ends of sequences and mappings, each at the place it begins. It is a
state machine over the grammar's productions (`ParseState`), with a stack of states to return
to and a stack of the places collections began, for faults. It takes tokens from the scanner as
it needs them, so a fault later in the text is only met when the events before it are out.

Tags are resolved here: `!!` stands for `tag:yaml.org,2002:`, `!` for itself, and a document may
declare more handles with `%TAG`.
-/

namespace ChangeRelay.Yaml

/-- What an event is. -/
inductive EventKind where
  | streamStart
  | streamEnd
  | documentStart
  | documentEnd
  | aliasRef (name : String)
  | scalar (anchor tag : Option String) (text : String) (style : ScalarStyle)
  | sequenceStart (anchor tag : Option String)
  | sequenceEnd
  | mappingStart (anchor tag : Option String)
  | mappingEnd
  deriving Inhabited, Repr

/-- An event and the place it begins. -/
structure Event where
  kind : EventKind
  start : Mark
  deriving Inhabited, Repr

/-- Where the parser stands in the grammar. -/
inductive ParseState where
  | streamStart
  | implicitDocumentStart
  | documentStart
  | documentContent
  | documentEnd
  | blockNode
  | blockNodeOrIndentlessSequence
  | flowNode
  | blockSequenceFirstEntry
  | blockSequenceEntry
  | indentlessSequenceEntry
  | blockMappingFirstKey
  | blockMappingKey
  | blockMappingValue
  | flowSequenceFirstEntry
  | flowSequenceEntry
  | flowSequenceEntryMappingKey
  | flowSequenceEntryMappingValue
  | flowSequenceEntryMappingEnd
  | flowMappingFirstKey
  | flowMappingKey
  | flowMappingValue
  | flowMappingEmptyValue
  | finished
  deriving Inhabited, Repr, DecidableEq

/-- The parser's own state. -/
structure Parser where
  state : ParseState := .streamStart
  states : List ParseState := []
  /-- Where the enclosing collections began. -/
  marks : List Mark := []
  /-- The tag handles in force, with what they stand for. -/
  tagHandles : List (String × String) := []
  deriving Inhabited

/-- The parser's computations, over the scanner's. -/
abbrev ParseM := StateT (Scanner × Parser) (Except Problem)

namespace Parse

/-- Runs a scanner computation. -/
def scan (m : ScanM α) : ParseM α := fun (sc, p) => (m.run sc).map fun (a, sc) => (a, (sc, p))

/-- The parser's state. -/
def parser : ParseM Parser := do pure (← get).2

/-- Changes the parser's state. -/
def modifyParser (f : Parser → Parser) : ParseM Unit := modify fun (sc, p) => (sc, f p)

/-- A fault of the parser. -/
def fail (problem : String) (at_ : Mark) : ParseM α := throw { problem, mark := at_ }

/-- A fault of the parser while parsing what began at `contextMark`. -/
def failWhile (context : String) (contextMark : Mark) (problem : String) (at_ : Mark) :
    ParseM α :=
  throw { problem, mark := at_, context := some (context, contextMark) }

/-- The next token, scanning as needed. -/
def peek : ParseM Token := do
  if !(← get).1.tokenAvailable then
    scan do Scan.fetchMoreTokens (← Scan.tokenBudget)
  match (← get).1.queue with
  | t :: _ => pure t
  | [] => fail "parser found no token" (← get).1.mark

/-- Takes the next token. -/
def skipToken : ParseM Unit := modify fun (sc, p) =>
  match sc.queue with
  | t :: rest =>
    let isEnd := match t.kind with
      | .streamEnd => true
      | _ => false
    ({ sc with queue := rest, tokenAvailable := false, tokensParsed := sc.tokensParsed + 1,
               streamEndProduced := isEnd }, p)
  | [] => (sc, p)

/-- Moves to `s`. -/
def goto (s : ParseState) : ParseM Unit := modifyParser fun p => { p with state := s }

/-- Saves `s` to return to. -/
def push (s : ParseState) : ParseM Unit := modifyParser fun p => { p with states := s :: p.states }

/-- Returns to the last saved state. -/
def pop : ParseM Unit := modifyParser fun p =>
  match p.states with
  | s :: rest => { p with state := s, states := rest }
  | [] => { p with state := .finished }

/-- Notes where a collection began. -/
def pushMark (m : Mark) : ParseM Unit := modifyParser fun p => { p with marks := m :: p.marks }

/-- Forgets where the innermost collection began, giving it. -/
def popMark : ParseM Mark := do
  let p ← parser
  match p.marks with
  | m :: rest =>
    modifyParser fun p => { p with marks := rest }
    pure m
  | [] => pure {}

/-- An empty plain scalar at `at_`. -/
def emptyScalar (at_ : Mark) : Event := ⟨.scalar none none "" .plain, at_⟩

/-- The standard tag handles. -/
def standardHandles : List (String × String) := [("!", "!"), ("!!", "tag:yaml.org,2002:")]

/-- Adds a tag handle; a repeated one is a fault unless repeats are allowed (then the first
stays). -/
def addHandle (handle expansion : String) (allowRepeat : Bool) (at_ : Mark) : ParseM Unit := do
  let p ← parser
  if p.tagHandles.any (·.1 == handle) then
    if allowRepeat then return
    fail "found duplicate %TAG directive" at_
  modifyParser fun p => { p with tagHandles := p.tagHandles ++ [(handle, expansion)] }

/-- Reads a document's directives; whether it named a version. -/
def directives : Nat → Bool → ParseM Bool
  | 0, seen => pure seen
  | n + 1, seen => do
    let t ← peek
    match t.kind with
    | .versionDirective major minor =>
      if seen then fail "found duplicate %YAML directive" t.start
      if major != 1 || (minor != 1 && minor != 2) then fail "found incompatible YAML document" t.start
      skipToken
      directives n true
    | .tagDirective handle expansion =>
      addHandle handle expansion false t.start
      skipToken
      directives n seen
    | _ =>
      for (h, e) in standardHandles do addHandle h e true t.start
      pure seen

/-- Rounds enough for reading directives: one a token. -/
def directiveBudget : ParseM Nat := do
  let sc := (← get).1
  pure (sc.chars.size - sc.pos + sc.queue.length + 2)

/-- Whether a token is a directive, a document marker or the stream's end. -/
def startsDocument : TokenKind → Bool
  | .versionDirective .. | .tagDirective .. | .documentStart | .streamEnd => true
  | _ => false

/-- The start of the stream. -/
def streamStart : ParseM Event := do
  let t ← peek
  match t.kind with
  | .streamStart =>
    goto .implicitDocumentStart
    skipToken
    pure ⟨.streamStart, t.start⟩
  | _ => fail "did not find expected <stream-start>" t.start

/-- Takes `...` markers before a document. -/
def skipDocumentEnds : Nat → ParseM Token
  | 0 => peek
  | n + 1 => do
    let t ← peek
    match t.kind with
    | .documentEnd =>
      skipToken
      skipDocumentEnds n
    | _ => pure t

/-- The start of a document, or the end of the stream. -/
def documentStart (implicit : Bool) : ParseM Event := do
  let t ← if implicit then peek else skipDocumentEnds (← directiveBudget)
  if implicit && !startsDocument t.kind then
    let _ ← directives (← directiveBudget) false
    push .documentEnd
    goto .blockNode
    return ⟨.documentStart, t.start⟩
  match t.kind with
  | .streamEnd =>
    goto .finished
    skipToken
    pure ⟨.streamEnd, t.start⟩
  | _ =>
    let start := t.start
    let _ ← directives (← directiveBudget) false
    let t ← peek
    match t.kind with
    | .documentStart =>
      push .documentEnd
      goto .documentContent
      skipToken
      pure ⟨.documentStart, start⟩
    | _ => fail "did not find expected <document start>" t.start

/-- The content of an explicit document, empty when a marker follows at once. -/
def documentContent (node : ParseM Event) : ParseM Event := do
  let t ← peek
  match t.kind with
  | .versionDirective .. | .tagDirective .. | .documentStart | .documentEnd | .streamEnd =>
    pop
    pure (emptyScalar t.start)
  | _ => node

/-- The end of a document. -/
def documentEnd : ParseM Event := do
  let t ← peek
  match t.kind with
  | .documentEnd => skipToken
  | _ => pure ()
  modifyParser fun p => { p with tagHandles := [] }
  goto .documentStart
  pure ⟨.documentEnd, t.start⟩

/-- Resolves a tag's handle. -/
def resolveTag (handle suffix : String) (start tagMark : Mark) : ParseM String := do
  if handle.isEmpty then return suffix
  match (← parser).tagHandles.find? (·.1 == handle) with
  | some (_, e) => pure (e ++ suffix)
  | none => failWhile "while parsing a node" start "found undefined tag handle" tagMark

/-- A node: an alias, a scalar, or the start of a collection, with its anchor and tag. -/
def node (block indentless : Bool) : ParseM Event := do
  let t ← peek
  match t.kind with
  | .aliasRef name =>
    pop
    skipToken
    return ⟨.aliasRef name, t.start⟩
  | _ => pure ()
  let start := t.start
  let (anchor, tag, t) ← do
    match t.kind with
    | .anchor a =>
      skipToken
      let t2 ← peek
      match t2.kind with
      | .tag h s =>
        skipToken
        let t3 ← peek
        let tag ← resolveTag h s start t2.start
        pure (some a, some tag, t3)
      | _ => pure (some a, none, t2)
    | .tag h s =>
      skipToken
      let t2 ← peek
      let (anchor, t3) ← match t2.kind with
        | .anchor a =>
          skipToken
          pure (some a, ← peek)
        | _ => pure (none, t2)
      let tag ← resolveTag h s start t.start
      pure (anchor, some tag, t3)
    | _ => pure (none, none, t)
  match t.kind with
  | .blockEntry =>
    if indentless then
      goto .indentlessSequenceEntry
      return ⟨.sequenceStart anchor tag, start⟩
  | _ => pure ()
  match t.kind with
  | .scalar text style =>
    pop
    skipToken
    pure ⟨.scalar anchor tag text style, start⟩
  | .flowSequenceStart =>
    goto .flowSequenceFirstEntry
    pure ⟨.sequenceStart anchor tag, start⟩
  | .flowMappingStart =>
    goto .flowMappingFirstKey
    pure ⟨.mappingStart anchor tag, start⟩
  | .blockSequenceStart =>
    if block then
      goto .blockSequenceFirstEntry
      pure ⟨.sequenceStart anchor tag, start⟩
    else noContent block start t anchor tag
  | .blockMappingStart =>
    if block then
      goto .blockMappingFirstKey
      pure ⟨.mappingStart anchor tag, start⟩
    else noContent block start t anchor tag
  | _ => noContent block start t anchor tag
where
  /-- A node of no content: an empty scalar when it has an anchor or tag, else a fault. -/
  noContent (block : Bool) (start : Mark) (t : Token) (anchor tag : Option String) :
      ParseM Event := do
    if anchor.isSome || tag.isSome then
      pop
      pure ⟨.scalar anchor tag "" .plain, start⟩
    else
      failWhile (if block then "while parsing a block node" else "while parsing a flow node") start
        "did not find expected node content" t.start

/-- Takes the first token of a collection, noting where it began. -/
def openCollection : ParseM Unit := do
  let t ← peek
  pushMark t.start
  skipToken

/-- An entry of a block sequence. -/
def blockSequenceEntry (first : Bool) : ParseM Event := do
  if first then openCollection
  let t ← peek
  match t.kind with
  | .blockEntry =>
    let m := t.stop
    skipToken
    let t ← peek
    match t.kind with
    | .blockEntry | .blockEnd =>
      goto .blockSequenceEntry
      pure (emptyScalar m)
    | _ =>
      push .blockSequenceEntry
      node true false
  | .blockEnd =>
    pop
    let _ ← popMark
    skipToken
    pure ⟨.sequenceEnd, t.start⟩
  | _ =>
    failWhile "while parsing a block collection" (← popMark) "did not find expected '-' indicator"
      t.start

/-- An entry of a sequence without indentation, as a mapping's value. -/
def indentlessSequenceEntry : ParseM Event := do
  let t ← peek
  match t.kind with
  | .blockEntry =>
    let m := t.stop
    skipToken
    let t ← peek
    match t.kind with
    | .blockEntry | .key | .value | .blockEnd =>
      goto .indentlessSequenceEntry
      pure (emptyScalar m)
    | _ =>
      push .indentlessSequenceEntry
      node true false
  | _ =>
    pop
    pure ⟨.sequenceEnd, t.start⟩

/-- A key of a block mapping. -/
def blockMappingKey (first : Bool) : ParseM Event := do
  if first then openCollection
  let t ← peek
  match t.kind with
  | .key =>
    let m := t.stop
    skipToken
    let t ← peek
    match t.kind with
    | .key | .value | .blockEnd =>
      goto .blockMappingValue
      pure (emptyScalar m)
    | _ =>
      push .blockMappingValue
      node true true
  | .blockEnd =>
    pop
    let _ ← popMark
    skipToken
    pure ⟨.mappingEnd, t.start⟩
  | _ =>
    failWhile "while parsing a block mapping" (← popMark) "did not find expected key" t.start

/-- A value of a block mapping. -/
def blockMappingValue : ParseM Event := do
  let t ← peek
  match t.kind with
  | .value =>
    let m := t.stop
    skipToken
    let t ← peek
    match t.kind with
    | .key | .value | .blockEnd =>
      goto .blockMappingKey
      pure (emptyScalar m)
    | _ =>
      push .blockMappingKey
      node true true
  | _ =>
    goto .blockMappingKey
    pure (emptyScalar t.start)

/-- An entry of a flow sequence. -/
def flowSequenceEntry (first : Bool) : ParseM Event := do
  if first then openCollection
  let t ← peek
  let t ← do
    match t.kind with
    | .flowSequenceEnd => pure t
    | _ =>
      if first then pure t
      else match t.kind with
        | .flowEntry =>
          skipToken
          peek
        | _ =>
          failWhile "while parsing a flow sequence" (← popMark) "did not find expected ',' or ']'"
            t.start
  match t.kind with
  | .key =>
    goto .flowSequenceEntryMappingKey
    skipToken
    pure ⟨.mappingStart none none, t.start⟩
  | .flowSequenceEnd =>
    pop
    let _ ← popMark
    skipToken
    pure ⟨.sequenceEnd, t.start⟩
  | _ =>
    push .flowSequenceEntry
    node false false

/-- The key of a single-pair mapping inside a flow sequence. -/
def flowSequenceEntryMappingKey : ParseM Event := do
  let t ← peek
  match t.kind with
  | .value | .flowEntry | .flowSequenceEnd =>
    let m := t.stop
    skipToken
    goto .flowSequenceEntryMappingValue
    pure (emptyScalar m)
  | _ =>
    push .flowSequenceEntryMappingValue
    node false false

/-- The value of a single-pair mapping inside a flow sequence. -/
def flowSequenceEntryMappingValue : ParseM Event := do
  let t ← peek
  match t.kind with
  | .value =>
    skipToken
    let t ← peek
    match t.kind with
    | .flowEntry | .flowSequenceEnd =>
      goto .flowSequenceEntryMappingEnd
      pure (emptyScalar t.start)
    | _ =>
      push .flowSequenceEntryMappingEnd
      node false false
  | _ =>
    goto .flowSequenceEntryMappingEnd
    pure (emptyScalar t.start)

/-- The end of a single-pair mapping inside a flow sequence. -/
def flowSequenceEntryMappingEnd : ParseM Event := do
  let t ← peek
  goto .flowSequenceEntry
  pure ⟨.mappingEnd, t.start⟩

/-- A key of a flow mapping. -/
def flowMappingKey (first : Bool) : ParseM Event := do
  if first then openCollection
  let t ← peek
  let t ← do
    match t.kind with
    | .flowMappingEnd => pure t
    | _ =>
      if first then pure t
      else match t.kind with
        | .flowEntry =>
          skipToken
          peek
        | _ =>
          failWhile "while parsing a flow mapping" (← popMark) "did not find expected ',' or '\x7d'"
            t.start
  match t.kind with
  | .key =>
    skipToken
    let t ← peek
    match t.kind with
    | .value | .flowEntry | .flowMappingEnd =>
      goto .flowMappingValue
      pure (emptyScalar t.start)
    | _ =>
      push .flowMappingValue
      node false false
  | .flowMappingEnd =>
    pop
    let _ ← popMark
    skipToken
    pure ⟨.mappingEnd, t.start⟩
  | _ =>
    push .flowMappingEmptyValue
    node false false

/-- A value of a flow mapping; `empty` for a key without `:`. -/
def flowMappingValue (empty : Bool) : ParseM Event := do
  let t ← peek
  if empty then
    goto .flowMappingKey
    return emptyScalar t.start
  match t.kind with
  | .value =>
    skipToken
    let t ← peek
    match t.kind with
    | .flowEntry | .flowMappingEnd =>
      goto .flowMappingKey
      pure (emptyScalar t.start)
    | _ =>
      push .flowMappingKey
      node false false
  | _ =>
    goto .flowMappingKey
    pure (emptyScalar t.start)

/-- The next event, or none after the end of the stream. -/
def next : ParseM (Option Event) := do
  let p ← parser
  if (← get).1.streamEndProduced || p.state == .finished then return none
  some <$> match p.state with
  | .streamStart => streamStart
  | .implicitDocumentStart => documentStart true
  | .documentStart => documentStart false
  | .documentContent => documentContent (node true false)
  | .documentEnd => documentEnd
  | .blockNode => node true false
  | .blockNodeOrIndentlessSequence => node true true
  | .flowNode => node false false
  | .blockSequenceFirstEntry => blockSequenceEntry true
  | .blockSequenceEntry => blockSequenceEntry false
  | .indentlessSequenceEntry => indentlessSequenceEntry
  | .blockMappingFirstKey => blockMappingKey true
  | .blockMappingKey => blockMappingKey false
  | .blockMappingValue => blockMappingValue
  | .flowSequenceFirstEntry => flowSequenceEntry true
  | .flowSequenceEntry => flowSequenceEntry false
  | .flowSequenceEntryMappingKey => flowSequenceEntryMappingKey
  | .flowSequenceEntryMappingValue => flowSequenceEntryMappingValue
  | .flowSequenceEntryMappingEnd => flowSequenceEntryMappingEnd
  | .flowMappingFirstKey => flowMappingKey true
  | .flowMappingKey => flowMappingKey false
  | .flowMappingValue => flowMappingValue false
  | .flowMappingEmptyValue => flowMappingValue true
  | .finished => pure ⟨.streamEnd, {}⟩

end Parse

/-- The scanner and parser at the start of `text`. -/
def Parser.start (text : String) : Scanner × Parser :=
  ({ chars := (text.toList ++ ['\x00']).toArray }, {})

end ChangeRelay.Yaml
