import ChangeRelay.Yaml.Basic

/-!
# YAML tokens and the scanner's state

The scanner turns the characters of a text into tokens, one at a time as the parser asks for
them. Besides its place in the text it keeps what the block structure needs: the indentation
columns of the open block collections, the depth of flow collections, and per flow depth the
place where a simple key (a key without `?`) may have begun, since only a later `:` shows that
a scalar was a key. When it does, a `KEY` token (and, opening a block mapping, a
`BLOCK-MAPPING-START` token) is inserted back in the queue before the key's tokens.

`ScanM` is the scanner's state over faults; every loop of the scanner is bounded by the
characters left (`budget`), since each of its rounds takes at least one.
-/

namespace ChangeRelay.Yaml

/-- What a token is. -/
inductive TokenKind where
  | streamStart
  | streamEnd
  | versionDirective (major minor : Nat)
  | tagDirective (handle expansion : String)
  | documentStart
  | documentEnd
  | blockSequenceStart
  | blockMappingStart
  | blockEnd
  | flowSequenceStart
  | flowSequenceEnd
  | flowMappingStart
  | flowMappingEnd
  | blockEntry
  | flowEntry
  | key
  | value
  | aliasRef (name : String)
  | anchor (name : String)
  | tag (handle suffix : String)
  | scalar (text : String) (style : ScalarStyle)
  deriving Inhabited, Repr

/-- A token and where it lies. -/
structure Token where
  kind : TokenKind
  start : Mark
  stop : Mark
  deriving Inhabited, Repr

/-- Where a simple key may have begun. -/
structure SimpleKey where
  possible : Bool := false
  /-- A key at the indentation of a block mapping must be one. -/
  required : Bool := false
  /-- The number of the key's first token in the whole token stream. -/
  tokenNumber : Nat := 0
  mark : Mark := {}
  deriving Inhabited, Repr

/-- The scanner's state. -/
structure Scanner where
  /-- The text, ending in a NUL character. -/
  chars : Array Char
  pos : Nat := 0
  mark : Mark := {}
  /-- Tokens scanned and not yet taken by the parser. -/
  queue : List Token := []
  /-- Tokens taken by the parser. -/
  tokensParsed : Nat := 0
  /-- Whether the head of the queue is ready for the parser. -/
  tokenAvailable : Bool := false
  streamStartProduced : Bool := false
  streamEndProduced : Bool := false
  /-- The indentation of the innermost block collection, `-1` outside any. -/
  indent : Int := -1
  /-- The indentations of the enclosing block collections, innermost first. -/
  indents : List Int := []
  simpleKeyAllowed : Bool := false
  /-- One possible simple key per flow depth, the innermost last. -/
  simpleKeys : Array SimpleKey := #[]
  flowLevel : Nat := 0
  deriving Inhabited

/-- The scanner's computations. -/
abbrev ScanM := StateT Scanner (Except Problem)

namespace Scan

/-- The current character. -/
def here : ScanM Char := do
  let s ← get
  pure (s.chars.getD s.pos '\x00')

/-- The character `k` places ahead. -/
def ahead (k : Nat) : ScanM Char := do
  let s ← get
  pure (s.chars.getD (s.pos + k) '\x00')

/-- The current place. -/
def mark : ScanM Mark := do pure (← get).mark

/-- Rounds enough for a loop that takes a character a round. -/
def budget : ScanM Nat := do
  let s ← get
  pure (s.chars.size - s.pos + 1)

/-- A fault at the current place. -/
def fail (context : Option (String × Mark)) (problem : String) : ScanM α := do
  throw { problem, mark := (← get).mark, context }

/-- A fault at the current place while reading what began at `at_`. -/
def failWhile (context : String) (at_ : Mark) (problem : String) : ScanM α :=
  fail (some (context, at_)) problem

/-- The fault of a loop that ran out of rounds, which the budgets rule out. -/
def exhausted : ScanM α := fail none "scanner exceeded its step budget"

/-- Moves past the current character. -/
def skip : ScanM Unit := modify fun s =>
  let c := s.chars.getD s.pos '\x00'
  { s with pos := s.pos + 1,
           mark := { s.mark with index := s.mark.index + c.utf8Size,
                                 column := s.mark.column + 1 } }

/-- Moves past a line break (a carriage return and line feed count as one). -/
def skipLine : ScanM Unit := do
  let c ← here
  let d ← ahead 1
  if c == '\r' && d == '\n' then
    modify fun s => { s with pos := s.pos + 2, mark := ⟨s.mark.index + 2, s.mark.line + 1, 0⟩ }
  else if isBreak c then
    modify fun s => { s with pos := s.pos + 1,
                             mark := ⟨s.mark.index + c.utf8Size, s.mark.line + 1, 0⟩ }
  else pure ()

/-- Appends the current character to `acc` and moves past it. -/
def read (acc : String) : ScanM String := do
  let c ← here
  skip
  pure (acc.push c)

/-- Appends a line break to `acc` and moves past it: breaks other than the line and paragraph
separators become a line feed. -/
def readLine (acc : String) : ScanM String := do
  let c ← here
  let d ← ahead 1
  if c == '\r' && d == '\n' then
    modify fun s => { s with pos := s.pos + 2, mark := ⟨s.mark.index + 2, s.mark.line + 1, 0⟩ }
    pure (acc.push '\n')
  else if isBreak c then
    modify fun s => { s with pos := s.pos + 1,
                             mark := ⟨s.mark.index + c.utf8Size, s.mark.line + 1, 0⟩ }
    pure (acc.push (if c == '\u2028' || c == '\u2029' then c else '\n'))
  else pure acc

/-- Moves past characters while `p` holds. -/
def skipWhile (p : Char → Bool) : Nat → ScanM Unit
  | 0 => pure ()
  | n + 1 => do
    if p (← here) then
      skip
      skipWhile p n
    else pure ()

/-- Reads characters while `p` holds. -/
def readWhile (p : Char → Bool) (acc : String) : Nat → ScanM String
  | 0 => pure acc
  | n + 1 => do
    if p (← here) then readWhile p (← read acc) n else pure acc

/-- Puts a token at the end of the queue. -/
def enqueue (t : Token) : ScanM Unit := modify fun s => { s with queue := s.queue ++ [t] }

/-- Puts a token into the queue before the `k`-th queued token. -/
def insertToken (k : Nat) (t : Token) : ScanM Unit :=
  modify fun s => { s with queue := s.queue.take k ++ t :: s.queue.drop k }

/-- The possible simple key of the innermost flow depth. -/
def topKey : ScanM SimpleKey := do pure ((← get).simpleKeys.back?.getD {})

/-- Replaces the possible simple key of the innermost flow depth. -/
def setTopKey (k : SimpleKey) : ScanM Unit :=
  modify fun s => { s with simpleKeys := s.simpleKeys.pop.push k }

/-- Drops the possible simple key of the innermost flow depth; a required one is a fault. -/
def removeSimpleKey : ScanM Unit := do
  let k ← topKey
  if k.possible && k.required then
    failWhile "while scanning a simple key" k.mark "could not find expected ':'"
  setTopKey { k with possible := false }

/-- Notes that a simple key may begin here, when one may. -/
def saveSimpleKey : ScanM Unit := do
  let s ← get
  let required := s.flowLevel == 0 && s.indent == (s.mark.column : Int)
  if s.simpleKeyAllowed then
    let k : SimpleKey :=
      { possible := true, required, tokenNumber := s.tokensParsed + s.queue.length, mark := s.mark }
    removeSimpleKey
    setTopKey k

/-- Drops possible simple keys that can no longer be keys: a simple key lies on one line and is
shorter than 1024 bytes. -/
def staleSimpleKeys : ScanM Unit := do
  let s ← get
  let keys ← s.simpleKeys.mapM fun k => do
    if k.possible && (k.mark.line < s.mark.line || k.mark.index + 1024 < s.mark.index) then
      if k.required then
        failWhile "while scanning a simple key" k.mark "could not find expected ':'"
      pure { k with possible := false }
    else pure k
  modify fun s => { s with simpleKeys := keys }

/-- Enters a flow collection. -/
def increaseFlowLevel : ScanM Unit :=
  modify fun s => { s with simpleKeys := s.simpleKeys.push {}, flowLevel := s.flowLevel + 1 }

/-- Leaves a flow collection. -/
def decreaseFlowLevel : ScanM Unit :=
  modify fun s =>
    if s.flowLevel != 0 then { s with flowLevel := s.flowLevel - 1, simpleKeys := s.simpleKeys.pop }
    else s

/-- Opens a block collection at `column` when it is deeper than the current one, with a token
of `kind` at the end of the queue or at stream position `number`. -/
def rollIndent (column : Int) (number : Option Nat) (kind : TokenKind) (at_ : Mark) :
    ScanM Unit := do
  let s ← get
  if s.flowLevel == 0 && s.indent < column then
    set { s with indents := s.indent :: s.indents, indent := column }
    let t : Token := ⟨kind, at_, at_⟩
    match number with
    | none => enqueue t
    | some n => insertToken (n - s.tokensParsed) t

/-- Closes the block collections deeper than `column`, a `BLOCK-END` token each. -/
def unrollIndent (column : Int) : ScanM Unit := do
  if (← get).flowLevel != 0 then return
  go (← get).indents.length
where
  /-- Closes at most `n` collections. -/
  go : Nat → ScanM Unit
    | 0 => pure ()
    | n + 1 => do
      let s ← get
      if s.indent > column then
        enqueue ⟨.blockEnd, s.mark, s.mark⟩
        match s.indents with
        | i :: is => modify fun s => { s with indent := i, indents := is }
        | [] => modify fun s => { s with indent := -1 }
        go n
      else pure ()

theorem insertToken_length (k : Nat) (t : Token) (s : Scanner) :
    (((insertToken k t).run s).map (·.2.queue.length)) = .ok (s.queue.length + 1) := by
  show Except.ok (s.queue.take k ++ t :: s.queue.drop k).length = _
  congr 1
  simp only [List.length_append, List.length_take, List.length_cons, List.length_drop]
  omega

end Scan

end ChangeRelay.Yaml
