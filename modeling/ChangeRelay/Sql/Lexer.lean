import ChangeRelay.Sql.Value

/-!
# Splitting SQL text into tokens

Words (names and keywords), double-quoted, bracketed or backquoted names, string literals
(a doubled quote stands for one), blob literals `X'…'`, numbers, parameters and punctuation;
white space and comments (`--` to the end of the line, `/* … */`) separate them. Each token
keeps where it starts and stops in the text, in characters, so that the text of a check
constraint can be cut out of the script.
-/

namespace ChangeRelay.Sql

/-- A token of SQL text. -/
inductive Tok where
  | word (text : String)
  | quotedName (text : String)
  | str (text : String)
  | num (text : String)
  | blob (bytes : List UInt8)
  | param
  | punct (text : String)
  | eof
  deriving Inhabited, BEq, Repr

/-- Whether a token is the keyword `w`. -/
def Tok.isWord (t : Tok) (w : String) : Bool :=
  match t with
  | .word s => s.toUpper == w
  | _ => false

/-- A token and the characters it spans. -/
structure Lexeme where
  tok : Tok
  start : Nat
  stop : Nat
  deriving Inhabited

/-- A character that may start a word. -/
def isWordStart (c : Char) : Bool := c.isAlpha || c == '_' || c.toNat ≥ 0x80

/-- A character that may continue a word. -/
def isWordChar (c : Char) : Bool := isWordStart c || c.isDigit || c == '$'

/-- The two-character operators. -/
def twoCharOps : List String := ["||", "<=", ">=", "==", "!=", "<>", "<<", ">>", "->"]

/-- Reads up to the closing `close`, a doubled one standing for itself; the text and the index
after the closing character. -/
def readQuoted (cs : Array Char) (close : Char) : Nat → Nat → String → Option (String × Nat)
  | 0, _, _ => none
  | fuel + 1, i, acc =>
    if h : i < cs.size then
      let c := cs[i]
      if c == close then
        if cs.getD (i + 1) ' ' == close then readQuoted cs close fuel (i + 2) (acc.push close)
        else some (acc, i + 1)
      else readQuoted cs close fuel (i + 1) (acc.push c)
    else none

/-- The index after a run of characters satisfying `p` from `i`. -/
def skipWhile (cs : Array Char) (p : Char → Bool) : Nat → Nat → Nat
  | 0, i => i
  | fuel + 1, i => if p (cs.getD i ' ') && i < cs.size then skipWhile cs p fuel (i + 1) else i

/-- The index after a number starting at `i`. -/
def numberEnd (cs : Array Char) (i : Nat) : Nat :=
  let n := cs.size + 1
  if cs.getD i ' ' == '0' && (cs.getD (i + 1) ' ' == 'x' || cs.getD (i + 1) ' ' == 'X') then
    skipWhile cs (fun c => (Text.digitValue 16 c).isSome) n (i + 2)
  else
    let j := skipWhile cs Char.isDigit n i
    let j := if cs.getD j ' ' == '.' then skipWhile cs Char.isDigit n (j + 1) else j
    let e := cs.getD j ' '
    if e == 'e' || e == 'E' then
      let k := if cs.getD (j + 1) ' ' == '+' || cs.getD (j + 1) ' ' == '-' then j + 2 else j + 1
      if (cs.getD k ' ').isDigit then skipWhile cs Char.isDigit n k else j
    else j

/-- The bytes of a run of hexadecimal digits. -/
def hexBytes : List Char → Option (List UInt8)
  | [] => some []
  | a :: b :: rest => do
    let x ← Text.digitValue 16 a
    let y ← Text.digitValue 16 b
    let more ← hexBytes rest
    pure ((x * 16 + y).toUInt8 :: more)
  | [_] => none

/-- The tokens of `cs` from `i` on. -/
def lexFrom (cs : Array Char) : Nat → Nat → Array Lexeme → Except String (Array Lexeme)
  | 0, i, acc => .ok (acc.push ⟨.eof, i, i⟩)
  | fuel + 1, i, acc =>
    if i ≥ cs.size then .ok (acc.push ⟨.eof, i, i⟩)
    else
      let c := cs.getD i ' '
      let d := cs.getD (i + 1) ' '
      let text (a b : Nat) : String := String.ofList ((cs.extract a b).toList)
      if isSpace c then lexFrom cs fuel (i + 1) acc
      else if c == '-' && d == '-' then
        lexFrom cs fuel (skipWhile cs (· != '\n') (cs.size + 1) i) acc
      else if c == '/' && d == '*' then
        let close := (List.range cs.size).find? fun k =>
          k ≥ i + 2 && cs.getD k ' ' == '*' && cs.getD (k + 1) ' ' == '/'
        match close with
        | some k => lexFrom cs fuel (k + 2) acc
        | none => .ok (acc.push ⟨.eof, cs.size, cs.size⟩)
      else if (c == 'x' || c == 'X') && d == '\'' then
        match readQuoted cs '\'' (cs.size + 1) (i + 2) "" with
        | some (s, j) =>
          match hexBytes s.toList with
          | some bytes => lexFrom cs fuel j (acc.push ⟨.blob bytes, i, j⟩)
          | none => .error ("unrecognized token: \"" ++ text i j ++ "\"")
        | none => .error ("unrecognized token: \"" ++ text i cs.size ++ "\"")
      else if isWordStart c then
        let j := skipWhile cs isWordChar (cs.size + 1) i
        lexFrom cs fuel j (acc.push ⟨.word (text i j), i, j⟩)
      else if c.isDigit || (c == '.' && d.isDigit) then
        let j := numberEnd cs i
        if isWordStart (cs.getD j ' ') then
          .error ("unrecognized token: \"" ++ text i (skipWhile cs isWordChar (cs.size + 1) j) ++ "\"")
        else lexFrom cs fuel j (acc.push ⟨.num (text i j), i, j⟩)
      else if c == '\'' then
        match readQuoted cs '\'' (cs.size + 1) (i + 1) "" with
        | some (s, j) => lexFrom cs fuel j (acc.push ⟨.str s, i, j⟩)
        | none => .error ("unrecognized token: \"" ++ text i cs.size ++ "\"")
      else if c == '"' || c == '`' then
        match readQuoted cs c (cs.size + 1) (i + 1) "" with
        | some (s, j) => lexFrom cs fuel j (acc.push ⟨.quotedName s, i, j⟩)
        | none => .error ("unrecognized token: \"" ++ text i cs.size ++ "\"")
      else if c == '[' then
        let j := skipWhile cs (· != ']') (cs.size + 1) (i + 1)
        if j ≥ cs.size then .error ("unrecognized token: \"" ++ text i cs.size ++ "\"")
        else lexFrom cs fuel (j + 1) (acc.push ⟨.quotedName (text (i + 1) j), i, j + 1⟩)
      else if c == '?' then
        let j := skipWhile cs Char.isDigit (cs.size + 1) (i + 1)
        lexFrom cs fuel j (acc.push ⟨.param, i, j⟩)
      else if (c == ':' || c == '@' || c == '$') && isWordChar d then
        let j := skipWhile cs isWordChar (cs.size + 1) (i + 1)
        lexFrom cs fuel j (acc.push ⟨.param, i, j⟩)
      else
        let two := String.ofList [c, d]
        if twoCharOps.contains two then lexFrom cs fuel (i + 2) (acc.push ⟨.punct two, i, i + 2⟩)
        else if "(),;.+-*/%<>=&|~".contains c then
          lexFrom cs fuel (i + 1) (acc.push ⟨.punct (String.singleton c), i, i + 1⟩)
        else .error ("unrecognized token: \"" ++ String.singleton c ++ "\"")

/-- The tokens of a text, ending in `eof`. -/
def lex (src : Array Char) : Except String (Array Lexeme) :=
  lexFrom src (src.size + 1) 0 #[]

end ChangeRelay.Sql
