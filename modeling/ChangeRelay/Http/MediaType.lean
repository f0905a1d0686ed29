/-!
# Media types

A `Content-Type` header names a media type, `type/subtype`, with parameters after semicolons
(`application/json; charset=utf-8`). Type and subtype are tokens of RFC 7230 and compare without
ASCII case; a subtype's last `+` after its first character starts a suffix that names the
syntax underneath (`application/vnd.api+json`).

`MediaType.parse?` accepts a header's text as RFC 6838 and the common readers allow it: a header
of visible ASCII, a non-empty type, a subtype of tokens (it may be empty), and parameters
`name=value` or `name="quoted value"`, with spaces only before a name or after a quoted value.
-/

namespace ChangeRelay.Http

/-- The marks a token may hold besides letters and digits. -/
def tokenMarks : List Char := "!#$%&'*+-.^_`|~".toList

/-- Whether a character may stand in a token. -/
def isToken (c : Char) : Bool := (c.isAlphanum && c.toNat < 128) || tokenMarks.contains c

/-- Whether a character may stand in a quoted parameter value. -/
def isQuotable (c : Char) : Bool := 31 < c.toNat && c.toNat != 127

/-- Whether a character may stand in a header's text. -/
def isHeaderChar (c : Char) : Bool := c == '\t' || (32 ≤ c.toNat && c.toNat ≤ 126)

/-- Where the reading of a media type's parameters stands. -/
inductive ParamStep where
  /-- Before a parameter's name. -/
  | start
  | name
  /-- Right after the `=`. -/
  | valueStart
  | value
  /-- Right after the opening quote of a value. -/
  | quotedStart
  | quoted
  /-- After the closing quote of a value. -/
  | afterQuote
  deriving DecidableEq, Repr

/-- Whether the rest of the text, from a parameter step on, is well-formed. -/
def paramsValid : ParamStep → List Char → Bool
  | .start, [] => true
  | .start, c :: cs =>
    if c == ' ' then paramsValid .start cs else isToken c && paramsValid .name cs
  | .name, [] => false
  | .name, c :: cs =>
    if c == '=' then paramsValid .valueStart cs else isToken c && paramsValid .name cs
  | .valueStart, [] => true
  | .valueStart, c :: cs =>
    if c == '"' then paramsValid .quotedStart cs else isToken c && paramsValid .value cs
  | .value, [] => true
  | .value, c :: cs =>
    if c == ';' then paramsValid .start cs else isToken c && paramsValid .value cs
  | .quotedStart, [] => false
  | .quotedStart, c :: cs => isQuotable c && paramsValid .quoted cs
  | .quoted, [] => false
  | .quoted, c :: cs =>
    if c == '"' then paramsValid .afterQuote cs else isQuotable c && paramsValid .quoted cs
  | .afterQuote, [] => true
  | .afterQuote, c :: cs =>
    if c == ';' then paramsValid .start cs else c == ' ' && paramsValid .afterQuote cs

/-- A media type, in lower case. -/
structure MediaType where
  type : String
  subtype : String
  /-- The part of the subtype after its last `+`, when it has one after its first character. -/
  suffix : Option String
  deriving DecidableEq, Repr

/-- The suffix of a subtype. -/
def suffixOf (sub : List Char) : Option String :=
  match sub with
  | [] => none
  | _ :: rest =>
    if rest.contains '+' then some (String.ofList ((rest.reverse.takeWhile (· != '+')).reverse))
    else none

/-- Reads a media type from a header's text. -/
def MediaType.parse? (text : String) : Option MediaType :=
  let cs := text.toList
  if !cs.all isHeaderChar then none
  else
    let ty := cs.takeWhile (· != '/')
    match cs.dropWhile (· != '/') with
    | [] => none
    | _ :: rest =>
      let sub := rest.takeWhile (· != ';')
      let params := rest.dropWhile (· != ';')
      let paramsOk := match params with
        | [] => true
        | _ :: ps => !sub.isEmpty && paramsValid .start ps
      if !ty.isEmpty && ty.all isToken && sub.all isToken && paramsOk then
        some ⟨(String.ofList ty).toLower, (String.ofList sub).toLower,
          (suffixOf sub).map String.toLower⟩
      else none

/-- Whether a media type is JSON: `application/json` or an application type with the `json`
suffix. -/
def MediaType.isJson (m : MediaType) : Bool :=
  m.type == "application" && (m.subtype == "json" || m.suffix == some "json")

end ChangeRelay.Http
