/-!
# URLs

An `http` URL as a client sends it: the origin (host and port), the path as segments, the query
and the fragment, each in its percent-encoded form. `Url.parse?` reads URL text as the URL
Standard does for special schemes: tabs and newlines are dropped, blanks and control characters
at either end are trimmed, `\` separates segments like `/`, the segments `.` and `..` (also
written with `%2e`) are resolved, and each part encodes its own set of characters as
`%XX` of their UTF-8 bytes. A `%` is kept as written.

Query pairs are appended in the form encoding: letters, digits and `*-._` stay, a space becomes
`+`, every other byte is `%XX`.
-/

namespace ChangeRelay.Http

/-- The upper-case hex digit of `n < 16`. -/
def hexUpper (n : Nat) : Char :=
  if n < 10 then Char.ofNat (48 + n) else Char.ofNat (55 + n)

/-- A byte as `%XX`. -/
def percentByte (b : UInt8) : List Char := ['%', hexUpper (b.toNat / 16), hexUpper (b.toNat % 16)]

/-- A character written as itself, or as `%XX` of its UTF-8 bytes when `escaped` says so. -/
def encodeChar (escaped : Char → Bool) (c : Char) : List Char :=
  if escaped c then (String.singleton c).toUTF8.toList.flatMap percentByte else [c]

/-- Characters no part keeps as they are: controls, and all beyond ASCII. -/
def isControlOrWide (c : Char) : Bool := c.toNat < 32 || 126 < c.toNat

/-- Characters a path segment encodes. -/
def pathEscaped (c : Char) : Bool := isControlOrWide c || " \"#<>?`{}".toList.contains c

/-- Characters a query encodes. -/
def queryEscaped (c : Char) : Bool := isControlOrWide c || " \"#<>'".toList.contains c

/-- Characters a fragment encodes. -/
def fragmentEscaped (c : Char) : Bool := isControlOrWide c || " \"<>`".toList.contains c

/-- A URL of a special scheme, its parts encoded. -/
structure Url where
  scheme : String
  host : String
  port : Option Nat
  path : List String
  query : Option String := none
  fragment : Option String := none
  deriving DecidableEq, Repr, Inhabited

/-- The port a scheme uses when none is written. -/
def defaultPort : String → Option Nat
  | "http" => some 80
  | "https" => some 443
  | _ => none

namespace Url

/-- The URL as text. -/
def toText (u : Url) : String :=
  u.scheme ++ "://" ++ u.host ++ (u.port.map fun p => ":" ++ toString p).getD "" ++
    "/" ++ "/".intercalate u.path ++ (u.query.map ("?" ++ ·)).getD "" ++
    (u.fragment.map ("#" ++ ·)).getD ""

/-- Whether an encoded segment is `.`. -/
def isSingleDot (s : String) : Bool := s == "." || s.toLower == "%2e"

/-- Whether an encoded segment is `..`. -/
def isDoubleDot (s : String) : Bool :=
  let l := s.toLower
  l == ".." || l == ".%2e" || l == "%2e." || l == "%2e%2e"

/-- Ends a segment: `..` drops the last one, `.` is dropped, and either leaves an empty segment
when it ends the path. -/
def closeSegment (segs : List String) (buf : String) (last : Bool) : List String :=
  if isDoubleDot buf then segs.dropLast ++ (if last then [""] else [])
  else if isSingleDot buf then segs ++ (if last then [""] else [])
  else segs ++ [buf]

/-- Splits path text into encoded segments, the leading separator already taken. -/
def segmentsFrom (segs : List String) (buf : String) : List Char → List String
  | [] => closeSegment segs buf true
  | c :: cs =>
    if c == '/' || c == '\\' then segmentsFrom (closeSegment segs buf false) "" cs
    else segmentsFrom segs (buf ++ String.ofList (encodeChar pathEscaped c)) cs

/-- Reads a port: digits up to 65535; none is written for an empty port. -/
def portOf (ds : List Char) : Option (Option Nat) :=
  if ds.isEmpty then some none
  else if ds.all Char.isDigit then
    let n := ds.foldl (fun acc d => 10 * acc + (d.toNat - 48)) 0
    if n ≤ 65535 then some (some n) else none
  else none

/-- Characters a host may not hold. -/
def hostForbidden (c : Char) : Bool :=
  c.toNat ≤ 32 || "#%/:<>?@[\\]^|".toList.contains c || c.toNat == 127

/-- Reads URL text of a special scheme. -/
def parse? (text : String) : Option Url :=
  let cs := text.toList.filter fun c => c != '\t' && c != '\n' && c != '\r'
  let trim (xs : List Char) := xs.dropWhile (·.toNat ≤ 32)
  let cs := (trim (trim cs).reverse).reverse
  let scheme := String.ofList ((cs.takeWhile (· != ':')).map Char.toLower)
  match defaultPort scheme, cs.dropWhile (· != ':') with
  | some dflt, ':' :: rest =>
    let rest := rest.dropWhile fun c => c == '/' || c == '\\'
    let isEnd (c : Char) := c == '/' || c == '\\' || c == '?' || c == '#'
    let authority := rest.takeWhile (!isEnd ·)
    let after := rest.dropWhile (!isEnd ·)
    let hostChars := authority.takeWhile (· != ':')
    let portChars := (authority.dropWhile (· != ':')).drop 1
    if hostChars.isEmpty || hostChars.any hostForbidden then none
    else
      match portOf portChars with
      | none => none
      | some port =>
        let port := if port == some dflt then none else port
        let pathText := after.takeWhile fun c => c != '?' && c != '#'
        let afterPath := after.dropWhile fun c => c != '?' && c != '#'
        let pathText := match pathText with
          | c :: more => if c == '/' || c == '\\' then more else c :: more
          | [] => []
        let (query, fragText) := match afterPath with
          | '?' :: more =>
            (some (more.takeWhile (· != '#')), more.dropWhile (· != '#'))
          | other => (none, other)
        let fragment := match fragText with
          | '#' :: more => some (String.ofList (more.flatMap (encodeChar fragmentEscaped)))
          | _ => none
        some { scheme, host := String.ofList (hostChars.map Char.toLower), port
               path := segmentsFrom [] "" pathText
               query := query.map fun q => String.ofList (q.flatMap (encodeChar queryEscaped))
               fragment }
  | _, _ => none

end Url

/-- Whether a byte stays as it is in the form encoding. -/
def formKept (b : UInt8) : Bool :=
  (48 ≤ b && b ≤ 57) || (65 ≤ b && b ≤ 90) || (97 ≤ b && b ≤ 122) || b == 42 || b == 45 ||
    b == 46 || b == 95

/-- Text in the form encoding. -/
def formEncode (s : String) : String :=
  String.ofList (s.toUTF8.toList.flatMap fun b =>
    if formKept b then [Char.ofNat b.toNat] else if b == 32 then ['+'] else percentByte b)

/-- The URL with query pairs appended in the form encoding; an empty query is dropped. -/
def Url.withPairs (u : Url) (pairs : List (String × String)) : Url :=
  let added := "&".intercalate (pairs.map fun (k, v) => formEncode k ++ "=" ++ formEncode v)
  let query := match u.query, pairs with
    | q, [] => q
    | none, _ => some added
    | some "", _ => some added
    | some q, _ => some (q ++ "&" ++ added)
  { u with query := if query == some "" then none else query }

end ChangeRelay.Http
