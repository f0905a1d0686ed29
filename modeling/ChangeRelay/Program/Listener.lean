/-!
# Binding the control plane's address

The server listens at `host:port`. The address is read in three tries:

1. as a socket address: four decimal octets (no leading zeros, at most 255) and a port, or an
   IPv6 address in brackets (with an optional numeric scope) and a port;
2. otherwise it splits at its last `:` (none: an invalid socket address) into a host and a
   port, a decimal number up to 65535 with an optional `+` (else an invalid port value);
3. the host is then looked up: numeric hosts (IPv4 in any of the classic one-to-four part
   forms, in decimal, octal or hex; IPv6 without brackets) stand for themselves, `localhost`
   for the loopback address, an empty host is unknown, and any other name needs a name server,
   which the run does not have.

The address then binds if it is the wildcard or a loopback address (all of `127.0.0.0/8`, and
`::1`), unless another listener holds its port on an overlapping address: the wildcard
overlaps every address, `127.0.0.1` itself, and port 0 picks a free port. Any other address
is not the machine's.
-/

namespace ChangeRelay.Program

/-- An address the program may listen on. -/
inductive Host where
  | v4 (a b c d : Nat)
  /-- An IPv6 address by its eight groups. -/
  | v6 (groups : List Nat)
  deriving DecidableEq, Repr

/-- The value of a digit in a base, if it is one. -/
def digitIn (base : Nat) (c : Char) : Option Nat :=
  let v := if c.isDigit then some (c.toNat - 48)
    else if 'a' ≤ c && c ≤ 'f' then some (c.toNat - 87)
    else if 'A' ≤ c && c ≤ 'F' then some (c.toNat - 55)
    else none
  v.bind fun d => if d < base then some d else none

/-- The number the digits write in a base; none when one is not a digit or there are none. -/
def numberIn (base : Nat) (cs : List Char) : Option Nat :=
  if cs.isEmpty then none
  else cs.foldlM (fun n c => (digitIn base c).map (n * base + ·)) 0

/-- A strict decimal octet: one to three digits, no leading zero, at most 255. -/
def strictOctet (s : String) : Option Nat :=
  let cs := s.toList
  if cs.length > 3 || (cs.length > 1 && cs.head? == some '0') then none
  else (numberIn 10 cs).bind fun n => if n ≤ 255 then some n else none

/-- A strict dotted IPv4 address. -/
def strictV4 (s : String) : Option Host :=
  match (s.splitOn ".").mapM strictOctet with
  | some [a, b, c, d] => some (.v4 a b c d)
  | _ => none

/-- A strict port: decimal digits, at most 65535. -/
def strictPort (s : String) : Option Nat :=
  (numberIn 10 s.toList).bind fun n => if n ≤ 65535 then some n else none

/-- A port as a number's text reads: an optional `+`, decimal digits, at most 65535. -/
def lenientPort (s : String) : Option Nat :=
  strictPort (if s.startsWith "+" then String.ofList (s.toList.drop 1) else s)

/-- One part of a classic IPv4 address: hex after `0x`, octal after `0`, else decimal. -/
def classicPart (s : String) : Option Nat :=
  match s.toList with
  | '0' :: 'x' :: rest | '0' :: 'X' :: rest => numberIn 16 rest
  | '0' :: rest@(_ :: _) => numberIn 8 rest
  | cs => numberIn 10 cs

/-- An IPv4 address in the classic forms: the last part fills the bytes the others leave. -/
def classicV4 (s : String) : Option Host := do
  let parts ← (s.splitOn ".").mapM classicPart
  let bytes (n k : Nat) : Option (List Nat) :=
    if n < Nat.pow 256 k then some ((List.range k).reverse.map fun i => n / Nat.pow 256 i % 256)
    else none
  let all ← match parts with
    | [a] => bytes a 4
    | [a, b] => if a < 256 then (a :: ·) <$> bytes b 3 else none
    | [a, b, c] => if a < 256 && b < 256 then ([a, b] ++ ·) <$> bytes c 2 else none
    | [a, b, c, d] => if a < 256 && b < 256 && c < 256 then ([a, b, c] ++ ·) <$> bytes d 1 else none
    | _ => none
  match all with
  | [a, b, c, d] => some (.v4 a b c d)
  | _ => none

/-- The groups of one side of an IPv6 address; an IPv4 tail counts as two. -/
def v6Groups (s : String) : Option (List Nat) :=
  if s.isEmpty then some []
  else
    let parts := s.splitOn ":"
    let last := parts.getLast?.getD ""
    let lead := parts.dropLast
    let group (p : String) : Option Nat := if p.length ≤ 4 then numberIn 16 p.toList else none
    do
      let front ← lead.mapM group
      match strictV4 last with
      | some (.v4 a b c d) => pure (front ++ [a * 256 + b, c * 256 + d])
      | _ => pure (front ++ [← group last])

/-- An IPv6 address, with at most one `::`. -/
def parseV6 (s : String) : Option Host :=
  match s.splitOn "::" with
  | [whole] => (v6Groups whole).bind fun gs => if gs.length == 8 then some (.v6 gs) else none
  | [l, r] => do
    let a ← v6Groups l
    let b ← v6Groups r
    if a.length + b.length < 8 then some (.v6 (a ++ List.replicate (8 - a.length - b.length) 0 ++ b))
    else none
  | _ => none

/-- A bracketed IPv6 socket address `[addr%scope]:port`. -/
def bracketedV6 (s : String) : Option (Host × Nat) :=
  match s.toList with
  | '[' :: rest =>
    match (String.ofList rest).splitOn "]:" with
    | [inner, port] =>
      let (addr, scopeOk) := match inner.splitOn "%" with
        | [a] => (a, true)
        | [a, sc] => (a, (numberIn 10 sc.toList).isSome)
        | _ => ("", false)
      if scopeOk then (parseV6 addr).bind fun h => (strictPort port).map (h, ·) else none
    | _ => none
  | _ => none

/-- The socket address a text writes, strictly. -/
def socketAddress? (s : String) : Option (Host × Nat) :=
  match bracketedV6 s with
  | some a => some a
  | none =>
    match s.splitOn ":" with
    | [h, p] => (strictV4 h).bind fun host => (strictPort p).map (host, ·)
    | _ => none

/-- Why an address cannot be listened on, as the system words it. -/
inductive BindFault where
  | invalidAddress
  | invalidPort
  | unknownName
  | noNameServer
  | notLocal
  | inUse
  deriving DecidableEq, Repr

/-- The fault in words. -/
def BindFault.message : BindFault → String
  | .invalidAddress => "invalid socket address"
  | .invalidPort => "invalid port value"
  | .unknownName => "failed to lookup address information: Name or service not known"
  | .noNameServer => "failed to lookup address information: Temporary failure in name resolution"
  | .notLocal => "Cannot assign requested address (os error 99)"
  | .inUse => "Address already in use (os error 98)"

/-- The addresses a host name stands for. -/
def lookupHost (host : String) : Except BindFault (List Host) :=
  match classicV4 host with
  | some h => .ok [h]
  | none =>
    match parseV6 host with
    | some h => .ok [h]
    | none =>
      if host == "localhost" then .ok [.v4 127 0 0 1]
      else if host.isEmpty then .error .unknownName
      else .error .noNameServer

/-- The socket addresses an address text stands for. -/
def resolveAddress (s : String) : Except BindFault (List (Host × Nat)) :=
  match socketAddress? s with
  | some a => .ok [a]
  | none =>
    match s.toList.reverse.span (· != ':') with
    | (_, []) => .error .invalidAddress
    | (portRev, _ :: hostRev) =>
      let host := String.ofList hostRev.reverse
      match lenientPort (String.ofList portRev.reverse) with
      | none => .error .invalidPort
      | some p => (·.map (·, p)) <$> lookupHost host

/-- The IPv4 address an IPv6 address maps, if it is one. -/
def mappedV4 : List Nat → Option Host
  | [0, 0, 0, 0, 0, 0xffff, hi, lo] => some (.v4 (hi / 256) (hi % 256) (lo / 256) (lo % 256))
  | _ => none

/-- Binds one socket address, with the ports other listeners hold on `127.0.0.1`. -/
def bindOne (held : List Nat) : Host × Nat → Except BindFault Unit
  | (h, port) =>
    let host := match h with
      | .v6 gs => (mappedV4 gs).getD h
      | _ => h
    let taken := port != 0 && held.contains port
    match host with
    | .v4 0 0 0 0 | .v4 127 0 0 1 => if taken then .error .inUse else .ok ()
    | .v4 127 _ _ _ => .ok ()
    | .v6 gs =>
      if gs.all (· == 0) then (if taken then .error .inUse else .ok ())
      else if gs == [0, 0, 0, 0, 0, 0, 0, 1] then .ok ()
      else .error .notLocal
    | _ => .error .notLocal

/-- Binds an address: the first of its socket addresses that binds, else the last fault. -/
def bindAddress (held : List Nat) (s : String) : Except BindFault Unit := do
  let addrs ← resolveAddress s
  let rec first : List (Host × Nat) → Except BindFault Unit
    | [] => .error .invalidAddress
    | [a] => bindOne held a
    | a :: rest => match bindOne held a with
      | .ok () => .ok ()
      | .error _ => first rest
  first addrs

end ChangeRelay.Program
