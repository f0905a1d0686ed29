import ChangeRelay.Http.Message
import ChangeRelay.Text.Quoted

/-!
# Where a SQLite cursor store lives

The store's path names a database file, or `:memory:` for a private database in memory. A file
path is read as a connection address: `sqlite://<path>?mode=rwc`. So the address's reading
applies to the path too:

* leading `sqlite://` and then `sqlite:` are dropped, as often as they repeat;
* the address splits at its first `?` into a file name and parameters;
* a file name of `:memory:` is a database in memory, and so is an empty one (a private
  database that no other connection sees); any other is percent-decoded;
* the parameters are `&`-separated pairs in the form encoding, each of `mode` (`ro`, `rw`,
  `rwc`, `memory`), `cache` (`private`, `shared`), `immutable` (`true`, `false`) or `vfs`
  (any). Another key, or a value outside its list, makes the address invalid.

A path holding a `?` thus brings its rest into the parameters.
-/

namespace ChangeRelay.Store

/-- Where a store's database is. -/
inductive Location where
  | memory
  | file (path : String)
  deriving DecidableEq, Repr

/-- Drops every leading copy of a mark. -/
def dropLeading (mark : String) (s : String) : String :=
  let rec go : Nat → List Char → List Char
    | 0, cs => cs
    | fuel + 1, cs => if mark.toList.isPrefixOf cs && !mark.isEmpty then go fuel (cs.drop mark.length) else cs
  String.ofList (go s.length s.toList)

/-- Decodes a part of the form encoding: `+` is a space, then percent escapes. -/
def formDecode (s : String) : String :=
  let spaced := s.map fun c => if c == '+' then ' ' else c
  (Http.decodeSegment spaced).getD spaced

/-- The fault of a parameter, if its key or value is not known. -/
def parameterFault (key value : String) : Option String :=
  let allowed (name : String) (values : List String) : Option String :=
    if values.contains value then none
    else some ("unknown value " ++ Text.quoted value ++ " for `" ++ name ++ "`")
  match key with
  | "mode" => allowed "mode" ["ro", "rw", "rwc", "memory"]
  | "cache" => allowed "cache" ["private", "shared"]
  | "immutable" => allowed "immutable" ["true", "false"]
  | "vfs" => none
  | _ => some ("unknown query parameter `" ++ key ++ "` while parsing connection URL")

/-- Reads the parameters of an address: the first fault, or whether one asks for memory. -/
def readParameters (params : String) : Except String Bool :=
  ((params.splitOn "&").filter (· != "")).foldlM (fun inMemory pair =>
    let (k, v) := match pair.splitOn "=" with
      | [k] => (k, "")
      | k :: rest => (k, "=".intercalate rest)
      | [] => ("", "")
    let k := formDecode k
    let v := formDecode v
    match parameterFault k v with
    | some f => .error f
    | none => .ok (inMemory || (k == "mode" && v == "memory"))) false

/-- Where the store of a configured path lives, or why its address is invalid. -/
def Location.ofPath (path : String) : Except String Location :=
  if path == ":memory:" then .ok .memory
  else
    let address := dropLeading "sqlite:" (dropLeading "sqlite://" ("sqlite://" ++ path ++ "?mode=rwc"))
    let (name, params) := match address.splitOn "?" with
      | name :: rest => (name, "?".intercalate rest)
      | [] => ("", "")
    match readParameters params with
    | .error f => .error ("error with configuration: " ++ f)
    | .ok inMemory =>
      if name.isEmpty || name == ":memory:" || inMemory then .ok .memory
      else .ok (.file ((Http.decodeSegment name).getD name))

end ChangeRelay.Store
