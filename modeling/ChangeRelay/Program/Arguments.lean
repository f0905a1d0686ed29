import ChangeRelay.Text.Similarity

/-!
# The program's command line

The program takes one option, `--config <CONFIG>` (or `-c`), the configuration file, which
defaults to `config.yaml`; `--help` (`-h`) and `--version` (`-V`) print and stop.

The arguments are read left to right:

* after `--` every argument is a stray value;
* `--name=value` attaches a value to a long option; `-cvalue` and `-c=value` to the short one,
  whose letters otherwise are flags read one by one;
* an option without an attached value takes the next argument that is not an option (`-`
  counts as a value); the value is settled when the next option comes, or at the end;
* settling a value that is missing or empty fails, and so does a second `--config`;
* `--help` and `--version` act as soon as they are met, after the value before them is settled.

An unknown option or a stray value fails at once, and what was still unsettled before it is
settled quietly: its own fault gives way. An unknown long option is compared with the known ones
by Jaro similarity, and one above 0.7 (the best, the later of equals) is offered as a tip; the
usage line then names it with the options already given.
-/

namespace ChangeRelay.Program

/-- The program's name in messages. -/
def programName : String := "cdc-reactivator"

/-- The configuration file read when none is named. -/
def defaultConfigPath : String := "config.yaml"

/-- The options of the command line. -/
inductive Flag where
  | config
  | help
  | version
  deriving DecidableEq, Repr

/-- An option as messages show it. -/
def Flag.display : Flag → String
  | .config => "--config <CONFIG>"
  | .help => "--help"
  | .version => "--version"

/-- The long options with their names, in the order suggestions weigh them. -/
def longFlags : List (String × Flag) :=
  [("config", .config), ("help", .help), ("version", .version)]

/-- Why a command line is refused. -/
inductive UsageFault where
  /-- An argument no option takes, maybe with a similar option, and the options for the usage
  line (none: the generic one). -/
  | unexpected (arg : String) (similar : Option String) (usage : List Flag)
  /-- The configuration option without a value. -/
  | valueRequired
  /-- The configuration option given twice. -/
  | repeated
  /-- A value attached to an option that takes none. -/
  | extraValue (value : String) (flag : Flag) (usage : List Flag)
  deriving DecidableEq, Repr

/-- The usage line for the options given. -/
def usageLine (usage : List Flag) : String :=
  "Usage: " ++ programName ++
    (if usage.isEmpty then " [OPTIONS]" else String.join (usage.map (" " ++ ·.display)))

/-- The closing hint of every fault. -/
def helpHint : String := "\n\nFor more information, try '--help'.\n"

/-- The fault in words, as printed. -/
def UsageFault.message : UsageFault → String
  | .unexpected arg similar usage =>
    "error: unexpected argument '" ++ arg ++ "' found\n\n" ++
      (match similar with
       | some s => "  tip: a similar argument exists: '" ++ s ++ "'\n\n"
       | none => "") ++
      usageLine usage ++ helpHint
  | .valueRequired =>
    "error: a value is required for '" ++ Flag.config.display ++ "' but none was supplied" ++ helpHint
  | .repeated =>
    "error: the argument '" ++ Flag.config.display ++ "' cannot be used multiple times\n\n" ++
      usageLine [] ++ helpHint
  | .extraValue value flag usage =>
    "error: unexpected value '" ++ value ++ "' for '" ++ flag.display ++
      "' found; no more were expected\n\n" ++ usageLine usage ++ helpHint

/-- The program's version. -/
def programVersion : String := "0.1.0"

/-- What `--version` prints. -/
def versionText : String := programName ++ " " ++ programVersion ++ "\n"

/-- What `--help` prints. -/
def helpText : String :=
  "Change-data-capture reactivator\n\n" ++ usageLine [] ++ "\n\nOptions:\n" ++
    "  -c, --config <CONFIG>  YAML configuration file. SOURCE_ID, PUBSUB, DAPR_HOST and DAPR_PORT " ++
    "override the file [default: " ++ defaultConfigPath ++ "]\n" ++
    "  -h, --help             Print help\n" ++
    "  -V, --version          Print version\n"

/-- What the command line asks for. -/
inductive Invocation where
  | run (configPath : String)
  | help
  | version
  deriving DecidableEq, Repr

/-- The reading of a command line so far. -/
structure Reading where
  /-- The configuration file given, once settled; empty when an empty value was refused. -/
  config : Option String := none
  /-- The configuration option waiting to be settled, with its value once it came. -/
  pending : Option (Option String) := none
  /-- Whether `--` was met. -/
  trailing : Bool := false
  deriving DecidableEq, Repr

namespace Reading

/-- Settles the waiting value: the reading after, and the fault if it fails. A second value
drops the first. -/
def settle (r : Reading) : Reading × Option UsageFault :=
  let r' := { r with pending := none }
  match r.pending with
  | none => (r, none)
  | some none => (r', some .valueRequired)
  | some (some v) =>
    if r.config.isSome then ({ r' with config := none }, some .repeated)
    else if v.isEmpty then ({ r' with config := some "" }, some .valueRequired)
    else ({ r' with config := some v }, none)

/-- Settles the waiting value, failing on its fault. -/
def settled (r : Reading) : Except UsageFault Reading :=
  match r.settle with
  | (r, none) => .ok r
  | (_, some f) => .error f

/-- The options given, for a usage line. -/
def given (r : Reading) : List Flag := if r.config.isSome then [.config] else []

/-- Gives the configuration option a value at once. -/
def attach (r : Reading) (v : String) : Except UsageFault Reading :=
  (({ r with pending := some (some v) } : Reading)).settled

/-- Opens the configuration option for the next argument. -/
def open_ (r : Reading) : Except UsageFault Reading := do
  let r ← r.settled
  pure { r with pending := some none }

end Reading

/-- How reading one argument ends: the reading goes on, or the command line is decided. -/
abbrev Step := Except (Except UsageFault Invocation) Reading

/-- Fails the command line. -/
def refuse (f : UsageFault) : Step := .error (.error f)

/-- Decides the command line for a flag that acts at once, after settling. -/
def act (r : Reading) (i : Invocation) : Step :=
  match r.settled with
  | .ok _ => .error (.ok i)
  | .error f => refuse f

/-- Lifts a reading that may fail. -/
def lift : Except UsageFault Reading → Step
  | .ok r => .ok r
  | .error f => refuse f

/-- The stray value `arg`: fails, settling quietly first. -/
def stray (arg : String) : Step := refuse (.unexpected arg none [])

/-- The best similar long option to a name, the later of equals. -/
def similarFlag (name : String) : Option (String × Flag) :=
  longFlags.foldl (fun best (n, f) =>
    if !Text.similarAbove 7 10 name n then best
    else match best with
      | none => some (n, f)
      -- a later option wins unless the earlier is strictly closer
      | some (bn, _) => if closer name bn n then best else some (n, f)) none
where
  /-- Whether `a` is strictly more similar to `name` than `b`, compared exactly. -/
  closer (name a b : String) : Bool :=
    let (ma, ta) := Text.jaroCounts name.toList a.toList
    let (mb, tb) := Text.jaroCounts name.toList b.toList
    let l := name.length
    -- compare (m/l + m/|x| + (m - t)/m) for both, every denominator cleared
    let score (m t n : Nat) (d : Nat) : Nat :=
      (m * m * n + m * m * l + (m - t) * l * n) * d
    score ma ta a.length (mb * b.length) > score mb tb b.length (ma * a.length)

/-- Reads a long option `--name` with an attached value, if any. -/
def readLong (r : Reading) (name : String) (value : Option String) : Step :=
  match longFlags.lookup name, value with
  | some .config, some v => lift (r.attach v)
  | some .config, none => lift r.open_
  | some f, some v => refuse (.extraValue v f (r.given ++ [f]))
  | some .help, none => act r .help
  | some .version, none => act r .version
  | none, _ =>
    let (r, _) := r.settle
    match similarFlag name with
    | some (n, f) =>
      let usage := if f == .config then [Flag.config] else r.given ++ [f]
      refuse (.unexpected ("--" ++ name) (some ("--" ++ n)) usage)
    | none => refuse (.unexpected ("--" ++ name) none r.given)

/-- Reads the letters of a short option group, left to right. -/
def readShort (r : Reading) : List Char → Step
  | [] => .ok r
  | 'c' :: rest =>
    match rest with
    | [] => lift r.open_
    | '=' :: v => lift (r.attach (String.ofList v))
    | v => lift (r.attach (String.ofList v))
  | 'h' :: _ => act r .help
  | 'V' :: _ => act r .version
  | c :: _ => refuse (.unexpected ("-" ++ String.singleton c) none [])

/-- Reads one argument. -/
def readArgument (r : Reading) (arg : String) : Step :=
  let cs := arg.toList
  if r.trailing then stray arg
  else if arg == "--" then .ok { r with trailing := true }
  else match cs with
    | '-' :: '-' :: long =>
      match long.span (· != '=') with
      | (name, '=' :: v) => readLong r (String.ofList name) (some (String.ofList v))
      | (name, _) => readLong r (String.ofList name) none
    | '-' :: short@(_ :: _) => readShort r short
    | _ =>
      if r.pending == some none then .ok { r with pending := some (some arg) }
      else stray arg

/-- Reads a command line (without the program's name). -/
def Invocation.parse (args : List String) : Except UsageFault Invocation :=
  match args.foldlM readArgument ({} : Reading) with
  | .error decided => decided
  | .ok r =>
    match r.settled with
    | .error f => .error f
    | .ok r => .ok (.run (r.config.getD defaultConfigPath))

end ChangeRelay.Program
