import ChangeRelay.Program.Session

/-!
# The relay's command line

`cdc-reactivator [--config <CONFIG>]` starts the relay from a configuration file, which
`SOURCE_ID`, `PUBSUB`, `DAPR_HOST` and `DAPR_PORT` in the environment override. This layer
gathers what a start needs from the machine (the arguments, the environment, the configuration
file, the working directory and the clock), starts the program, and reports how the start ended:
a failure goes to the error stream with its exit code. A program that serves says that it
listens and runs until its input ends, which stands for the stopping signal; its cursor
database lasts for the run.
-/

section

open ChangeRelay ChangeRelay.Program

/-- The environment variables the configuration takes overrides from. -/
def overrideNames : List String := ["SOURCE_ID", "PUBSUB", "DAPR_HOST", "DAPR_PORT"]

/-- Reads lines until the input ends. -/
partial def awaitEnd (stdin : IO.FS.Stream) : IO Unit := do
  let line ← stdin.getLine
  if line.isEmpty then return
  awaitEnd stdin

/-- The file tree of the start: the working directory, and the configuration file when it can
be read. -/
def gatherFiles (cwd : String) (args : List String) : IO Files := do
  let files := ({ cwd } : Files).withDirectory cwd
  match Invocation.parse args with
  | .ok (.run path) =>
    try
      let text ← IO.FS.readFile path
      pure (files.plantText path text)
    catch _ => pure files
  | _ => pure files

def main (args : List String) : IO UInt32 := do
  match Invocation.parse args with
  | .ok .help => IO.print helpText; return 0
  | .ok .version => IO.print versionText; return 0
  | _ => pure ()
  let cwd := (← IO.currentDir).toString
  let vars ← overrideNames.filterMapM fun n => do return (← IO.getEnv n).map (n, ·)
  let files ← gatherFiles cwd args
  let launch : Launch := { args, vars, files, heldPorts := [], wallMs := ← IO.monoMsNow }
  match launch.start with
  | .exited code stderr _ =>
    IO.eprint stderr
    return code.toUInt32
  | .serving d _ _ =>
    IO.println ("HTTP server listening on " ++ d.config.settings.server.bindAddr)
    awaitEnd (← IO.getStdin)
    return 0

end
