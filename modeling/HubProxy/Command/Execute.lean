import HubProxy.Command.Invocation
import HubProxy.Run.Generate
import HubProxy.Run.Settings

/-!
# Carrying out commands

`run` takes the arguments of the program to a report: the exit status, what goes to the output and
what goes to the error output. Failures that lie in the settings, in the contract or in the file
system are reported; any other one ends the program and is part of the report.
-/

namespace HubProxy.Command

variable {m : Type → Type} [Monad m] [FileSystem m]

structure Report where
  /-- The exit status, or the failure that ended the program. -/
  status : Except RunError Nat
  output : String
  errors : String

/-- What a request comes to: the exit status, the output and the error output. -/
structure Answer where
  status : Nat
  output : String
  errors : String

/-- The least level that is logged. -/
def Invocation.level (i : Invocation) : LogLevel :=
  if i.verbose then .debug else .info

/-- The least level that is shown on the console. Lists of names stay free of other lines. -/
def Invocation.consoleLevel (i : Invocation) : LogLevel :=
  match i.request with
  | .scan .. => if i.verbose then .debug else .warning
  | .generate .. => i.level

def Invocation.consoleText (i : Invocation) (log : List LogRecord) : String :=
  String.join ((log.filter (·.passes i.consoleLevel)).map fun r => r.consoleLine ++ "\n")

/-- Opens the log file, which is made together with its directories if it does not exist. -/
def openLog (path : Path) (threshold : LogLevel) : RunM m Unit := do
  Run.makeDirectories path.parent
  let opened ← liftM (FileSystem.openLog path threshold : m _)
  liftM (opened.mapError RunError.file)

/-- A path as a user in the current directory would write it. -/
def shownPath (path : Path) : RunM m String := do
  let here ← liftM (FileSystem.directory : m Path)
  return ((path.relativeTo? here).getD path).text

/-- The failure of a generation as it is reported, if it is. -/
def reported? : RunError → Option String
  | .settings e => if e.isReported then some (e.message ++ "\n") else none
  | .contract e => if e.isReported then some (failed e.message ++ "\n") else none
  | .build e => if e.isReported then some (failed e.message ++ "\n") else none
  | .file e =>
    if e.isReported then some (failed e.message ++ "\nRun with --verbose for more details.\n")
    else none
where
  failed (cause : String) : String := "hubgen generate failed: " ++ cause

def outcomeText (outcome : Run.Outcome) (dryRun : Bool) : RunM m String := do
  if outcome.diff = "" then return (← shownPath outcome.path) ++ " already up to date\n"
  if dryRun then return "Source changes (dry-run):\n" ++ outcome.diff ++ "\n"
  return "Client proxy written to " ++ (← shownPath outcome.path) ++ "\n"

def generate (settings : Path) (dryRun : Bool) : RunM m Answer := do
  try
    let outcome ← Run.generate (← Run.loadSettings settings) dryRun
    return ⟨0, ← outcomeText outcome dryRun, ""⟩
  catch failure =>
    match reported? failure with
    | some text => return ⟨1, "", text⟩
    | none => throw failure

def scan (path : Path) (ns : String) : RunM m Answer := do
  let names ← Run.scanFile path ns
  return ⟨0, String.join ((CSharp.sortNames names).map (· ++ "\n")), ""⟩

def Request.execute : Request → RunM m Answer
  | .generate settings dryRun => HubProxy.Command.generate (Path.ofText settings) dryRun
  | .scan path ns => HubProxy.Command.scan (Path.ofText path) ns

def outcomeOf (step : RunM m α) : m (Except RunError α × List LogRecord) :=
  step.run.run []

def Invocation.execute (i : Invocation) : m Report := do
  let logFile := i.logFile.map Path.ofText
  let (opened, _) ← outcomeOf (logFile.forM (openLog · i.level) : RunM m Unit)
  match opened with
  | .error e => return ⟨.error e, "", ""⟩
  | .ok () =>
    let (result, log) ← outcomeOf i.request.execute
    FileSystem.closeLog
    let shown := i.consoleText log
    match result with
    | .error e => return ⟨.error e, "", shown⟩
    | .ok answer => return ⟨.ok answer.status, answer.output, shown ++ answer.errors⟩

def Stop.report : Stop → Report
  | .help program => ⟨.ok 0, "usage: " ++ program ++ "\n", ""⟩
  | .misuse program message => ⟨.ok 2, "", program ++ ": error: " ++ message ++ "\n"⟩

def run (arguments : List String) : m Report :=
  match Invocation.ofArguments arguments with
  | .error stop => return stop.report
  | .ok invocation => invocation.execute

end HubProxy.Command
