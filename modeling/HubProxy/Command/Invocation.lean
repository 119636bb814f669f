import HubProxy.Command.Grammar

/-!
# Invocations

The commands of the program with what their arguments say. `Invocation.ofArguments` reads the
arguments of the whole program: its own options, the command and what belongs to the command.
-/

namespace HubProxy.Command

inductive Request where
  /-- Generates the proxy that a settings file or a directory asks for. -/
  | generate (settings : String) (dryRun : Bool)
  /-- Lists the names that a source file declares in a namespace. -/
  | scan (path ns : String)
  deriving DecidableEq, Repr

/-- A request with the choices that concern the log. -/
structure Invocation where
  verbose : Bool
  logFile : Option String
  request : Request
  deriving DecidableEq, Repr

def verboseOption : OptionSpec := ⟨["-v", "--verbose"], false, false⟩

def logFileOption : OptionSpec := ⟨["--log-file"], true, false⟩

def dryRunOption : OptionSpec := ⟨["--dry-run"], false, false⟩

def namespaceOption : OptionSpec := ⟨["--namespace"], true, true⟩

/-- The grammar of the program, whose operand is a command with its arguments. -/
def programGrammar : Grammar :=
  ⟨"hubgen", [helpOption, verboseOption, logFileOption], "command", .rest⟩

def generateGrammar : Grammar :=
  ⟨"hubgen generate", [helpOption, verboseOption, dryRunOption], "config", .optional⟩

def scanGrammar : Grammar :=
  ⟨"hubgen scan", [helpOption, verboseOption, namespaceOption], "path", .one⟩

def commands : List (String × Grammar) :=
  [("generate", generateGrammar), ("scan", scanGrammar)]

def requestOf (command : String) (r : Reading) : Request :=
  let operand := (r.operand.bind List.head?)
  if command = "scan" then .scan (operand.getD "") ((r.value? namespaceOption).getD "")
  else .generate (operand.getD ".") (r.has dryRunOption)

/-- The failure of a command that there is not. -/
def unknownCommand (command : String) : Stop :=
  let choices := ", ".intercalate (commands.map fun (name, _) => Text.quoted name)
  .misuse programGrammar.program
    ("argument command: invalid choice: " ++ Text.quoted command ++ " (choose from " ++ choices
      ++ ")")

def Invocation.ofArguments (arguments : List String) : Except Stop Invocation := do
  let top ← programGrammar.read arguments
  let (command, arguments) := match top.operand with
    | some (command :: arguments) => (command, arguments)
    | _ => ("", [])
  match commands.lookup command with
  | none => throw (unknownCommand command)
  | some grammar =>
    let r ← grammar.read arguments
    match top.extras ++ r.extras with
    | [] =>
      return ⟨top.has verboseOption || r.has verboseOption, top.value? logFileOption,
        requestOf command r⟩
    | extras => programGrammar.misuse ("unrecognized arguments: " ++ " ".intercalate extras)

end HubProxy.Command
