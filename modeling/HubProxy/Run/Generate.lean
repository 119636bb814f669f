import HubProxy.Diff.Unified
import HubProxy.Generation.Generate
import HubProxy.Run.Contract
import HubProxy.Run.Write

/-!
# A generation run

`generate` takes settings to the source file that they ask for. It reads the contract, and the names
that are declared already if the settings say where. It compares the new text with the one that is
there and writes only if they differ. A dry run writes nothing and tells what would be written.
-/

namespace HubProxy.Run

variable {m : Type → Type} [Monad m] [FileSystem m]

structure Outcome where
  path : Path
  text : String
  /-- How the text differs from the one that was there. -/
  diff : String
  generated : Generated
  written : Bool

def runNote (level : LogLevel) (message : String) : RunM m Unit :=
  note ⟨level, "generator", message⟩

/-- The names that a source file declares in a namespace. What is no file declares nothing. -/
def scanFile (path : Path) (ns : String) : RunM m (List String) := do
  if ← isFile path then return CSharp.declaredTypes (← readText path) ns
  note ⟨.debug, "source_scanner", "No prior output at " ++ path.text⟩
  return []

/-- The names that the types of a run must not declare again. -/
def declaredBefore (s : Settings) : RunM m (List String) := do
  match s.typeSource with
  | none => return []
  | some source =>
    if (← resolve source) = (← resolve s.target) then
      runNote .warning
        "type_source_path is the output file; types found there will not be redeclared"
    let names ← scanFile source s.ns
    runNote .debug ("Found " ++ toString names.length ++ " prior declarations")
    return names

/-- The text in a file, if it is one. -/
def previousText (path : Path) : RunM m (Option String) := do
  if ← isFile path then return some (← readText path)
  return none

def buildSource (s : Settings) : RunM m Generated := do
  runNote .info ("Generating " ++ s.ns ++ "." ++ s.className ++ " from " ++ s.contractSource)
  let metadata ← loadContract s.contractSource
  runNote .debug ("Contract exposes " ++ toString metadata.types.length ++ " types")
  let existing ← declaredBefore s
  let (result, log) := HubProxy.generate s.options metadata s.ns s.className existing
  let generated ← logged (result.mapError RunError.build, log)
  runNote .info ("Model has " ++ toString generated.model.methods.length ++ " methods and "
    ++ toString generated.model.declarations.length ++ " new declarations")
  return generated

def generate (s : Settings) (dryRun : Bool) : RunM m Outcome := do
  let generated ← buildSource s
  let text := generated.text
  let previous ← previousText s.target
  if previous = some text then
    runNote .info (s.target.text ++ " already up to date")
    return ⟨s.target, text, "", generated, false⟩
  let diff := Diff.unified s.target.name (previous.getD "") text
  if dryRun then return ⟨s.target, text, diff, generated, false⟩
  write s.target text
  runNote .info ("Wrote " ++ s.target.text)
  return ⟨s.target, text, diff, generated, true⟩

end HubProxy.Run
