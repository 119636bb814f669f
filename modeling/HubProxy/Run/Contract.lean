import HubProxy.Contract.FromDocument
import HubProxy.Contract.Module.Introspect
import HubProxy.Contract.Module.Notation
import HubProxy.Contract.Source
import HubProxy.Run.Step

/-!
# Contracts from files

`loadContract` reads the contract that a source names. Modules are noted in the log.
-/

namespace HubProxy.Run

variable {m : Type → Type} [Monad m] [FileSystem m]

def contractResult (x : Except ContractError α) : RunM m α :=
  liftM (x.mapError RunError.contract)

def loadDocument (path : Path) : RunM m Metadata := do
  unless ← isFile path do throw (.contract (.documentNotFound path.text))
  contractResult (Contract.ofText (← readText path) path.text)

def loadModuleFile (path : Path) : RunM m Metadata := do
  unless ← isFile path do throw (.contract (.moduleNotFound path.text))
  match ContractModule.definitionsOf (← readText path) with
  | .error reason => throw (.contract (.moduleFailed path.text reason))
  | .ok definitions => contractResult (ContractModule.ofDefinitions path.stem path.text definitions)

/-- The contract in a module, which is noted. -/
def noteModule (metadata : Metadata) : RunM m Metadata := do
  note (ContractModule.introspectedRecord metadata)
  return metadata

def loadContract (source : String) : RunM m Metadata := do
  let homes ← homes
  match ← contractResult (ContractSource.ofText homes source) with
  | .document path => loadDocument path
  | .moduleFile path => noteModule (← loadModuleFile path)
  | .namedModule name => noteModule (← contractResult (namedModule name))

end HubProxy.Run
