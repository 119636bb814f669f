import HubProxy.Generation.Method
import HubProxy.Log

/-!
# Building the code model

`build` turns contract metadata into the code model of a proxy. It takes the first hub and the only
client API, and makes the connection property and one method per operation. It keeps a log, and both
the log and the registry outlive a failure.
-/

namespace HubProxy

/-- The choices that the caller has about the proxy. -/
structure BuildOptions where
  connectionProperty : String := "HubConnection"
  visibility : String := "protected"
  clientSuffix : String := "On"
  deriving Inhabited

def BuildOptions.forMethods (o : BuildOptions) : MethodOptions :=
  { visibility := o.visibility, clientSuffix := o.clientSuffix }

structure BuildState where
  registry : Registry
  log : List LogRecord

abbrev BuildM := ExceptT BuildError (StateM BuildState)

def declaredRecord : TypeDeclaration → LogRecord
  | .cls c =>
    let kind := if c.isInterface then "interface" else "class"
    ⟨.debug, "resolver", "Declared " ++ kind ++ " " ++ c.name⟩
  | .enum e =>
    ⟨.debug, "resolver",
      "Declared enum " ++ e.name ++ " (" ++ toString e.members.length ++ " members)"⟩

def note (record : LogRecord) : BuildM Unit :=
  modify fun s => { s with log := s.log ++ [record] }

/-- Runs a step on the registry and records the types that it declares. -/
def onRegistry (step : RegistryM α) : BuildM α := fun s =>
  let (result, registry) := step s.registry
  let added := registry.declarations.drop s.registry.declarations.length
  (result, ⟨registry, s.log ++ added.map declaredRecord⟩)

def connectionType : Descriptor :=
  .primitive "HubConnection" (some "Microsoft.AspNetCore.SignalR.Client")

def chooseHub (m : Metadata) : BuildM ContractType :=
  match m.ofRole .hub with
  | [] => throw (.noHub m.source)
  | hub :: others => do
    unless others.isEmpty do
      note ⟨.warning, "builder", "Found " ++ toString (others.length + 1) ++ " hub contracts in "
        ++ m.source ++ "; using " ++ hub.name⟩
    return hub

/-- The only client API of a contract. -/
def chooseClientApi (m : Metadata) : BuildM ContractType :=
  match m.ofRole .clientApi with
  | [] => throw (.noClientApi m.source)
  | [api] => return api
  | apis => throw (.severalClientApis (apis.map (·.name)))

/-- The operations that are built, each with its method, in order. An operation of the hub that
clients do not call is passed over with a warning. -/
def buildMethods (classes : ClassTable) (options : MethodOptions) (connection : String)
    (hub api : ContractType) : BuildM (List (Operation × MethodDeclaration)) := do
  let ofHub ← hub.operations.filterMapM fun o => do
    if o.direction = .serverReceived then
      return some (o, ← onRegistry (buildMethod classes options connection o))
    else
      note ⟨.warning, "builder", "Skipping " ++ hub.name ++ "." ++ o.name
        ++ ": hub entries must be server-received operations"⟩
      return none
  let ofApi ← api.operations.mapM fun o => do
    return (o, ← onRegistry (buildMethod classes options connection o))
  return ofHub ++ ofApi

def buildConnection (classes : ClassTable) (options : BuildOptions) :
    RegistryM PropertyDeclaration := do
  let type ← resolve classes options.forMethods.propertyVisibility connectionType
  (buildProperty options.connectionProperty type options.visibility :
    Except BuildError PropertyDeclaration)

def buildModel (options : BuildOptions) (m : Metadata) (ns className : String) :
    BuildM ApiModel := do
  let hub ← chooseHub m
  let api ← chooseClientApi m
  let connection ← onRegistry (buildConnection m.classes options)
  let built ← buildMethods m.classes options.forMethods connection.name hub api
  note ⟨.debug, "builder", "Built " ++ toString built.length ++ " methods for " ++ className
    ++ " from " ++ hub.name ++ " and " ++ api.name⟩
  let registry := (← get).registry
  return {
    ns
    className
    connectionProperty := connection.name
    imports := registry.imports
    operations := built.map (·.1)
    proxy := ⟨className, [connection], built.map (·.2), true, false, "public"⟩
    declaredTypes := registry.declaredTypes
    declarations := registry.declarations }

/-- The code model of a contract, or why there is none, with the log of the build. -/
def build (options : BuildOptions) (m : Metadata) (ns className : String)
    (existing : List String) : Except BuildError ApiModel × List LogRecord :=
  let (result, s) := (buildModel options m ns className).run ⟨.ofExisting existing, []⟩
  (result, s.log)

end HubProxy
