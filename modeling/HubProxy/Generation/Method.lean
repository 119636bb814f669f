import HubProxy.Generation.Resolve

/-!
# Proxy methods

Each operation of a contract becomes one method. A server-received operation becomes an
asynchronous method that invokes it by name; a client-invoked one becomes a method that subscribes a
handler and returns the subscription.
-/

namespace HubProxy

/-- The choices that the caller has about proxy methods and declared types. -/
structure MethodOptions where
  visibility : String := "protected"
  clientSuffix : String := "On"
  propertyVisibility : String := "public"
  deriving Inhabited

/-- The parameters that a caller has to give, the connection context apart. -/
def callerParameters (parameters : List (String × Descriptor)) : List (String × Descriptor) :=
  parameters.filter fun p => p.2 ≠ connectionContext

/-- The parameters of an operation with their types resolved, in order. -/
def resolveParameters (classes : ClassTable) (options : MethodOptions) (o : Operation) :
    RegistryM (List Parameter) :=
  (callerParameters o.parameters).mapM fun (name, d) => do
    return ⟨name, ← resolve classes options.propertyVisibility d⟩

/-- The method that calls a server-received operation. -/
def serverMethod (options : MethodOptions) (connection : String) (o : Operation)
    (parameters : List Parameter) : MethodDeclaration where
  name := o.name
  parameters
  returnType := .named "Task"
  visibility := options.visibility
  isAsync := true
  body := [{
    call := {
      target := connection
      method := "InvokeAsync"
      arguments := .literal o.name :: parameters.map fun p => .variable p.name
      typeArguments := [] }
    awaited := true
    returns := false }]

/-- The method that subscribes a handler to a client-invoked operation. -/
def clientMethod (options : MethodOptions) (connection : String) (o : Operation)
    (parameters : List Parameter) : MethodDeclaration :=
  let types := parameters.map (·.type)
  { name := Text.firstUpper o.name ++ options.clientSuffix
    parameters := [⟨"handler", ⟨"Action", types, none⟩⟩]
    returnType := .named "IDisposable"
    visibility := options.visibility
    isAsync := false
    body := [{
      call := {
        target := connection
        method := "On"
        arguments := [.literal o.name, .variable "handler"]
        typeArguments := types }
      awaited := false
      returns := true }] }

/-- The method of an operation. Its types are resolved and its imports are required on the way. -/
def buildMethod (classes : ClassTable) (options : MethodOptions) (connection : String)
    (o : Operation) : RegistryM MethodDeclaration :=
  match o.direction with
  | .serverReceived => do
    unless o.asyncVoid do throw (.notAsyncVoid o.name o.returns)
    let parameters ← resolveParameters classes options o
    requireImport (some "System.Threading.Tasks")
    return serverMethod options connection o parameters
  | .clientInvoked => do
    let parameters ← resolveParameters classes options o
    if maxHandlerArguments < parameters.length then
      throw (.tooManyParameters o.name parameters.length)
    requireImport (some "System")
    return clientMethod options connection o parameters

end HubProxy
