import HubProxy.Contract.FromDocument
import HubProxy.CSharp.Emit
import HubProxy.Generation.Build

/-!
# Generating source from a contract

`generate` takes metadata to a code model and its text. `generateFromText` starts from the text of a
contract document and may be given source from before, whose declarations are not repeated.
-/

namespace HubProxy

/-- A cause for which a contract yields no source. -/
inductive GenerationError where
  | contract (cause : ContractError)
  | build (cause : BuildError)
  deriving DecidableEq, Repr

def GenerationError.message : GenerationError → String
  | .contract cause => cause.message
  | .build cause => cause.message

/-- Whether the cause lies in the contract, so that it is reported as such. -/
def GenerationError.isReported : GenerationError → Bool
  | .contract cause => cause.isReported
  | .build cause => cause.isReported

/-- What a generation yields: the model with the classes that its types refer to, and the text. -/
structure Generated where
  classes : ClassTable
  model : ApiModel
  text : String

def generate (options : BuildOptions) (m : Metadata) (ns className : String)
    (existing : List String) : Except BuildError Generated × List LogRecord :=
  let (result, log) := build options m ns className existing
  (result.map fun model => ⟨m.classes, model, CSharp.emit model⟩, log)

/-- What a contract without a place of its own is called in messages. -/
def unnamedSource : String := "<contract>"

/-- The names that source from before declares in a namespace. -/
def existingIn (prior : Option String) (ns : String) : List String :=
  prior.elim [] fun source => CSharp.declaredTypes source ns

def generateFromText (contract ns className : String) (prior : Option String) :
    Except GenerationError Generated × List LogRecord :=
  match Contract.ofText contract unnamedSource with
  | .error cause => (.error (.contract cause), [])
  | .ok m =>
    let (result, log) := generate {} m ns className (existingIn prior ns)
    (result.mapError .build, log)

end HubProxy
