import HubProxy.Contract.Descriptor

/-!
# Contract metadata

The structure that a contract source is reduced to before anything is generated: its hubs and client
APIs with their operations, and the classes that these mention.
-/

namespace HubProxy

/-- Which side calls an operation. -/
inductive Direction where
  | serverReceived
  | clientInvoked
  deriving DecidableEq, Repr, Inhabited

/-- What a contract type is to the proxy. -/
inductive Role where
  | hub
  | clientApi
  | other
  deriving DecidableEq, Repr, Inhabited

/-- One operation of a contract. It is `asyncVoid` when it is asynchronous and yields no value;
`returns` is the text of its result for messages. -/
structure Operation where
  name : String
  direction : Direction
  parameters : List (String × Descriptor)
  asyncVoid : Bool
  returns : Option String
  deriving Inhabited

/-- A hub or a client API. -/
structure ContractType where
  name : String
  role : Role
  operations : List Operation
  deriving Inhabited

structure Metadata where
  source : String
  types : List ContractType
  classes : ClassTable
  deriving Inhabited

/-- The contract types of a role, in order. -/
def Metadata.ofRole (m : Metadata) (role : Role) : List ContractType :=
  m.types.filter (·.role == role)

end HubProxy
