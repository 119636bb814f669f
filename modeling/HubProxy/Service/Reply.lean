import HubProxy.Generation.Generate
import HubProxy.Service.Request

/-!
# Replies

The service has two routes: one tells that it is there and one generates. `reply` takes a request to
the reply of its route. Failures that lie in the contract are replies; any other one is a failure of
the service, and so is a reply that cannot be written.
-/

namespace HubProxy.Service

inductive Route where
  | health
  | generate
  deriving DecidableEq, Repr

def Route.path : Route → String
  | .health => "/health"
  | .generate => "/generate"

def Route.verb : Route → String
  | .health => "GET"
  | .generate => "POST"

inductive Reply where
  | healthy
  | generated (source : String) (declared methods : List String)
  | failed (message : String)
  | invalid (faults : List BodyFault)
  /-- The body cannot be read. -/
  | unreadable
  /-- The target is that of a route but for slashes at its end. -/
  | moved
  | unknownPath
  | unknownVerb

/-- A cause for which there is no reply. -/
inductive ServiceFailure where
  | generation (cause : GenerationError)
  | unwritable (cause : Unwritable)
  deriving DecidableEq, Repr

def Reply.status : Reply → Nat
  | .healthy | .generated .. => 200
  | .moved => 307
  | .failed _ | .unreadable => 400
  | .unknownPath => 404
  | .unknownVerb => 405
  | .invalid _ => 422

def BodyFault.json : BodyFault → Json.Value
  | .noBody => fault "missing" []
  | .notObject => fault "model_attributes_type" []
  | .notJson offset => fault "json_invalid" [.number (toString offset)]
  | .missing field => fault "missing" [.string field]
  | .notText field => fault "string_type" [.string field]
  | .unpaired field => fault "string_unicode" [.string field]
where
  /-- A kind of fault at a place in the body. -/
  fault (kind : String) (place : List Json.Value) : Json.Value :=
    .array [.string kind, .array (.string "body" :: place)]

def texts (items : List String) : Json.Value :=
  .array (items.map .string)

def detail (text : String) : Json.Value :=
  .object [("detail", .string text)]

def Reply.body : Reply → Json.Value
  | .healthy => .object [("status", .string "ok")]
  | .generated source declared methods =>
    .object [("source", .string source), ("declared_types", texts declared),
      ("methods", texts methods)]
  | .failed message => detail message
  | .invalid faults => .array (faults.map BodyFault.json)
  | .unreadable => detail "There was an error parsing the body"
  | .moved => .null
  | .unknownPath => detail "Not Found"
  | .unknownVerb => detail "Method Not Allowed"

/-- The characters without slashes at the end. -/
def withoutSlashes (cs : List Char) : List Char :=
  (cs.reverse.dropWhile (· == '/')).reverse

/-- The route that a target names, possibly with a line feed after it. -/
def routeOf? (target : List Char) : Option Route :=
  [Route.health, .generate].find? fun r =>
    target == r.path.toList || target == r.path.toList ++ ['\n']

def generatedReply (g : Generated) : Reply :=
  .generated g.text (g.model.declaredTypes.filterMap (·.name? g.classes))
    (g.model.methods.map (·.name))

/-- The reply to a request for generation, with the log of the generation. -/
def generateReply (r : GenerationRequest) : Except ServiceFailure Reply × List LogRecord :=
  let (result, log) := generateFromText r.contract r.ns r.className (r.prior.filter (· ≠ ""))
  let reply := match result with
    | .ok g => .ok (generatedReply g)
    | .error e => if e.isReported then .ok (.failed e.message) else .error (.generation e)
  (reply, log)

/-- The reply to a body that is not read. -/
def refusalReply : BodyRefusal → Except ServiceFailure Reply
  | .unreadable => .ok .unreadable
  | .faults reports =>
    match unwritableIn? reports with
    | some cause => .error (.unwritable cause)
    | none => .ok (.invalid (reports.map (·.fault)))

/-- The reply to a target that names no route. -/
def strayReply (target : List Char) : Reply :=
  if target.getLast? = some '/' ∧ (routeOf? (withoutSlashes target)).isSome then .moved
  else .unknownPath

def reply (r : Request) : Except ServiceFailure Reply × List LogRecord :=
  match routeOf? r.target.toList with
  | none => (.ok (strayReply r.target.toList), [])
  | some route =>
    if r.verb ≠ route.verb then (.ok .unknownVerb, [])
    else
      match route with
      | .health => (.ok .healthy, [])
      | .generate =>
        match readBody r with
        | .error refusal => (refusalReply refusal, [])
        | .ok request => generateReply request

end HubProxy.Service
