import SchemaEditor.Http.Body
import SchemaEditor.Http.Route
import SchemaEditor.Json.Writer
import SchemaEditor.Service.Encode

/-!
# The HTTP interface

A request is routed to an endpoint, its variable parts and its body are read, and
only then the service is asked; so a request with a wrong body is refused before
any document is looked up.  A request that fails for want of a document, a
diagnostic or a fix is answered as not found.  An answer to a request with faults
repeats the values at fault, so it is not sent if one of them cannot be written.
-/

namespace SchemaEditor.Http

/-- An HTTP request. -/
structure HttpRequest where
  method : Text
  target : Text
  payload : Payload
  deriving Repr

/-- An answer: a status and a body. -/
structure Response where
  status : Nat
  body : Json
  deriving Repr

namespace Response

/-- A request that succeeded. -/
def ok (body : Json) : Response := ⟨200, body⟩

/-- A refusal with a reason. -/
def refused (status : Nat) (reason : Text) : Response :=
  ⟨status, Json.object [("detail", .str reason)]⟩

/-- A request with faults in its path or body. -/
def faulty (faults : List FieldFault) : Response :=
  ⟨422, Json.object [("errors", .arr (faults.map FieldFault.toJson))]⟩

/-- Settings with faults, of which only the number is told. -/
def badSettings (faults : List FieldFault) : Response :=
  refused 422
    (Text.ofNat faults.length ++
      Text.ofString (if faults.length = 1 then " validation error" else " validation errors") ++
      Text.ofString " for LumosSettings")

/-- A body that cannot be read. -/
def unreadable : Response := refused 400 (Text.ofString "There was an error parsing the body")

/-- A path that no endpoint has. -/
def notFound : Response := refused 404 (Text.ofString "Not Found")

/-- A method that no endpoint of the path takes. -/
def notAllowed : Response := refused 405 (Text.ofString "Method Not Allowed")

end Response

/-- Why a request has no answer in JSON. -/
inductive ApiError where
  /-- There is no service yet. -/
  | noService
  /-- The request is not even sent. -/
  | notSent (why : TargetError)
  /-- The request or its answer cannot be written. -/
  | notWritten (why : Json.WriteError)
  /-- The answer is a page, a redirection or nothing at all. -/
  | notJson
  deriving DecidableEq, Repr

/-- The wording of a missing answer. -/
def ApiError.message : ApiError → Text
  | .noService => Text.ofString "SchemaService not initialized"
  | .notSent why => why.message
  | .notWritten why => why.message
  | .notJson => []

/-- Lists and objects that are nested deeper in a value are not repeated. -/
def Response.maxDepth : Nat := 958

/-- An answer, if its body and the values that it repeats can be written. -/
def Response.written (repeated : List Json) (r : Response) : Except ApiError Response :=
  match Json.writeError? (maxDepth + 1) (.arr (r.body :: repeated)) with
  | some why => .error (.notWritten why)
  | none => .ok r

/-- What a request comes to once it is read: an answer or a failure right away, or a
request to the service, with the reason that is told if the service refuses it
and the answer to give if it does not. -/
inductive Plan where
  /-- The answer repeats the given values. -/
  | answer (r : Response) (repeated : List Json)
  | fail (e : ApiError)
  | ask (request : Request) (refusal : Text) (answer : Answer → Json)
  /-- Format a text by the options of the settings. -/
  | formatBySettings (text : Text)

namespace Plan

/-- The plan for a request that was read, or the answer to one with faults. -/
def orFaults {α : Type} (parsed : Parsed α) (plan : α → Plan) : Plan :=
  match parsed with
  | .ok a => plan a
  | .error faults => .answer (.faulty faults) (faults.map FieldFault.value)

/-- Asks the service about a document and answers with what it says. -/
def about (id : Text) (request : Request) : Plan :=
  .ask request (Text.ofString "Document not found: " ++ id) Answer.toJson

/-- A formatted text. -/
def formatted (o : FormatOptions) (t : Text) : Response :=
  .ok (Json.object [("text", .str (format o t))])

/-- The plan of an endpoint with a body that is read. -/
def ofEndpoint (endpoint : Endpoint) (body : Body) : Plan :=
  match endpoint with
  | .health => .answer (.ok (Json.object [("status", .ofString "ok")])) []
  | .openDocument =>
      orFaults body.toOpen fun (id, text, path) => about id (.openDocument id text path)
  | .listDocuments => .ask .list [] Answer.toJson
  | .updateDocument id => orFaults body.toUpdate fun text => about id (.update id text)
  | .closeDocument id =>
      .ask (.close id) [] fun _ => Json.object [("doc_id", .str id), ("closed", .bool true)]
  | .formatDocument id => orFaults body.toFormat fun options => about id (.format id options)
  | .formatText =>
      orFaults body.toFormatText fun
        | (text, some options) => .answer (formatted options text) []
        | (text, none) => .formatBySettings text
  | .validate id => orFaults body.toValidate fun output => about id (.validate id output)
  | .diagnostics id => about id (.diagnostics id)
  | .fixes id index =>
      orFaults (indexOf "index" index) fun index =>
        .ask (.fixes id index) (Text.ofString "Document or diagnostic not found") Answer.toJson
  | .applyFix id index fixIndex =>
      orFaults (both (indexOf "index" index) (indexOf "fix_index" fixIndex))
        fun (index, fixIndex) =>
          .ask (.applyFix id index fixIndex) (Text.ofString "Document, diagnostic or fix not found")
            Answer.toJson
  | .complete =>
      orFaults body.toComplete fun before => .ask (.complete before) [] Answer.toJson
  | .settings =>
      orFaults body.toConfig fun config =>
        match Settings.ofConfig config with
        | .ok settings => .ask (.configure settings) [] fun _ => settings.toJson
        | .error faults => .answer (.badSettings faults) []
  | .page => .fail .notJson

/-- The plan of an endpoint with a body. -/
def of (endpoint : Endpoint) (body : Body) : Plan :=
  match endpoint.hasBody, body with
  | true, .unreadable => .answer .unreadable []
  | _, body => ofEndpoint endpoint body

end Plan

/-- The plan for a request with a body that has arrived at a target. -/
def HttpRequest.planAt (r : HttpRequest) (target : Target) (body : Body) : Plan :=
  match target.error?, Method.ofName r.method with
  | some why, _ => .fail (.notSent why)
  | none, .head => .fail .notJson
  | none, method =>
      match Route.of method target.decodedPath with
      | .found endpoint => Plan.of endpoint body
      | .notFound => .answer .notFound []
      | .notAllowed => .answer .notAllowed []
      | .redirected => .fail .notJson

/-- The plan for a request. -/
def HttpRequest.plan (r : HttpRequest) : Plan :=
  match Target.parse? r.target, r.payload.send with
  | none, _ => .fail (.notSent .malformed)
  | some _, .error why => .fail (.notWritten why)
  | some target, .ok body => r.planAt target body

/-- Answers a request, given the world outside and the service, if there is one. -/
def respond {σ : Type} (host : Host σ) (env : σ) (service : Option Service) (r : HttpRequest) :
    (σ × Option Service) × Except ApiError Response :=
  match r.plan, service with
  | .answer response repeated, service => ((env, service), response.written repeated)
  | .fail e, service => ((env, service), .error e)
  | _, none => ((env, none), .error .noService)
  | .formatBySettings text, some s =>
      ((env, some s), (Plan.formatted s.settings.options text).written [])
  | .ask request refusal answer, some s =>
      let ((env, s), outcome) := s.handle host env request
      ((env, some s), Response.written [] (match outcome with
        | .ok a => .ok (answer a)
        | .error _ => .refused 404 refusal))

end SchemaEditor.Http
