import SchemaEditor.Input.Number
import SchemaEditor.Http.Target

/-!
# Routes

The endpoints of the service, by path and method.  A path can belong to more than
one endpoint: the name of a document may be `open`.  Of the endpoints of a path
the first one that takes the method is meant; if none takes it, the method is not
allowed, and if there is none, the path is not found.  A path that is some
endpoint's path with slashes at its end leads to that path by a redirection.  The
last word of a path may have a line feed behind it.
-/

namespace SchemaEditor.Http
open Text

/-- The methods of requests. -/
inductive Method where
  | get
  | post
  | put
  | delete
  /-- A request for an answer without its body. -/
  | head
  /-- Any other method, which no endpoint takes. -/
  | other
  deriving DecidableEq, Repr

/-- The method with a name. -/
def Method.ofName (name : Text) : Method :=
  let name := upper name
  if name = ofString "GET" then .get
  else if name = ofString "POST" then .post
  else if name = ofString "PUT" then .put
  else if name = ofString "DELETE" then .delete
  else if name = ofString "HEAD" then .head
  else .other

/-- An endpoint with the variable parts of its path. -/
inductive Endpoint where
  | health
  | openDocument
  | listDocuments
  | updateDocument (id : Text)
  | closeDocument (id : Text)
  | formatDocument (id : Text)
  | formatText
  | validate (id : Text)
  | diagnostics (id : Text)
  | fixes (id index : Text)
  | applyFix (id index fixIndex : Text)
  | complete
  | settings
  /-- A page that describes the interface. -/
  | page
  deriving DecidableEq, Repr

namespace Endpoint

/-- The method an endpoint takes. -/
def method : Endpoint → Method
  | .health => .get
  | .openDocument => .post
  | .listDocuments => .get
  | .updateDocument _ => .put
  | .closeDocument _ => .delete
  | .formatDocument _ => .post
  | .formatText => .post
  | .validate _ => .post
  | .diagnostics _ => .get
  | .fixes _ _ => .get
  | .applyFix _ _ _ => .post
  | .complete => .post
  | .settings => .put
  | .page => .get

/-- The endpoint reads the body of a request. -/
def hasBody : Endpoint → Bool
  | .openDocument => true
  | .updateDocument _ => true
  | .formatDocument _ => true
  | .formatText => true
  | .validate _ => true
  | .complete => true
  | .settings => true
  | _ => false

/-- A segment is the last word of a path, maybe with a line feed behind it. -/
def isLast (word : String) (segment : Text) : Bool :=
  segment == ofString word || segment == ofString word ++ ofString "\n"

/-- The endpoints of a path below `/api/documents`, given by its segments. -/
def ofDocuments : List Text → List Endpoint
  | [id] =>
      if id = [] then []
      else
        (if isLast "open" id then [.openDocument] else []) ++
          [.updateDocument id, .closeDocument id]
  | [id, a] =>
      if id = [] then []
      else if isLast "format" a then [.formatDocument id]
      else if isLast "validate" a then [.validate id]
      else if isLast "diagnostics" a then [.diagnostics id]
      else []
  | [id, a, index, b] =>
      if id ≠ [] ∧ a = ofString "diagnostics" ∧ index ≠ [] ∧ isLast "fixes" b then
        [.fixes id index]
      else []
  | [id, a, index, b, fixIndex, c] =>
      if id ≠ [] ∧ a = ofString "diagnostics" ∧ index ≠ [] ∧ b = ofString "fixes" ∧
          fixIndex ≠ [] ∧ isLast "apply" c then
        [.applyFix id index fixIndex]
      else []
  | _ => []

/-- The endpoints of a path below `/api`, given by its segments. -/
def ofApi : List Text → List Endpoint
  | [a] =>
      if isLast "documents" a then [.listDocuments]
      else if isLast "format" a then [.formatText]
      else if isLast "complete" a then [.complete]
      else if isLast "settings" a then [.settings]
      else []
  | a :: rest => if a = ofString "documents" then ofDocuments rest else []
  | [] => []

/-- The endpoints of a path, given by its segments. -/
def ofSegments : List Text → List Endpoint
  | [a] =>
      if isLast "health" a then [.health]
      else if isLast "docs" a || isLast "redoc" a || isLast "openapi.json" a then [.page]
      else []
  | [a, b] =>
      if a = ofString "docs" ∧ isLast "oauth2-redirect" b then [.page]
      else if a = ofString "api" then ofApi [b]
      else []
  | a :: rest => if a = ofString "api" then ofApi rest else []
  | [] => []

/-- The endpoints of a decoded path. -/
def ofPath (path : Text) : List Endpoint := ((segmentsOf path).map ofSegments).getD []

end Endpoint

/-- Where a request leads. -/
inductive Route where
  | found (endpoint : Endpoint)
  | notFound
  | notAllowed
  /-- Some endpoint has the path without the slashes at its end. -/
  | redirected
  deriving DecidableEq, Repr

/-- A path without the slashes at its end. -/
def dropSlashes (path : Text) : Text := (path.reverse.dropWhile (· == .char '/')).reverse

/-- The route of a method and a decoded path. -/
def Route.of (method : Method) (path : Text) : Route :=
  match Endpoint.ofPath path with
  | [] => if Endpoint.ofPath (dropSlashes path) = [] then .notFound else .redirected
  | endpoints =>
      match endpoints.find? fun e => e.method == method with
      | some endpoint => .found endpoint
      | none => .notAllowed

end SchemaEditor.Http
