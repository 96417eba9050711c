import ControlSurface.Service.Limiter
import ControlSurface.Service.Message
import ControlSurface.Text.Encoding

/-!
# Routes

Which path leads where, and how each route answers.
-/

namespace ControlSurface.Service

/-- A place that requests can be sent to. -/
inductive Route where
  | generate
  | file
  | upload
  | peripherals
  | peripheral (name : String)
  | health
deriving DecidableEq, Repr

namespace Route

/-- The path of the list of peripherals. -/
def peripheralsPath : String := "/api/peripherals"

/-- The routes with a path of their own. -/
def fixed : List (String × Route) :=
  [(Limiter.generationPath, .generate), (Limiter.generationPath ++ "/file", .file),
    (Limiter.generationPath ++ "/upload", .upload), (peripheralsPath, .peripherals),
    (Limiter.healthPath, .health)]

/-- The name that follows a path and one slash: not empty and without a further slash. -/
def nameBelow? (path s : List Char) : Option String :=
  if (path ++ ['/']).isPrefixOf s then
    let name := s.drop (path.length + 1)
    if name.isEmpty || name.contains '/' then none else some (String.ofList name)
  else none

/-- A path without the line feed that may end it. -/
def withoutLineFeed (path : String) : String :=
  if path.toList.getLast? = some '\n' then String.ofList path.toList.dropLast else path

/-- The route of a path. A fixed path may be followed by a line feed. -/
def ofPath? (path : String) : Option Route :=
  match fixed.lookup (withoutLineFeed path) with
  | some route => some route
  | none => (nameBelow? peripheralsPath.toList path.toList).map .peripheral

/-- The one method that a route allows. -/
def method : Route → String
  | .generate | .file | .upload => "POST"
  | .peripherals | .peripheral _ | .health => "GET"

end Route

/-! ### Bodies -/

/-- A response to a body that does not fit the schema. -/
def invalidBody (issues : List Schema.Issue) : Response :=
  Response.of 422 (.issues .body (issues.map (Schema.Issue.under (.key "body")))) []

/-- The response to a body that cannot be read. -/
def unreadableBody : Response :=
  Response.of 400 (.detail "There was an error parsing the body") []

/-- The most containers that may lie in one another in a body: fewer than in a text on its own,
because answering the request takes a part of the room. -/
def bodyNesting : Nat := 968

/-- The value in JSON text, or the response to a text without one. -/
def textValue (text : String) : Except Response Value :=
  match Json.readUnmarked bodyNesting text with
  | .ok v => .ok v
  | .error (.malformed _ place) =>
    .error (invalidBody [⟨[.index place.offset], .unreadable, .obj []⟩])
  | .error (.integerTooLong _) | .error (.tooNested _) => .error unreadableBody

/-- The value in a body, or the response to a body without one. -/
def bodyValue (body : Body) : Except Response Value :=
  match body with
  | .absent => .error (invalidBody [⟨[], .missing, .null⟩])
  | .value v => .ok v
  | .form .. => .error (invalidBody [⟨[], .notRecord "", .null⟩])
  | .bytes content =>
    if content.isEmpty then .error (invalidBody [⟨[], .missing, .null⟩])
    else match Text.decode? content with
      | none => .error unreadableBody
      | some text => textValue text

/-- Answers a request whose body holds what a route reads from it. -/
def answerBody {α : Type} (body : Body) (read : Value → Schema.Checked α)
    (answer : α → Except Breakdown Response) : Except Breakdown Response :=
  match bodyValue body with
  | .error response => .ok response
  | .ok v =>
    match read v with
    | .error issues => .ok (invalidBody issues)
    | .ok request => answer request

/-- The response that carries a header. -/
def headerResponse (g : Generated) : Response := Response.of 200 (.generated g) []

/-- Answers a request for a header. -/
def answerHeader (r : Schema.HeaderRequest) : Except Breakdown Response :=
  respond (generate r) headerResponse

/-- Answers a request for a file. -/
def answerFile (r : Schema.FileRequest) : Except Breakdown Response :=
  respond (generateFile r) fun f =>
    Response.of 200 (.file f) [("content-disposition", f.disposition)]

/-- Answers an upload. A file without a name and without content counts as none. -/
def answerUpload (body : Body) : Except Breakdown Response :=
  let missing := invalidBody [⟨[.key "file"], .missing, .null⟩]
  match body with
  | .form "file" name content =>
    if name.getD "" = "" ∧ content.isEmpty then .ok missing
    else respond (upload name (pieces content)) headerResponse
  | _ => .ok missing

/-- Answers a request that has been routed. -/
def Route.answer (body : Body) : Route → Except Breakdown Response
  | .generate => answerBody body Schema.HeaderRequest.read answerHeader
  | .file => answerBody body Schema.FileRequest.read answerFile
  | .upload => answerUpload body
  | .peripherals => .ok (Response.of 200 (.catalogue ControlSurface.catalogue) [])
  | .peripheral name => respond (Service.listing name) fun l => Response.of 200 (.listing l) []
  | .health => .ok (Response.of 200 .health [])

/-! ### Requests -/

/-- A path without the slashes that end it. -/
def withoutSlashes (path : String) : String :=
  String.ofList (path.toList.reverse.dropWhile (· = '/')).reverse

/-- Where a request is sent on to if its path has only slashes too many. -/
def redirection? (r : Request) : Option String :=
  if r.path ≠ "/" && r.path.toList.getLast? = some '/' &&
      (Route.ofPath? (withoutSlashes r.path)).isSome then
    some (Url.write (Url.address r.host (withoutSlashes r.path)))
  else none

/-- Answers a request by its route. -/
def answer (r : Request) : Except Breakdown Response :=
  match Route.ofPath? r.path with
  | some route =>
    if r.method = route.method then do (← route.answer r.body).written
    else .ok (Response.of 405 (.detail "Method Not Allowed") [("allow", route.method)])
  | none =>
    match redirection? r with
    | some location => .ok (Response.of 307 .empty [("location", location)])
    | none => .ok (Response.of 404 (.detail "Not Found") [])

end ControlSurface.Service
