import ControlSurface.Service.Generation
import ControlSurface.Service.Host
import ControlSurface.Service.Url
import ControlSurface.Value.Finite

/-!
# Messages

Requests to the service and its responses, as far as the service looks at them.
-/

namespace ControlSurface.Service

/-- The body of a request: none, a JSON value, bytes that should be JSON text, or a form with one
file. -/
inductive Body where
  | absent
  | value (v : Value)
  | bytes (content : ByteArray)
  | form (field : String) (fileName : Option String) (content : ByteArray)

/-- A request. The path is decoded; the client is missing if it is not known. The server is named as
it names itself. -/
structure Request where
  method : String
  server : String
  path : String
  client? : Option String
  headers : List (String × String)
  body : Body

/-- The value of a header, the first one if it is repeated. Names differ in case at will. -/
def Request.header? (r : Request) (name : String) : Option String :=
  (r.headers.find? fun h => h.1.toLower = name.toLower).map Prod.snd

/-- The host that a request is meant for: the one it names, unless that is none. -/
def Request.host (r : Request) : String := ((r.header? "host").filter Host.isHost).getD r.server

/-- What a response carries. -/
inductive Content where
  | empty
  | health
  | detail (text : String)
  | issues (origin : Schema.Origin) (issues : List Schema.Issue)
  | listing (l : Listing)
  | catalogue (l : List Listing)
  | generated (g : Generated)
  | file (f : File)

/-- The type of a content, if it has one. -/
def Content.type? : Content → Option String
  | .empty => none
  | .file _ => some File.contentType
  | _ => some "application/json"

/-- A response. Headers that its content calls for are among its headers. -/
structure Response where
  status : Nat
  headers : List (String × String)
  content : Content

/-- A response with the headers that its content calls for and some more. -/
def Response.of (status : Nat) (content : Content) (more : List (String × String)) : Response where
  status
  headers := (content.type?.toList.map fun t => ("content-type", t)) ++ more
  content

/-- Whether a field is not told with an issue. The subject of an issue with the body of a request is
told without the fields whose names begin with a certain mark. -/
def isUntold (origin : Schema.Origin) (name : String) : Bool :=
  match origin with
  | .document => false
  | .body => "_sa".toList.isPrefixOf name.toList

/-- Whether a content can be written. Issues are told together with their subjects. -/
def Content.isWritable : Content → Bool
  | .issues origin found => found.all fun i => i.subject.isFinite (isUntold origin)
  | _ => true

/-- A response, if its content can be written. -/
def Response.written (r : Response) : Except Breakdown Response :=
  if r.content.isWritable then .ok r else .error .notFinite

/-- The response of a refusal. -/
def Refusal.response (r : Refusal) : Response :=
  Response.of r.status (match r.detail with
    | .inl text => .detail text
    | .inr issues => .issues .document issues) []

/-- The response of an answer or a refusal. -/
def respond {α : Type} (outcome : Except Failure α) (answer : α → Response) :
    Except Breakdown Response :=
  match outcome with
  | .ok a => .ok (answer a)
  | .error (.refused r) => .ok r.response
  | .error (.broken cause) => .error cause

end ControlSurface.Service
