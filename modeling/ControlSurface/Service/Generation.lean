import ControlSurface.Catalogue
import ControlSurface.Description.Reader
import ControlSurface.Notes
import ControlSurface.Schema.Request

/-!
# Answers of the service

A description is turned into its header, with the counts of its entries and the notes about it; it
comes in a request or in an uploaded file. The service also tells what it understands.
-/

namespace ControlSurface.Service

/-- The header of a description and what is told about it. -/
structure Generated where
  source : String
  counts : List (String × Nat)
  notes : List String
deriving DecidableEq, Repr

/-- A header as a file. -/
structure File where
  body : String
  name : String
deriving DecidableEq, Repr

/-- The type of a file. -/
def File.contentType : String := "text/x-c++hdr; charset=utf-8"

/-- How a file is to be saved. -/
def File.disposition (f : File) : String := s!"attachment; filename={f.name}"

/-- Why a request is refused. -/
inductive Refusal where
  | notJsonFile
  | fileTooLarge
  | unreadableFile
  | invalidFile (issues : List Schema.Issue)
  | unknownPeripheral
  | generationFailed

/-- The status code of a refusal. -/
def Refusal.status : Refusal → Nat
  | .notJsonFile | .unreadableFile => 400
  | .fileTooLarge => 413
  | .invalidFile _ => 422
  | .unknownPeripheral => 404
  | .generationFailed => 500

/-- What is told with a refusal: a sentence or a list of issues. -/
def Refusal.detail : Refusal → String ⊕ List Schema.Issue
  | .notJsonFile => .inl "Only JSON files are accepted."
  | .fileTooLarge => .inl "File too large. Maximum 1MB."
  | .unreadableFile => .inl "Invalid hardware description. Expected a JSON object."
  | .invalidFile issues => .inr issues
  | .unknownPeripheral => .inl "Peripheral kind not found"
  | .generationFailed => .inl "Hardware source generation failed"

/-- Why a request finds no answer at all, not even a refusal: counting or noting came to a fault, a
file was nested too deep, or the answer would have to show a number for which JSON has no word. -/
inductive Breakdown where
  | fault (cause : Fault)
  | tooNested (container : Json.Container)
  | notFinite
deriving DecidableEq, Repr

/-- The wording of a breakdown. -/
def Breakdown.message : Breakdown → String
  | .fault cause => cause.message
  | .tooNested container => Json.tooNestedMessage container
  | .notFinite => "Out of range float values are not JSON compliant"

/-- Why a request is not answered as it was meant to be. -/
inductive Failure where
  | refused (refusal : Refusal)
  | broken (cause : Breakdown)

/-! ### Requests -/

/-- The header that a request asks for. -/
def sourceOf (r : Schema.HeaderRequest) : Except Failure String :=
  (Header.source r.hardware r.structName).mapError fun _ => .refused .generationFailed

/-- Answers a request for a header. -/
def generate (r : Schema.HeaderRequest) : Except Failure Generated := do
  let source ← sourceOf r
  let counts ← (Description.counts r.hardware).mapError fun cause => .broken (.fault cause)
  let notes ← (Notes.ofDescription r.hardware).mapError fun cause => .broken (.fault cause)
  return { source, counts, notes }

/-- Answers a request for a file. -/
def generateFile (r : Schema.FileRequest) : Except Failure File := do
  return { body := ← sourceOf r.toHeaderRequest, name := r.fileName }

/-! ### Uploads -/

/-- The most bytes that an uploaded file may have. -/
def uploadLimit : Nat := 1024 * 1024

/-- The number of bytes that are taken from an upload at a time. -/
def pieceSize : Nat := 8192

/-- A file in pieces, all but the last of full size. -/
def pieces (content : ByteArray) : List ByteArray :=
  (List.range ((content.size + pieceSize - 1) / pieceSize)).map fun i =>
    content.extract (i * pieceSize) ((i + 1) * pieceSize)

/-- Receives pieces behind what has been received, until one is empty or there are more bytes than
allowed. -/
def receive (received : ByteArray) : List ByteArray → Except Failure ByteArray
  | [] => .ok received
  | piece :: rest =>
    if piece.isEmpty then .ok received
    else if uploadLimit < received.size + piece.size then .error (.refused .fileTooLarge)
    else receive (received ++ piece) rest

/-- Whether a file is named as JSON. Only ASCII letters can differ in case from that ending. -/
def isJsonName (name : String) : Bool :=
  ".json".toList.reverse.isPrefixOf name.toLower.toList.reverse

/-- The description in a file, normalized. -/
def readUpload (content : ByteArray) : Except Failure Value :=
  match String.fromUTF8? content with
  | none => .error (.refused .unreadableFile)
  | some text =>
    match Description.read text with
    | .error (.notJson (.tooNested container)) => .error (.broken (.tooNested container))
    | .error _ => .error (.refused .unreadableFile)
    | .ok description =>
      (Schema.normalizeHardware description).mapError fun issues => .refused (.invalidFile issues)

/-- Answers an upload: the name of the file is judged first, then its size, then its content. -/
def upload (name : Option String) (content : List ByteArray) : Except Failure Generated := do
  match name with
  | none => throw (.refused .notJsonFile)
  | some name =>
    if isJsonName name then
      let received ← receive ByteArray.empty content
      let hardware ← readUpload received
      generate { hardware, structName := Header.defaultName }
    else throw (.refused .notJsonFile)

/-! ### The catalogue -/

/-- The listing of the kind of a name. -/
def listing (name : String) : Except Failure Listing :=
  match Kind.ofName? name with
  | some k => .ok k.listing
  | none => .error (.refused .unknownPeripheral)

end ControlSurface.Service
