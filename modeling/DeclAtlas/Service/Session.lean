import DeclAtlas.Service.Call
import DeclAtlas.Service.ValueText

/-!
# Sessions

A caller and the service exchange messages, one on a line.  The caller greets first and is told what
the service is; when it has acknowledged that, it can list the offers and call them.  A request
carries an identity, which its answer repeats; a notice has none and gets no answer.  A session that
does not begin with the greeting breaks off.
-/

namespace DeclAtlas.Service

/-- How far a session has come. -/
inductive Stage where
  /-- The greeting is awaited. -/
  | opening
  /-- The acknowledgement is awaited. -/
  | greeted
  /-- Requests are answered. -/
  | serving
  /-- The session has broken off. -/
  | broken
  deriving Repr, DecidableEq

/-- The exit status when the messages end: only a session that was served ends well. -/
def Stage.status : Stage → Nat
  | .serving => 0
  | _ => 1

/-- A message of the caller. -/
inductive Message where
  | request (id : Value) (method : String) (params : Arguments)
  | notice (method : String)
  deriving Repr

/-- The members of a record; none for any other value. -/
def Value.members : Option Value → List (String × Value)
  | some (.record ms) => ms
  | _ => []

/-- The message that a line holds. -/
def Message.ofLine? (line : String) : Option Message := do
  let v ← Value.ofText? line
  let ms := Value.members v
  let method ← Arguments.text? ms "method"
  match ms.lookup "id" with
  | none => some (.notice method)
  | some (.natural n) => some (.request (.natural n) method (Value.members (ms.lookup "params")))
  | some (.text s) => some (.request (.text s) method (Value.members (ms.lookup "params")))
  | some _ => none

/-! ### Answers -/

/-- The answer to a request. -/
def answerLine (id result : Value) : String :=
  (Value.record [("jsonrpc", .text "2.0"), ("id", id), ("result", result)]).line

/-- The answer to a request that is refused. -/
def refusalLine (id : Value) (code : Int) (message : String) : String :=
  (Value.record [("jsonrpc", .text "2.0"), ("id", id),
    ("error", .record [("code", (Value.ofInt? code).getD .null), ("message", .text message)])]).line

/-- The newest version of the messages that the service knows. -/
def newestVersion : String := "2025-06-18"

/-- The version of the messages that is agreed on: the caller's, unless it is too new. -/
def agreedVersion (params : Arguments) : String :=
  match params.text? "protocolVersion" with
  | some v => if v ≤ newestVersion then v else newestVersion
  | none => newestVersion

/-- What the service tells in return for the greeting. -/
def welcome (params : Arguments) : Value :=
  .record [("protocolVersion", .text (agreedVersion params)),
    ("capabilities", .record [("tools", .record [])]),
    ("serverInfo", .record [("name", .text profile.name), ("title", .text profile.title),
      ("version", .text profile.version)]),
    ("instructions", .text profile.instructions)]

/-- The word for a kind of value in the description of a parameter. -/
def Kind.word : Kind → String
  | .text => "string"
  | .path => "string"
  | .count => "integer"

/-- How a parameter is described to callers. -/
def Parameter.shape (p : Parameter) : Value :=
  if p.isRequired then .record [("type", .text p.kind.word)]
  else .record [("type", .sequence [.text p.kind.word, .text "null"])]

/-- How an offer is described to callers. -/
def Offer.listing (o : Offer) : Value :=
  let required : List (String × Value) :=
    if o.required.isEmpty then [] else [("required", .sequence (o.required.map .text))]
  .record [("name", .text o.name), ("description", .text o.description),
    ("inputSchema", .record ([("type", .text "object"),
      ("properties", .record (o.parameters.map fun p => (p.name, p.shape)))] ++ required))]

/-- What a call gives back, as text with a mark of failure. -/
def content (isError : Bool) (text : String) : Value :=
  .record [("content", .sequence [.record [("type", .text "text"), ("text", .text text)]]),
    ("isError", .flag isError)]

/-- The number under which callers know that there is no such request. -/
def unknownMethodCode : Int := -32601

section Conversation

variable {m : Type → Type} [Monad m]

/-- Answers a request. -/
def respond (p : Project m) (id : Value) (method : String) (params : Arguments) : m String := do
  match method with
  | "initialize" => pure (answerLine id (welcome params))
  | "ping" => pure (answerLine id (.record []))
  | "tools/list" =>
    pure (answerLine id (.record [("tools", .sequence (Offer.all.map Offer.listing))]))
  | "tools/call" =>
    match ← call p (params.text "name") (Value.members (params.lookup "arguments")) with
    | .report text => pure (answerLine id (content false text))
    | .failed e => pure (answerLine id (content true e.message))
    | .refused e => pure (refusalLine id CallError.code e.message)
  | _ => pure (refusalLine id unknownMethodCode method)

/-- Takes one line of the caller; a line that holds no message is passed over. -/
def takeLine (p : Project m) (stage : Stage) (line : String) : m (Stage × Option String) := do
  match stage, Message.ofLine? line with
  | _, none => pure (stage, none)
  | .opening, some (.request id "initialize" params) =>
    pure (.greeted, some (← respond p id "initialize" params))
  | .greeted, some (.notice "notifications/initialized") => pure (.serving, none)
  | .serving, some (.request id method params) =>
    pure (.serving, some (← respond p id method params))
  | .serving, some (.notice _) => pure (.serving, none)
  | _, some _ => pure (.broken, none)

/-- Takes the lines of the caller in turn. -/
def converse (p : Project m) (stage : Stage) : List String → m (Stage × List String)
  | [] => pure (stage, [])
  | l :: ls => do
    let (next, reply) ← takeLine p stage l
    let (last, replies) ← converse p next ls
    pure (last, reply.toList ++ replies)

end Conversation

end DeclAtlas.Service
