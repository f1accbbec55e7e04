import DeclAtlas.Query
import DeclAtlas.Service.Offer

/-!
# Calls

A call names an offer and gives it arguments.  A call that cannot be understood is refused and asks
the project nothing.  Otherwise the project answers the query, and the answer is written in the
format the call asks for; the word for the format is looked at last, when there is a report to
write.
-/

namespace DeclAtlas.Service

/-- Why a call is refused. -/
inductive CallError where
  | unknownOffer (name : String)
  | arguments (e : ArgumentError)
  | unknownDirection (word : String)
  | unknownFormat (word : String)
  deriving Repr

namespace CallError

/-- The message for a call that is refused. -/
def message : CallError → String
  | .unknownOffer name => "Unknown tool: " ++ name
  | .arguments e => "Invalid parameters: " ++ e.message
  | .unknownDirection word =>
    "Unknown direction '" ++ word ++ "'; use \"rdeps\" or \"deps\""
  | .unknownFormat word => "Unknown format: " ++ word

/-- The number under which callers know this kind of refusal: the parameters are invalid. -/
def code : Int := -32602

end CallError

/-- What a call gives back. -/
inductive Reply where
  | report (text : String)
  | failed (e : QueryError)
  | refused (e : CallError)
  deriving Repr

/-- The direction of a word; dependents if there is none. -/
def directionOf : Option String → Except CallError Direction
  | none => .ok .reverse
  | some "rdeps" => .ok .reverse
  | some "deps" => .ok .forward
  | some word => .error (.unknownDirection word)

/-- The format of a word; Markdown if there is none. -/
def formatOf : Option String → Except CallError Format
  | none => .ok .markdown
  | some "markdown" => .ok .markdown
  | some "json" => .ok .json
  | some word => .error (.unknownFormat word)

/-- The query that an offer makes of arguments that suit it; schema files are below `root`. -/
def Offer.query (o : Offer) (root : String) (args : Arguments) : Except CallError Query :=
  match o with
  | .interface => .ok (.interface (args.text "type_name"))
  | .ordinal => .ok (.ordinal (Path.join root (args.text "file")) (args.text? "struct_name"))
  | .dependencies => do
    let direction ← directionOf (args.text? "direction")
    .ok (.dependencies (args.text "target") direction ((args.count? "depth").getD 1))
  | .compat => .ok (.compat (args.text? "date") (args.text? "flag"))
  | .crossReference => .ok (.crossReference (args.text "symbol"))

/-- The query of a call. -/
def queryOf (root name : String) (args : Arguments) : Except CallError Query := do
  match Offer.ofName? name with
  | none => .error (.unknownOffer name)
  | some o =>
    (args.check o.parameters).mapError .arguments
    o.query root args

/-- Answers a call. -/
def call {m : Type → Type} [Monad m] (p : Project m) (name : String) (args : Arguments) :
    m Reply := do
  match queryOf p.root name args with
  | .error e => pure (.refused e)
  | .ok q =>
    match ← p.answer q with
    | .error e => pure (.failed e)
    | .ok r =>
      match formatOf (args.text? "format") with
      | .error e => pure (.refused e)
      | .ok f => pure (.report (r.render f))

end DeclAtlas.Service
