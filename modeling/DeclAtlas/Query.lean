import DeclAtlas.Project
import DeclAtlas.Report

/-!
# Queries

The five questions a project can be asked, as data, with the report that answers each of them.  The
command line and the service both put their questions this way, so both give the same answers; what
a failed question has to say is the message of the query that failed.
-/

namespace DeclAtlas

/-- A question to a project. -/
inductive Query where
  /-- What does a type register? -/
  | interface (typeName : String)
  /-- Which ordinals does a schema file use? -/
  | ordinal (file : String) (record : Option String)
  /-- What does a target depend on, or what depends on it? -/
  | dependencies (target : String) (direction : Direction) (depth : Nat)
  /-- Which compatibility flags are there? -/
  | compat (date flag : Option String)
  /-- Where does a symbol occur? -/
  | crossReference (symbol : String)
  deriving Repr, DecidableEq

/-- Why a question has no answer. -/
inductive QueryError where
  | interface (e : InterfaceError)
  | ordinal (e : Schema.OrdinalError)
  | dependencies (e : ResolveError)
  | compat (e : Compat.FlagError)
  | crossReference (e : InputError)
  deriving Repr, DecidableEq

/-- The message for a question without an answer. -/
def QueryError.message : QueryError → String
  | .interface e => e.message
  | .ordinal e => e.message
  | .dependencies e => e.message
  | .compat e => e.message
  | .crossReference e => e.message

namespace Project

variable {m : Type → Type} [Monad m]

/-- The report that answers a question; names may have blanks around them. -/
def answer (p : Project m) : Query → m (Except QueryError Report)
  | .interface typeName => do
    let r ← p.interface (Text.trimString typeName)
    pure ((r.map Report.interface).mapError QueryError.interface)
  | .ordinal file record => do
    let r ← p.ordinal file record
    pure ((r.map Report.ordinal).mapError QueryError.ordinal)
  | .dependencies target direction depth => do
    let r ← p.dependencies target direction depth
    pure ((r.map Report.dependencies).mapError QueryError.dependencies)
  | .compat date flag => do
    let r ← p.compat date flag
    pure ((r.map Report.compat).mapError QueryError.compat)
  | .crossReference symbol => do
    let r ← p.crossReference (Text.trimString symbol)
    pure ((r.map Report.crossReference).mapError QueryError.crossReference)

end Project

end DeclAtlas
