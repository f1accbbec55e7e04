import DeclAtlas.Compat.Listing
import DeclAtlas.CrossReference
import DeclAtlas.Dependency.Report
import DeclAtlas.Interface.Lookup
import DeclAtlas.Schema.Ordinal

/-!
# Projects

A project is a root directory with its settings and the sources of its texts.  The five queries of
the library are asked of a project.
-/

namespace DeclAtlas

/-- A root directory with settings and sources. -/
structure Project (m : Type → Type) where
  /-- The root directory. -/
  root : String
  settings : Settings
  sources : Sources m

namespace Project

variable {m : Type → Type} [Monad m]

/-- The interface registered for a type. -/
def interface (p : Project m) (typeName : String) : m (Except InterfaceError Interface) :=
  lookupInterface p.sources.search p.sources.read p.root p.settings.search typeName

/-- The cross reference of a symbol. -/
def crossReference (p : Project m) (symbol : String) : m (Except InputError CrossReference) :=
  lookupCrossReference p.sources.search p.sources.read p.root p.settings.search symbol

/-- The ordinals of a schema file. -/
def ordinal (p : Project m) (file : String) (record : Option String) :
    m (Except Schema.OrdinalError Schema.Outcome) :=
  Schema.lookupOrdinal p.sources.compile file record

/-- The compatibility flags of the configured schema. -/
def compat (p : Project m) (date flag : Option String) :
    m (Except Compat.FlagError Compat.FlagReport) :=
  Compat.lookupFlags p.sources.compile p.settings.schema.compatFile date flag

/-- The dependency report on a target. -/
def dependencies (p : Project m) (target : String) (direction : Direction) (depth : Nat) :
    m (Except ResolveError DependencyReport) :=
  DeclAtlas.dependencies p.sources.graph p.settings.resolver p.settings.graph target direction depth

end Project

end DeclAtlas
