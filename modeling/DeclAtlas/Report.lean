import DeclAtlas.Report.Encode
import DeclAtlas.Report.Markdown

/-!
# Reports

The answer of any query, written as Markdown for readers or as JSON for programs.
-/

namespace DeclAtlas

/-- How a report is written. -/
inductive Format where
  | markdown
  | json
  deriving Repr, DecidableEq

/-- The answer of a query. -/
inductive Report where
  | interface (i : Interface)
  | ordinal (o : Schema.Outcome)
  | dependencies (r : DependencyReport)
  | compat (r : Compat.FlagReport)
  | crossReference (x : CrossReference)
  deriving Repr, DecidableEq

namespace Report

/-- A report as data. -/
def toJson : Report → Json
  | .interface i => i.toJson
  | .ordinal o => o.toJson
  | .dependencies r => r.toJson
  | .compat r => r.toJson
  | .crossReference x => x.toJson

/-- The lines of a report. -/
def lines : Report → List String
  | .interface i => Markdown.interfaceLines i
  | .ordinal o => Markdown.outcomeLines o
  | .dependencies r => Markdown.dependencyLines r
  | .compat r => Markdown.flagLines r
  | .crossReference x => Markdown.crossReferenceLines x

/-- A report as text. -/
def render (f : Format) (r : Report) : String :=
  match f with
  | .markdown => Markdown.document r.lines
  | .json => r.toJson.document

end Report

end DeclAtlas
