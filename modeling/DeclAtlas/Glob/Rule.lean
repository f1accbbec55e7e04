import DeclAtlas.Glob.Reader
import DeclAtlas.Text.CharClass
import DeclAtlas.Text.Find

/-!
# Rules for leaving out files

A rule file has a glob on every line.  A glob without a slash describes entries at any depth, any
other one only paths from the directory of the rules on; an exclamation mark takes entries back, and
a slash at the end restricts the rule to directories.  Of several rules that describe an entry the
last one decides.

The globs of a search are rules, too, read the other way round: what they describe is wanted.
-/

namespace DeclAtlas

open Text

/-- A rule about the entries below a directory. -/
structure Rule where
  /-- Which paths it describes. -/
  pattern : Pattern
  /-- Whether it takes entries back. -/
  negated : Bool
  directoriesOnly : Bool
  deriving Repr

/-- What rules say of an entry. -/
inductive Verdict where
  /-- Nothing. -/
  | silent
  /-- It is left out. -/
  | leave
  /-- It is taken. -/
  | take
  deriving Repr, DecidableEq

namespace Verdict

/-- The first of two verdicts that says anything. -/
def orElse : Verdict → Verdict → Verdict
  | .silent, v => v
  | v, _ => v

/-- The verdict of rules read the other way round. -/
def invert : Verdict → Verdict
  | .silent => .silent
  | .leave => .take
  | .take => .leave

end Verdict

namespace Rule

/-- The line of a rule without blanks at its end, unless the last one is escaped. -/
def tidy (s : List Char) : List Char := if endsWith ['\\', ' '] s then s else trimEnd s

/-- A glob that describes entries at any depth if it holds no slash, and only what is below a
directory if it ends with two stars. -/
def widen (anchored : Bool) (glob : List Char) : List Char :=
  let glob :=
    if anchored || glob.contains '/' || glob = ['*', '*'] then glob else '*' :: '*' :: '/' :: glob
  if endsWith ['/', '*', '*'] glob then glob ++ ['/', '*'] else glob

/-- The glob of a line without a slash at its end, and whether there was one. -/
def dropSlash (glob : List Char) : Bool × List Char :=
  match dropEnd? ['/'] glob with
  | some g => (true, (dropEnd? ['\\'] g).getD g)
  | none => (false, glob)

/-- The rule of a line: none for blank lines and comments, and an error for a malformed glob. -/
def ofLine (brackets : Glob.Brackets) (line : List Char) : Except Unit (Option Rule) :=
  if startsWith ['#'] line then .ok none
  else
    let line := tidy line
    if line.isEmpty then .ok none
    else
      let escaped := startsWith ['\\', '!'] line || startsWith ['\\', '#'] line
      let (negated, line) :=
        if escaped then (false, line.drop 1)
        else match line with
          | '!' :: r => (true, r)
          | r => (false, r)
      let (anchored, line) := match line with
        | '/' :: r => (true, r)
        | r => (false, r)
      let (directoriesOnly, glob) := dropSlash line
      match Glob.read? brackets (widen anchored glob) with
      | none => .error ()
      | some g => .ok (some ⟨g.pattern, negated, directoriesOnly⟩)

/-- Whether a rule is about an entry, given by the bytes of its path. -/
def covers (r : Rule) (path : List Char) (isDirectory : Bool) : Bool :=
  (isDirectory || !r.directoriesOnly) && r.pattern.matchesAll path

end Rule

/-- Rules about the entries below a directory. -/
structure RuleSet where
  base : String
  /-- The rules, in order. -/
  rules : List Rule
  deriving Repr

namespace RuleSet

/-- The path of an entry as rules see it, from their directory on. -/
def relative (base path : String) : List Char :=
  let p := path.toList
  match dropLead? base.toList p with
  | some ('/' :: r) => r
  | some r => if p.contains '/' then r else p
  | none => p

/-- What the rules say of an entry. -/
def verdict (s : RuleSet) (path : String) (isDirectory : Bool) : Verdict :=
  if s.rules.isEmpty then .silent
  else
    let bytes := Glob.byteChars (relative s.base path)
    match s.rules.reverse.find? (·.covers bytes isDirectory) with
    | some r => if r.negated then .take else .leave
    | none => .silent

/-- The rules of a rule file; malformed lines do not count. -/
def ofLines (base : String) (ls : List Line) : RuleSet :=
  ⟨base, ls.filterMap fun l => match Rule.ofLine .lenient l with
    | .ok r => r
    | .error _ => none⟩

/-- The rules that the globs of a search make, or the first glob that is malformed. -/
def ofGlobs (base : String) (globs : List String) : Except String RuleSet := do
  let rules ← globs.mapM fun g => match Rule.ofLine .strict g.toList with
    | .ok r => .ok r
    | .error _ => .error g
  .ok ⟨base, rules.filterMap id⟩

/-- What the globs of a search say of an entry: a file that none of them describes is left out if
any of them asks for files. -/
def wanted (s : RuleSet) (path : String) (isDirectory : Bool) : Verdict :=
  match (s.verdict path isDirectory).invert with
  | .silent =>
    if s.rules.any (!·.negated) && !isDirectory then .leave else .silent
  | v => v

end RuleSet

end DeclAtlas
