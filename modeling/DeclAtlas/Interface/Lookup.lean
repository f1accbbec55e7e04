import DeclAtlas.Input
import DeclAtlas.Interface.ValueStruct
import DeclAtlas.Path
import DeclAtlas.Pattern.Reader
import DeclAtlas.Settings
import DeclAtlas.Sources
import DeclAtlas.Text.LowerCase

/-!
# Looking up an interface

The registration of a type is searched for in the headers.  Several headers may hold a marker of
the same name, usually for nested classes; the best candidate is the one whose file declares the
class at the left margin, then one whose file name mentions the type, then the first.  Where no
header holds a resource marker, a value struct of the type is looked for.

The name of the type is looked for with patterns, and a name that is too long for one of them is not
looked for: markers of it are refused, structs of it are not found.
-/

namespace DeclAtlas

open Text

/-- Why a type has no interface. -/
inductive InterfaceError where
  | input (e : InputError)
  | notRegistered (typeName : String)
  | resource (e : ResourceError)
  | unreadable (path cause : String)
  deriving Repr, DecidableEq

/-- The message for a type without an interface. -/
def InterfaceError.message : InterfaceError → String
  | .input e => e.message
  | .notRegistered typeName =>
    "No registration found for `" ++ typeName ++ "`. It may not be a registered type, or it may " ++
      "be registered under a different name."
  | .resource e => e.message
  | .unreadable path cause => "Failed to read `" ++ path ++ "`: " ++ cause

/-- The pattern of the declarations of a type. -/
def declarationPattern (name : String) : String := "(class|struct)\\s+" ++ name ++ "\\b"

/-- The pattern of the lines that begin with the declaration of a class. -/
def marginPattern (name : String) : String := "(?m)^class " ++ name ++ "\\b"

/-- The pattern of the resource markers of a type, with their conditions. -/
def conditionPattern (name : String) : String :=
  "JSG_RESOURCE_TYPE\\s*\\(\\s*" ++ name ++ "\\b(?:\\s*,\\s*([^)]*))?"

/-- The search for resource markers of a type. -/
def markerRequest (s : SearchSettings) (name : String) : SearchRequest where
  pattern := "JSG_RESOURCE_TYPE\\s*\\(\\s*" ++ name ++ "\\b"
  globs := [s.headerGlob]

/-- The search for headers that declare a type. -/
def declarationRequest (s : SearchSettings) (name : String) : SearchRequest where
  pattern := declarationPattern name
  globs := [s.headerGlob]
  filesOnly := true

/-- A marker found, with the text of its file if that could be read. -/
structure Candidate where
  /-- The marker. -/
  hit : Hit
  /-- The text of the file. -/
  content : Option String
  deriving Repr, DecidableEq

/-- Whether a text declares the class on a line that begins with the declaration. -/
def declaresAtMargin (typeName : List Char) (content : List Char) : Bool :=
  (pieces '\n' content).any fun l =>
    ((dropLead? ("class ".toList ++ typeName) l).filter (boundaryAfter typeName)).isSome

/-- Whether the name of a file contains the name of the type, letter case aside. -/
def namesType (typeName path : String) : Bool :=
  contains (lower typeName.toList) (lower ((Path.fileName? path).getD "").toList)

/-- How good a candidate is. -/
def Candidate.score (typeName : String) (c : Candidate) : Nat :=
  (if namesType typeName c.hit.path then 10 else 0) +
    if c.content.any fun t => declaresAtMargin typeName.toList t.toList then 20 else 0

/-- The first of the elements with the largest score, and the others in their order. -/
def pickBest {α : Type} (score : α → Nat) : α → List α → α × List α
  | a, [] => (a, [])
  | a, b :: bs =>
    let r := pickBest score b bs
    if score r.1 > score a then (r.1, a :: r.2) else (a, b :: bs)

/-- The refusal of a type name that is too long for a pattern. -/
def tooLong (typeName : String) : InterfaceError := .input (.invalidIdentifier .typeName typeName)

/-- The interface that a file registers for a resource type. -/
def readResource (typeName file content : String) : Except InterfaceError Interface :=
  if Pattern.isAdmitted (conditionPattern typeName) then
    (Interface.ofResource typeName file content).mapError .resource
  else .error (tooLong typeName)

/-- The interface of the value struct that a file registers for a type. -/
def readStruct? (typeName file content : String) : Option Interface :=
  if Pattern.isAdmitted (declarationPattern typeName) then
    Interface.ofStruct? typeName file content
  else none

section

variable {m : Type → Type} [Monad m]

/-- The candidates of some markers. -/
def candidates (read : FileReader m) (root : String) : List Hit → m (List Candidate)
  | [] => pure []
  | h :: hs => do
    let content ← read (Path.join root h.path)
    let rest ← candidates read root hs
    pure (⟨h, content.toOption⟩ :: rest)

/-- The interface of a candidate, which is registered in the files of some others, too. -/
def chosenInterface (read : FileReader m) (root typeName : String) (chosen : Candidate)
    (rest : List Candidate) : m (Except InterfaceError Interface) := do
  let path := Path.join root chosen.hit.path
  let content ← match chosen.content with
    | some t => pure (Except.ok t)
    | none => read path
  match content with
  | .error cause => pure (.error (.unreadable path cause))
  | .ok t =>
    pure ((readResource typeName chosen.hit.path t).map fun i =>
      { i with alsoRegisteredIn := rest.map fun c => ⟨c.hit.path, c.hit.line⟩ })

/-- The interface of a type with resource markers, of which there is at least one. -/
def resourceInterface (read : FileReader m) (root typeName : String) (first : Hit)
    (others : List Hit) : m (Except InterfaceError Interface) :=
  if Pattern.isAdmitted (marginPattern typeName) then do
    match ← candidates read root (first :: others) with
    | [] => pure (.error (.notRegistered typeName))
    | c :: cs =>
      let (chosen, rest) := pickBest (Candidate.score typeName) c cs
      chosenInterface read root typeName chosen rest
  else pure (.error (tooLong typeName))

/-- The value struct of a type in the first of some files that registers it. -/
def structInterface (read : FileReader m) (root typeName : String) (files : List Hit) :
    m (Except InterfaceError Interface) := do
  match ← firstInFiles? read root (readStruct? typeName) files with
  | some i => pure (.ok i)
  | none => pure (.error (.notRegistered typeName))

/-- The interface registered for a type. -/
def lookupInterface (search : Searcher m) (read : FileReader m) (root : String)
    (s : SearchSettings) (typeName : String) : m (Except InterfaceError Interface) :=
  match checkIdentifier .typeName typeName with
  | .error e => pure (.error (.input e))
  | .ok () => do
    match orEmpty (← search (markerRequest s typeName)) with
    | h :: hs => resourceInterface read root typeName h hs
    | [] =>
      let files := orEmpty (← search (declarationRequest s typeName))
      structInterface read root typeName files

end

end DeclAtlas
