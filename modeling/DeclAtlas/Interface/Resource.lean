import DeclAtlas.Interface.Registration
import DeclAtlas.Nesting.Block
import DeclAtlas.Text.Reading

/-!
# Resource registrations

A resource type is registered by a marker with the type's name, followed by a block of braces.
The marker may carry a configuration parameter; the block is read by `Interface.register`.  Two
things are looked for in the whole file: whether the class reports its memory, and which iterator
types are declared.
-/

namespace DeclAtlas

open Text Nesting

/-- The macro that registers a resource type. -/
def resourceMacro : String := "JSG_RESOURCE_TYPE"

/-- What follows the parameter's comma, up to a closing parenthesis or the end of the line. -/
def condition? (s : List Char) : Option String :=
  match literal? "," (trimStart s) with
  | none => none
  | some r =>
    let c := trim (r.takeWhile (· != ')'))
    if c.isEmpty then none else some (String.ofList c)

/-- The text after a name that ends at a word boundary. -/
def nameAt? (name s : List Char) : Option (List Char) :=
  (dropLead? name s).filter (boundaryAfter name)

/-- Reads a registration marker of the type; the value is the condition, if there is one. -/
def marker? (typeName : List Char) : Reader (Option String) := fun s => do
  let s ← Form.opening? resourceMacro s
  let s ← afterBlanks (nameAt? typeName) s
  some (condition? s, s)

/-- The number of the first line with a marker of the type, and the condition. -/
def findMarker? (typeName : List Char) (ls : List Line) : Option (Nat × Option String) :=
  ls.zipIdx.findSome? fun l => (findMatch? (marker? typeName) l.1).map fun c => (l.2, c)

/-- Why a file has no resource registration of a type. -/
inductive ResourceError where
  | markerMissing (typeName file : String)
  | blockMissing (typeName : String) (location : Location)
  deriving Repr, DecidableEq

/-- The message for a registration that cannot be read. -/
def ResourceError.message : ResourceError → String
  | .markerMissing typeName file =>
    "Found `" ++ file ++ "` but could not locate `JSG_RESOURCE_TYPE(" ++ typeName ++ ")` in it."
  | .blockMissing typeName location =>
    "Found `JSG_RESOURCE_TYPE(" ++ typeName ++ ")` at `" ++ location.text ++
      "` but no opening brace follows within " ++ toString lookahead ++ " lines."

/-- Reads blanks, a word, blanks and a comma. -/
def parameter? (s : List Char) : Option (List Char) := do
  let (_, s) ← word? (trimStart s)
  literal? "," (trimStart s)

/-- The macros that declare iterator types, with the number of parameters that must stand before
the rest of their arguments. -/
def iteratorMacros : List (String × Nat) :=
  [("JSG_ITERATOR", 2), ("JSG_ASYNC_ITERATOR", 2), ("JSG_ITERATOR_TYPE", 1),
   ("JSG_ASYNC_ITERATOR_TYPE", 1)]

/-- Reads `n` parameters. -/
def parameters? : Nat → List Char → Option (List Char)
  | 0, s => some s
  | n + 1, s => (parameter? s).bind (parameters? n)

/-- Reads the beginning of an iterator declaration, up to its last counted comma. -/
def iteratorDeclaration? (name : String) (n : Nat) : Reader Unit := fun s => do
  let s ← (Form.opening? name s).bind (parameters? n)
  some ((), s)

/-- The declaration that a beginning stands for: the last comma gives way to the closing
parenthesis. -/
def closeDeclaration (s : List Char) : String :=
  let s := trimEnd s
  String.ofList (trimEnd ((dropEnd? [','] s).getD s) ++ [')'])

/-- The iterator declarations of a file, macro by macro. -/
def iteratorDeclarations (content : List Char) : List String :=
  iteratorMacros.flatMap fun m =>
    (allMatches (atWordStart (withText (iteratorDeclaration? m.1 m.2))) content).map fun r =>
      closeDeclaration r.1

/-- Whether a file says that the class reports its memory. -/
def hasMemoryInfo (typeName content : List Char) : Bool :=
  contains ("JSG_MEMORY_INFO(".toList ++ typeName ++ [')']) content

namespace Interface

/-- The interface that a file registers for a resource type. -/
def ofResource (typeName file content : String) : Except ResourceError Interface :=
  let ls := linesOf content
  match findMarker? typeName.toList ls with
  | none => .error (.markerMissing typeName file)
  | some (n, condition) =>
    let location : Location := ⟨file, n + 1⟩
    match blockAt? ls n with
    | none => .error (.blockMissing typeName location)
    | some b =>
      .ok { ({ empty typeName (.resource condition) with location := location }).register
              b.lines with
            memoryInfo := hasMemoryInfo typeName.toList content.toList
            iteratorDeclarations := DeclAtlas.iteratorDeclarations content.toList }

end Interface

end DeclAtlas
