import DeclAtlas.Interface.Resource

/-!
# Value structs

A value struct is registered by a call that lists its fields.  The call belongs to a type whose
declaration stands on one of the lines shortly before it.  Documentation overrides are looked for
from that declaration to the end of its block.
-/

namespace DeclAtlas

open Text Nesting

/-- The macro that registers a value struct. -/
def structMacro : List Char := "JSG_STRUCT".toList

/-- How many lines before the registration may hold the declaration. -/
def lookback : Nat := 100

/-- Whether the first mention of the macro on a line is followed by a parenthesis. -/
def isStructMarker (l : Line) : Bool :=
  match after? structMacro l with
  | none => false
  | some r => startsWith ['('] (trimStart r)

/-- Reads a class or struct declaration of the type. -/
def declaration? (typeName : List Char) : Reader Unit := fun s => do
  let s ← (literal? "class" s).or (literal? "struct" s)
  match s with
  | [] => none
  | c :: r =>
    if isBlank c then
      let s ← afterBlanks (nameAt? typeName) r
      some ((), s)
    else none

/-- Whether a line declares the type. -/
def declares (typeName : List Char) (l : Line) : Bool :=
  (findMatch? (declaration? typeName) l).isSome

/-- The nearest line before line `n`, at most `lookback` lines up, that declares the type. -/
def ownerOf? (typeName : List Char) (ls : List Line) (n : Nat) : Option Nat :=
  (((ls.take n).zipIdx.drop (n - lookback)).reverse.find? fun l => declares typeName l.1).map
    Prod.snd

/-- The first registration that a declaration of the type precedes: the numbers of the declaration
and of the registration. -/
def findStruct? (typeName : List Char) (ls : List Line) : Option (Nat × Nat) :=
  ls.zipIdx.findSome? fun l =>
    if isStructMarker l.1 then (ownerOf? typeName ls l.2).map fun o => (o, l.2) else none

/-- The field names of a registration, in order. -/
def structFieldsOf (args : List Char) : List StructField :=
  (((pieces ',' args).map trim).filter (!·.isEmpty)).map fun w =>
    StructField.ofBound (String.ofList w)

/-- The kind of override that a line of a struct mentions. -/
def structOverrideKind? (l : Line) : Option OverrideKind :=
  if containsString OverrideKind.structOverride.macroName l then some .structOverride
  else if containsString OverrideKind.structDefine.macroName l then some .structDefine
  else none

/-- The override of a line and the number of further lines it takes. -/
def structOverride? (l : Line) (later : List Line) : Option (DocOverride × Nat) :=
  (structOverrideKind? l).map fun kind => gatherOverride kind (l :: later)

/-- The overrides written in the declaration on line `owner`. -/
def structOverrides (ls : List Line) (owner : Nat) : List DocOverride :=
  let last := match blockAt? ls owner with
    | some b => b.last
    | none => ls.length - 1
  readForms structOverride? (last + 1 - owner) 0 (ls.drop owner)

namespace Interface

/-- The interface that a file registers for a value struct. -/
def ofStruct? (typeName file content : String) : Option Interface :=
  let ls := linesOf content
  (findStruct? typeName.toList ls).map fun (owner, n) =>
    { empty typeName .valueStruct with
      location := ⟨file, n + 1⟩
      structFields := structFieldsOf (argumentOf structMacro (gather (ls.drop n)).joined)
      docOverrides := structOverrides ls owner }

end Interface

end DeclAtlas
