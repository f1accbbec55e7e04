/-!
# Interfaces of registered types

An interface is the surface of one native type as scripts see it: what a registration block or a
value-struct registration declares.  Methods are keyed by exposed name and staticness, properties
by exposed name and placement; the first binding of a key stays.
-/

namespace DeclAtlas

/-- A place in a file; lines count from 1, and 0 stands for an unknown line. -/
structure Location where
  /-- The file, relative to the project root. -/
  file : String
  line : Nat
  deriving Repr, DecidableEq, Inhabited

/-- A location as written in messages and reports. -/
def Location.text (l : Location) : String := l.file ++ ":" ++ toString l.line

/-- How a type is registered. -/
inductive Registration where
  /-- A resource block, possibly gated on a configuration parameter. -/
  | resource (condition : Option String)
  /-- A value struct, copied to and from script objects. -/
  | valueStruct
  deriving Repr, DecidableEq

/-- What a type inherits from. -/
inductive Inheritance where
  /-- Another registered type. -/
  | ofType (target : String)
  /-- An intrinsic object of the script language. -/
  | intrinsic (target : String)
  deriving Repr, DecidableEq

/-- A method exposed to scripts. -/
structure Method where
  jsName : String
  /-- The name of the native method. -/
  boundName : String
  /-- Whether the method stands on the constructor. -/
  isStatic : Bool
  deriving Repr, DecidableEq

/-- Where a property is defined. -/
inductive Placement where
  | onInstance
  | onPrototype
  | onConstructor
  | onInspect
  deriving Repr, DecidableEq

/-- A property exposed to scripts. -/
structure Property where
  jsName : String
  getter : String
  /-- The native setter, if the property can be written. -/
  setter : Option String
  /-- Whether scripts cannot assign to the property. -/
  readonly : Bool
  /-- Whether the value is computed on first use. -/
  lazy : Bool
  placement : Placement
  deriving Repr, DecidableEq

/-- A constant exposed to scripts. -/
structure Constant where
  jsName : String
  /-- The native expression of its value. -/
  expression : String
  deriving Repr, DecidableEq

/-- A type exposed as a member of another. -/
structure NestedType where
  jsName : String
  boundType : String
  deriving Repr, DecidableEq

/-- Whether a hook is called synchronously. -/
inductive HookKind where
  | sync
  | async
  deriving Repr, DecidableEq

/-- A method bound to an iteration or disposal protocol. -/
structure Hook where
  kind : HookKind
  method : String
  deriving Repr, DecidableEq

/-- How a type is serialized. -/
structure SerializationTag where
  /-- Whether instances are written but never read back as this type. -/
  oneWay : Bool
  tag : String
  deriving Repr, DecidableEq

/-- What a documentation override replaces. -/
inductive OverrideKind where
  | root
  | override
  | define
  | structOverride
  | structDefine
  deriving Repr, DecidableEq

/-- The macro that writes an override of this kind. -/
def OverrideKind.macroName : OverrideKind → String
  | .root => "JSG_TS_ROOT"
  | .override => "JSG_TS_OVERRIDE"
  | .define => "JSG_TS_DEFINE"
  | .structOverride => "JSG_STRUCT_TS_OVERRIDE"
  | .structDefine => "JSG_STRUCT_TS_DEFINE"

/-- A documentation override. -/
structure DocOverride where
  kind : OverrideKind
  /-- The replacing text. -/
  content : String
  deriving Repr, DecidableEq

/-- A field of a value struct. -/
structure StructField where
  jsName : String
  boundName : String
  deriving Repr, DecidableEq

/-- The field of a native name; a leading dollar sign, which escapes reserved words, is not part of
the exposed name. -/
def StructField.ofBound (bound : String) : StructField :=
  match bound.toList with
  | '$' :: r => ⟨String.ofList r, bound⟩
  | _ => ⟨bound, bound⟩

/-- The surface of one registered type. -/
structure Interface where
  typeName : String
  /-- Where its registration begins. -/
  location : Location
  registration : Registration
  /-- Other places that register a type of this name. -/
  alsoRegisteredIn : List Location
  inheritedFrom : List Inheritance
  /-- Its methods, each key once. -/
  methods : List Method
  /-- Its properties, each key once. -/
  properties : List Property
  constants : List Constant
  nestedTypes : List NestedType
  iterators : List Hook
  disposers : List Hook
  /-- How it is serialized, if it is. -/
  serializationTag : Option SerializationTag
  /-- The method called when the object itself is called. -/
  callableVia : Option String
  /-- The method asked for unknown properties. -/
  wildcardGetter : Option String
  docOverrides : List DocOverride
  scriptBundles : List String
  /-- Whether the class reports its memory. -/
  memoryInfo : Bool
  /-- Iterator types declared in the file. -/
  iteratorDeclarations : List String
  structFields : List StructField
  deriving Repr, DecidableEq

namespace Interface

/-- An interface without members. -/
def empty (typeName : String) (registration : Registration) : Interface where
  typeName := typeName
  location := ⟨"", 0⟩
  registration := registration
  alsoRegisteredIn := []
  inheritedFrom := []
  methods := []
  properties := []
  constants := []
  nestedTypes := []
  iterators := []
  disposers := []
  serializationTag := none
  callableVia := none
  wildcardGetter := none
  docOverrides := []
  scriptBundles := []
  memoryInfo := false
  iteratorDeclarations := []
  structFields := []

/-- Whether two methods have the same key. -/
def sameMethod (a b : Method) : Bool := a.jsName == b.jsName && a.isStatic == b.isStatic

/-- Whether two properties have the same key. -/
def sameProperty (a b : Property) : Bool := a.jsName == b.jsName && a.placement == b.placement

/-- Appends an element unless one with the same key is there. -/
def appendNew {α : Type} (same : α → α → Bool) (xs : List α) (x : α) : List α :=
  if xs.any (same · x) then xs else xs ++ [x]

/-- Adds a method unless its key is taken. -/
def addMethod (i : Interface) (m : Method) : Interface :=
  { i with methods := appendNew sameMethod i.methods m }

/-- Adds a property unless its key is taken. -/
def addProperty (i : Interface) (p : Property) : Interface :=
  { i with properties := appendNew sameProperty i.properties p }

/-- Whether nothing is registered.  Script bundles are not looked at. -/
def isEmpty (i : Interface) : Bool :=
  i.inheritedFrom.isEmpty && i.methods.isEmpty && i.properties.isEmpty && i.constants.isEmpty &&
    i.nestedTypes.isEmpty && i.iterators.isEmpty && i.disposers.isEmpty &&
    i.serializationTag.isNone && i.callableVia.isNone && i.wildcardGetter.isNone &&
    i.docOverrides.isEmpty && i.structFields.isEmpty

end Interface

end DeclAtlas
