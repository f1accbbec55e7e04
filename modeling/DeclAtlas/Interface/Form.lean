import DeclAtlas.Interface.Entry
import DeclAtlas.Text.Find
import DeclAtlas.Text.Reading

/-!
# Registration forms

Each form is a macro name with a shape of arguments and the entry it stands for.  `forms` lists
them in the order in which they are tried; the first form that a line holds claims the line.  Forms
on one name never compete for a call, because a name must be followed by its parenthesis, so the
order matters only where one line holds several calls.

A form is recognised where its name begins at a word boundary.  Arguments that are names must be
single words; an expression runs to the first closing parenthesis.
-/

namespace DeclAtlas

open Text

/-- The arguments of a form and the entry made of them. -/
inductive Shape where
  /-- One name. -/
  | one (entry : String → Entry)
  /-- Two names. -/
  | two (entry : String → String → Entry)
  /-- Three names. -/
  | three (entry : String → String → String → Entry)
  /-- A name and an expression. -/
  | named (entry : String → String → Entry)
  /-- One expression. -/
  | expression (entry : String → Entry)
  /-- Nothing that is looked at. -/
  | bare (entry : Entry)
  /-- A text that may span lines. -/
  | spanning (kind : OverrideKind)

/-- A macro that registers something. -/
structure Form where
  name : String
  shape : Shape

/-- What a line claimed by a form stands for: an entry, or an override still to be gathered. -/
inductive Claim where
  | entry (e : Entry)
  | spanning (kind : OverrideKind)

namespace Form

/-- Reads `name`, blanks and an opening parenthesis. -/
def opening? (name : String) (s : List Char) : Option (List Char) := do
  let s ← literal? name s
  literal? "(" (trimStart s)

/-- Reads blanks, a word and blanks. -/
def argument? : Reader String := fun s => do
  let (w, s) ← word? (trimStart s)
  some (String.ofList w, trimStart s)

/-- Reads up to the first closing parenthesis, which must be there; what precedes it must not be
empty and is trimmed. -/
def expression? : Reader String := fun s => do
  let (w, s) ← run? (· != ')') s
  let s ← literal? ")" s
  some (String.ofList (trim w), s)

/-- Reads the arguments of a shape, after the opening parenthesis. -/
def arguments? : Shape → Reader Claim
  | .one entry, s => do
    let (a, s) ← argument? s
    let s ← literal? ")" s
    some (.entry (entry a), s)
  | .two entry, s => do
    let (a, s) ← argument? s
    let (b, s) ← argument? (← literal? "," s)
    let s ← literal? ")" s
    some (.entry (entry a b), s)
  | .three entry, s => do
    let (a, s) ← argument? s
    let (b, s) ← argument? (← literal? "," s)
    let (c, s) ← argument? (← literal? "," s)
    let s ← literal? ")" s
    some (.entry (entry a b c), s)
  | .named entry, s => do
    let (a, s) ← argument? s
    let (x, s) ← expression? (← literal? "," s)
    some (.entry (entry a x), s)
  | .expression entry, s => do
    let (x, s) ← expression? s
    some (.entry (entry x), s)
  | .bare e, s => some (.entry e, s)
  | .spanning kind, _ => some (.spanning kind, [])

/-- What a form makes of a line: the leftmost call that reads as its arguments. -/
def claim? (f : Form) (l : Line) : Option Claim :=
  (firstMatch (atWordStart fun s => (opening? f.name s).bind (arguments? f.shape)) none l).map
    Prod.fst

end Form

/-- A method entry. -/
def methodEntry (isStatic : Bool) (js bound : String) : Entry := .method ⟨js, bound, isStatic⟩

/-- A property entry without a setter. -/
def getterEntry (p : Placement) (readonly lazy : Bool) (js getter : String) : Entry :=
  .property ⟨js, getter, none, readonly, lazy, p⟩

/-- A property entry that scripts can assign to. -/
def accessorEntry (p : Placement) (js getter setter : String) : Entry :=
  .property ⟨js, getter, some setter, false, false, p⟩

/-- The forms, in the order in which they are tried. -/
def forms : List Form :=
  [⟨"JSG_INHERIT", .one fun a => .inherits (.ofType a)⟩,
   ⟨"JSG_INHERIT_INTRINSIC", .expression fun x => .inherits (.intrinsic x)⟩,
   ⟨"JSG_STATIC_METHOD_NAMED", .two (methodEntry true)⟩,
   ⟨"JSG_STATIC_METHOD", .one fun a => methodEntry true a a⟩,
   ⟨"JSG_METHOD_NAMED", .two (methodEntry false)⟩,
   ⟨"JSG_METHOD", .one fun a => methodEntry false a a⟩,
   ⟨"JSG_CALLABLE", .one .callable⟩,
   ⟨"JSG_STATIC_READONLY_PROPERTY_NAMED", .two (getterEntry .onConstructor true false)⟩,
   ⟨"JSG_STATIC_READONLY_PROPERTY", .one fun a => getterEntry .onConstructor true false a a⟩,
   ⟨"JSG_LAZY_READONLY_INSTANCE_PROPERTY", .two (getterEntry .onInstance true true)⟩,
   ⟨"JSG_LAZY_INSTANCE_PROPERTY", .two (getterEntry .onInstance false true)⟩,
   ⟨"JSG_READONLY_INSTANCE_PROPERTY", .two (getterEntry .onInstance true false)⟩,
   ⟨"JSG_INSTANCE_PROPERTY", .three (accessorEntry .onInstance)⟩,
   ⟨"JSG_READONLY_PROTOTYPE_PROPERTY", .two (getterEntry .onPrototype true false)⟩,
   ⟨"JSG_PROTOTYPE_PROPERTY", .three (accessorEntry .onPrototype)⟩,
   ⟨"JSG_INSPECT_PROPERTY", .two (getterEntry .onInspect true false)⟩,
   ⟨"JSG_WILDCARD_PROPERTY", .one .wildcard⟩,
   ⟨"JSG_STATIC_CONSTANT_NAMED", .named fun a x => .constant ⟨a, x⟩⟩,
   ⟨"JSG_STATIC_CONSTANT", .one fun a => .constant ⟨a, a⟩⟩,
   ⟨"JSG_NESTED_TYPE_NAMED", .two fun bound js => .nestedType ⟨js, bound⟩⟩,
   ⟨"JSG_NESTED_TYPE", .one fun a => .nestedType ⟨a, a⟩⟩,
   ⟨"JSG_ASYNC_ITERABLE", .one fun a => .iterator ⟨.async, a⟩⟩,
   ⟨"JSG_ITERABLE", .one fun a => .iterator ⟨.sync, a⟩⟩,
   ⟨"JSG_ASYNC_DISPOSE", .one fun a => .disposer ⟨.async, a⟩⟩,
   ⟨"JSG_DISPOSE", .one fun a => .disposer ⟨.sync, a⟩⟩,
   ⟨"JSG_ONEWAY_SERIALIZABLE", .expression fun x => .serialization ⟨true, x⟩⟩,
   ⟨"JSG_SERIALIZABLE", .expression fun x => .serialization ⟨false, x⟩⟩,
   ⟨"JSG_TS_ROOT", .bare (.docOverride ⟨.root, "(root type)"⟩)⟩,
   ⟨"JSG_TS_OVERRIDE", .spanning .override⟩,
   ⟨"JSG_TS_DEFINE", .spanning .define⟩,
   ⟨"JSG_CONTEXT_JS_BUNDLE", .one .scriptBundle⟩]

/-- What the first form of a table that claims a line makes of it. -/
def claimWith? (table : List Form) (l : Line) : Option Claim := table.findSome? (·.claim? l)

end DeclAtlas
