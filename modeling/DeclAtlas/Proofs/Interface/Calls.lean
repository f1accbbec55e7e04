import DeclAtlas.Interface.Registration
import DeclAtlas.Proofs.Text.Parts
import DeclAtlas.Text.WordChar

/-!
# Written registrations

A registration as it is meant: a macro with its arguments (`Call`), the line it is written on
(`CallLine.text`), and what it makes of an interface (`Call.effect`).  None of this goes back to the
table of forms, which is only asked for the names that an argument must not mention.

The macros come in families by what they take: one name, two names, three names, an expression, a
name and an expression, nothing, or a text.  Names may have blanks around them, and so may the
parentheses and the line.
-/

namespace DeclAtlas

open Text

/-! ### Arguments -/

/-- A name with the blanks around it. -/
structure NameArgument where
  before : Blanks
  word : Word
  after : Blanks

/-- The name as written. -/
def NameArgument.text (a : NameArgument) : List Char :=
  a.before.text ++ (a.word.text ++ a.after.text)

/-- The name. -/
def NameArgument.name (a : NameArgument) : String := a.word.name

/-- An expression with the blanks around it.  It ends at the first closing parenthesis. -/
structure ExpressionArgument where
  text : List Char
  ne_nil : text ≠ []
  no_closing : ')' ∉ text

/-- The expression. -/
def ExpressionArgument.content (x : ExpressionArgument) : String := String.ofList (trim x.text)

/-- A text with as many closing as opening parentheses, and the blanks around it. -/
structure TextArgument where
  text : List Char
  balanced : Nesting.parenDelta text = 0

/-- The text. -/
def TextArgument.content (t : TextArgument) : String := String.ofList (trim t.text)

/-! ### Changes of an interface -/

namespace Interface

/-- The interface with one more method, unless its name is taken among those of its staticness. -/
def bindMethod (i : Interface) (m : Method) : Interface :=
  if ∃ n ∈ i.methods, n.jsName = m.jsName ∧ n.isStatic = m.isStatic then i
  else { i with methods := i.methods ++ [m] }

/-- The interface with one more property, unless its name is taken among those of its placement. -/
def bindProperty (i : Interface) (p : Property) : Interface :=
  if ∃ q ∈ i.properties, q.jsName = p.jsName ∧ q.placement = p.placement then i
  else { i with properties := i.properties ++ [p] }

/-- The interface with one more documentation override. -/
def override (i : Interface) (kind : OverrideKind) (content : String) : Interface :=
  { i with docOverrides := i.docOverrides ++ [⟨kind, content⟩] }

end Interface

/-! ### Macros -/

/-- A macro that takes one name. -/
inductive OneName where
  | inherit
  | staticMethod
  | method
  | callable
  | staticReadonlyProperty
  | wildcardProperty
  | staticConstant
  | nestedType
  | asyncIterable
  | iterable
  | asyncDispose
  | dispose
  | contextScriptBundle

/-- A macro that takes two names. -/
inductive TwoNames where
  | staticMethod
  | method
  | staticReadonlyProperty
  | lazyReadonlyInstanceProperty
  | lazyInstanceProperty
  | readonlyInstanceProperty
  | readonlyPrototypeProperty
  | inspectProperty
  | nestedType

/-- A macro that takes three names. -/
inductive ThreeNames where
  | instanceProperty
  | prototypeProperty

/-- A macro that takes an expression. -/
inductive OneExpression where
  | inheritIntrinsic
  | onewaySerializable
  | serializable

/-- A macro that takes a text. -/
inductive OneText where
  | override
  | define

namespace OneName

def macroName : OneName → String
  | inherit => "JSG_INHERIT"
  | staticMethod => "JSG_STATIC_METHOD"
  | method => "JSG_METHOD"
  | callable => "JSG_CALLABLE"
  | staticReadonlyProperty => "JSG_STATIC_READONLY_PROPERTY"
  | wildcardProperty => "JSG_WILDCARD_PROPERTY"
  | staticConstant => "JSG_STATIC_CONSTANT"
  | nestedType => "JSG_NESTED_TYPE"
  | asyncIterable => "JSG_ASYNC_ITERABLE"
  | iterable => "JSG_ITERABLE"
  | asyncDispose => "JSG_ASYNC_DISPOSE"
  | dispose => "JSG_DISPOSE"
  | contextScriptBundle => "JSG_CONTEXT_JS_BUNDLE"

/-- A single name is exposed as it is bound. -/
def effect (name : String) (i : Interface) : OneName → Interface
  | inherit => { i with inheritedFrom := i.inheritedFrom ++ [.ofType name] }
  | staticMethod => i.bindMethod { jsName := name, boundName := name, isStatic := true }
  | method => i.bindMethod { jsName := name, boundName := name, isStatic := false }
  | callable => { i with callableVia := some name }
  | staticReadonlyProperty => i.bindProperty
      { jsName := name, getter := name, setter := none, readonly := true, lazy := false
        placement := .onConstructor }
  | wildcardProperty => { i with wildcardGetter := some name }
  | staticConstant =>
    { i with constants := i.constants ++ [{ jsName := name, expression := name }] }
  | nestedType => { i with nestedTypes := i.nestedTypes ++ [{ jsName := name, boundType := name }] }
  | asyncIterable => { i with iterators := i.iterators ++ [{ kind := .async, method := name }] }
  | iterable => { i with iterators := i.iterators ++ [{ kind := .sync, method := name }] }
  | asyncDispose => { i with disposers := i.disposers ++ [{ kind := .async, method := name }] }
  | dispose => { i with disposers := i.disposers ++ [{ kind := .sync, method := name }] }
  | contextScriptBundle => { i with scriptBundles := i.scriptBundles ++ [name] }

end OneName

namespace TwoNames

def macroName : TwoNames → String
  | staticMethod => "JSG_STATIC_METHOD_NAMED"
  | method => "JSG_METHOD_NAMED"
  | staticReadonlyProperty => "JSG_STATIC_READONLY_PROPERTY_NAMED"
  | lazyReadonlyInstanceProperty => "JSG_LAZY_READONLY_INSTANCE_PROPERTY"
  | lazyInstanceProperty => "JSG_LAZY_INSTANCE_PROPERTY"
  | readonlyInstanceProperty => "JSG_READONLY_INSTANCE_PROPERTY"
  | readonlyPrototypeProperty => "JSG_READONLY_PROTOTYPE_PROPERTY"
  | inspectProperty => "JSG_INSPECT_PROPERTY"
  | nestedType => "JSG_NESTED_TYPE_NAMED"

/-- The first name is exposed and bound to the second.  Only a nested type is written the other way
round, its native type first. -/
def effect (first second : String) (i : Interface) : TwoNames → Interface
  | staticMethod => i.bindMethod { jsName := first, boundName := second, isStatic := true }
  | method => i.bindMethod { jsName := first, boundName := second, isStatic := false }
  | staticReadonlyProperty => i.bindProperty
      { jsName := first, getter := second, setter := none, readonly := true, lazy := false
        placement := .onConstructor }
  | lazyReadonlyInstanceProperty => i.bindProperty
      { jsName := first, getter := second, setter := none, readonly := true, lazy := true
        placement := .onInstance }
  | lazyInstanceProperty => i.bindProperty
      { jsName := first, getter := second, setter := none, readonly := false, lazy := true
        placement := .onInstance }
  | readonlyInstanceProperty => i.bindProperty
      { jsName := first, getter := second, setter := none, readonly := true, lazy := false
        placement := .onInstance }
  | readonlyPrototypeProperty => i.bindProperty
      { jsName := first, getter := second, setter := none, readonly := true, lazy := false
        placement := .onPrototype }
  | inspectProperty => i.bindProperty
      { jsName := first, getter := second, setter := none, readonly := true, lazy := false
        placement := .onInspect }
  | nestedType =>
    { i with nestedTypes := i.nestedTypes ++ [{ jsName := second, boundType := first }] }

end TwoNames

namespace ThreeNames

def macroName : ThreeNames → String
  | instanceProperty => "JSG_INSTANCE_PROPERTY"
  | prototypeProperty => "JSG_PROTOTYPE_PROPERTY"

def placement : ThreeNames → Placement
  | instanceProperty => .onInstance
  | prototypeProperty => .onPrototype

/-- A property that can be assigned to has its getter and its setter after its name. -/
def effect (js getter setter : String) (i : Interface) (m : ThreeNames) : Interface :=
  i.bindProperty
    { jsName := js, getter := getter, setter := some setter, readonly := false, lazy := false
      placement := m.placement }

end ThreeNames

namespace OneExpression

def macroName : OneExpression → String
  | inheritIntrinsic => "JSG_INHERIT_INTRINSIC"
  | onewaySerializable => "JSG_ONEWAY_SERIALIZABLE"
  | serializable => "JSG_SERIALIZABLE"

def effect (content : String) (i : Interface) : OneExpression → Interface
  | inheritIntrinsic => { i with inheritedFrom := i.inheritedFrom ++ [.intrinsic content] }
  | onewaySerializable => { i with serializationTag := some { oneWay := true, tag := content } }
  | serializable => { i with serializationTag := some { oneWay := false, tag := content } }

end OneExpression

namespace OneText

def macroName : OneText → String
  | override => "JSG_TS_OVERRIDE"
  | define => "JSG_TS_DEFINE"

def kind : OneText → OverrideKind
  | override => .override
  | define => .define

end OneText

/-! ### Calls and their lines -/

/-- A macro with its arguments. -/
inductive Call where
  | one (m : OneName) (a : NameArgument)
  | two (m : TwoNames) (a b : NameArgument)
  | three (m : ThreeNames) (a b c : NameArgument)
  | expression (m : OneExpression) (x : ExpressionArgument)
  | namedConstant (a : NameArgument) (x : ExpressionArgument)
  | root (pad : Blanks)
  | text (m : OneText) (t : TextArgument)

namespace Call

/-- The macro. -/
def macroName : Call → String
  | one m _ => m.macroName
  | two m _ _ => m.macroName
  | three m _ _ _ => m.macroName
  | expression m _ => m.macroName
  | namedConstant _ _ => "JSG_STATIC_CONSTANT_NAMED"
  | root _ => "JSG_TS_ROOT"
  | text m _ => m.macroName

/-- What stands between the parentheses. -/
def arguments : Call → List Char
  | one _ a => a.text
  | two _ a b => a.text ++ ',' :: b.text
  | three _ a b c => a.text ++ ',' :: (b.text ++ ',' :: c.text)
  | expression _ x => x.text
  | namedConstant a x => a.text ++ ',' :: x.text
  | root pad => pad.text
  | text _ t => t.text

/-- **What a call makes of an interface.** -/
def effect (i : Interface) : Call → Interface
  | one m a => m.effect a.name i
  | two m a b => m.effect a.name b.name i
  | three m a b c => m.effect a.name b.name c.name i
  | expression m x => m.effect x.content i
  | namedConstant a x =>
    { i with constants := i.constants ++ [{ jsName := a.name, expression := x.content }] }
  | root _ => i.override .root "(root type)"
  | text m t => i.override m.kind t.content

/-- No word between the parentheses is the name of a form. -/
def MentionsNoForm (c : Call) : Prop := ∀ f ∈ forms, f.name.toList ∉ words c.arguments

instance (c : Call) : Decidable c.MentionsNoForm := inferInstanceAs (Decidable (∀ f ∈ forms, _))

end Call

/-- A call and the blanks on its line. -/
structure CallParts where
  /-- The blanks before the macro. -/
  indent : Blanks
  call : Call
  /-- The blanks before the opening parenthesis. -/
  gap : Blanks
  /-- The blanks before the semicolon. -/
  pad : Blanks
  /-- The blanks after it. -/
  after : Blanks

namespace CallParts

/-- The call from its macro to its semicolon. -/
def statement (l : CallParts) : List Char :=
  l.call.macroName.toList ++ (l.gap.text ++ ('(' :: (l.call.arguments ++
    (')' :: (l.pad.text ++ [';'])))))

/-- The line. -/
def text (l : CallParts) : Line := l.indent.text ++ (l.statement ++ l.after.text)

end CallParts

/-- A call on a line of its own. -/
structure CallLine extends CallParts where
  mentionsNoForm : call.MentionsNoForm
  isLine : IsLine toCallParts.text

/-! ### One call of every macro -/

namespace Call

/-- A name of one letter. -/
def letter : NameArgument := ⟨.none, .ofList ['a'] (by decide) (by decide), .none⟩

/-- An expression of one letter. -/
def letterExpression : ExpressionArgument := ⟨['a'], by decide, by decide⟩

/-- A call of every macro, in the order in which the forms are tried. -/
def everyMacro : List Call :=
  [one .inherit letter, expression .inheritIntrinsic letterExpression,
   two .staticMethod letter letter, one .staticMethod letter, two .method letter letter,
   one .method letter, one .callable letter, two .staticReadonlyProperty letter letter,
   one .staticReadonlyProperty letter, two .lazyReadonlyInstanceProperty letter letter,
   two .lazyInstanceProperty letter letter, two .readonlyInstanceProperty letter letter,
   three .instanceProperty letter letter letter, two .readonlyPrototypeProperty letter letter,
   three .prototypeProperty letter letter letter, two .inspectProperty letter letter,
   one .wildcardProperty letter, namedConstant letter letterExpression,
   one .staticConstant letter, two .nestedType letter letter, one .nestedType letter,
   one .asyncIterable letter, one .iterable letter, one .asyncDispose letter, one .dispose letter,
   expression .onewaySerializable letterExpression, expression .serializable letterExpression,
   root .none, text .override ⟨['a'], by decide⟩, text .define ⟨['a'], by decide⟩,
   one .contextScriptBundle letter]

theorem map_macroName_everyMacro : everyMacro.map macroName = forms.map Form.name := rfl

end Call

/-- A call without blanks. -/
def CallParts.tight (c : Call) : CallParts := ⟨.none, c, .none, .none, .none⟩

/-- Every form of the table is that of a call on a line. -/
theorem CallLine.exists_forms :
    ∃ ls : List CallLine, ls.map (fun l => l.call.macroName) = forms.map Form.name := by
  have hline : ∀ c ∈ Call.everyMacro, c.MentionsNoForm ∧ IsLine (CallParts.tight c).text := by
    decide +kernel
  refine ⟨Call.everyMacro.pmap (fun c h => ⟨.tight c, h.1, h.2⟩) hline, ?_⟩
  rw [List.map_pmap, ← Call.map_macroName_everyMacro]
  exact List.pmap_eq_map hline

end DeclAtlas
