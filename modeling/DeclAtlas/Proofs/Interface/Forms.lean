import DeclAtlas.Interface.Registration
import DeclAtlas.Proofs.Nesting.Calls

/-!
# What forms declare

A form makes one kind of entry of all the calls that it claims.  Many forms of the table differ only in
a flag or a place, so their shapes fall into a few families (`Shape.Declares`), and every form of the
table is of one of them (`declares_of_mem_forms`).  What holds of all forms is proved by cases on the
families, as here for the kind of what they make (`Form.kind_of_makes`).
-/

namespace DeclAtlas

open Text

/-! ### Kinds of entries -/

/-- The kinds of entries. -/
inductive EntryKind where
  | inheritance
  | method
  | property
  | callable
  | wildcard
  | constant
  | nestedType
  | iterator
  | disposer
  | serialization
  | docOverride
  | scriptBundle
  deriving DecidableEq

/-- The kind of an entry. -/
def Entry.kind : Entry → EntryKind
  | .inherits _ => .inheritance
  | .method _ => .method
  | .property _ => .property
  | .callable _ => .callable
  | .wildcard _ => .wildcard
  | .constant _ => .constant
  | .nestedType _ => .nestedType
  | .iterator _ => .iterator
  | .disposer _ => .disposer
  | .serialization _ => .serialization
  | .docOverride _ => .docOverride
  | .scriptBundle _ => .scriptBundle

/-- The kind of what a claim stands for. -/
def Claim.kind : Claim → EntryKind
  | .entry e => e.kind
  | .spanning _ => .docOverride

/-- The kind of the entries that a form makes; its arguments have no part in it. -/
def Form.kind (f : Form) : EntryKind :=
  match f.shape with
  | .one entry => (entry "").kind
  | .two entry => (entry "" "").kind
  | .three entry => (entry "" "" "").kind
  | .named entry => (entry "" "").kind
  | .expression entry => (entry "").kind
  | .bare e => e.kind
  | .spanning _ => .docOverride

/-! ### Families of shapes -/

/-- The shapes of the forms and the kinds of what they declare.  A shape that takes one name where
another takes two uses it for both. -/
inductive Shape.Declares : Shape → EntryKind → Prop where
  | inherits : Declares (.one fun a => .inherits (.ofType a)) .inheritance
  | inheritsIntrinsic : Declares (.expression fun x => .inherits (.intrinsic x)) .inheritance
  | methodNamed (isStatic : Bool) : Declares (.two (methodEntry isStatic)) .method
  | method (isStatic : Bool) : Declares (.one fun a => methodEntry isStatic a a) .method
  | getterNamed (p : Placement) (readonly lazy : Bool) :
    Declares (.two (getterEntry p readonly lazy)) .property
  | getter (p : Placement) (readonly lazy : Bool) :
    Declares (.one fun a => getterEntry p readonly lazy a a) .property
  | accessor (p : Placement) : Declares (.three (accessorEntry p)) .property
  | callable : Declares (.one .callable) .callable
  | wildcard : Declares (.one .wildcard) .wildcard
  | constantNamed : Declares (.named fun a x => .constant ⟨a, x⟩) .constant
  | constant : Declares (.one fun a => .constant ⟨a, a⟩) .constant
  | nestedTypeNamed : Declares (.two fun bound js => .nestedType ⟨js, bound⟩) .nestedType
  | nestedType : Declares (.one fun a => .nestedType ⟨a, a⟩) .nestedType
  | iterator (kind : HookKind) : Declares (.one fun a => .iterator ⟨kind, a⟩) .iterator
  | disposer (kind : HookKind) : Declares (.one fun a => .disposer ⟨kind, a⟩) .disposer
  | serialization (oneWay : Bool) :
    Declares (.expression fun x => .serialization ⟨oneWay, x⟩) .serialization
  | root : Declares (.bare (.docOverride ⟨.root, "(root type)"⟩)) .docOverride
  | spanning (kind : OverrideKind) : Declares (.spanning kind) .docOverride
  | scriptBundle : Declares (.one .scriptBundle) .scriptBundle

/-- **Every form is of one of the families.** -/
theorem declares_of_mem_forms : ∀ f ∈ forms, f.shape.Declares f.kind := by
  simp only [forms, List.forall_mem_cons, List.not_mem_nil, false_imp_iff, implies_true, and_true]
  and_intros <;> constructor

/-! ### What forms make -/

/-- The claims that a shape makes. -/
inductive Shape.Makes : Shape → Claim → Prop
  | one (entry : String → Entry) (a : String) : Makes (.one entry) (.entry (entry a))
  | two (entry : String → String → Entry) (a b : String) :
    Makes (.two entry) (.entry (entry a b))
  | three (entry : String → String → String → Entry) (a b c : String) :
    Makes (.three entry) (.entry (entry a b c))
  | named (entry : String → String → Entry) (a x : String) :
    Makes (.named entry) (.entry (entry a x))
  | expression (entry : String → Entry) (x : String) :
    Makes (.expression entry) (.entry (entry x))
  | bare (e : Entry) : Makes (.bare e) (.entry e)
  | spanning (kind : OverrideKind) : Makes (.spanning kind) (.spanning kind)

/-- What a shape makes is of the kind that it declares. -/
theorem Shape.Declares.kind_of_makes {shape : Shape} {k : EntryKind} (h : shape.Declares k)
    {x : Claim} (hx : shape.Makes x) : x.kind = k := by
  cases h <;> cases hx <;> rfl

namespace Form

/-- **A form makes one kind of entry.** -/
theorem kind_of_makes {f : Form} (hf : f ∈ forms) {x : Claim} (h : f.shape.Makes x) :
    x.kind = f.kind :=
  (declares_of_mem_forms f hf).kind_of_makes h

theorem makes_of_arguments? {shape : Shape} {s r : List Char} {x : Claim}
    (h : arguments? shape s = some (x, r)) : shape.Makes x := by
  cases shape <;> simp only [arguments?, Option.bind_eq_bind, Option.bind_eq_some_iff,
    Option.some.injEq, Prod.mk.injEq] at h
  case one entry =>
    obtain ⟨a, -, -, -, rfl, -⟩ := h
    exact .one entry _
  case two entry =>
    obtain ⟨a, -, -, -, b, -, -, -, rfl, -⟩ := h
    exact .two entry _ _
  case three entry =>
    obtain ⟨a, -, -, -, b, -, -, -, c, -, -, -, rfl, -⟩ := h
    exact .three entry _ _ _
  case named entry =>
    obtain ⟨a, -, -, -, x, -, rfl, -⟩ := h
    exact .named entry _ _
  case expression entry =>
    obtain ⟨x, -, rfl, -⟩ := h
    exact .expression entry _
  case bare e =>
    obtain ⟨rfl, -⟩ := h
    exact .bare e
  case spanning kind =>
    obtain ⟨rfl, -⟩ := h
    exact .spanning kind

/-- A line is claimed for a call that stands on it. -/
theorem exists_arguments?_of_claim? {f : Form} {l : Line} {x : Claim} (h : f.claim? l = some x) :
    ∃ v s r, v <:+ l ∧ opening? f.name v = some s ∧ arguments? f.shape s = some (x, r) := by
  obtain ⟨⟨y, r⟩, hmatch, rfl⟩ := Option.map_eq_some_iff.mp h
  obtain ⟨u, v, rfl, hv⟩ := exists_of_firstMatch hmatch
  unfold atWordStart at hv
  split at hv
  · exact absurd hv (by simp)
  · obtain ⟨s, hs, harguments⟩ := Option.bind_eq_some_iff.mp hv
    exact ⟨v, s, r, List.suffix_append u v, hs, harguments⟩

theorem makes_of_claim? {f : Form} {l : Line} {x : Claim} (h : f.claim? l = some x) :
    f.shape.Makes x := by
  obtain ⟨_, _, _, -, -, harguments⟩ := exists_arguments?_of_claim? h
  exact makes_of_arguments? harguments

end Form

end DeclAtlas
