import DeclAtlas.Proofs.Interface.Claims
import DeclAtlas.Proofs.Interface.Confinement
import DeclAtlas.Proofs.Interface.Markers
import DeclAtlas.Proofs.Text.Occurrences

/-!
# Texts of an interface

What an interface says, it says in texts, and each of them has a property that all the texts have which
it is put together from (`Interface.EveryText`).  An entry takes its texts from the arguments of the form
that claims its line, and a form takes its arguments from the line itself, or from the lines a call goes
on over, trimmed and joined by spaces (`everyText_of_mem_entries`).  No line holds a line feed, and
therefore no text of the interface does (`oneLine_of_readResource`).

The iterator declarations are left out.  They do not come from lines, but from the whole text of a file.
-/

namespace DeclAtlas

open Text Nesting

/-! ### Every text -/

section EveryText

variable (P : String → Prop)

/-- What is inherited from. -/
def Inheritance.target : Inheritance → String
  | .ofType t => t
  | .intrinsic t => t

/-- Both names of a method have a property. -/
def Method.EveryText (m : Method) : Prop := P m.jsName ∧ P m.boundName

/-- All names of a property of scripts have a property. -/
def Property.EveryText (p : Property) : Prop := P p.jsName ∧ P p.getter ∧ ∀ s ∈ p.setter, P s

/-- The name and the value of a constant have a property. -/
def Constant.EveryText (c : Constant) : Prop := P c.jsName ∧ P c.expression

/-- Both names of a member type have a property. -/
def NestedType.EveryText (t : NestedType) : Prop := P t.jsName ∧ P t.boundType

/-- Every text of an entry has a property. -/
def Entry.EveryText : Entry → Prop
  | .inherits x => P x.target
  | .method m => m.EveryText P
  | .property p => p.EveryText P
  | .callable m => P m
  | .wildcard g => P g
  | .constant c => c.EveryText P
  | .nestedType t => t.EveryText P
  | .iterator h => P h.method
  | .disposer h => P h.method
  | .serialization t => P t.tag
  | .docOverride o => P o.content
  | .scriptBundle b => P b

/-- Every text of an interface has a property. -/
structure Interface.EveryText (i : Interface) : Prop where
  typeName : P i.typeName
  file : P i.location.file
  condition : ∀ c, i.registration = .resource (some c) → P c
  alsoRegisteredIn : ∀ l ∈ i.alsoRegisteredIn, P l.file
  inheritedFrom : ∀ x ∈ i.inheritedFrom, P x.target
  methods : ∀ m ∈ i.methods, m.EveryText P
  properties : ∀ p ∈ i.properties, p.EveryText P
  constants : ∀ c ∈ i.constants, c.EveryText P
  nestedTypes : ∀ t ∈ i.nestedTypes, t.EveryText P
  iterators : ∀ h ∈ i.iterators, P h.method
  disposers : ∀ h ∈ i.disposers, P h.method
  serializationTag : ∀ t ∈ i.serializationTag, P t.tag
  callableVia : ∀ m ∈ i.callableVia, P m
  wildcardGetter : ∀ g ∈ i.wildcardGetter, P g
  docOverrides : ∀ o ∈ i.docOverrides, P o.content
  scriptBundles : ∀ b ∈ i.scriptBundles, P b
  iteratorDeclarations : ∀ d ∈ i.iteratorDeclarations, P d
  structFields : ∀ f ∈ i.structFields, P f.jsName ∧ P f.boundName

end EveryText

section Growth

variable {P : String → Prop}

theorem forall_mem_append_singleton {α : Type} {Q : α → Prop} {xs : List α} {x : α}
    (hxs : ∀ y ∈ xs, Q y) (hx : Q x) : ∀ y ∈ xs ++ [x], Q y :=
  List.forall_mem_append.mpr ⟨hxs, List.forall_mem_singleton.mpr hx⟩

theorem forall_mem_appendNew {α : Type} {Q : α → Prop} {same : α → α → Bool} {xs : List α} {x : α}
    (hxs : ∀ y ∈ xs, Q y) (hx : Q x) : ∀ y ∈ Interface.appendNew same xs x, Q y := fun y hy =>
  (mem_appendNew hy).elim (hxs y) fun heq => heq ▸ hx

theorem forall_mem_some {α : Type} {Q : α → Prop} {x : α} (hx : Q x) : ∀ y ∈ some x, Q y :=
  fun _ hy => Option.some.inj hy ▸ hx

/-- **One entry more.** -/
theorem Interface.EveryText.add {i : Interface} (hi : i.EveryText P) {e : Entry}
    (he : e.EveryText P) : (i.add e).EveryText P := by
  cases e with
  | inherits x => exact { hi with inheritedFrom := forall_mem_append_singleton hi.inheritedFrom he }
  | method m => exact { hi with methods := forall_mem_appendNew hi.methods he }
  | property p => exact { hi with properties := forall_mem_appendNew hi.properties he }
  | callable m => exact { hi with callableVia := forall_mem_some he }
  | wildcard g => exact { hi with wildcardGetter := forall_mem_some he }
  | constant c => exact { hi with constants := forall_mem_append_singleton hi.constants he }
  | nestedType t => exact { hi with nestedTypes := forall_mem_append_singleton hi.nestedTypes he }
  | iterator h => exact { hi with iterators := forall_mem_append_singleton hi.iterators he }
  | disposer h => exact { hi with disposers := forall_mem_append_singleton hi.disposers he }
  | serialization t => exact { hi with serializationTag := forall_mem_some he }
  | docOverride o => exact { hi with docOverrides := forall_mem_append_singleton hi.docOverrides he }
  | scriptBundle b =>
    exact { hi with scriptBundles := forall_mem_append_singleton hi.scriptBundles he }

theorem Interface.EveryText.addAll {i : Interface} (hi : i.EveryText P) {es : List Entry}
    (hes : ∀ e ∈ es, e.EveryText P) : (i.addAll es).EveryText P := by
  induction es generalizing i with
  | nil => exact hi
  | cons e es ih =>
    obtain ⟨he, hes⟩ := List.forall_mem_cons.mp hes
    exact ih (hi.add he) hes

end Growth

/-! ### Texts of a claim -/

section Claims

variable {P : String → Prop}

/-- A shape makes entries whose texts have a property of arguments that have it. -/
def Shape.Keeps (P : String → Prop) : Shape → Prop
  | .one entry => ∀ a, P a → (entry a).EveryText P
  | .two entry => ∀ a b, P a → P b → (entry a b).EveryText P
  | .three entry => ∀ a b c, P a → P b → P c → (entry a b c).EveryText P
  | .named entry => ∀ a x, P a → P x → (entry a x).EveryText P
  | .expression entry => ∀ x, P x → (entry x).EveryText P
  | .bare e => e.EveryText P
  | .spanning _ => True

/-- **Every form keeps a property of its arguments**, if the text of the roots has it. -/
theorem Shape.Declares.keeps {shape : Shape} {k : EntryKind} (hroot : P "(root type)")
    (h : shape.Declares k) : shape.Keeps P := by
  cases h <;>
  simp +contextual [Shape.Keeps, Entry.EveryText, Method.EveryText, Property.EveryText,
    Constant.EveryText, NestedType.EveryText, Inheritance.target, methodEntry, getterEntry,
    accessorEntry, hroot]

theorem infix_of_argument? {s r : List Char} {a : String} (h : Form.argument? s = some (a, r)) :
    a.toList <:+: s ∧ r <:+ s := by
  simp only [Form.argument?, Option.bind_eq_bind, Option.bind_eq_some_iff, Option.some.injEq,
    Prod.mk.injEq] at h
  obtain ⟨⟨w, t⟩, hw, rfl, rfl⟩ := h
  obtain ⟨hs, -, -⟩ := run?_eq_some hw
  rw [String.toList_ofList]
  constructor
  · have hfirst : w <:+: trimStart s := hs ▸ (List.prefix_append w t).isInfix
    exact hfirst.trans (suffix_trimStart s).isInfix
  · exact (suffix_trimStart t).trans ((suffix_of_run? hw).trans (suffix_trimStart s))

theorem infix_of_expression? {s r : List Char} {x : String}
    (h : Form.expression? s = some (x, r)) : x.toList <:+: s ∧ r <:+ s := by
  simp only [Form.expression?, Option.bind_eq_bind, Option.bind_eq_some_iff, Option.some.injEq,
    Prod.mk.injEq] at h
  obtain ⟨⟨w, t⟩, hw, u, hu, rfl, rfl⟩ := h
  obtain ⟨rfl, -, -⟩ := run?_eq_some hw
  rw [String.toList_ofList]
  constructor
  · exact (infix_trim w).trans (List.prefix_append w t).isInfix
  · exact (suffix_of_literal? hu).trans (List.suffix_append w t)

/-- **What an entry says is said by its arguments**, which stand in the text they are read from. -/
theorem Shape.Keeps.everyText {shape : Shape} (hkeeps : shape.Keeps P) {s r : List Char}
    (hP : ∀ a : String, a.toList <:+: s → P a) {e : Entry}
    (h : Form.arguments? shape s = some (.entry e, r)) : e.EveryText P := by
  -- each argument stands in what the readings before it have left of the text
  cases shape <;> simp only [Form.arguments?, Option.bind_eq_bind, Option.bind_eq_some_iff,
    Option.some.injEq, Prod.mk.injEq, Claim.entry.injEq] at h
  case one entry =>
    obtain ⟨⟨a, s₁⟩, ha, -, -, rfl, -⟩ := h
    exact hkeeps a (hP a (infix_of_argument? ha).1)
  case two entry =>
    obtain ⟨⟨a, s₁⟩, ha, s₂, hs₂, ⟨b, s₃⟩, hb, -, -, rfl, -⟩ := h
    obtain ⟨ha, hs₁⟩ := infix_of_argument? ha
    obtain ⟨hb, -⟩ := infix_of_argument? hb
    have hs₂ := (suffix_of_literal? hs₂).trans hs₁
    exact hkeeps a b (hP a ha) (hP b (hb.trans hs₂.isInfix))
  case three entry =>
    obtain ⟨⟨a, s₁⟩, ha, s₂, hs₂, ⟨b, s₃⟩, hb, s₄, hs₄, ⟨c, s₅⟩, hc, -, -, rfl, -⟩ := h
    obtain ⟨ha, hs₁⟩ := infix_of_argument? ha
    obtain ⟨hb, hs₃⟩ := infix_of_argument? hb
    obtain ⟨hc, -⟩ := infix_of_argument? hc
    have hs₂ := (suffix_of_literal? hs₂).trans hs₁
    have hs₄ := (suffix_of_literal? hs₄).trans (hs₃.trans hs₂)
    exact hkeeps a b c (hP a ha) (hP b (hb.trans hs₂.isInfix)) (hP c (hc.trans hs₄.isInfix))
  case named entry =>
    obtain ⟨⟨a, s₁⟩, ha, s₂, hs₂, ⟨x, s₃⟩, hx, rfl, -⟩ := h
    obtain ⟨ha, hs₁⟩ := infix_of_argument? ha
    obtain ⟨hx, -⟩ := infix_of_expression? hx
    have hs₂ := (suffix_of_literal? hs₂).trans hs₁
    exact hkeeps a x (hP a ha) (hP x (hx.trans hs₂.isInfix))
  case expression entry =>
    obtain ⟨⟨x, s₁⟩, hx, rfl, -⟩ := h
    exact hkeeps x (hP x (infix_of_expression? hx).1)
  case bare e' =>
    obtain ⟨rfl, -⟩ := h
    exact hkeeps
  case spanning kind =>
    obtain ⟨hentry, -⟩ := h
    cases hentry

theorem suffix_of_opening? {name : String} {s r : List Char} (h : Form.opening? name s = some r) :
    r <:+ s := by
  obtain ⟨a, rfl⟩ := opening?_eq_some_iff.mp h
  exact ⟨name.toList ++ (a.text ++ ['(']), by simp⟩

/-- What is claimed on a line stands on the line. -/
theorem Form.everyText_of_claim? (hroot : P "(root type)") {f : Form} (hf : f ∈ forms) {l : Line}
    (hP : ∀ a : String, a.toList <:+: l → P a) {e : Entry} (h : f.claim? l = some (.entry e)) :
    e.EveryText P := by
  obtain ⟨v, s, r, hv, hs, harguments⟩ := exists_arguments?_of_claim? h
  have hkeeps := (declares_of_mem_forms f hf).keeps hroot
  refine hkeeps.everyText (fun a ha => hP a (ha.trans ?_)) harguments
  exact ((suffix_of_opening? hs).trans hv).isInfix

theorem prefix_of_cutLast? {c : Char} {s a b : List Char} (h : cutLast? c s = some (a, b)) :
    a <+: s := by
  unfold cutLast? at h
  split at h
  · exact nomatch h
  · rename_i d lead hlead
    obtain ⟨rfl, -⟩ := Prod.mk.inj (Option.some.inj h)
    have hsuffix : lead <:+ s.reverse :=
      (List.suffix_cons d lead).trans (hlead ▸ List.dropWhile_suffix _)
    rw [← List.reverse_prefix, List.reverse_reverse] at hsuffix
    exact hsuffix

theorem infix_outerArgument (s : List Char) : outerArgument s <:+: s := by
  unfold outerArgument
  split
  · exact infix_trim s
  · rename_i c r hopen
    have hr : r <:+ s := (List.suffix_cons c r).trans (hopen ▸ List.dropWhile_suffix _)
    split
    · rename_i inner rest hcut
      exact (infix_trim inner).trans ((prefix_of_cutLast? hcut).isInfix.trans hr.isInfix)
    · exact infix_trim s

theorem infix_argumentOf (name s : List Char) : argumentOf name s <:+: s := by
  unfold argumentOf
  cases hfind : findFrom? name s with
  | none => exact infix_outerArgument s
  | some t => exact (infix_outerArgument t).trans (suffix_of_findFrom? hfind).isInfix

/-- **What a block registers stands in it**, in some of its lines, trimmed and joined by spaces. -/
theorem everyText_of_mem_entries {block : List Line} (hroot : P "(root type)")
    (hP : ∀ ls, ls <:+: block → ∀ a : String, a.toList <:+: joinWith [' '] (ls.map trim) → P a)
    {e : Entry} (he : e ∈ entries block) : e.EveryText P := by
  obtain ⟨n, l, f, x, later, hclaimed, hdrop, hx, rfl⟩ := exists_claimed_of_mem_entries he
  have hlines : l :: later <:+: block := hdrop ▸ (List.drop_suffix n block).isInfix
  cases x with
  | entry e =>
    refine Form.everyText_of_claim? hroot hclaimed.mem_forms (fun a ha => ?_) hx
    exact hP [l] ((List.prefix_append [l] later).isInfix.trans hlines) a ha
  | spanning kind =>
    refine hP (takeBalanced parenDelta 0 (l :: later)) ?_ _ ?_
    · exact (takeBalanced_isPrefix parenDelta 0 (l :: later)).isInfix.trans hlines
    · show (String.ofList _).toList <:+: _
      rw [String.toList_ofList]
      exact infix_argumentOf _ _

end Claims

/-! ### Texts of a registration -/

/-- A text on one line. -/
def OneLine (s : String) : Prop := '\n' ∉ s.toList

instance (s : String) : Decidable (OneLine s) := inferInstanceAs (Decidable ('\n' ∉ s.toList))

theorem oneLine_append {s t : String} : OneLine (s ++ t) ↔ OneLine s ∧ OneLine t := by
  simp [OneLine, not_or]

theorem newline_notMem_joinWith {ls : List Line} (h : ∀ l ∈ ls, '\n' ∉ l) :
    '\n' ∉ joinWith [' '] ls := by
  cases ls with
  | nil => exact List.not_mem_nil
  | cons l ls =>
    obtain ⟨hl, hls⟩ := List.forall_mem_cons.mp h
    simpa [joinWith_cons_eq_append, hl] using hls

theorem oneLine_of_infix {t : String} {s : List Char} (ht : t.toList <:+: s) (hs : '\n' ∉ s) :
    OneLine t := fun h => hs (ht.subset h)

theorem oneLine_of_mem_entries {block : List Line} (h : ∀ l ∈ block, '\n' ∉ l) {e : Entry}
    (he : e ∈ entries block) : e.EveryText OneLine := by
  refine everyText_of_mem_entries (by decide) (fun ls hls a ha => ?_) he
  refine oneLine_of_infix ha (newline_notMem_joinWith fun l hl => ?_)
  obtain ⟨m, hm, rfl⟩ := List.mem_map.mp hl
  exact fun hnewline => h m (hls.subset hm) ((infix_trim m).subset hnewline)

theorem subset_of_blockAt? {ls : List Line} {n : Nat} {b : Block} (h : blockAt? ls n = some b) :
    b.lines ⊆ ls := by
  obtain ⟨k, -, rfl⟩ := Option.map_eq_some_iff.mp h
  have htaken := takeBalanced_isPrefix braceDelta 0 (ls.drop (n + k))
  exact fun l hl => List.mem_of_mem_drop (htaken.subset hl)

theorem suffix_of_afterBlanks {k : List Char → Option (List Char)}
    (hk : ∀ {s r}, k s = some r → r <:+ s) {s r : List Char} (h : afterBlanks k s = some r) :
    r <:+ s := by
  induction s with
  | nil => exact hk h
  | cons c s ih =>
    rw [afterBlanks] at h
    split at h
    · rcases Option.or_eq_some_iff.mp h with h | ⟨-, h⟩
      · exact (ih h).trans (List.suffix_cons c s)
      · exact hk h
    · exact hk h

theorem suffix_of_nameAt? {name s r : List Char} (h : nameAt? name s = some r) : r <:+ s := by
  obtain ⟨hlead, -⟩ := Option.filter_eq_some_iff.mp h
  exact ⟨name, (dropLead?_eq_some.mp hlead).symm⟩

theorem infix_of_condition? {s : List Char} {c : String} (h : condition? s = some c) :
    c.toList <:+: s := by
  unfold condition? at h
  split at h
  · exact nomatch h
  · rename_i r hcomma
    dsimp only at h
    split at h
    · exact nomatch h
    · obtain rfl := Option.some.inj h
      have hr := (suffix_of_literal? hcomma).trans (suffix_trimStart s)
      rw [String.toList_ofList]
      exact (infix_trim _).trans ((List.takeWhile_prefix _).isInfix.trans hr.isInfix)

/-- What is known of a marker stands on its line. -/
theorem infix_of_findMarker? {name : List Char} {ls : List Line} {n : Nat}
    {condition : Option String} (h : findMarker? name ls = some (n, condition)) :
    ∃ l ∈ ls, name <:+: l ∧ ∀ c, condition = some c → c.toList <:+: l := by
  obtain ⟨⟨l, k⟩, hl, hfound⟩ := List.exists_of_findSome?_eq_some h
  obtain ⟨condition', hmatch, heq⟩ := Option.map_eq_some_iff.mp hfound
  obtain ⟨-, rfl⟩ := Prod.mk.inj heq
  obtain ⟨u, v, r, rfl, hmarker⟩ := exists_of_findMatch? hmatch
  refine ⟨u ++ v, (List.mem_zipIdx hl).2.2 ▸ List.getElem_mem _, ?_, fun c hc => ?_⟩
  · obtain ⟨a, b, r, rfl, -⟩ := isSome_marker?_iff.mp (Option.isSome_iff_exists.mpr ⟨_, hmarker⟩)
    exact ⟨u ++ (resourceMacro.toList ++ (a.text ++ '(' :: b.text)), r, by simp⟩
  · simp only [marker?, Option.bind_eq_bind, Option.bind_eq_some_iff, Option.some.injEq,
      Prod.mk.injEq] at hmarker
    obtain ⟨s, hs, t, ht, hcondition, -⟩ := hmarker
    have hv := (suffix_of_afterBlanks suffix_of_nameAt? ht).trans (suffix_of_opening? hs)
    exact (infix_of_condition? (hcondition.trans hc)).trans
      (hv.trans (List.suffix_append u v)).isInfix

/-- **Every text of an interface is on one line**, if the name of the file is, except for its iterator
declarations. -/
theorem oneLine_of_readResource {typeName file content : String} {i : Interface}
    (h : readResource typeName file content = .ok i) (hfile : OneLine file) :
    ({ i with iteratorDeclarations := [] } : Interface).EveryText OneLine := by
  obtain ⟨n, condition, b, hmarker, hblock, rfl⟩ := Interface.exists_of_readResource h
  have hlines : ∀ l ∈ linesOf content, '\n' ∉ l := fun l => newline_notMem_of_mem_lines
  obtain ⟨l, hl, hname, hcondition⟩ := infix_of_findMarker? hmarker
  have hempty : ({ Interface.empty typeName (.resource condition) with
      location := ⟨file, n + 1⟩ } : Interface).EveryText OneLine := by
    constructor
    case typeName => exact oneLine_of_infix hname (hlines l hl)
    case file => exact hfile
    case condition =>
      intro c hc
      exact oneLine_of_infix (hcondition c (Registration.resource.inj hc)) (hlines l hl)
    all_goals exact nofun
  have hregistered := hempty.addAll fun e he =>
    oneLine_of_mem_entries (fun k hk => hlines k (subset_of_blockAt? hblock hk)) he
  exact { hregistered with iteratorDeclarations := nofun }

end DeclAtlas
