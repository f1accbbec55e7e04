import DeclAtlas.Proofs.Interface.Conditions
import DeclAtlas.Proofs.Interface.FieldLists
import DeclAtlas.Proofs.Interface.Owners
import DeclAtlas.Proofs.Interface.StructBodies
import Mathlib.Data.List.Forall2

/-!
# Files that register a value struct

A value struct is written in a file as a declaration, a body with the call that lists the fields,
and a closing brace (`StructText`).  Four readers have to come together for it: the one that looks
for the call, the one that looks upwards from it for the declaration, the one that reads the fields,
and the one that reads the overrides down to the closing brace.  If the call and the declaration are
the only ones in the file, the call stands in reach and the braces of the body match (`StructFile`),
each of them comes to the right lines:

* `findStruct?_lines`: the call and the declaration are found;
* `blockAt?_lines`: the block of the declaration ends with its closing line;
* `exists_structOverrides`: the overrides in the body are recorded, and nothing else is, but for
  what the line of the declaration itself may mention.

So the struct is read back, as long as the name of the type is not too long to be looked for at all
(`readStruct?_structFile`, `readStruct?_of_long_name`).
-/

namespace DeclAtlas

open Text Nesting

/-! ### Declarations on a line -/

theorem Clause.startsIn_not_word (k : Clause) {r : List Char} (hr : StartsIn (isWord · = false) r) :
    StartsIn (isWord · = false) (k.text ++ r) := by
  have hbases : StartsIn (isWord · = false) (k.bases ++ r) := by
    rcases k.bases_eq with h | ⟨s, h, -⟩
    · rwa [h]
    · rw [h]
      exact startsIn_cons (by decide)
  rw [Clause.text, List.append_assoc, List.append_assoc, List.append_assoc]
  rcases k.mark_eq with h | ⟨-, hne⟩
  · rw [h]
    exact k.before.startsIn_not_word (k.after.startsIn_not_word hbases)
  · exact startsIn_append_of_ne_nil hne fun c hc => isWord_eq_false_of_isBlank (k.before.blank c hc)

/-- A text that begins with a declaration of the type. -/
def BeginsWithKeyword (typeName s : List Char) : Prop :=
  ∃ (keyword : List Char) (g : Gap) (r : List Char), keyword ∈ ["class".toList, "struct".toList] ∧
    s = keyword ++ (g.text ++ (typeName ++ r)) ∧ boundaryAfter typeName r = true

theorem isSome_declaration?_iff {typeName s : List Char} :
    (declaration? typeName s).isSome = true ↔ BeginsWithKeyword typeName s := by
  constructor
  · intro h
    obtain ⟨x, hx⟩ := Option.isSome_iff_exists.mp h
    simp only [declaration?, Option.bind_eq_bind, Option.bind_eq_some_iff] at hx
    obtain ⟨t, ht, hrest⟩ := hx
    have hs : ∃ keyword ∈ ["class".toList, "struct".toList], s = keyword ++ t := by
      rcases Option.or_eq_some_iff.mp ht with hclass | ⟨-, hstruct⟩
      · exact ⟨_, List.mem_cons_self, literal?_eq_some.mp hclass⟩
      · exact ⟨_, List.mem_cons_of_mem _ List.mem_cons_self, literal?_eq_some.mp hstruct⟩
    obtain ⟨keyword, hkeyword, rfl⟩ := hs
    cases t with
    | nil => exact absurd hrest nofun
    | cons c t =>
      dsimp only at hrest
      split at hrest
      · rename_i hc
        obtain ⟨w, hw, -⟩ := Option.bind_eq_some_iff.mp hrest
        obtain ⟨b, v, rfl, hname⟩ :=
          isSome_afterBlanks_iff.mp (Option.isSome_iff_exists.mpr ⟨w, hw⟩)
        obtain ⟨r, rfl, hboundary⟩ := isSome_nameAt?_iff.mp hname
        let g : Gap := ⟨⟨c :: b.text, List.forall_mem_cons.mpr ⟨hc, b.blank⟩⟩, List.cons_ne_nil _ _⟩
        exact ⟨keyword, g, r, hkeyword, rfl, hboundary⟩
      · exact absurd hrest nofun
  · rintro ⟨keyword, ⟨⟨gap, hblank⟩, hne⟩, r, hkeyword, rfl, hboundary⟩
    obtain ⟨c, gap, rfl⟩ := List.exists_cons_of_ne_nil hne
    obtain ⟨hc, hgap⟩ := List.forall_mem_cons.mp hblank
    have hname : (afterBlanks (nameAt? typeName) (gap ++ (typeName ++ r))).isSome = true :=
      isSome_afterBlanks_iff.mpr ⟨⟨gap, hgap⟩, _, rfl, isSome_nameAt?_iff.mpr ⟨r, rfl, hboundary⟩⟩
    obtain ⟨w, hw⟩ := Option.isSome_iff_exists.mp hname
    have hread : (literal? "class" (keyword ++ (c :: gap ++ (typeName ++ r)))).or
        (literal? "struct" (keyword ++ (c :: gap ++ (typeName ++ r)))) =
          some (c :: gap ++ (typeName ++ r)) := by
      obtain rfl | rfl : keyword = "class".toList ∨ keyword = "struct".toList := by
        simpa using hkeyword
      · rw [literal?_eq_some.mpr rfl, Option.some_or]
      · exact literal?_eq_some.mpr rfl
    rw [declaration?]
    dsimp only
    rw [hread, Option.bind_eq_bind, Option.bind_some, List.cons_append]
    dsimp only
    rw [if_pos hc, hw]
    rfl

/-- **What stands on a line that declares a type.** -/
theorem declares_iff {typeName l : List Char} :
    declares typeName l = true ↔ ∃ u v, l = u ++ v ∧ BeginsWithKeyword typeName v := by
  rw [declares, isSome_findMatch?_iff]
  simp only [isSome_declaration?_iff]

/-- A declaration is a mention of its type. -/
theorem DeclarationHead.declares (w : Word) (h : DeclarationHead w.text) (u : List Char)
    {r : List Char}
    (hr : StartsIn (isWord · = false) r) : declares w.text (u ++ (h.text ++ r)) = true := by
  refine declares_iff.mpr ⟨u, _, rfl, h.keyword, h.gap, h.clause.text ++ r, h.keyword_mem, ?_,
    (boundaryAfter_iff w).mpr (h.clause.startsIn_not_word hr)⟩
  simp only [DeclarationHead.text, List.append_assoc]

/-! ### Files -/

/-- A declaration of a value struct, and what stands around it in a file. -/
structure StructText where
  /-- The lines before the declaration. -/
  above : List Line
  /-- The blanks before the declaration. -/
  indent : Blanks
  name : Word
  head : DeclarationHead name.text
  /-- The blanks behind the opening brace. -/
  pad : Blanks
  /-- The body before the call. -/
  upper : List BodyPart
  call : FieldCall
  /-- The body behind the call. -/
  lower : List BodyPart
  /-- The blanks before the closing brace. -/
  outdent : Blanks
  /-- The blanks behind it and its semicolon. -/
  trail : Blanks
  /-- The lines behind the declaration. -/
  below : List Line

namespace StructText

variable (t : StructText)

/-- The line of the declaration. -/
def opening : Line := t.indent.text ++ (t.head.text ++ '{' :: t.pad.text)

/-- The line of the closing brace. -/
def closing : Line := t.outdent.text ++ '}' :: ';' :: t.trail.text

/-- The lines between them. -/
def body : List Line := bodyLines t.upper ++ (t.call.lines ++ bodyLines t.lower)

/-- The lines of the file. -/
def lines : List Line := t.above ++ t.opening :: (t.body ++ t.closing :: t.below)

/-- The number of the line of the declaration, counted from 0. -/
def declared : Nat := t.above.length

/-- The number of the line on which the call begins, counted from 0. -/
def registered : Nat := t.above.length + 1 + (bodyLines t.upper).length

/-- The overrides in the body, in order. -/
def calls : List OverrideCall := bodyCalls t.upper ++ bodyCalls t.lower

end StructText

/-- No brace that is open before a text is closed in it, and none is left open. -/
def BracesMatch (s : List Char) : Prop := afterClosing? 1 s = none ∧ braceDelta s = 0

instance (s : List Char) : Decidable (BracesMatch s) := inferInstanceAs (Decidable (_ ∧ _))

/-- A file that registers one value struct, and declares its type once. -/
structure StructFile extends StructText where
  in_reach : (bodyLines upper).length < lookback
  silent : ∀ l ∈ call.lines, Silent l
  braces : BracesMatch toStructText.body.flatten
  registers_once : ∀ n, Registers toStructText.lines n → n = toStructText.registered
  mentions_once : ∀ n, Mentions name.text toStructText.lines n → n = toStructText.declared

namespace StructText

variable (t : StructText)

theorem drop_declared :
    t.lines.drop t.declared = t.opening :: (t.body ++ t.closing :: t.below) := List.drop_left

theorem drop_registered :
    t.lines.drop t.registered = t.call.lines ++ (bodyLines t.lower ++ t.closing :: t.below) := by
  rw [registered, Nat.add_assoc, ← List.drop_drop, show t.above.length = t.declared from rfl,
    t.drop_declared, Nat.add_comm 1, List.drop_succ_cons, body, List.append_assoc,
    List.append_assoc, List.drop_left]

theorem mentions_declared : Mentions t.name.text t.lines t.declared := by
  refine ⟨t.opening, ?_, ?_⟩
  · have hat := congrArg (·[0]?) t.drop_declared
    rwa [List.getElem?_drop, Nat.add_zero] at hat
  · exact t.head.declares t.name t.indent.text (startsIn_cons (by decide))

theorem registers_registered : Registers t.lines t.registered := by
  refine ⟨t.call.call.head, ?_, t.call.isStructMarker_head⟩
  have hat := congrArg (·[0]?) t.drop_registered
  rw [List.getElem?_drop, Nat.add_zero, FieldCall.lines, t.call.call.lines_eq] at hat
  exact hat

/-! ### The block -/

theorem braceDelta_opening : braceDelta t.opening = 1 := by
  have hhead : delta '{' '}' (t.indent.text ++ t.head.text) = 0 := by
    refine delta_eq_zero ?_ ?_ <;> rw [List.mem_append, not_or]
    · exact ⟨t.indent.notMem (by decide), t.head.notMem (by decide)⟩
    · exact ⟨t.indent.notMem (by decide), t.head.notMem (by decide)⟩
  have hpad : delta '{' '}' t.pad.text = 0 :=
    delta_eq_zero (t.pad.notMem (by decide)) (t.pad.notMem (by decide))
  rw [opening, ← List.append_assoc, braceDelta, delta_append, delta_cons, hhead, hpad]
  rfl

theorem braceDelta_closing : braceDelta t.closing = -1 := by
  have houtdent : delta '{' '}' t.outdent.text = 0 :=
    delta_eq_zero (t.outdent.notMem (by decide)) (t.outdent.notMem (by decide))
  have htrail : delta '{' '}' t.trail.text = 0 :=
    delta_eq_zero (t.trail.notMem (by decide)) (t.trail.notMem (by decide))
  rw [closing, braceDelta, delta_append, delta_cons, delta_cons, houtdent, htrail]
  rfl

theorem parenDelta_opening : parenDelta t.opening = 0 := by
  have hfree : ∀ c ∈ "()".toList, c ∉ t.opening := by
    intro c hc
    have hplain : isBlank c = false ∧ c ≠ '{' ∧ c ∈ "\x7b\x7d;()".toList := by
      obtain rfl | rfl : c = '(' ∨ c = ')' := by simpa using hc
      all_goals decide
    simp only [opening, List.mem_append, List.mem_cons, not_or]
    exact ⟨t.indent.notMem hplain.1, t.head.notMem hplain.2.2, hplain.2.1, t.pad.notMem hplain.1⟩
  exact delta_eq_zero (hfree _ (by decide)) (hfree _ (by decide))

theorem silent_closing : Silent t.closing := by
  have hletter : 'J' ∉ t.closing := by
    simp only [closing, List.mem_append, List.mem_cons, not_or]
    exact ⟨t.outdent.notMem (by decide), by decide, by decide, t.trail.notMem (by decide)⟩
  exact ⟨fun h => hletter (h.subset (by decide)), fun h => hletter (h.subset (by decide))⟩

end StructText

theorem BracesMatch.total_take_nonneg {ls : List Line} (h : BracesMatch ls.flatten) (k : Nat) :
    0 ≤ total braceDelta (ls.take k) := by
  have hpart : afterClosing? 1 (ls.take k).flatten = none := by
    refine afterClosing?_of_append (b := (ls.drop k).flatten) ?_
    rw [← List.flatten_append, List.take_append_drop]
    exact h.1
  have hopen := one_le_add_braceDelta (Int.le_refl 1) hpart
  have htotal : total braceDelta (ls.take k) = braceDelta (ls.take k).flatten := total_delta _ _ _
  omega

namespace StructFile

variable (f : StructFile)

/-- **The call and the declaration are found.** -/
theorem findStruct?_lines :
    findStruct? f.name.text f.lines = some (f.declared, f.registered) := by
  have hreach := f.in_reach
  obtain ⟨⟨o, n⟩, hfound⟩ := exists_findStruct? f.registers_registered f.mentions_declared
    (show f.declared < f.registered by rw [StructText.declared, StructText.registered]; omega)
    (show f.registered ≤ f.declared + lookback by
      rw [StructText.declared, StructText.registered]; omega)
  obtain ⟨hregisters, howner, -⟩ := findStruct?_eq_some hfound
  rw [hfound, f.registers_once n hregisters, f.mentions_once o howner.mentions]

/-- **The block of the declaration ends with its closing line.** -/
theorem blockAt?_lines : blockAt? f.lines f.declared =
    some ⟨f.declared, f.opening :: (f.body ++ [f.closing])⟩ := by
  have hopening : f.opening.contains '{' = true := by
    rw [List.contains_iff_mem, StructText.opening]
    simp
  have hfirst : openingAt? lookahead (f.opening :: (f.body ++ f.closing :: f.below)) = some 0 := by
    rw [openingAt?, lookahead, List.take_succ_cons, List.findIdx?_cons, hopening]
    rfl
  have hopen : ∀ i < (f.opening :: f.body).length,
      0 < 0 + total braceDelta ((f.opening :: f.body).take (i + 1)) := by
    intro i _
    have hpart := f.braces.total_take_nonneg i
    rw [List.take_succ_cons, total_cons, f.braceDelta_opening]
    omega
  have hbody : total braceDelta f.body = 0 := (total_delta _ _ _).trans f.braces.2
  have htaken : takeBalanced braceDelta 0 (f.opening :: (f.body ++ f.closing :: f.below)) =
      f.opening :: (f.body ++ [f.closing]) := by
    rw [← List.cons_append, takeBalanced_append_of_pos hopen, total_cons,
      f.braceDelta_opening, hbody,
      takeBalanced, f.braceDelta_closing, if_pos (by decide)]
    rfl
  rw [blockAt?, f.drop_declared, hfirst, Option.map_some, Nat.add_zero, f.drop_declared, htaken]

theorem bodyLength_lines : bodyLength f.lines f.declared = f.body.length + 2 := by
  rw [bodyLength, f.blockAt?_lines]
  simp only [Block.last, List.length_cons, List.length_append, List.length_nil]
  omega

/-- The body is read up to the closing line. -/
theorem exists_reaches_body : ∃ recorded, List.Forall₂ OverrideCall.Writes f.calls recorded ∧
    Reaches structOverride? (f.body ++ f.closing :: f.below) recorded (f.body.length + 1) := by
  have hclosing : Reaches structOverride? (f.closing :: f.below) [] 1 :=
    .pass (structOverride?_of_silent f.silent_closing _) (.start _)
  obtain ⟨after, hafter, hlower⟩ := exists_reaches_parts f.lower hclosing
  obtain ⟨before, hbefore, hupper⟩ := exists_reaches_parts f.upper (reaches_silent f.silent hlower)
  refine ⟨before ++ after, List.rel_append hbefore hafter, ?_⟩
  rw [List.append_nil, ← List.append_assoc, ← List.append_assoc, ← Nat.add_assoc, ← Nat.add_assoc,
    List.append_assoc (bodyLines f.upper)] at hupper
  rw [StructText.body, List.length_append, List.length_append, ← Nat.add_assoc]
  exact hupper

/-- The line of the declaration takes no other line with it, even if it mentions an override. -/
theorem exists_reaches_opening {later : List Line} {os : List DocOverride} {n : Nat}
    (h : Reaches structOverride? later os n) : ∃ early : Option DocOverride,
      Reaches structOverride? (f.opening :: later) (early.toList ++ os) (n + 1) ∧
        (Silent f.opening → early = none) := by
  cases hkind : structOverrideKind? f.opening with
  | none =>
    have hread : structOverride? f.opening later = none := by
      rw [structOverride?, hkind, Option.map_none]
    exact ⟨none, .pass hread h, fun _ => rfl⟩
  | some kind =>
    have hread : structOverride? f.opening later =
        some ((gatherOverride kind (f.opening :: later)).1, 0) := by
      rw [structOverride?, hkind, Option.map_some, gatherOverride,
        gather_of_balanced (Int.le_of_eq f.parenDelta_opening)]
    have hform := Reaches.form hread (by rwa [List.drop_zero])
    rw [Nat.zero_add] at hform
    refine ⟨some (gatherOverride kind (f.opening :: later)).1, hform, fun hsilent => ?_⟩
    rw [structOverrideKind?_eq_none_iff.mpr hsilent] at hkind
    exact absurd hkind.symm (Option.some_ne_none kind)

/-- **The overrides in the body are recorded.**  Before them stands what is read on the line of the
declaration, and nothing is unless that line mentions an override. -/
theorem exists_structOverrides : ∃ (early : Option DocOverride) (recorded : List DocOverride),
    structOverrides f.lines f.declared = early.toList ++ recorded ∧
      List.Forall₂ OverrideCall.Writes f.calls recorded ∧ (Silent f.opening → early = none) := by
  obtain ⟨recorded, hrecorded, hbody⟩ := f.exists_reaches_body
  obtain ⟨early, hopening, hearly⟩ := f.exists_reaches_opening hbody
  refine ⟨early, recorded, ?_, hrecorded, hearly⟩
  rw [structOverrides_eq, f.drop_declared, f.bodyLength_lines,
    hopening.readForms_eq (Nat.le_refl _),
    Nat.sub_self, readForms_zero, List.append_nil]

end StructFile

/-! ### Reading files -/

/-- **A value struct is read back from its file.**  Whatever the name of the type is, if it is not
too long to be looked for, the struct is found on the line of its call.  Its fields are those of the
call, in order.  The overrides in its body are recorded once and in order; the only other one that
can be recorded is one that the line of the declaration mentions. -/
theorem readStruct?_structFile (f : StructFile) (file content : String)
    (hlines : linesOf content = f.lines)
    (hadmitted : Pattern.isAdmitted (declarationPattern f.name.name) = true) :
    ∃ i, readStruct? f.name.name file content = some i ∧ i.typeName = f.name.name ∧
      i.registration = .valueStruct ∧ i.location = ⟨file, f.registered + 1⟩ ∧
      i.structFields = f.call.fields ∧
      ∃ (early : Option DocOverride) (recorded : List DocOverride),
        i.docOverrides = early.toList ++ recorded ∧
          List.Forall₂ OverrideCall.Writes f.calls recorded ∧
            (Silent f.opening → early = none) := by
  have hname : f.name.name.toList = f.name.text := String.toList_ofList
  have hfound : findStruct? f.name.name.toList (linesOf content) =
    some (f.declared, f.registered) := by
    rw [hname, hlines, f.findStruct?_lines]
  have hfields :
    structFieldsOf (argumentOf structMacro (gather (f.lines.drop f.registered)).joined) =
      f.call.fields := by
    rw [f.drop_registered, f.call.structFieldsOf_gather]
  rw [readStruct?, if_pos hadmitted, Interface.ofStruct?, hfound, hlines]
  exact ⟨_, rfl, rfl, rfl, rfl, hfields, f.exists_structOverrides⟩

/-- A struct of a type whose name is too long is not found, whatever the file is. -/
theorem readStruct?_of_long_name {name : String} (hname : isIdentifier name.toList = true)
    (hlength : Pattern.roomLimit < name.length * Pattern.stateRoom) (file content : String) :
    readStruct? name file content = none := by
  rw [readStruct?, not_isAdmitted_declarationPattern hname hlength]
  exact if_neg Bool.false_ne_true

/-! ### A file for every name -/

section Sample

theorem eq_length_of_getElem? {α : Type} {p : α → Prop} {a b : List α} {x y : α} {n : Nat}
    (ha : ∀ z ∈ a, ¬ p z) (hb : ∀ z ∈ b, ¬ p z) (h : (a ++ x :: b)[n]? = some y) (hy : p y) :
    n = a.length := by
  rcases Nat.lt_trichotomy n a.length with hn | hn | hn
  · rw [List.getElem?_append_left hn] at h
    exact absurd hy (ha y (List.mem_of_getElem? h))
  · exact hn
  · obtain ⟨k, rfl⟩ := Nat.exists_eq_add_of_lt hn
    rw [Nat.add_assoc, List.getElem?_append_right (Nat.le_add_right _ _), Nat.add_sub_cancel_left,
      List.getElem?_cons_succ] at h
    exact absurd hy (hb y (List.mem_of_getElem? h))

/-- Both keywords have this letter. -/
theorem not_declares_of_notMem {typeName l : List Char} (h : 'c' ∉ l) :
    ¬ declares typeName l = true := by
  intro hdeclares
  obtain ⟨u, v, rfl, keyword, g, r, hkeyword, rfl, -⟩ := declares_iff.mp hdeclares
  have hall : ∀ k ∈ ["class".toList, "struct".toList], 'c' ∈ k := by decide
  exact h (List.mem_append_right u (List.mem_append_left _ (hall keyword hkeyword)))

theorem not_isStructMarker_of_notMem {l : Line} (h : 'J' ∉ l) : ¬ isStructMarker l = true := by
  intro hmarker
  have hregisters : Registers [l] 0 := ⟨l, rfl, hmarker⟩
  obtain ⟨a, b, r, hl, -⟩ := exists_of_registers hregisters
  obtain rfl := Option.some.inj hl
  exact h (List.mem_append_right a (List.mem_append_left _ (by decide)))

/-- An override with nested parentheses on two lines. -/
def nestedOverride (kind : OverrideKind) (h : kind = .structOverride ∨ kind = .structDefine) :
    OverrideCall where
  kind := kind
  call := nestedCall kind
  kind_eq := h
  own_lines := show ∀ c ∈ [' ', ' '], isBlank c = true from List.all_eq_true.mp (by decide)
  closed := show parenDelta "; // end".toList ≤ 0 by decide +kernel
  silent := show ∀ l ∈ ["; // end".toList, "B<C>(".toList, "    x), y".toList], Silent l by
    decide +kernel

/-- The field of a name of one letter, or of a dollar sign and one letter. -/
def letterField (before : Blanks) (name : List Char) (h : name = ['a'] ∨ name = ['$', 'b']) :
    FieldArgument where
  before := before
  name := name
  after := .none
  ne_nil := by rcases h with rfl | rfl <;> exact List.cons_ne_nil _ _
  trimmed := by rcases h with rfl | rfl <;> decide
  plain := by
    rcases h with rfl | rfl
    · exact List.forall_mem_singleton.mpr (by decide)
    · exact List.forall_mem_cons.mpr ⟨by decide, List.forall_mem_singleton.mpr (by decide)⟩

/-- A list of two fields on two lines. -/
def sampleCall : FieldCall where
  indent := Gap.space.toBlanks
  gap := .none
  list :=
    { rows := [⟨[letterField .none ['a'] (.inl rfl)], .none⟩]
      last := [letterField Gap.space.toBlanks ['$', 'b'] (.inr rfl)] }
  rest := [';']
  no_parenthesis := by decide

theorem struct_mem_keywords : "struct".toList ∈ ["class".toList, "struct".toList] := by decide

/-- A value struct of any name, with an override before and one behind the list of its fields. -/
def sampleText (w : Word) : StructText where
  above := ["// overview".toList]
  indent := .none
  name := w
  head :=
    { keyword := "struct".toList
      gap := .space
      clause := ⟨Gap.space.toBlanks, [], .none, [], .inl rfl, .inl rfl⟩
      keyword_mem := struct_mem_keywords
      word := w.word }
  pad := .none
  upper := [.line " int a;".toList (by decide +kernel),
    .override (nestedOverride .structOverride (.inl rfl))]
  call := sampleCall
  lower := [.override (nestedOverride .structDefine (.inr rfl))]
  outdent := .none
  trail := .none
  below := ["int f();".toList]

/-- The lines behind the one with the name. -/
def sampleRest : List Line :=
  [" int a;", "  JSG_STRUCT_TS_OVERRIDE(B<C>(", "    x), y); // end", " JSG_STRUCT(a,", " $b);",
    "  JSG_STRUCT_TS_DEFINE(B<C>(", "    x), y); // end", "\x7d;", "int f();"].map String.toList

theorem lines_sampleText (w : Word) :
    (sampleText w).lines = ["// overview".toList] ++ (sampleText w).opening :: sampleRest := rfl

theorem opening_sampleText (w : Word) :
    (sampleText w).opening = "struct ".toList ++ (w.text ++ " \x7b".toList) := by
  simp [StructText.opening, sampleText, DeclarationHead.text, Clause.text, Gap.space, Blanks.none]

/-- The file with this struct, for every name without the first letter of the macros. -/
def sampleFile (w : Word) (hw : 'J' ∉ w.text) : StructFile where
  toStructText := sampleText w
  in_reach := show 3 < lookback by decide
  silent := show ∀ l ∈ [" JSG_STRUCT(a,".toList, " $b);".toList], Silent l by decide +kernel
  braces := show BracesMatch (sampleRest.take 7).flatten by decide +kernel
  registers_once := by
    rintro n ⟨l, hl, hmarker⟩
    have hopening : 'J' ∉ (sampleText w).opening := by
      rw [opening_sampleText, List.mem_append, List.mem_append, not_or, not_or]
      exact ⟨by decide, hw, by decide⟩
    have hclosed : ∀ m ∈ sampleRest.take 3, ¬ isStructMarker m = true := by decide +kernel
    have hbefore : ∀ m ∈ ["// overview".toList, (sampleText w).opening] ++ sampleRest.take 3,
        ¬ isStructMarker m = true := by
      refine List.forall_mem_append.mpr ⟨?_, hclosed⟩
      exact List.forall_mem_cons.mpr ⟨by decide +kernel,
        List.forall_mem_singleton.mpr (not_isStructMarker_of_notMem hopening)⟩
    have hbehind : ∀ m ∈ sampleRest.drop 4, ¬ isStructMarker m = true := by decide +kernel
    have hsplit : (sampleText w).lines = (["// overview".toList, (sampleText w).opening] ++
        sampleRest.take 3) ++ " JSG_STRUCT(a,".toList :: sampleRest.drop 4 := rfl
    rw [hsplit] at hl
    exact eq_length_of_getElem? (p := fun m => isStructMarker m = true) hbefore hbehind hl hmarker
  mentions_once := by
    rintro n ⟨l, hl, hdeclares⟩
    have habove : ∀ m ∈ ["// overview".toList], 'c' ∉ m := by decide
    have hbelow : ∀ m ∈ sampleRest, 'c' ∉ m := by decide +kernel
    rw [lines_sampleText] at hl
    exact eq_length_of_getElem? (p := fun m => declares w.text m = true)
      (fun m hm => not_declares_of_notMem (habove m hm))
      (fun m hm => not_declares_of_notMem (hbelow m hm)) hl hdeclares

theorem isLine_sampleText (w : Word) : ∀ l ∈ (sampleText w).lines, IsLine l := by
  have hopening : IsLine (sampleText w).opening := by
    rw [opening_sampleText]
    constructor
    · rw [List.mem_append, List.mem_append, not_or, not_or]
      exact ⟨by decide, w.notMem (by decide), by decide⟩
    · rw [← List.append_assoc, List.getLast?_append]
      show some '\x7b' ≠ some '\r'
      decide
  have hrest : ∀ l ∈ sampleRest, IsLine l := by decide +kernel
  rw [lines_sampleText]
  exact List.forall_mem_cons.mpr ⟨by decide, List.forall_mem_cons.mpr ⟨hopening, hrest⟩⟩

/-- The text of the file. -/
def sampleContent (w : Word) : String := String.ofList (endLines (sampleText w).lines)

theorem linesOf_sampleContent (w : Word) : linesOf (sampleContent w) = (sampleText w).lines := by
  rw [sampleContent, linesOf, String.toList_ofList, lines_endLines (isLine_sampleText w)]

end Sample

/-- What the nested override is recorded as. -/
theorem nestedOverride_writes {kind : OverrideKind}
    {h : kind = .structOverride ∨ kind = .structDefine}
    {o : DocOverride} (ho : (nestedOverride kind h).Writes o) : o = ⟨kind, "B<C>( x), y"⟩ := by
  have hargument : String.ofList (nestedCall kind).argument = "B<C>( x), y" := by
    show String.ofList (trim (joinWith [' '] (["B<C>(".toList, "    x), y".toList].map trim))) = _
    decide +kernel
  have hrest : ')' ∉ "; // end".toList := by decide
  obtain ⟨_, content⟩ := o
  have hkind := ho.kind
  have hcontent := (ho.content hrest).trans hargument
  dsimp only at hkind hcontent
  rw [hkind, hcontent]
  rfl

/-- The struct `Foo`, with two fields and two overrides. -/
theorem readStruct?_sampleFile :
    let content := sampleContent (.ofList "Foo".toList (by decide) (by decide))
    ∃ i, readStruct? "Foo" "t.h" content = some i ∧ i.location = ⟨"t.h", 6⟩ ∧
      i.structFields = [⟨"a", "a"⟩, ⟨"b", "$b"⟩] ∧
      i.docOverrides = [⟨.structOverride, "B<C>( x), y"⟩, ⟨.structDefine, "B<C>( x), y"⟩] := by
  intro content
  let w : Word := .ofList "Foo".toList (by decide) (by decide)
  have hadmitted : Pattern.isAdmitted (declarationPattern w.name) = true :=
    isAdmitted_declarationPattern (by decide +kernel) (by decide +kernel)
  obtain ⟨i, hread, -, -, hlocation, hfields, early, recorded, hoverrides, hrecorded, hearly⟩ :=
    readStruct?_structFile (sampleFile w (by decide)) "t.h" content (linesOf_sampleContent w)
      hadmitted
  refine ⟨i, hread, hlocation, hfields, ?_⟩
  obtain rfl := hearly (by decide +kernel)
  have hcalls : (sampleText w).calls = [nestedOverride .structOverride (.inl rfl),
      nestedOverride .structDefine (.inr rfl)] := rfl
  change List.Forall₂ _ (sampleText w).calls recorded at hrecorded
  rw [hcalls] at hrecorded
  obtain _ | ⟨ho, _ | ⟨hp, ⟨⟩⟩⟩ := hrecorded
  rw [hoverrides, nestedOverride_writes ho, nestedOverride_writes hp]
  rfl

/-- A long name as a word. -/
def longWord (n : Nat) : Word where
  text := (longName n).toList
  ne_nil := (isWord_of_isIdentifier (isIdentifier_longName n)).1
  word := (isWord_of_isIdentifier (isIdentifier_longName n)).2

theorem notMem_longWord (n : Nat) : 'J' ∉ (longWord n).text := by
  intro h
  have hmem : 'J' ∈ (longName n).toList := h
  rw [longName, String.toList_ofList] at hmem
  exact absurd (List.eq_of_mem_replicate hmem) (by decide)

/-- **A name can be too long for its struct to be found**, though the file is like that of any
other. -/
theorem long_struct_not_found :
    let f := sampleFile (longWord 339999) (notMem_longWord 339999)
    let content := sampleContent (longWord 339999)
    linesOf content = f.lines ∧ f.call.fields = [⟨"a", "a"⟩, ⟨"b", "$b"⟩] ∧
      readStruct? (longName 339999) "t.h" content = none := by
  intro f content
  refine ⟨linesOf_sampleContent _, rfl, readStruct?_of_long_name (isIdentifier_longName _) ?_ _ _⟩
  rw [length_longName]
  decide

end DeclAtlas
