import DeclAtlas.Proofs.Interface.Calls
import DeclAtlas.Proofs.Nesting.Calls
import DeclAtlas.Proofs.Text.Words
import Mathlib.Data.List.Nodup

/-!
# Reading written registrations

A call on a line of its own is claimed by the form of its macro and by no other.  Two facts carry
this.  A form claims a line only if its name is a word of it (`Form.claim?_eq_none`), and the words
of a call are its macro and the words of its arguments (`CallParts.words_statement`).  So no form is
shadowed by an earlier one whose name begins alike, whatever the arguments and the blanks are.

* `Call.exists_form`: the form of a call reads its arguments and makes of them what the call means.
* `CallParts.exists_claim`: the first form that claims the line is this one.
* `CallLine.exists_entry`: the line gives one entry, and no other line is taken with it, not even
  by the text of an override (`CallParts.gatherOverride_text`).
* `foldl_add_readForms`: a block of such lines has the effects of its calls, in order.
-/

namespace DeclAtlas

open Text Nesting

/-! ### Arguments -/

namespace Form

section Arguments

variable {r : List Char}

theorem argument?_text (a : NameArgument) (hr : StartsIn IsMark r) :
    argument? (a.text ++ r) = some (a.name, r) := by
  have hblank : StartsIn (isBlank · = false) r := hr.imp fun _ h => h.1
  have hword : StartsIn (isWord · = false) r := hr.imp fun _ h => h.2
  have htext : a.text ++ r = a.before.text ++ (a.word.text ++ (a.after.text ++ r)) := by
    rw [NameArgument.text, List.append_assoc, List.append_assoc]
  unfold argument?
  rw [htext, a.before.skip a.word.startsIn_not_blank,
    a.word.read (a.after.startsIn_not_word hword)]
  simp only [Option.bind_eq_bind, Option.bind_some, a.after.skip hblank]
  rfl

theorem expression?_text (x : ExpressionArgument) (r : List Char) :
    expression? (x.text ++ ')' :: r) = some (x.content, r) := by
  have hrun : run? (· != ')') (x.text ++ ')' :: r) = some (x.text, ')' :: r) := by
    refine run?_append x.ne_nil (fun c hc => ?_) (startsIn_cons (by decide))
    rw [bne_iff_ne]
    rintro rfl
    exact x.no_closing hc
  unfold expression?
  rw [hrun]
  rfl

theorem literal?_comma (r : List Char) : literal? "," (',' :: r) = some r := rfl

theorem literal?_closing (r : List Char) : literal? ")" (')' :: r) = some r := rfl

theorem startsIn_comma : StartsIn IsMark (',' :: r) := startsIn_cons ⟨by decide, by decide⟩

theorem startsIn_closing : StartsIn IsMark (')' :: r) := startsIn_cons ⟨by decide, by decide⟩

variable (a b c : NameArgument) (x : ExpressionArgument) (r : List Char)

theorem arguments?_one (entry : String → Entry) :
    arguments? (.one entry) (a.text ++ ')' :: r) = some (.entry (entry a.name), r) := by
  simp only [arguments?, argument?_text a startsIn_closing, Option.bind_eq_bind, Option.bind_some,
    literal?_closing]

theorem arguments?_two (entry : String → String → Entry) :
    arguments? (.two entry) (a.text ++ ',' :: (b.text ++ ')' :: r)) =
      some (.entry (entry a.name b.name), r) := by
  simp only [arguments?, argument?_text a startsIn_comma, argument?_text b startsIn_closing,
    Option.bind_eq_bind, Option.bind_some, literal?_closing, literal?_comma]

theorem arguments?_three (entry : String → String → String → Entry) :
    arguments? (.three entry) (a.text ++ ',' :: (b.text ++ ',' :: (c.text ++ ')' :: r))) =
      some (.entry (entry a.name b.name c.name), r) := by
  simp only [arguments?, argument?_text a startsIn_comma, argument?_text b startsIn_comma,
    argument?_text c startsIn_closing, Option.bind_eq_bind, Option.bind_some, literal?_closing,
    literal?_comma]

theorem arguments?_named (entry : String → String → Entry) :
    arguments? (.named entry) (a.text ++ ',' :: (x.text ++ ')' :: r)) =
      some (.entry (entry a.name x.content), r) := by
  simp only [arguments?, argument?_text a startsIn_comma, expression?_text, Option.bind_eq_bind,
    Option.bind_some, literal?_comma]

theorem arguments?_expression (entry : String → Entry) :
    arguments? (.expression entry) (x.text ++ ')' :: r) = some (.entry (entry x.content), r) := by
  simp only [arguments?, expression?_text, Option.bind_eq_bind, Option.bind_some]

end Arguments

/-! ### Which form claims a line -/

theorem opening?_append (name : String) (gap : Blanks) (r : List Char) :
    opening? name (name.toList ++ (gap.text ++ '(' :: r)) = some r := by
  rw [opening?, literal?_append]
  simp only [Option.bind_eq_bind, Option.bind_some,
    gap.skip (startsIn_cons (show isBlank '(' = false by decide))]
  rfl

/-- A name that is read before a parenthesis ends there as a word. -/
theorem eq_append_of_opening? {name : String} {s r : List Char} (h : opening? name s = some r) :
    ∃ t, s = name.toList ++ t ∧ StartsIn (isWord · = false) t := by
  simp only [opening?, Option.bind_eq_bind, Option.bind_eq_some_iff] at h
  obtain ⟨t, ht, hopen⟩ := h
  refine ⟨t, literal?_eq_some.mp ht, ?_⟩
  cases t with
  | nil => exact startsIn_nil
  | cons c t =>
    refine startsIn_cons ?_
    by_cases hc : isBlank c = true
    · exact isWord_eq_false_of_isBlank hc
    · have htrim : trimStart (c :: t) = c :: t := List.dropWhile_cons_of_neg hc
      rw [htrim, literal?_eq_some] at hopen
      obtain rfl : c = '(' := (List.cons.inj hopen).1
      decide

theorem exists_word {f : Form} (hf : f ∈ forms) : ∃ w : Word, w.text = f.name.toList := by
  have hall : ∀ f ∈ forms, f.name.toList ≠ [] ∧ f.name.toList.all isWord = true := by
    decide +kernel
  exact ⟨.ofList f.name.toList (hall f hf).1 (hall f hf).2, rfl⟩

/-- **A form claims no line that does not have its name as a word.** -/
theorem claim?_eq_none {f : Form} (hf : f ∈ forms) {s : List Char}
    (hs : f.name.toList ∉ words s) : f.claim? s = none := by
  obtain ⟨w, hw⟩ := exists_word hf
  rw [claim?, firstMatch_eq_none, Option.map_none]
  rintro u v rfl
  unfold atWordStart
  by_cases hu : (u.getLast?.or none).any isWord = true
  · rw [if_pos hu]
  · rw [if_neg hu]
    cases hopen : opening? f.name v with
    | none => simp only [hopen, Option.bind_none]
    | some r =>
      obtain ⟨t, rfl, ht⟩ := eq_append_of_opening? hopen
      rw [← hw] at hs
      refine absurd (w.mem_words (fun c hc => ?_) ht) hs
      rw [Option.mem_def.mp hc] at hu
      simpa using hu

/-- A form claims the call it begins with. -/
theorem claim?_of_head {f : Form} {gap : Blanks} {s r : List Char} {x : Claim}
    (h : arguments? f.shape s = some (x, r)) :
    f.claim? (f.name.toList ++ (gap.text ++ '(' :: s)) = some x := by
  have hread : atWordStart (fun s => (opening? f.name s).bind (arguments? f.shape)) none
      (f.name.toList ++ (gap.text ++ '(' :: s)) = some (x, r) := by
    rw [atWordStart, Option.any_none, if_neg (by decide), opening?_append]
    exact h
  rw [claim?, firstMatch_of_head hread, Option.map_some]

end Form

theorem nodup_forms_name : (forms.map Form.name).Nodup := by decide +kernel

/-- **Only one form claims a line** on which no other has its name as a word. -/
theorem claimWith?_forms {f : Form} (hf : f ∈ forms) {s : List Char} {x : Claim}
    (hx : f.claim? s = some x)
    (hother : ∀ g ∈ forms, g.name ≠ f.name → g.name.toList ∉ words s) :
    claimWith? forms s = some x := by
  have hclaim : ∀ g ∈ forms, g.claim? s = none ∨ g.claim? s = some x := by
    intro g hg
    by_cases hname : g.name = f.name
    · exact .inr (List.inj_on_of_nodup_map nodup_forms_name hg hf hname ▸ hx)
    · exact .inl (g.claim?_eq_none hg (hother g hg hname))
  cases h : claimWith? forms s with
  | none =>
    have := List.findSome?_eq_none_iff.mp h f hf
    rw [hx] at this
    exact absurd this (by simp)
  | some y =>
    obtain ⟨g, hg, hy⟩ := List.exists_of_findSome?_eq_some h
    rcases hclaim g hg with hn | hn
    · rw [hn] at hy; exact absurd hy (by simp)
    · rw [← hy, hn]

/-! ### What a form makes of a call -/

namespace Interface

theorem addMethod_eq_bindMethod (i : Interface) (m : Method) : i.addMethod m = i.bindMethod m := by
  simp only [addMethod, bindMethod, appendNew, sameMethod, List.any_eq_true, Bool.and_eq_true,
    beq_iff_eq]
  split <;> rfl

theorem addProperty_eq_bindProperty (i : Interface) (p : Property) :
    i.addProperty p = i.bindProperty p := by
  simp only [addProperty, bindProperty, appendNew, sameProperty, List.any_eq_true, Bool.and_eq_true,
    beq_iff_eq]
  split <;> rfl

end Interface

open Interface

theorem mem_forms_of_find? {name : String} {s : Shape}
    (h : forms.find? (fun f => f.name == name) = some ⟨name, s⟩) : (⟨name, s⟩ : Form) ∈ forms :=
  List.mem_of_find?_eq_some h

/-- The form of a macro with one name makes the entry that has its effect. -/
theorem OneName.exists_form (m : OneName) : ∃ entry : String → Entry,
    (⟨m.macroName, .one entry⟩ : Form) ∈ forms ∧ ∀ a i, i.add (entry a) = m.effect a i := by
  cases m <;> refine ⟨_, mem_forms_of_find? rfl, fun a i => ?_⟩
  case staticMethod => exact addMethod_eq_bindMethod i _
  case method => exact addMethod_eq_bindMethod i _
  case staticReadonlyProperty => exact addProperty_eq_bindProperty i _
  all_goals rfl

theorem TwoNames.exists_form (m : TwoNames) : ∃ entry : String → String → Entry,
    (⟨m.macroName, .two entry⟩ : Form) ∈ forms ∧ ∀ a b i, i.add (entry a b) = m.effect a b i := by
  cases m <;> refine ⟨_, mem_forms_of_find? rfl, fun a b i => ?_⟩
  case staticMethod => exact addMethod_eq_bindMethod i _
  case method => exact addMethod_eq_bindMethod i _
  case nestedType => rfl
  all_goals exact addProperty_eq_bindProperty i _

theorem ThreeNames.exists_form (m : ThreeNames) : ∃ entry : String → String → String → Entry,
    (⟨m.macroName, .three entry⟩ : Form) ∈ forms ∧
      ∀ a b c i, i.add (entry a b c) = m.effect a b c i := by
  cases m <;> refine ⟨_, mem_forms_of_find? rfl, fun a b c i => ?_⟩
  all_goals exact addProperty_eq_bindProperty i _

theorem OneExpression.exists_form (m : OneExpression) : ∃ entry : String → Entry,
    (⟨m.macroName, .expression entry⟩ : Form) ∈ forms ∧ ∀ x i, i.add (entry x) = m.effect x i := by
  cases m <;> exact ⟨_, mem_forms_of_find? rfl, fun _ _ => rfl⟩

theorem OneText.mem_forms (m : OneText) :
    (⟨m.macroName, .spanning m.kind⟩ : Form) ∈ forms := by
  cases m <;> exact mem_forms_of_find? rfl

namespace Call

/-- What a claim must be to stand for a call. -/
def MeantBy (c : Call) : Claim → Prop
  | .entry e => ∀ i : Interface, i.add e = c.effect i
  | .spanning kind => ∃ m t, c = text m t ∧ kind = m.kind

/-- **Every call is read by a form of its own, which knows what it means.** -/
theorem exists_form (c : Call) : ∃ f ∈ forms, f.name = c.macroName ∧ ∃ x, c.MeantBy x ∧
    ∀ r, ∃ r', Form.arguments? f.shape (c.arguments ++ ')' :: r) = some (x, r') := by
  cases c with
  | one m a =>
    obtain ⟨entry, hf, hentry⟩ := m.exists_form
    exact ⟨_, hf, rfl, .entry (entry a.name), hentry a.name, fun r =>
      ⟨r, Form.arguments?_one a r entry⟩⟩
  | two m a b =>
    obtain ⟨entry, hf, hentry⟩ := m.exists_form
    refine ⟨_, hf, rfl, .entry (entry a.name b.name), hentry a.name b.name, fun r => ⟨r, ?_⟩⟩
    rw [arguments, List.append_assoc]
    exact Form.arguments?_two a b r entry
  | three m a b c =>
    obtain ⟨entry, hf, hentry⟩ := m.exists_form
    refine ⟨_, hf, rfl, .entry (entry a.name b.name c.name), hentry a.name b.name c.name,
      fun r => ⟨r, ?_⟩⟩
    rw [arguments, List.append_assoc, List.cons_append, List.append_assoc]
    exact Form.arguments?_three a b c r entry
  | expression m x =>
    obtain ⟨entry, hf, hentry⟩ := m.exists_form
    exact ⟨_, hf, rfl, .entry (entry x.content), hentry x.content, fun r =>
      ⟨r, Form.arguments?_expression x r entry⟩⟩
  | namedConstant a x =>
    refine ⟨_, mem_forms_of_find? rfl, rfl, .entry (.constant ⟨a.name, x.content⟩),
      fun _ => rfl, fun r => ⟨r, ?_⟩⟩
    rw [arguments, List.append_assoc]
    exact Form.arguments?_named a x r _
  | root pad =>
    exact ⟨_, mem_forms_of_find? rfl, rfl, .entry (.docOverride ⟨.root, "(root type)"⟩),
      fun _ => rfl, fun r => ⟨_, rfl⟩⟩
  | text m t => exact ⟨_, m.mem_forms, rfl, .spanning m.kind, ⟨m, t, rfl, rfl⟩, fun r => ⟨[], rfl⟩⟩

/-- A macro is a word. -/
theorem exists_word (c : Call) : ∃ w : Word, w.text = c.macroName.toList := by
  obtain ⟨f, hf, hname, -⟩ := c.exists_form
  exact hname ▸ Form.exists_word hf

end Call

/-! ### Lines of a call -/

namespace CallParts

variable (l : CallParts)

theorem words_statement :
    words l.statement = l.call.macroName.toList :: words l.call.arguments := by
  obtain ⟨w, hw⟩ := l.call.exists_word
  have hopen : isWord '(' = false := by decide
  have hclose : isWord ')' = false := by decide
  have hpad : ∀ c ∈ l.pad.text ++ [';'], isWord c = false := by
    intro c hc
    rcases List.mem_append.mp hc with hc | hc
    · exact isWord_eq_false_of_isBlank (l.pad.blank c hc)
    · rw [List.mem_singleton.mp hc]; decide
  have hgap : ∀ c ∈ l.gap.text, isWord c = false :=
    fun c hc => isWord_eq_false_of_isBlank (l.gap.blank c hc)
  rw [statement, ← hw, w.words_append (l.gap.startsIn_not_word (startsIn_cons hopen)),
    words_append_cons hopen, words_append_cons hclose, words_eq_nil hgap, words_eq_nil hpad,
    List.nil_append, List.append_nil]

theorem trim_text : trim l.text = l.statement := by
  obtain ⟨w, hw⟩ := l.call.exists_word
  refine trim_append l.indent l.after ?_ ?_ ?_
  · simp [statement]
  · rw [statement, ← hw]
    exact w.startsIn_not_blank
  · intro c hc
    have hlast : l.statement = (l.call.macroName.toList ++ (l.gap.text ++ ('(' ::
        (l.call.arguments ++ (')' :: l.pad.text))))) ++ [';'] := by simp [statement]
    rw [hlast, List.getLast?_concat, Option.mem_some] at hc
    rw [← hc]
    decide

theorem isSkippable_statement : isSkippable l.statement = false := by
  obtain ⟨w, hw⟩ := l.call.exists_word
  have hstart : StartsIn (· ≠ '/') l.statement := by
    rw [statement, ← hw]
    refine w.startsIn.imp fun c hc => ?_
    rintro rfl
    exact absurd hc (by decide)
  have hne : l.statement ≠ [] := by simp [statement]
  cases hs : l.statement with
  | nil => exact absurd hs hne
  | cons c s =>
    rw [hs] at hstart
    have hc : c ≠ '/' := hstart c rfl
    simp [isSkippable, startsWith, dropLead?, hc.symm]

/-- **The claim on a line is the one that is meant by its call.** -/
theorem exists_claim (h : l.call.MentionsNoForm) :
    ∃ x, l.call.MeantBy x ∧ claimWith? forms l.statement = some x := by
  obtain ⟨f, hf, hname, x, hx, hread⟩ := l.call.exists_form
  obtain ⟨r, hr⟩ := hread (l.pad.text ++ [';'])
  refine ⟨x, hx, claimWith?_forms hf ?_ fun g hg hne => ?_⟩
  · rw [statement, ← hname]
    exact Form.claim?_of_head hr
  · rw [words_statement, List.mem_cons, not_or]
    refine ⟨fun e => hne ?_, h g hg⟩
    rw [hname]
    exact String.toList_inj.mp e

theorem notMem_macroName {c : Char} (hc : isWord c = false) :
    c ∉ l.call.macroName.toList := by
  obtain ⟨w, hw⟩ := l.call.exists_word
  rw [← hw]
  exact w.notMem hc

/-- A line whose arguments are balanced is balanced itself. -/
theorem parenDelta_text (h : parenDelta l.call.arguments = 0) : parenDelta l.text = 0 := by
  have hblank : ∀ b : Blanks, delta '(' ')' b.text = 0 := fun b =>
    delta_eq_zero (b.notMem (by decide)) (b.notMem (by decide))
  have hmacro : delta '(' ')' l.call.macroName.toList = 0 :=
    delta_eq_zero (l.notMem_macroName (by decide)) (l.notMem_macroName (by decide))
  have hargs : delta '(' ')' l.call.arguments = 0 := h
  have hopen : charDelta '(' ')' '(' = 1 := by decide
  have hclose : charDelta '(' ')' ')' = -1 := by decide
  have hend : delta '(' ')' [';'] = 0 := by decide
  rw [parenDelta, text, statement]
  simp only [delta_append, delta_cons, hblank, hmacro, hargs, hopen, hclose, hend]
  rfl

theorem outerArgument_statement : outerArgument l.statement = trim l.call.arguments := by
  have hfront : '(' ∉ l.call.macroName.toList ++ l.gap.text := by
    intro hc
    rcases List.mem_append.mp hc with hc | hc
    · exact l.notMem_macroName (by decide) hc
    · exact l.gap.notMem (by decide) hc
  have hback : ')' ∉ l.pad.text ++ [';'] := by
    intro hc
    rcases List.mem_append.mp hc with hc | hc
    · exact l.pad.notMem (by decide) hc
    · exact absurd hc (by decide)
  rw [statement, ← List.append_assoc]
  exact outerArgument_append hfront hback

/-- **The text of an override is gathered from its own line.** -/
theorem gatherOverride_text {m : OneText} {t : TextArgument} (h : l.call = .text m t)
    (later : List Line) :
    gatherOverride m.kind (l.text :: later) = (⟨m.kind, t.content⟩, 0) := by
  have hargs : l.call.arguments = t.text := by rw [h]; rfl
  have hmacro : m.kind.macroName = l.call.macroName := by rw [h]; cases m <;> rfl
  have hdelta : parenDelta l.text ≤ 0 :=
    Int.le_of_eq (l.parenDelta_text (by rw [hargs]; exact t.balanced))
  have harg : argumentOf m.kind.macroName.toList (trim l.text) = trim t.text := by
    rw [trim_text, hmacro, ← hargs, ← outerArgument_statement, statement, argumentOf_append]
  simp only [gatherOverride, gather_of_balanced hdelta, harg]
  rfl

theorem entryWith?_of_entry {e : Entry} (h : claimWith? forms l.statement = some (.entry e))
    (later : List Line) : entryWith? forms l.text later = some (e, 0) := by
  rw [entryWith?, l.trim_text, l.isSkippable_statement, h]
  rfl

theorem entryWith?_of_spanning {m : OneText} {t : TextArgument} (hcall : l.call = .text m t)
    (h : claimWith? forms l.statement = some (.spanning m.kind)) (later : List Line) :
    entryWith? forms l.text later = some (.docOverride ⟨m.kind, t.content⟩, 0) := by
  rw [entryWith?, l.trim_text, l.isSkippable_statement, h]
  simp only [l.gatherOverride_text hcall]
  rfl

end CallParts

/-- **A call on a line of its own gives one entry, which has the effect of the call.** -/
theorem CallLine.exists_entry (l : CallLine) : ∃ e, (∀ i : Interface, i.add e = l.call.effect i) ∧
    ∀ later, entryWith? forms l.text later = some (e, 0) := by
  obtain ⟨x, hx, hclaim⟩ := l.exists_claim l.mentionsNoForm
  cases x with
  | entry e => exact ⟨e, hx, l.entryWith?_of_entry hclaim⟩
  | spanning kind =>
    obtain ⟨m, t, hcall, rfl⟩ := hx
    exact ⟨.docOverride ⟨m.kind, t.content⟩, fun i => by rw [hcall]; rfl,
      l.entryWith?_of_spanning hcall hclaim⟩

/-! ### Blocks -/

/-- Lines that each stand for one change are read into these changes, one after another. -/
theorem foldl_add_readForms (ls : List CallLine) : ∀ (i : Interface) (n : Nat), ls.length ≤ n →
    (readForms (entryWith? forms) n 0 (ls.map fun l => l.text)).foldl Interface.add i =
      ls.foldl (fun i l => l.call.effect i) i := by
  induction ls with
  | nil => intro i n _; cases n <;> rfl
  | cons l ls ih =>
    intro i n hn
    cases n with
    | zero => exact absurd hn (by simp)
    | succ n =>
      obtain ⟨e, he, hread⟩ := l.exists_entry
      rw [List.map_cons, readForms, hread, List.foldl_cons, List.foldl_cons, he]
      exact ih _ n (Nat.le_of_succ_le_succ hn)

/-- **A block of calls has the effects of its calls, one after another**, whether it is given line
by line or as a text; and there is such a call for every form of the table. -/
theorem register_calls (i : Interface) (ls : List CallLine) :
    i.register (ls.map fun l => l.text) = ls.foldl (fun i l => l.call.effect i) i ∧
    i.registerText (String.ofList (endLines (ls.map fun l => l.text))) =
      ls.foldl (fun i l => l.call.effect i) i ∧
    ∃ every : List CallLine, every.map (fun l => l.call.macroName) = forms.map Form.name := by
  have hblock : i.register (ls.map fun l => l.text) = ls.foldl (fun i l => l.call.effect i) i :=
    foldl_add_readForms ls i _ (by simp)
  refine ⟨hblock, ?_, CallLine.exists_forms⟩
  have hlines : ∀ l ∈ ls.map (fun l => l.text), IsLine l := by
    intro l hl
    obtain ⟨c, -, rfl⟩ := List.mem_map.mp hl
    exact c.isLine
  rw [Interface.registerText, linesOf, String.toList_ofList, lines_endLines hlines, hblock]

example : ((Interface.empty "T" .valueStruct).registerText
    "  JSG_NESTED_TYPE_NAMED( Impl , Name );\n").nestedTypes = [⟨"Name", "Impl"⟩] := by
  decide +kernel

end DeclAtlas
