import DeclAtlas.Proofs.Schema.QualifiedName
import DeclAtlas.Proofs.Text.Parts

/-!
# Written lines of a schema

The lines that stand inside a record, part by part, and what `Schema/Syntax.lean` reads on them: a
`FieldLine` with its field (`FieldLine.field?_text`), an `AnnotationLine` with its annotation
(`AnnotationLine.declaredAnnotation?_text`), and a `SilentLine`, which declares nothing.

Most of the work is to show what a line is *not* read as.  All of it goes back to one fact: a
keyword with a word after it cannot be read off a word that a mark follows
(`keyword_word_eq_none`).
-/

namespace DeclAtlas.Schema

open Text

/-! ### Braces -/

/-- A text without braces. -/
def BraceFree (s : List Char) : Prop := '{' ∉ s ∧ '}' ∉ s

instance (s : List Char) : Decidable (BraceFree s) := inferInstanceAs (Decidable (_ ∧ _))

theorem BraceFree.append {a b : List Char} (ha : BraceFree a) (hb : BraceFree b) :
    BraceFree (a ++ b) :=
  ⟨by simp [ha.1, hb.1], by simp [ha.2, hb.2]⟩

theorem braceFree_blanks (b : Blanks) : BraceFree b.text :=
  ⟨b.notMem (by decide), b.notMem (by decide)⟩

theorem braceFree_word (w : Word) : BraceFree w.text :=
  ⟨w.notMem (by decide), w.notMem (by decide)⟩

/-- A line with one opening brace and no other. -/
def OpensOne (l : Line) : Prop := l.count '{' = 1 ∧ l.count '}' = 0

theorem opensOne_append {a b : List Char} (ha : BraceFree a) (hb : BraceFree b) :
    OpensOne (a ++ '{' :: b) := by
  constructor
  · simp [List.count_eq_zero_of_not_mem ha.1, List.count_eq_zero_of_not_mem hb.1]
  · simp [List.count_eq_zero_of_not_mem ha.2, List.count_eq_zero_of_not_mem hb.2]

/-! ### What is not read -/

section NotRead

variable {b s : Blanks} {w : Word} {r : List Char}

/-- Blanks in front of a text that begins with none are passed over, or missing. -/
theorem blanks?_eq (hr : StartsIn (isBlank · = false) r) :
    blanks? (s.text ++ r) = none ∨ blanks? (s.text ++ r) = some r := by
  by_cases hs : s.text = []
  · rw [hs, List.nil_append]; exact .inl (blanks?_eq_none hr)
  · exact .inr (blanks?_append hs s.blank hr)

/-- **A keyword with a word after it is not read off a word before a mark.** -/
theorem keyword_word_eq_none {k : String} (hk : k.toList.all isWord = true) {v : List Char}
    (hv : ∀ c ∈ v, isWord c = true) (hr : StartsIn IsMark r) :
    ((literal? k (v ++ (s.text ++ r))).bind blanks?).bind word? = none := by
  have hblank : StartsIn (isBlank · = false) r := hr.imp fun _ h => h.1
  have hword : StartsIn (isWord · = false) r := hr.imp fun _ h => h.2
  cases hlit : literal? k (v ++ (s.text ++ r)) with
  | none => rfl
  | some t =>
    rw [Option.bind_some]
    have hsplit := literal?_eq_some.mp hlit
    -- the keyword ends inside the word, or exactly at its end
    have hrest : ∃ v', (∀ c ∈ v', isWord c = true) ∧ t = v' ++ (s.text ++ r) := by
      rcases List.append_eq_append_iff.mp hsplit with ⟨a, ha, he⟩ | ⟨c, hc, he⟩
      · refine ⟨[], by simp, ?_⟩
        cases a with
        | nil => rw [List.nil_append] at he ⊢; exact he.symm
        | cons d a =>
          have hd : isWord d = true :=
            List.all_eq_true.mp hk d (ha ▸ List.mem_append_right v List.mem_cons_self)
          have hn : isWord d = false := s.startsIn_not_word hword d (by rw [he]; rfl)
          exact absurd (hd.symm.trans hn) (by decide)
      · exact ⟨c, fun d hd => hv d (hc ▸ List.mem_append_right _ hd), he⟩
    obtain ⟨v', hv', rfl⟩ := hrest
    cases v' with
    | nil =>
      rw [List.nil_append]
      rcases blanks?_eq (s := s) hblank with h | h
      · rw [h]; rfl
      · rw [h, Option.bind_some, word?_eq_none hword]
    | cons d v' =>
      rw [List.cons_append, blanks?_eq_none
        (startsIn_cons (isBlank_eq_false_of_isWord (hv' d List.mem_cons_self)))]
      rfl

theorem field?_eq_none_of_fieldHead? {l : Line} (h : fieldHead? l = none) : field? l = none := by
  unfold field?
  rw [h]
  rfl

/-- A line whose first word is not followed by an at sign declares no field. -/
theorem field?_eq_none (hw : StartsIn (isWord · = false) (s.text ++ r))
    (hr : StartsIn (fun c => isBlank c = false ∧ c ≠ '@') r) :
    field? (b.text ++ (w.text ++ (s.text ++ r))) = none := by
  apply field?_eq_none_of_fieldHead?
  unfold fieldHead?
  rcases blanks?_eq (s := b) (r := w.text ++ (s.text ++ r)) w.startsIn_not_blank with hb | hb
  · rw [hb]; rfl
  · have hat : literal? "@" r = none := by
      cases r with
      | nil => rfl
      | cons c r =>
        have hc := (hr c rfl).2
        simp [literal?, dropLead?, hc.symm]
    rw [hb, Option.bind_some, w.read hw]
    rcases blanks?_eq (s := s) (r := r) (hr.imp fun _ h => h.1) with hs | hs
    · simp [hs]
    · simp [hs, hat]

/-- A line that begins with a mark declares no field. -/
theorem field?_eq_none_of_mark (hr : StartsIn IsMark r) : field? (b.text ++ r) = none := by
  apply field?_eq_none_of_fieldHead?
  unfold fieldHead?
  rcases blanks?_eq (s := b) (r := r) (hr.imp fun _ h => h.1) with hb | hb
  · rw [hb]; rfl
  · rw [hb, Option.bind_some, word?_eq_none (hr.imp fun _ h => h.2)]; rfl

theorem declaredAnnotation?_eq_none_of_keyword {l : Line}
    (h : ∀ t, blanks? l = some t → ((literal? "annotation" t).bind blanks?).bind word? = none) :
    declaredAnnotation? l = none := by
  unfold declaredAnnotation?
  cases hl : blanks? l with
  | none => rfl
  | some t =>
    have ht := h t hl
    rw [Option.bind_some]
    cases hlit : literal? "annotation" t with
    | none => rfl
    | some u =>
      rw [hlit, Option.bind_some] at ht
      simp [ht]

/-- A line whose first word is followed by a mark declares no annotation. -/
theorem declaredAnnotation?_eq_none (hr : StartsIn IsMark r) :
    declaredAnnotation? (b.text ++ (w.text ++ (s.text ++ r))) = none := by
  refine declaredAnnotation?_eq_none_of_keyword fun t ht => ?_
  rcases blanks?_eq (s := b) (r := w.text ++ (s.text ++ r)) w.startsIn_not_blank with hb | hb
  · rw [hb] at ht; exact absurd ht (by simp)
  · obtain rfl := Option.some.inj (hb.symm.trans ht)
    exact keyword_word_eq_none (by decide) w.word hr

/-- A line that does not begin like the keyword declares no annotation. -/
theorem declaredAnnotation?_eq_none_of_head
    (hr : StartsIn (fun c => isBlank c = false ∧ c ≠ 'a') r) :
    declaredAnnotation? (b.text ++ r) = none := by
  refine declaredAnnotation?_eq_none_of_keyword fun t ht => ?_
  rcases blanks?_eq (s := b) (r := r) (hr.imp fun _ h => h.1) with hb | hb
  · rw [hb] at ht; exact absurd ht (by simp)
  · obtain rfl := Option.some.inj (hb.symm.trans ht)
    have hlit : literal? "annotation" r = none := by
      cases r with
      | nil => rfl
      | cons c r =>
        have hc := (hr c rfl).2
        simp [literal?, dropLead?, hc.symm]
    rw [hlit]; rfl

/-! ### Where no record opens -/

theorem openedRecord?_eq_none {l : Line} (h : '{' ∉ l) : openedRecord? l = none := by
  cases hl : openedRecord? l with
  | none => rfl
  | some n => exact absurd (brace_mem_of_openedRecord? hl) h

theorem recordOpening?_eq_none_of_keyword {t : List Char}
    (h : ((literal? "struct" t).bind blanks?).bind word? = none) : recordOpening? t = none := by
  unfold recordOpening?
  cases hl : (literal? "struct" t).bind blanks? with
  | none => rfl
  | some u =>
    rw [hl, Option.bind_some] at h
    simp [h]

theorem openedRecord?_append {a : List Char}
    (h : ∀ u v, a = u ++ v → v ≠ [] → recordOpening? (v ++ r) = none) :
    openedRecord? (a ++ r) = openedRecord? r := by
  rw [openedRecord?, findMatch?_append h, openedRecord?]

/-- Where the keyword cannot begin, no record opens. -/
theorem openedRecord?_append_of_ne {a : List Char} (h : 's' ∉ a) :
    openedRecord? (a ++ r) = openedRecord? r := by
  refine openedRecord?_append fun u v hv hne => recordOpening?_eq_none_of_keyword ?_
  cases v with
  | nil => exact absurd rfl hne
  | cons c v =>
    have hc : c ≠ 's' := fun e => h (by rw [hv, ← e]; simp)
    have hlit : literal? "struct" (c :: v ++ r) = none := by
      simp [literal?, dropLead?, hc.symm]
    rw [hlit]; rfl

theorem openedRecord?_blanks_append : openedRecord? (b.text ++ r) = openedRecord? r :=
  openedRecord?_append_of_ne (b.notMem (by decide))

/-- No record opens in a word before a mark. -/
theorem openedRecord?_word_append (hr : StartsIn IsMark r) :
    openedRecord? (w.text ++ (s.text ++ r)) = openedRecord? (s.text ++ r) := by
  refine openedRecord?_append fun u v hv _ => recordOpening?_eq_none_of_keyword ?_
  exact keyword_word_eq_none (by decide)
    (fun c hc => w.word c (hv ▸ List.mem_append_right u hc)) hr

end NotRead

/-! ### Members -/

/-- The parts of a line that declares a field. -/
structure FieldParts where
  /-- The blanks before the field. -/
  indent : Gap
  word : Word
  /-- The blanks before the at sign. -/
  gap : Gap
  /-- Its ordinal, as written. -/
  digits : List Char
  ordinal : Nat
  digits_write : asciiNatBelow? fieldOrdinalBound digits = some ordinal
  /-- The blanks before the colon. -/
  space : Gap
  type : List Char
  type_ne_nil : type ≠ []
  type_nonblank : ∀ c ∈ type, isBlank c = false
  type_unmarked : ∀ c ∈ type.getLast?, (c == ';' || c == ',') = false
  /-- The semicolons and commas after the type. -/
  marks : List Char
  marks_eq : ∀ c ∈ marks, (c == ';' || c == ',') = true
  /-- Annotations, comments and whatever else follows. -/
  rest : List Char
  rest_blank : StartsIn (isBlank · = true) rest

/-- The line of a field. -/
def FieldParts.text (f : FieldParts) : Line :=
  f.indent.text ++ (f.word.text ++ (f.gap.text ++ ('@' :: (f.digits ++ (f.space.text ++
    (':' :: ((f.type ++ f.marks) ++ f.rest)))))))

/-- A line that declares a field. -/
structure FieldLine extends FieldParts where
  braceFree : BraceFree toFieldParts.text
  isLine : IsLine toFieldParts.text

/-- The field a line declares. -/
def FieldLine.field (f : FieldLine) : Field where
  name := f.word.name
  ordinal := f.ordinal
  type := String.ofList f.type
  annotations := (annotations f.text).map annotationText
  raw := declarationText f.text

/-- The parts of a line that declares an annotation. -/
structure AnnotationParts where
  /-- The blanks before the keyword. -/
  indent : Gap
  /-- The blanks after it. -/
  gap : Gap
  /-- The annotation's name. -/
  word : Word
  /-- The blanks before its number. -/
  space : Gap
  /-- The number and whatever else follows. -/
  rest : List Char

/-- The line of an annotation. -/
def AnnotationParts.text (a : AnnotationParts) : Line :=
  a.indent.text ++ ("annotation".toList ++ (a.gap.text ++ (a.word.text ++ (a.space.text ++
    ("@0x".toList ++ a.rest)))))

/-- A line that declares an annotation. -/
structure AnnotationLine extends AnnotationParts where
  braceFree : BraceFree toAnnotationParts.text
  isLine : IsLine toAnnotationParts.text

/-- A line that declares nothing, such as an enumerant, a comment or an empty one. -/
structure SilentLine where
  text : Line
  braceFree : BraceFree text
  isLine : IsLine text
  field?_text : field? text = none
  declaredAnnotation?_text : declaredAnnotation? text = none

/-! ### Digits -/

theorem foldl_pushDigit?_none (s : List Char) : s.foldl pushDigit? none = none := by
  induction s with
  | nil => rfl
  | cons c s ih => exact ih

theorem isDigit_of_foldl_pushDigit? {s : List Char} : ∀ {acc : Nat} {n : Nat},
    s.foldl pushDigit? (some acc) = some n → ∀ c ∈ s, c.isDigit = true := by
  induction s with
  | nil => intro _ _ _ c hc; simp at hc
  | cons d s ih =>
    intro acc n h c hc
    rw [List.foldl_cons] at h
    by_cases hd : d.isDigit = true
    · rw [pushDigit?, Option.bind_some, if_pos hd] at h
      rcases List.mem_cons.mp hc with rfl | hc
      · exact hd
      · exact ih h c hc
    · rw [pushDigit?, Option.bind_some, if_neg hd, foldl_pushDigit?_none] at h
      exact absurd h (by simp)

/-- Digits that write a number are a run of digits. -/
theorem digits_of_asciiNatBelow? {bound n : Nat} {s : List Char}
    (h : asciiNatBelow? bound s = some n) : s ≠ [] ∧ ∀ c ∈ s, Text.isDigit c = true := by
  have hs := (Option.filter_eq_some_iff.mp h).1
  unfold asciiNat? at hs
  cases s with
  | nil => exact absurd hs (by simp)
  | cons d s =>
    rw [List.isEmpty_cons, if_neg (by simp)] at hs
    refine ⟨by simp, fun c hc => ?_⟩
    have hd := isDigit_of_foldl_pushDigit? hs c hc
    have hlt : c.toNat < 128 := by
      simp only [Char.isDigit, Bool.and_eq_true, decide_eq_true_eq, UInt32.le_iff_toNat_le] at hd
      have hle : c.toNat ≤ 57 := hd.2
      omega
    rw [Text.isDigit, if_pos hlt, hd]

/-! ### Reading the members -/

theorem isMark_at : IsMark '@' := ⟨by decide, by decide⟩

theorem isMark_colon : IsMark ':' := ⟨by decide, by decide⟩

theorem isMark_open : IsMark '{' := ⟨by decide, by decide⟩

theorem isMark_close : IsMark '}' := ⟨by decide, by decide⟩

theorem isDigit_eq_false_of_isBlank {c : Char} (h : isBlank c = true) : Text.isDigit c = false :=
  eq_false_of_isBlank (by decide +kernel) h

/-- **A written head of a field is read back.** -/
theorem fieldHead?_written (indent : Gap) (w : Word) (gap space : Gap) {digits : List Char}
    (hne : digits ≠ []) (hdigit : ∀ c ∈ digits, Text.isDigit c = true) (r : List Char) :
    fieldHead? (indent.text ++ (w.text ++ (gap.text ++ ('@' :: (digits ++ (space.text ++
      (':' :: r))))))) = some ((w.text, digits), r) := by
  have hspace : StartsIn (Text.isDigit · = false) (space.text ++ (':' :: r)) :=
    startsIn_append (fun c hc => isDigit_eq_false_of_isBlank (space.blank c hc))
      (startsIn_cons (by decide))
  have hat : ∀ t, literal? "@" ('@' :: t) = some t := fun _ => rfl
  have hcolon : ∀ t, literal? ":" (':' :: t) = some t := fun _ => rfl
  unfold fieldHead?
  rw [indent.read w.startsIn_not_blank, Option.bind_some, w.read gap.startsIn_not_word]
  simp only [Option.bind_eq_bind, Option.bind_some]
  rw [gap.read (startsIn_cons isMark_at.1), Option.bind_some, hat, Option.bind_some,
    run?_append hne hdigit hspace, Option.bind_some, space.read (startsIn_cons isMark_colon.1),
    Option.bind_some, hcolon, Option.bind_some]

theorem FieldParts.fieldHead?_text (f : FieldParts) :
    fieldHead? f.text = some ((f.word.text, f.digits), (f.type ++ f.marks) ++ f.rest) := by
  obtain ⟨hne, hdigit⟩ := digits_of_asciiNatBelow? f.digits_write
  exact fieldHead?_written f.indent f.word f.gap f.space hne hdigit _

/-- **A written field is read back.** -/
theorem FieldLine.field?_text (f : FieldLine) : field? f.text = some f.field := by
  have hmark : ∀ c ∈ f.marks, isBlank c = false := by
    intro c hc
    have := f.marks_eq c hc
    simp only [Bool.or_eq_true, beq_iff_eq] at this
    rcases this with rfl | rfl <;> decide
  have htype : run? (!isBlank ·) ((f.type ++ f.marks) ++ f.rest) =
      some (f.type ++ f.marks, f.rest) := by
    refine run?_append (by simp [f.type_ne_nil]) (fun c hc => ?_) fun c hc => ?_
    · rcases List.mem_append.mp hc with hc | hc
      · simp [f.type_nonblank c hc]
      · simp [hmark c hc]
    · simp [show isBlank c = true from f.rest_blank c hc]
  unfold field?
  rw [f.fieldHead?_text]
  simp only [Option.bind_eq_bind, Option.bind_some, htype, f.digits_write,
    dropEndWhile_append f.type_unmarked f.marks_eq]
  rfl

theorem FieldLine.declaredAnnotation?_text (f : FieldLine) : declaredAnnotation? f.text = none :=
  declaredAnnotation?_eq_none (b := f.indent.toBlanks) (s := f.gap.toBlanks)
    (startsIn_cons isMark_at)

/-- **A written annotation is read back.** -/
theorem AnnotationLine.declaredAnnotation?_text (a : AnnotationLine) :
    declaredAnnotation? a.text = some a.word.name := by
  have hkey : StartsIn (isBlank · = false) ("annotation".toList ++ (a.gap.text ++ (a.word.text ++
      (a.space.text ++ ("@0x".toList ++ a.rest))))) := startsIn_cons (by decide)
  have hat : StartsIn (isBlank · = false) ("@0x".toList ++ a.rest) := startsIn_cons isMark_at.1
  unfold declaredAnnotation? AnnotationParts.text
  rw [a.indent.read hkey, Option.bind_some, literal?_append]
  simp only [Option.bind_eq_bind, Option.bind_some]
  rw [a.gap.read a.word.startsIn_not_blank, Option.bind_some,
    a.word.read a.space.startsIn_not_word]
  simp only [Option.bind_some]
  rw [a.space.read hat, Option.bind_some, literal?_append]
  rfl

/-- The keyword of an annotation, as a word. -/
def annotationWord : Word := .ofList "annotation".toList (by decide) (by decide)

theorem AnnotationLine.field?_text (a : AnnotationLine) : field? a.text = none :=
  field?_eq_none (b := a.indent.toBlanks) (w := annotationWord) (s := a.gap.toBlanks)
    a.gap.startsIn_not_word
    (a.word.startsIn.imp fun _ h => ⟨isBlank_eq_false_of_isWord h, fun e => by
      rw [e] at h; exact absurd h (by decide)⟩)

end DeclAtlas.Schema
