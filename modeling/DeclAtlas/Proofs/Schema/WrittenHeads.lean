import DeclAtlas.Proofs.Schema.WrittenLines

/-!
# Written heads of records and blocks

The lines that open and close what a schema nests.  A record and an enumeration have the same parts
after their keywords (`HeadParts`), but only the keyword of a record opens one
(`RecordHead.openedRecord?_text`, `openedRecord?_enum`).

A `BlockHead` is any line that opens a brace, no record, and declares nothing; unions, groups and
enumerations are of this kind whatever they are called.
-/

namespace DeclAtlas.Schema

open Text

/-! ### Heads with a number -/

/-- What stands around the keyword of a declaration with a name, a number and a brace. -/
structure HeadParts where
  /-- The blanks before the keyword. -/
  indent : Blanks
  /-- The blanks after it. -/
  gap : Gap
  word : Word
  /-- The blanks before the number. -/
  space : Gap
  /-- The number, as written. -/
  hex : List Char
  hex_ne_nil : hex ≠ []
  hex_digit : ∀ c ∈ hex, isHexDigit c = true
  /-- The blanks before the brace. -/
  pad : Blanks
  /-- Comments and whatever else follows the brace. -/
  rest : List Char
  rest_braceFree : BraceFree rest

/-- The line of a declaration after its keyword. -/
def HeadParts.afterKeyword (h : HeadParts) : List Char :=
  h.gap.text ++ (h.word.text ++ (h.space.text ++ ("@0x".toList ++ (h.hex ++ (h.pad.text ++
    ('{' :: h.rest))))))

/-- The line of a declaration. -/
def HeadParts.text (keyword : Word) (h : HeadParts) : Line :=
  h.indent.text ++ (keyword.text ++ h.afterKeyword)

/-- The keyword of a record. -/
def recordWord : Word := .ofList "struct".toList (by decide) (by decide)

/-- The keyword of a union. -/
def unionWord : Word := .ofList "union".toList (by decide) (by decide)

/-- The keyword of an enumeration. -/
def enumWord : Word := .ofList "enum".toList (by decide) (by decide)

namespace HeadParts

variable (h : HeadParts) {keyword : Word}

theorem notMem_hex {c : Char} (hc : isHexDigit c = false) : c ∉ h.hex := fun hmem =>
  absurd ((h.hex_digit c hmem).symm.trans hc) (by decide)

theorem braceFree_hex : BraceFree h.hex := ⟨h.notMem_hex (by decide), h.notMem_hex (by decide)⟩

theorem opensOne_text : OpensOne (h.text keyword) := by
  have hfront : BraceFree (h.indent.text ++ (keyword.text ++ (h.gap.text ++ (h.word.text ++
      (h.space.text ++ ("@0x".toList ++ (h.hex ++ h.pad.text))))))) :=
    (braceFree_blanks _).append <| (braceFree_word _).append <| (braceFree_blanks _).append <|
      (braceFree_word _).append <| (braceFree_blanks _).append <|
      (show BraceFree "@0x".toList by decide +kernel).append <|
      h.braceFree_hex.append (braceFree_blanks _)
  have htext : h.text keyword = (h.indent.text ++ (keyword.text ++ (h.gap.text ++ (h.word.text ++
      (h.space.text ++ ("@0x".toList ++ (h.hex ++ h.pad.text))))))) ++ '{' :: h.rest := by
    simp only [text, afterKeyword, List.append_assoc]
  rw [htext]
  exact opensOne_append hfront h.rest_braceFree

/-- Two words in a row declare no field. -/
theorem field?_text : field? (h.text keyword) = none :=
  field?_eq_none (b := h.indent) (w := keyword) (s := h.gap.toBlanks) h.gap.startsIn_not_word
    (h.word.startsIn.imp fun _ hc => ⟨isBlank_eq_false_of_isWord hc, fun e => by
      rw [e] at hc; exact absurd hc (by decide)⟩)

theorem declaredAnnotation?_text (hk : StartsIn (· ≠ 'a') keyword.text) :
    declaredAnnotation? (h.text keyword) = none :=
  declaredAnnotation?_eq_none_of_head (b := h.indent) fun c hc =>
    ⟨keyword.startsIn_not_blank c hc, hk.append keyword.ne_nil c hc⟩

/-- After the name of a declaration no record opens. -/
theorem openedRecord?_afterName :
    openedRecord? (h.space.text ++ ("@0x".toList ++ (h.hex ++ (h.pad.text ++ ('{' :: h.rest))))) =
      none := by
  rw [openedRecord?_blanks_append, openedRecord?_append_of_ne (by decide),
    openedRecord?_append_of_ne (h.notMem_hex (by decide)), openedRecord?_blanks_append,
    ← List.singleton_append, openedRecord?_append_of_ne (by decide)]
  exact openedRecord?_eq_none h.rest_braceFree.1

/-- **An enumeration opens no record**, whatever its name. -/
theorem openedRecord?_enum : openedRecord? (h.text enumWord) = none := by
  have hat : StartsIn IsMark ("@0x".toList ++ (h.hex ++ (h.pad.text ++ ('{' :: h.rest)))) :=
    startsIn_cons isMark_at
  rw [text, afterKeyword, openedRecord?_blanks_append,
    openedRecord?_append_of_ne (by decide), openedRecord?_blanks_append,
    openedRecord?_word_append hat]
  exact h.openedRecord?_afterName

theorem isHexDigit_eq_false_of_isBlank {c : Char} (hc : isBlank c = true) :
    isHexDigit c = false :=
  eq_false_of_isBlank (by decide +kernel) hc

theorem recordOpening?_keyword :
    recordOpening? (recordWord.text ++ h.afterKeyword) = some (h.word.text, h.rest) := by
  have hnumber : StartsIn (isBlank · = false)
      ("@0x".toList ++ (h.hex ++ (h.pad.text ++ ('{' :: h.rest)))) := startsIn_cons isMark_at.1
  have hpad : StartsIn (isHexDigit · = false) (h.pad.text ++ ('{' :: h.rest)) :=
    startsIn_append (fun c hc => isHexDigit_eq_false_of_isBlank (h.pad.blank c hc))
      (startsIn_cons (by decide))
  have hopen : ∀ t, literal? "\x7b" ('{' :: t) = some t := fun _ => rfl
  unfold recordOpening? afterKeyword
  rw [show recordWord.text = "struct".toList from rfl, literal?_append, Option.bind_some,
    h.gap.read h.word.startsIn_not_blank]
  simp only [Option.bind_eq_bind, Option.bind_some]
  rw [h.word.read h.space.startsIn_not_word, Option.bind_some, h.space.read hnumber,
    Option.bind_some, literal?_append, Option.bind_some, run?_append h.hex_ne_nil h.hex_digit hpad,
    Option.bind_some, h.pad.skip (startsIn_cons isMark_open.1), hopen, Option.bind_some]

end HeadParts

/-- A line that opens a record. -/
structure RecordHead extends HeadParts where
  isLine : IsLine (toHeadParts.text recordWord)

/-- The line of a record's head. -/
def RecordHead.text (h : RecordHead) : Line := h.toHeadParts.text recordWord

/-- The name of the record. -/
def RecordHead.name (h : RecordHead) : String := h.word.name

/-- **A written record opens under its name.** -/
theorem RecordHead.openedRecord?_text (h : RecordHead) : openedRecord? h.text = some h.name := by
  rw [RecordHead.text, HeadParts.text, openedRecord?_blanks_append,
    openedRecord?, findMatch?_of_head h.recordOpening?_keyword]
  rfl

/-! ### Heads of other blocks -/

/-- A line that opens a block which is no record. -/
structure BlockHead where
  text : Line
  opensOne : OpensOne text
  isLine : IsLine text
  openedRecord?_text : openedRecord? text = none
  field?_text : field? text = none
  declaredAnnotation?_text : declaredAnnotation? text = none

namespace BlockHead

/-- The line of a union. -/
def unionText (indent pad : Blanks) (rest : List Char) : Line :=
  indent.text ++ ("union".toList ++ (pad.text ++ ('{' :: rest)))

/-- The line of a group. -/
def groupText (indent : Blanks) (word : Word) (space pad : Blanks) (rest : List Char) : Line :=
  indent.text ++ (word.text ++ (space.text ++ (":group".toList ++ (pad.text ++ ('{' :: rest)))))

theorem openedRecord?_brace {pad : Blanks} {rest : List Char} (hrest : BraceFree rest) :
    openedRecord? (pad.text ++ ('{' :: rest)) = none := by
  rw [openedRecord?_blanks_append, ← List.singleton_append,
    openedRecord?_append_of_ne (by decide)]
  exact openedRecord?_eq_none hrest.1

/-- A union. -/
def union (indent pad : Blanks) (rest : List Char) (hrest : BraceFree rest)
    (isLine : IsLine (unionText indent pad rest)) : BlockHead where
  text := unionText indent pad rest
  opensOne := by
    have htext : unionText indent pad rest =
        (indent.text ++ ("union".toList ++ pad.text)) ++ '{' :: rest := by
      simp only [unionText, List.append_assoc]
    rw [htext]
    exact opensOne_append ((braceFree_blanks _).append <|
      (show BraceFree "union".toList by decide +kernel).append (braceFree_blanks _)) hrest
  isLine := isLine
  openedRecord?_text := by
    rw [unionText, openedRecord?_blanks_append,
      openedRecord?_append_of_ne (by decide)]
    exact openedRecord?_brace hrest
  field?_text :=
    field?_eq_none (b := indent) (w := unionWord) (s := pad)
      (pad.startsIn_not_word (startsIn_cons isMark_open.2))
      (startsIn_cons ⟨isMark_open.1, by decide⟩)
  declaredAnnotation?_text :=
    declaredAnnotation?_eq_none_of_head (b := indent) (startsIn_cons (by decide))

/-- A group. -/
def group (indent : Blanks) (word : Word) (space pad : Blanks) (rest : List Char)
    (hrest : BraceFree rest) (isLine : IsLine (groupText indent word space pad rest)) :
    BlockHead where
  text := groupText indent word space pad rest
  opensOne := by
    have htext : groupText indent word space pad rest =
        (indent.text ++ (word.text ++ (space.text ++ (":group".toList ++ pad.text)))) ++
          '{' :: rest := by
      simp only [groupText, List.append_assoc]
    rw [htext]
    exact opensOne_append ((braceFree_blanks _).append <| (braceFree_word _).append <|
      (braceFree_blanks _).append <|
      (show BraceFree ":group".toList by decide +kernel).append (braceFree_blanks _)) hrest
  isLine := isLine
  openedRecord?_text := by
    have hcolon : StartsIn IsMark (":group".toList ++ (pad.text ++ ('{' :: rest))) :=
      startsIn_cons isMark_colon
    rw [groupText, openedRecord?_blanks_append,
      openedRecord?_word_append hcolon,
      openedRecord?_blanks_append,
      openedRecord?_append_of_ne (by decide)]
    exact openedRecord?_brace hrest
  field?_text :=
    field?_eq_none (b := indent) (w := word) (s := space)
      (space.startsIn_not_word (startsIn_cons isMark_colon.2))
      (startsIn_cons ⟨isMark_colon.1, by decide⟩)
  declaredAnnotation?_text := declaredAnnotation?_eq_none (startsIn_cons isMark_colon)

/-- An enumeration. -/
def enum (h : HeadParts) (isLine : IsLine (h.text enumWord)) : BlockHead where
  text := h.text enumWord
  opensOne := h.opensOne_text
  isLine := isLine
  openedRecord?_text := h.openedRecord?_enum
  field?_text := h.field?_text
  declaredAnnotation?_text := h.declaredAnnotation?_text (startsIn_cons (by decide))

end BlockHead

/-! ### Closing lines -/

/-- A line that closes a record or a block. -/
structure Closer where
  /-- The blanks before the brace. -/
  indent : Blanks
  /-- Comments and whatever else follows the brace. -/
  rest : List Char
  rest_braceFree : BraceFree rest
  isLine : IsLine (indent.text ++ '}' :: rest)

namespace Closer

/-- The line. -/
def text (c : Closer) : Line := c.indent.text ++ '}' :: c.rest

variable (c : Closer)

theorem count_open : c.text.count '{' = 0 := by
  rw [List.count_eq_zero]
  simp [text, (braceFree_blanks c.indent).1, c.rest_braceFree.1]

theorem count_close : c.text.count '}' = 1 := by
  simp [text, List.count_eq_zero_of_not_mem (braceFree_blanks c.indent).2,
    List.count_eq_zero_of_not_mem c.rest_braceFree.2]

theorem openedRecord?_text : openedRecord? c.text = none :=
  openedRecord?_eq_none (List.count_eq_zero.mp c.count_open)

theorem field?_text : field? c.text = none := field?_eq_none_of_mark (startsIn_cons isMark_close)

theorem declaredAnnotation?_text : declaredAnnotation? c.text = none :=
  declaredAnnotation?_eq_none_of_head (startsIn_cons ⟨isMark_close.1, by decide⟩)

end Closer

end DeclAtlas.Schema
