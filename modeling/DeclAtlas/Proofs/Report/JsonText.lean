import DeclAtlas.Proofs.Text.Parts
import DeclAtlas.Report.Json
import DeclAtlas.Text.Reading
import Mathlib.Tactic.SplitIfs

/-!
# A JSON text determines its value

No two values have the same text (`text_inj`), and `document_inj` says so for whole documents.  The
proof never reads a text back into a value.  It cancels from the left instead: where two texts with
something behind them agree, their values agree and so does what stands behind them
(`text_append_inj`).

For this every part must show its own end.  Brackets do, and so do strings, because `escapeChar`
leaves no quote unescaped and can be undone one character at a time (`unescape?_escapeChar`).
Numbers do not: `1` is a beginning of `12`.  They are followed by a comma or a line feed wherever
they stand, so the statement is about texts that are followed by no digit.
-/

namespace DeclAtlas.Json

open Text

variable {s t : List Char}

/-! ### Strings -/

/-- The character that another one stands for behind a backslash. -/
def shortEscape (c : Char) : Char :=
  if c = 'n' then '\n'
  else if c = 'r' then '\r'
  else if c = 't' then '\t'
  else if c = 'b' then '\x08'
  else if c = 'f' then '\x0c'
  else c

/-- Reads one character inside quotes, written as itself or as an escape. -/
def unescape? : Reader Char
  | '\\' :: 'u' :: s => (hexNumber? 4 0 s).map fun r => (Char.ofNat r.1, r.2)
  | '\\' :: c :: s => some (shortEscape c, s)
  | '"' :: _ => none
  | c :: s => some (c, s)
  | [] => none

theorem hexNumber?_control : ∀ n < 32, ∀ s : List Char,
    hexNumber? 4 0 ('0' :: '0' :: hexDigit (n / 16) :: hexDigit (n % 16) :: s) = some (n, s) := by
  have hvalue : ∀ d < 16, hexValue? (hexDigit d) = some d := by decide
  intro n hn s
  have hzero : hexValue? '0' = some 0 := by decide
  simp only [hexNumber?, hzero, hvalue (n / 16) (by omega), hvalue (n % 16) (by omega),
    Option.bind_some]
  exact congrArg (fun k => some (k, s)) (by omega)

/-- **An escaped character is read back.** -/
theorem unescape?_escapeChar (c : Char) (s : List Char) :
    unescape? (escapeChar c ++ s) = some (c, s) := by
  unfold escapeChar
  split_ifs with hquote hbackslash hn hr ht hb hf hcontrol
  · subst hquote; rfl
  · subst hbackslash; rfl
  · subst hn; rfl
  · subst hr; rfl
  · subst ht; rfl
  · subst hb; rfl
  · subst hf; rfl
  · have hread := hexNumber?_control c.toNat hcontrol s
    simp only [List.cons_append, List.nil_append, unescape?, hread, Option.map_some,
      Char.ofNat_toNat]
  · rw [List.singleton_append, unescape?.eq_def]
    split <;> simp_all

/-- Strings that are closed by a quote are cancelled. -/
theorem escaped_append_inj : ∀ a b : List Char,
    a.flatMap escapeChar ++ '"' :: s = b.flatMap escapeChar ++ '"' :: t → a = b ∧ s = t := by
  intro a
  induction a with
  | nil =>
    intro b h
    cases b with
    | nil => exact ⟨rfl, (List.cons.inj h).2⟩
    | cons d b =>
      have hread := congrArg unescape? h
      rw [List.flatMap_cons, List.append_assoc, unescape?_escapeChar] at hread
      exact absurd hread nofun
  | cons c a ih =>
    intro b h
    have hread := congrArg unescape? h
    rw [List.flatMap_cons, List.append_assoc, unescape?_escapeChar] at hread
    cases b with
    | nil => exact absurd hread nofun
    | cons d b =>
      rw [List.flatMap_cons, List.append_assoc, unescape?_escapeChar] at hread
      obtain ⟨hc, hrest⟩ := Prod.mk.inj (Option.some.inj hread)
      obtain ⟨hab, hst⟩ := ih b hrest
      exact ⟨by rw [hc, hab], hst⟩

theorem quote_append_inj {a b : String} (h : quote a ++ s = quote b ++ t) : a = b ∧ s = t := by
  have hbody : a.toList.flatMap escapeChar ++ '"' :: s = b.toList.flatMap escapeChar ++ '"' :: t := by
    simpa [quote] using h
  obtain ⟨hab, hst⟩ := escaped_append_inj _ _ hbody
  exact ⟨String.toList_inj.mp hab, hst⟩

/-! ### Numbers -/

/-- A text that does not begin with a digit. -/
abbrev NoDigit (s : List Char) : Prop := StartsIn (fun c => c.isDigit = false) s

theorem digits_append_inj {m n : Nat} (hs : NoDigit s) (ht : NoDigit t)
    (h : Nat.toDigits 10 m ++ s = Nat.toDigits 10 n ++ t) : m = n ∧ s = t := by
  have hdigit : ∀ k, ∀ c ∈ Nat.toDigits 10 k, c.isDigit = true := fun k c hc =>
    Nat.isDigit_of_mem_toDigits (by decide) (by decide) hc
  have hdigits : Nat.toDigits 10 m = Nat.toDigits 10 n := by
    rw [← takeWhile_append_of_head (hdigit m) hs, h, takeWhile_append_of_head (hdigit n) ht]
  have hmn : m = n := by
    rw [← Nat.ofDigitChars_ten_toDigits (n := m), hdigits, Nat.ofDigitChars_ten_toDigits]
  subst hmn
  exact ⟨rfl, List.append_cancel_left h⟩

/-! ### Values -/

/-- What a value begins with: a bracket, a brace, a quote, a digit or a letter. -/
inductive Lead where
  | bracket
  | brace
  | quote
  | digit
  | letter
  deriving DecidableEq

/-- What a character begins. -/
def leadOf (c : Char) : Lead :=
  if c = '[' then .bracket
  else if c = '{' then .brace
  else if c = '"' then .quote
  else if c.isDigit then .digit
  else .letter

/-- What the text of a value begins with. -/
def lead : Json → Lead
  | .null | .bool _ => .letter
  | .num _ => .digit
  | .str _ => .quote
  | .arr _ => .bracket
  | .obj _ => .brace

theorem leadOf_of_isDigit {c : Char} (h : c.isDigit = true) : leadOf c = .digit := by
  have hne : ∀ d : Char, d.isDigit = false → c ≠ d := fun d hd e => by
    rw [e, hd] at h
    exact absurd h Bool.false_ne_true
  rw [leadOf, if_neg (hne _ rfl), if_neg (hne _ rfl), if_neg (hne _ rfl), if_pos h]

theorem exists_lead (level : Nat) (j : Json) : ∃ c s, text level j = c :: s ∧ leadOf c = j.lead := by
  cases j with
  | null => exact ⟨'n', ['u', 'l', 'l'], rfl, rfl⟩
  | bool b =>
    cases b with
    | false => exact ⟨'f', ['a', 'l', 's', 'e'], rfl, rfl⟩
    | true => exact ⟨'t', ['r', 'u', 'e'], rfl, rfl⟩
  | num n =>
    obtain ⟨c, ds, hds⟩ := List.exists_cons_of_ne_nil (Nat.toDigits_ne_nil (n := n) (b := 10))
    have hc : c.isDigit = true :=
      Nat.isDigit_of_mem_toDigits (by decide) (by decide) (hds ▸ List.mem_cons_self)
    exact ⟨c, ds, by rw [text, hds], leadOf_of_isDigit hc⟩
  | str s => exact ⟨'"', _, rfl, rfl⟩
  | arr xs =>
    cases xs with
    | nil => exact ⟨'[', [']'], rfl, rfl⟩
    | cons x xs => exact ⟨'[', _, by rw [text]; rfl, rfl⟩
  | obj ms =>
    cases ms with
    | nil => exact ⟨'{', ['}'], rfl, rfl⟩
    | cons m ms => exact ⟨'{', _, by rw [text]; rfl, rfl⟩

theorem lead_eq {j k : Json} {level : Nat} (h : text level j ++ s = text level k ++ t) :
    j.lead = k.lead := by
  obtain ⟨c, u, hj, hc⟩ := exists_lead level j
  obtain ⟨d, v, hk, hd⟩ := exists_lead level k
  rw [hj, hk, List.cons_append, List.cons_append] at h
  rw [← hc, ← hd, (List.cons.inj h).1]

theorem noDigit_items (level : Nat) (xs : List Json) (s : List Char) :
    NoDigit (itemsText level xs ++ '\n' :: s) := by
  cases xs with
  | nil => exact startsIn_cons rfl
  | cons x xs => exact startsIn_cons rfl

theorem noDigit_members (level : Nat) (ms : List (String × Json)) (s : List Char) :
    NoDigit (membersText level ms ++ '\n' :: s) := by
  cases ms with
  | nil => exact startsIn_cons rfl
  | cons m ms => exact startsIn_cons rfl

-- Structural on the first value.  A list goes on with a comma and ends with the line feed before
-- its bracket, so each of its members is followed by no digit.
mutual

/-- **Values are cancelled** from texts that go on without a digit. -/
theorem text_append_inj : ∀ (j k : Json) (level : Nat) {s t : List Char}, NoDigit s → NoDigit t →
    text level j ++ s = text level k ++ t → j = k ∧ s = t
  | .null, k, level, s, t, _, _, h => by
    have hlead := lead_eq h
    cases k with
    | null => exact ⟨rfl, List.append_cancel_left h⟩
    | bool b => cases b <;> exact absurd (List.cons.inj h).1 (by decide)
    | _ => exact absurd hlead nofun
  | .bool a, k, level, s, t, _, _, h => by
    have hlead := lead_eq h
    cases k with
    | null => cases a <;> exact absurd (List.cons.inj h).1 (by decide)
    | bool b =>
      have hab : a = b := by
        cases a <;> cases b <;> first | rfl | exact absurd (List.cons.inj h).1 (by decide)
      subst hab
      exact ⟨rfl, List.append_cancel_left h⟩
    | _ => exact absurd hlead nofun
  | .num m, k, level, s, t, hs, ht, h => by
    have hlead := lead_eq h
    cases k with
    | num n =>
      rw [text, text] at h
      obtain ⟨hmn, hst⟩ := digits_append_inj hs ht h
      exact ⟨congrArg num hmn, hst⟩
    | _ => exact absurd hlead nofun
  | .str a, k, level, s, t, _, _, h => by
    have hlead := lead_eq h
    cases k with
    | str b =>
      rw [text, text] at h
      obtain ⟨hab, hst⟩ := quote_append_inj h
      exact ⟨congrArg str hab, hst⟩
    | _ => exact absurd hlead nofun
  | .arr [], k, level, s, t, _, _, h => by
    have hlead := lead_eq h
    cases k with
    | arr ys =>
      cases ys with
      | nil => exact ⟨rfl, List.append_cancel_left h⟩
      | cons y ys => simp [text, newline] at h
    | _ => exact absurd hlead nofun
  | .arr (x :: xs), k, level, s, t, _, _, h => by
    have hlead := lead_eq h
    cases k with
    | arr ys =>
      cases ys with
      | nil => simp [text, newline] at h
      | cons y ys =>
        simp only [text, newline, List.cons_append, List.append_assoc, List.nil_append,
          List.cons.injEq, true_and, List.append_cancel_left_eq] at h
        obtain ⟨hxy, hrest⟩ :=
          text_append_inj x y (level + 1) (noDigit_items _ xs _) (noDigit_items _ ys _) h
        obtain ⟨hxs, hend⟩ := itemsText_append_inj xs ys (level + 1) hrest
        rw [List.append_cancel_left_eq, List.cons.injEq] at hend
        exact ⟨by rw [hxy, hxs], hend.2⟩
    | _ => exact absurd hlead nofun
  | .obj [], k, level, s, t, _, _, h => by
    have hlead := lead_eq h
    cases k with
    | obj ns =>
      cases ns with
      | nil => exact ⟨rfl, List.append_cancel_left h⟩
      | cons n ns => simp [text, newline] at h
    | _ => exact absurd hlead nofun
  | .obj ((a, x) :: ms), k, level, s, t, _, _, h => by
    have hlead := lead_eq h
    cases k with
    | obj ns =>
      cases ns with
      | nil => simp [text, newline] at h
      | cons n ns =>
        obtain ⟨b, y⟩ := n
        simp only [text, newline, List.cons_append, List.append_assoc, List.nil_append,
          List.cons.injEq, true_and, List.append_cancel_left_eq] at h
        obtain ⟨hab, hvalue⟩ := quote_append_inj h
        simp only [List.cons.injEq, true_and] at hvalue
        obtain ⟨hxy, hrest⟩ := text_append_inj x y (level + 1) (noDigit_members _ ms _)
          (noDigit_members _ ns _) hvalue
        obtain ⟨hms, hend⟩ := membersText_append_inj ms ns (level + 1) hrest
        rw [List.append_cancel_left_eq, List.cons.injEq] at hend
        exact ⟨by rw [hab, hxy, hms], hend.2⟩
    | _ => exact absurd hlead nofun

/-- Items that are ended by a line feed are cancelled. -/
theorem itemsText_append_inj : ∀ (xs ys : List Json) (level : Nat) {s t : List Char},
    itemsText level xs ++ '\n' :: s = itemsText level ys ++ '\n' :: t → xs = ys ∧ s = t
  | [], ys, level, s, t, h => by
    cases ys with
    | nil => exact ⟨rfl, (List.cons.inj h).2⟩
    | cons y ys => exact absurd (List.cons.inj h).1 (by decide)
  | x :: xs, ys, level, s, t, h => by
    cases ys with
    | nil => exact absurd (List.cons.inj h).1 (by decide)
    | cons y ys =>
      simp only [itemsText, List.cons_append, List.append_assoc, List.cons.injEq, true_and,
        List.append_cancel_left_eq] at h
      obtain ⟨hxy, hrest⟩ :=
        text_append_inj x y level (noDigit_items _ xs _) (noDigit_items _ ys _) h
      obtain ⟨hxs, hst⟩ := itemsText_append_inj xs ys level hrest
      exact ⟨by rw [hxy, hxs], hst⟩

/-- Members that are ended by a line feed are cancelled. -/
theorem membersText_append_inj : ∀ (ms ns : List (String × Json)) (level : Nat) {s t : List Char},
    membersText level ms ++ '\n' :: s = membersText level ns ++ '\n' :: t → ms = ns ∧ s = t
  | [], ns, level, s, t, h => by
    cases ns with
    | nil => exact ⟨rfl, (List.cons.inj h).2⟩
    | cons n ns => exact absurd (List.cons.inj h).1 (by decide)
  | (a, x) :: ms, ns, level, s, t, h => by
    cases ns with
    | nil => exact absurd (List.cons.inj h).1 (by decide)
    | cons n ns =>
      obtain ⟨b, y⟩ := n
      simp only [membersText, List.cons_append, List.append_assoc, List.cons.injEq, true_and,
        List.append_cancel_left_eq] at h
      obtain ⟨hab, hvalue⟩ := quote_append_inj h
      simp only [List.nil_append, List.cons.injEq, true_and] at hvalue
      obtain ⟨hxy, hrest⟩ := text_append_inj x y level (noDigit_members _ ms _)
        (noDigit_members _ ns _) hvalue
      obtain ⟨hms, hst⟩ := membersText_append_inj ms ns level hrest
      exact ⟨by rw [hab, hxy, hms], hst⟩

end

/-- **No two values have the same document.** -/
theorem document_inj {j k : Json} : j.document = k.document ↔ j = k := by
  constructor
  · intro h
    have htext : text 0 j ++ ['\n'] = text 0 k ++ ['\n'] := String.ofList_inj.mp h
    exact (text_append_inj j k 0 (startsIn_cons rfl) (startsIn_cons rfl) htext).1
  · rintro rfl
    rfl

end DeclAtlas.Json
