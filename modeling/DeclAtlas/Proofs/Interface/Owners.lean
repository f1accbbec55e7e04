import DeclAtlas.Interface.ValueStruct
import DeclAtlas.Proofs.Nesting.Blocks
import DeclAtlas.Proofs.Text.Occurrences
import DeclAtlas.Proofs.Text.Parts

/-!
# The declaration of a value struct

A value struct is registered by a call that stands in the braces of its declaration, and no name is
written with the call.  Whose registration it is has to be told from the lines before: the reader takes
the first registration of a file that has the type mentioned in reach (`findStruct?_eq_some`), and the
nearest mention for the declaration.  A mention is a line on which the keyword and the name stand; it
need not open a brace, and where it does, the brace may be closed again before the registration.

What should hold is that the registration stands in the braces of a declaration of the type: that one is
open in the text up to the call (`OpenAfter`).  A call does not stand in the head of a declaration, so
a declaration that begins before the registration and is open at a later one is open at this one, too
(`OpenAfter.of_append`).  So it does hold if a declaration before the registration that is reported
has any registration in its braces, on the reported line or below, and in particular if the first mention
in the file is a declaration with a registration in reach (`ofStruct?_openAfter_iff`).  A type that is
declared ahead, without braces, gets the registration of the next type
(`not_openAfter_of_forward_declaration`).
-/

namespace DeclAtlas

open Text Nesting

/-! ### Mentions before a registration -/

/-- Whether line `d` reads as a declaration of the type. -/
def Mentions (typeName : List Char) (ls : List Line) (d : Nat) : Prop :=
  ∃ l, ls[d]? = some l ∧ declares typeName l = true

/-- Whether line `n` registers a value struct. -/
def Registers (ls : List Line) (n : Nat) : Prop := ∃ l, ls[n]? = some l ∧ isStructMarker l = true

instance (typeName : List Char) (ls : List Line) (d : Nat) : Decidable (Mentions typeName ls d) :=
  decidable_of_iff ((ls[d]?).any (declares typeName) = true) (Option.any_eq_true _ _)

/-- Line `o` is the nearest mention of the type in reach of line `n`. -/
structure IsOwner (typeName : List Char) (ls : List Line) (o n : Nat) : Prop where
  mentions : Mentions typeName ls o
  lt : o < n
  le : n ≤ o + lookback
  nearest : ∀ d, o < d → d < n → ¬ Mentions typeName ls d

section Search

variable {typeName : List Char} {ls : List Line} {o n : Nat}

/-- The lines that are looked at for a mention, numbered. -/
def window (ls : List Line) (n : Nat) : List (Line × Nat) :=
  (ls.take n).zipIdx.drop (n - lookback)

theorem getElem?_window_iff {i d : Nat} {l : Line} :
    (window ls n)[i]? = some (l, d) ↔ d = n - lookback + i ∧ d < n ∧ ls[d]? = some l := by
  have htake : ∀ {j : Nat} {x : Line},
      (ls.take n)[j]? = some x ↔ j < n ∧ ls[j]? = some x := by
    intro j x
    rw [List.getElem?_take]
    split <;> simp [*]
  rw [window, List.getElem?_drop, List.getElem?_zipIdx, Nat.zero_add, Option.map_eq_some_iff]
  constructor
  · rintro ⟨l', hl', heq⟩
    obtain ⟨rfl, rfl⟩ := Prod.mk.inj heq
    exact ⟨rfl, htake.mp hl'⟩
  · rintro ⟨rfl, hl⟩
    exact ⟨l, htake.mpr hl, rfl⟩

theorem ownerOf?_eq_some (h : ownerOf? typeName ls n = some o) : IsOwner typeName ls o n := by
  obtain ⟨⟨l, o⟩, hfind, rfl⟩ := Option.map_eq_some_iff.mp h
  obtain ⟨hl, later, earlier, hsplit, hlater⟩ := List.find?_eq_some_iff_append.mp hfind
  have hwindow : window ls n = earlier.reverse ++ (l, o) :: later.reverse := by
    rw [← List.reverse_reverse (window ls n), window, hsplit]
    simp
  have hat : (window ls n)[earlier.length]? = some (l, o) := by
    rw [hwindow, List.getElem?_append_right (by simp)]
    simp
  obtain ⟨ho, hlt, hline⟩ := getElem?_window_iff.mp hat
  dsimp only
  refine ⟨⟨l, hline, hl⟩, hlt, by omega, fun d hd hdn ⟨m, hm, hdeclares⟩ => ?_⟩
  have hmem : (m, d) ∈ later := by
    have hd' : (window ls n)[d - (n - lookback)]? = some (m, d) :=
      getElem?_window_iff.mpr ⟨by omega, hdn, hm⟩
    obtain ⟨k, hk⟩ : ∃ k, d - (n - lookback) = earlier.length + (k + 1) :=
      ⟨d - o - 1, by omega⟩
    rw [hwindow, hk, ← List.length_reverse, List.getElem?_append_right (Nat.le_add_right _ _),
      Nat.add_sub_cancel_left, List.getElem?_cons_succ] at hd'
    exact List.mem_reverse.mp (List.mem_of_getElem? hd')
  have hnone := hlater (m, d) hmem
  rw [hdeclares] at hnone
  exact absurd hnone (by decide)

/-- A mention in reach is found, if not a nearer one. -/
theorem exists_ownerOf? {d : Nat} (h : Mentions typeName ls d) (hlt : d < n)
    (hle : n ≤ d + lookback) : ∃ o, ownerOf? typeName ls n = some o := by
  obtain ⟨l, hl, hdeclares⟩ := h
  have hmem : (l, d) ∈ window ls n :=
    List.mem_of_getElem? (getElem?_window_iff (i := d - (n - lookback)).mpr ⟨by omega, hlt, hl⟩)
  have hsome : ((window ls n).reverse.find? fun l => declares typeName l.1).isSome = true :=
    List.find?_isSome.mpr ⟨(l, d), List.mem_reverse.mpr hmem, hdeclares⟩
  obtain ⟨x, hx⟩ := Option.isSome_iff_exists.mp hsome
  exact ⟨x.2, by rw [ownerOf?, ← window, hx, Option.map_some]⟩

/-- **The first registration with a mention in reach**, and the nearest such mention. -/
theorem findStruct?_eq_some (h : findStruct? typeName ls = some (o, n)) :
    Registers ls n ∧ IsOwner typeName ls o n ∧
      ∀ m d, Registers ls m → Mentions typeName ls d → d < m → m ≤ d + lookback → n ≤ m := by
  obtain ⟨before, ⟨l, n⟩, after, hsplit, hfound, hbefore⟩ := List.findSome?_eq_some_iff.mp h
  dsimp only at hfound
  split at hfound
  · rename_i hmarker
    obtain ⟨o', howner, heq⟩ := Option.map_eq_some_iff.mp hfound
    obtain ⟨rfl, rfl⟩ := Prod.mk.inj heq
    have hat : ls.zipIdx[before.length]? = some (l, n) := by
      rw [hsplit, List.getElem?_append_right (Nat.le_refl _), Nat.sub_self]
      rfl
    rw [List.getElem?_zipIdx, Nat.zero_add, Option.map_eq_some_iff] at hat
    obtain ⟨l', hl', heq⟩ := hat
    obtain ⟨rfl, rfl⟩ := Prod.mk.inj heq
    refine ⟨⟨l', hl', hmarker⟩, ownerOf?_eq_some howner, ?_⟩
    rintro m d ⟨k, hk, hmark⟩ hmention hlt hle
    refine Nat.not_lt.mp fun hm => ?_
    obtain ⟨e, he⟩ := exists_ownerOf? hmention hlt hle
    have hmem : (k, m) ∈ before := by
      have hm' : ls.zipIdx[m]? = some (k, m) := by
        rw [List.getElem?_zipIdx, hk, Nat.zero_add, Option.map_some]
      rw [hsplit, List.getElem?_append_left hm] at hm'
      exact List.mem_of_getElem? hm'
    have hnone := hbefore (k, m) hmem
    rw [if_pos hmark, he] at hnone
    exact absurd hnone nofun
  · exact absurd hfound nofun

/-- A registration with a mention in reach is found, if not an earlier one. -/
theorem exists_findStruct? {d : Nat} (hregisters : Registers ls n) (hmention : Mentions typeName ls d)
    (hlt : d < n) (hle : n ≤ d + lookback) : ∃ x, findStruct? typeName ls = some x := by
  obtain ⟨l, hl, hmarker⟩ := hregisters
  obtain ⟨e, he⟩ := exists_ownerOf? hmention hlt hle
  have hmem : (l, n) ∈ ls.zipIdx := by
    refine List.mem_of_getElem? (i := n) ?_
    rw [List.getElem?_zipIdx, hl, Option.map_some, Nat.zero_add]
  refine Option.ne_none_iff_exists'.mp fun hnone => ?_
  have hpassed := List.findSome?_eq_none_iff.mp hnone (l, n) hmem
  rw [if_pos hmarker, he] at hpassed
  exact absurd hpassed nofun

end Search

/-! ### Declarations -/

/-- What may stand between the name of a class and its opening brace: `final`, and base classes behind
a colon. -/
structure Clause where
  before : Blanks
  mark : List Char
  after : Blanks
  bases : List Char
  mark_eq : mark = [] ∨ mark = "final".toList ∧ before.text ≠ []
  bases_eq : bases = [] ∨
    ∃ r, bases = ':' :: r ∧ r.head? ≠ some ':' ∧ ∀ c ∈ r, c ∉ "\x7b\x7d;()".toList

/-- The clause as written. -/
def Clause.text (k : Clause) : List Char := k.before.text ++ (k.mark ++ (k.after.text ++ k.bases))

/-- The head of a class or struct declaration, up to its opening brace. -/
structure DeclarationHead (typeName : List Char) where
  keyword : List Char
  gap : Gap
  clause : Clause
  keyword_mem : keyword ∈ ["class".toList, "struct".toList]
  word : ∀ c ∈ typeName, isWord c = true

/-- The head as written. -/
def DeclarationHead.text {typeName : List Char} (h : DeclarationHead typeName) : List Char :=
  h.keyword ++ (h.gap.text ++ (typeName ++ h.clause.text))

/-- Whether a keyword behind a text is a word of its own, and not the second one of `enum class`. -/
def BeginsDeclaration (lead : List Char) : Prop :=
  lead.getLast?.any isWord = false ∧ ¬ "enum".toList <:+ trimEnd lead

instance (lead : List Char) : Decidable (BeginsDeclaration lead) :=
  inferInstanceAs (Decidable (_ ∧ _))

/-- **A declaration of the type that begins behind `lead` is open** at the end of a text: its opening
brace stands in the text, and the matching closing one does not. -/
def OpenAfter (typeName lead s : List Char) : Prop :=
  BeginsDeclaration lead ∧ ∃ (h : DeclarationHead typeName) (body : List Char),
    s = lead ++ (h.text ++ '{' :: body) ∧ afterClosing? 1 body = none

/-- The text of some lines up to the registration on line `n`. -/
def textBefore (ls : List Line) (n : Nat) : List Char :=
  endLines (ls.take n) ++ ((cut? structMacro (ls.getD n [])).map Prod.fst).getD []

theorem Clause.notMem (k : Clause) {c : Char} (hc : c ∈ "\x7b\x7d;()".toList) : c ∉ k.text := by
  have hplain : isBlank c = false ∧ c ∉ "final".toList ∧ c ≠ ':' := by
    obtain rfl | rfl | rfl | rfl | rfl :
        c = '\x7b' ∨ c = '\x7d' ∨ c = ';' ∨ c = '(' ∨ c = ')' := by simpa using hc
    all_goals decide
  have hmark : c ∉ k.mark := by
    rcases k.mark_eq with h | ⟨h, -⟩
    · rw [h]
      exact List.not_mem_nil
    · rw [h]
      exact hplain.2.1
  have hbases : c ∉ k.bases := by
    rcases k.bases_eq with h | ⟨r, h, -, hr⟩
    · rw [h]
      exact List.not_mem_nil
    · rw [h, List.mem_cons, not_or]
      exact ⟨hplain.2.2, fun hmem => hr c hmem hc⟩
  simp only [Clause.text, List.mem_append, not_or]
  exact ⟨k.before.notMem hplain.1, hmark, k.after.notMem hplain.1, hbases⟩

section Declarations

variable {typeName lead s : List Char}

theorem DeclarationHead.notMem (h : DeclarationHead typeName) {c : Char}
    (hc : c ∈ "\x7b\x7d;()".toList) : c ∉ h.text := by
  have hplain : isBlank c = false ∧ isWord c = false ∧
      ∀ k ∈ ["class".toList, "struct".toList], c ∉ k := by
    obtain rfl | rfl | rfl | rfl | rfl :
        c = '\x7b' ∨ c = '\x7d' ∨ c = ';' ∨ c = '(' ∨ c = ')' := by simpa using hc
    all_goals decide
  have hname : c ∉ typeName := fun hmem =>
    absurd ((h.word c hmem).symm.trans hplain.2.1) (by decide)
  simp only [DeclarationHead.text, List.mem_append, not_or]
  exact ⟨hplain.2.2 _ h.keyword_mem, h.gap.notMem hplain.1, hname, h.clause.notMem hc⟩

/-- A brace that is not closed in a text is not closed in a part of it. -/
theorem afterClosing?_of_append {depth : Int} {a b : List Char}
    (h : afterClosing? depth (a ++ b) = none) : afterClosing? depth a = none := by
  induction a generalizing depth with
  | nil => rfl
  | cons c a ih =>
    rw [List.cons_append, afterClosing?] at h
    rw [afterClosing?]
    by_cases hc : c = '}' ∧ depth ≤ 1
    · rw [if_pos hc] at h
      exact absurd h (Option.some_ne_none _)
    · rw [if_neg hc] at h ⊢
      exact ih h

/-- The first brace and the first parenthesis of a text cannot both come first. -/
theorem ne_of_first {a b r r' : List Char} (ha : '(' ∉ a) (hb : '{' ∉ b) :
    a ++ '{' :: r ≠ b ++ '(' :: r' := by
  intro h
  rcases List.append_eq_append_iff.mp h with ⟨c, rfl, hc⟩ | ⟨c, rfl, hc⟩
  · cases c with
    | nil => exact absurd (List.cons.inj hc).1 (by decide)
    | cons x c =>
      obtain ⟨rfl, -⟩ := List.cons.inj hc
      exact hb (List.mem_append_right a List.mem_cons_self)
  · cases c with
    | nil => exact absurd (List.cons.inj hc).1 (by decide)
    | cons x c =>
      obtain ⟨rfl, -⟩ := List.cons.inj hc
      exact ha (List.mem_append_right b List.mem_cons_self)

/-- **A call does not stand in the head of a declaration**, so a declaration that begins before a call
and is open somewhere behind is open at the call. -/
theorem OpenAfter.of_append {w r : List Char} (hw : '{' ∉ w) (hlead : lead <+: s)
    (h : OpenAfter typeName lead (s ++ (w ++ '(' :: r))) : OpenAfter typeName lead s := by
  obtain ⟨hbegins, head, body, heq, hnone⟩ := h
  obtain ⟨t, rfl⟩ := hlead
  rw [List.append_assoc, List.append_cancel_left_eq] at heq
  rcases List.append_eq_append_iff.mp heq with ⟨u, hhead, hu⟩ | ⟨u, ht, hu⟩
  · have hfree : '(' ∉ u := fun hmem =>
      head.notMem (by decide) (hhead ▸ List.mem_append_right t hmem)
    exact absurd hu.symm (ne_of_first hfree hw)
  · cases u with
    | nil => exact absurd hu (ne_of_first (a := []) List.not_mem_nil hw)
    | cons x u =>
      obtain ⟨rfl, hbody⟩ := List.cons.inj hu
      rw [hbody] at hnone
      exact ⟨hbegins, head, u, by rw [ht], afterClosing?_of_append hnone⟩

end Declarations

/-! ### Registrations in the text -/

section Registrations

variable {ls : List Line} {m n : Nat}

theorem exists_of_registers (h : Registers ls n) : ∃ a b r,
    ls[n]? = some (a ++ (structMacro ++ (Blanks.text b ++ '(' :: r))) ∧
      textBefore ls n = endLines (ls.take n) ++ a := by
  obtain ⟨l, hl, hmarker⟩ := h
  rw [isStructMarker] at hmarker
  split at hmarker
  · exact absurd hmarker nofun
  · rename_i s hs
    obtain ⟨t, ht⟩ := startsWith_iff.mp hmarker
    obtain ⟨b, rfl⟩ := exists_of_trimStart ht.symm
    obtain ⟨a, hcut, rfl⟩ := exists_cut? hs
    refine ⟨a, b, t, hl, ?_⟩
    rw [textBefore, List.getD_eq_getElem?_getD, hl, Option.getD_some, hcut]
    rfl

/-- The text up to a later line goes on with the registration. -/
theorem exists_textBefore_eq (h : Registers ls n) (hlt : n < m) : ∃ w r, '{' ∉ w ∧
    textBefore ls m = textBefore ls n ++ (w ++ '(' :: r) := by
  obtain ⟨a, b, r, hl, hbefore⟩ := exists_of_registers h
  obtain ⟨k, rfl⟩ := Nat.exists_eq_add_of_lt hlt
  have hdrop : ls.drop n = (a ++ (structMacro ++ (b.text ++ '(' :: r))) :: ls.drop (n + 1) := by
    obtain ⟨hn, hget⟩ := List.getElem?_eq_some_iff.mp hl
    rw [List.drop_eq_getElem_cons hn, hget]
  have htake : ls.take (n + k + 1) = ls.take n ++
      (a ++ (structMacro ++ (b.text ++ '(' :: r))) :: (ls.drop (n + 1)).take k := by
    rw [Nat.add_assoc, List.take_add, hdrop, List.take_succ_cons]
  have hfree : '{' ∉ structMacro ++ b.text := by
    rw [List.mem_append, not_or]
    exact ⟨by decide, b.notMem (by decide)⟩
  obtain ⟨t, ht⟩ : ∃ t, textBefore ls (n + k + 1) = endLines (ls.take (n + k + 1)) ++ t := ⟨_, rfl⟩
  refine ⟨structMacro ++ b.text, r ++ '\n' :: (endLines ((ls.drop (n + 1)).take k) ++ t), hfree, ?_⟩
  rw [ht, hbefore, htake]
  simp [endLines]

theorem prefix_textBefore {d : Nat} (h : d < n) : endLines (ls.take (d + 1)) <+: textBefore ls n :=
  (prefix_endLines h ls).trans (List.prefix_append _ _)

end Registrations

/-! ### The reported registration -/

/-- **Whether the reported registration stands in the braces of the type.**  The registration is the
first one in the file with a mention of the type in reach.  A declaration of the type is open at it
exactly if one that begins before it is open at some registration from there on.  If the first mention of
the type is a declaration that is open at a registration in reach, it is open at the reported one. -/
theorem ofStruct?_openAfter_iff {typeName file content : String} {i : Interface}
    (h : Interface.ofStruct? typeName file content = some i) :
    let name := typeName.toList
    let ls := linesOf content
    ∃ o n, i.location = ⟨file, n + 1⟩ ∧ Registers ls n ∧ IsOwner name ls o n ∧
      (∀ m d, Registers ls m → Mentions name ls d → d < m → m ≤ d + lookback → n ≤ m) ∧
      ((∃ lead, OpenAfter name lead (textBefore ls n)) ↔
        ∃ lead m, lead <+: textBefore ls n ∧ n ≤ m ∧ Registers ls m ∧
          OpenAfter name lead (textBefore ls m)) ∧
      ∀ d lead m, Mentions name ls d → (∀ j < d, ¬ Mentions name ls j) →
        lead <+: endLines (ls.take (d + 1)) → Registers ls m → d < m → m ≤ d + lookback →
        OpenAfter name lead (textBefore ls m) → OpenAfter name lead (textBefore ls n) := by
  intro name ls
  obtain ⟨⟨o, n⟩, hfound, rfl⟩ := Option.map_eq_some_iff.mp h
  obtain ⟨hregisters, howner, hfirst⟩ := findStruct?_eq_some hfound
  have hopen : ∀ lead m, lead <+: textBefore ls n → n ≤ m →
      OpenAfter name lead (textBefore ls m) → OpenAfter name lead (textBefore ls n) := by
    intro lead m hlead hle hm
    rcases Nat.eq_or_lt_of_le hle with rfl | hlt
    · exact hm
    · obtain ⟨w, r, hw, htext⟩ := exists_textBefore_eq hregisters hlt
      rw [htext] at hm
      exact hm.of_append hw hlead
  refine ⟨o, n, rfl, hregisters, howner, hfirst, ⟨?_, ?_⟩, ?_⟩
  · rintro ⟨lead, hlead⟩
    obtain ⟨-, head, body, htext, -⟩ := id hlead
    exact ⟨lead, n, ⟨_, htext.symm⟩, Nat.le_refl n, hregisters, hlead⟩
  · rintro ⟨lead, m, hlead, hle, -, hm⟩
    exact ⟨lead, hopen lead m hlead hle hm⟩
  · intro d lead m hmention hnone hlead hm hlt hle hdeclared
    have hdo : d ≤ o := Nat.not_lt.mp fun ho => hnone o ho howner.mentions
    exact hopen lead m (hlead.trans (prefix_textBefore (Nat.lt_of_le_of_lt hdo howner.lt)))
      (hfirst m d hm hmention hlt hle) hdeclared

/-- The head of a final class with a base. -/
def derivedHead : DeclarationHead "Foo".toList where
  keyword := "struct".toList
  gap := .space
  clause :=
    { before := Gap.space.toBlanks
      mark := "final".toList
      after := .none
      bases := ": public Bar ".toList
      mark_eq := .inr ⟨rfl, by decide⟩
      bases_eq := by
        refine .inr ⟨" public Bar ".toList, rfl, by decide, fun c hc hmark => ?_⟩
        have hall : (" public Bar ".toList.all
            fun c => !"\x7b\x7d;()".toList.contains c) = true := by decide
        have hnone := List.all_eq_true.mp hall c hc
        rw [List.contains_iff_mem.mpr hmark] at hnone
        exact absurd hnone (by decide) }
  keyword_mem := by decide
  word := List.all_eq_true.mp (by decide)

/-- A type that is declared behind another one, and registered. -/
theorem openAfter_of_declared :
    let content := "// Foo\nstruct Bar \x7b\n  JSG_STRUCT(y);\n\x7d;\n" ++
      "struct Foo final: public Bar \x7b\n  int x;\n  JSG_STRUCT(x);\n\x7d;\n"
    ∃ i, Interface.ofStruct? "Foo" "t.h" content = some i ∧ i.location = ⟨"t.h", 7⟩ ∧
      ∃ lead, OpenAfter "Foo".toList lead (textBefore (linesOf content) 6) := by
  intro content
  have hfound : findStruct? "Foo".toList (linesOf content) = some (4, 6) := by decide +kernel
  obtain ⟨i, hi, hplace⟩ : ∃ i, Interface.ofStruct? "Foo" "t.h" content = some i ∧
      i.location = ⟨"t.h", 7⟩ := by
    rw [Interface.ofStruct?, hfound]
    exact ⟨_, rfl, rfl⟩
  let lead := endLines ((linesOf content).take 4)
  have hopen : OpenAfter "Foo".toList lead (textBefore (linesOf content) 6) :=
    ⟨by decide +kernel, derivedHead, "\n  int x;\n  ".toList, by decide +kernel, by decide⟩
  obtain ⟨o, n, hloc, -, -, -, -, hdeclared⟩ := ofStruct?_openAfter_iff hi
  obtain rfl : n = 6 := by
    have hline := congrArg Location.line (hloc.symm.trans hplace)
    exact Nat.succ.inj hline
  refine ⟨i, hi, hplace, lead, hdeclared 4 lead 6 ?_ ?_ ?_ ?_ (by decide) (by decide) hopen⟩
  · decide +kernel
  · decide +kernel
  · exact prefix_endLines (by decide) _
  · exact (findStruct?_eq_some hfound).1

/-- **A registration is taken for that of a type which is only declared ahead** of the declaration it
stands in. -/
theorem not_openAfter_of_forward_declaration :
    let content := "struct Foo;\nstruct Bar \x7b\n  int x;\n  JSG_STRUCT(x);\n\x7d;\n"
    ∃ i, Interface.ofStruct? "Foo" "t.h" content = some i ∧ i.location = ⟨"t.h", 4⟩ ∧
      ∀ lead, ¬ OpenAfter "Foo".toList lead (textBefore (linesOf content) 3) := by
  intro content
  have hfound : findStruct? "Foo".toList (linesOf content) = some (0, 3) := by decide +kernel
  refine ⟨_, by rw [Interface.ofStruct?, hfound]; rfl, rfl, ?_⟩
  rintro lead ⟨-, head, body, htext, -⟩
  -- the name stands in the text only where a semicolon follows it
  have hscan : ∀ k < 36, startsWith "Foo".toList ((textBefore (linesOf content) 3).drop k) = true →
      ((textBefore (linesOf content) 3).drop (k + 3)).head? = some ';' := by
    decide +kernel
  have hplace : (lead ++ (head.keyword ++ head.gap.text)).length < 36 := by
    have hlength := congrArg List.length htext
    have htotal : (textBefore (linesOf content) 3).length = 36 := by decide +kernel
    rw [htotal, DeclarationHead.text] at hlength
    simp only [List.length_append, List.length_cons] at hlength ⊢
    omega
  have hsplit : textBefore (linesOf content) 3 = (lead ++ (head.keyword ++ head.gap.text)) ++
      ("Foo".toList ++ (head.clause.text ++ '{' :: body)) := by
    rw [htext, DeclarationHead.text]
    simp only [List.append_assoc]
  have hnext := hscan _ hplace
  rw [hsplit, List.drop_left, ← List.drop_drop, List.drop_left] at hnext
  have hsemicolon : (head.clause.text ++ '{' :: body).head? = some ';' :=
    hnext (startsWith_append _ _)
  rw [List.head?_append, List.head?_cons, Option.or_eq_some_iff] at hsemicolon
  rcases hsemicolon with hmem | ⟨-, hbrace⟩
  · exact head.clause.notMem (by decide) (List.mem_of_mem_head? hmem)
  · exact absurd hbrace (by decide)

end DeclAtlas
