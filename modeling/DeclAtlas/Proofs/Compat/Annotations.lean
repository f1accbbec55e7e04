import DeclAtlas.Compat.Flag
import DeclAtlas.Proofs.Text.Matches
import DeclAtlas.Proofs.Text.Parts

/-!
# Annotations of a continued line

Annotations with any argument and those with a quoted one are read alike, with other marks around
the argument (`Marks`).  When a line is continued behind a blank, the annotations that it has stay
(`Marks.readsBefore`).  One that it leaves open can be closed by the continuation, since a blank may
stand in an argument, but nowhere else in an annotation (`Marks.exists_of_joins`).
-/

namespace DeclAtlas.Schema

open Text

/-! ### Marks -/

/-- The marks around the argument of an annotation. -/
structure Marks where
  /-- What stands between the name and the argument. -/
  opening : String
  /-- The character that ends the argument. -/
  stop : Char
  /-- What must stand there. -/
  closing : String
  isWord_stop : isWord stop = false
  stop_ne : stop ≠ '$'
  opening_ne_nil : opening.toList ≠ []
  opening_startsIn : StartsIn (isWord · = false) opening.toList
  head?_closing : closing.toList.head? = some stop
  nonblank : ∀ c ∈ opening.toList ++ closing.toList, isBlank c = false

/-- The marks of an annotation with any argument. -/
def parenthesized : Marks :=
  ⟨"(", ')', ")", by decide, by decide, by decide, startsIn_cons (by decide), rfl,
    isBlank_eq_false_of_any (by decide)⟩

/-- The marks of an annotation with a quoted argument. -/
def quoted : Marks :=
  ⟨"(\"", '"', "\")", by decide, by decide, by decide, startsIn_cons (by decide), rfl,
    isBlank_eq_false_of_any (by decide)⟩

namespace Marks

variable {m : Marks} {name value s t r : List Char}

/-- Reads an annotation with its argument between these marks. -/
def read? (m : Marks) : Reader (List Char × List Char) := fun s => do
  let (name, s) ← (literal? "$" s).bind word?
  let s ← literal? m.opening s
  let value := s.takeWhile (· != m.stop)
  let s ← literal? m.closing (s.dropWhile (· != m.stop))
  some ((name, value), s)

/-- An annotation up to its argument. -/
def lead (m : Marks) (name : List Char) : List Char := '$' :: (name ++ m.opening.toList)

theorem exists_closing (m : Marks) : ∃ rest, m.closing.toList = m.stop :: rest := by
  obtain ⟨rest, hrest⟩ := List.head?_eq_some_iff.mp m.head?_closing
  exact ⟨rest, hrest⟩

/-- **What is read as an annotation.** -/
theorem read?_eq_some_iff : m.read? s = some ((name, value), r) ↔
    s = m.lead name ++ (value ++ (m.closing.toList ++ r)) ∧
      name ≠ [] ∧ (∀ c ∈ name, isWord c = true) ∧ m.stop ∉ value := by
  obtain ⟨rest, hclosing⟩ := m.exists_closing
  constructor
  · intro h
    simp only [read?, Option.bind_eq_bind, Option.bind_eq_some_iff, Option.some.injEq] at h
    obtain ⟨⟨w, s₂⟩, ⟨s₁, hdollar, hword⟩, s₃, hopening, s₄, hclose, hread⟩ := h
    obtain ⟨⟨rfl, rfl⟩, rfl⟩ := Prod.mk.injEq .. ▸ Prod.mk.injEq .. ▸ hread
    obtain ⟨rfl, hne, hwords⟩ := run?_eq_some hword
    obtain rfl := literal?_eq_some.mp hdollar
    obtain rfl := literal?_eq_some.mp hopening
    refine ⟨?_, hne, hwords, fun hmem => ?_⟩
    · rw [← literal?_eq_some.mp hclose, List.takeWhile_append_dropWhile]
      simp [lead]
    · have hstop := List.all_eq_true.mp List.all_takeWhile m.stop hmem
      exact absurd rfl (bne_iff_ne.mp hstop)
  · rintro ⟨rfl, hne, hwords, hvalue⟩
    have hstart : StartsIn (isWord · = false)
        (m.opening.toList ++ (value ++ (m.closing.toList ++ r))) :=
      m.opening_startsIn.append m.opening_ne_nil
    have hdollar : ∀ u, literal? "$" ('$' :: u) = some u := fun _ => rfl
    have hlead : m.lead name ++ (value ++ (m.closing.toList ++ r)) =
        '$' :: (name ++ (m.opening.toList ++ (value ++ (m.closing.toList ++ r)))) := by
      simp [lead]
    rw [read?, hlead, hdollar, Option.bind_some, word?, run?_append hne hwords hstart]
    simp only [Option.bind_eq_bind, Option.bind_some, literal?_append]
    rw [hclosing, List.cons_append, takeWhile_bne_append hvalue, dropWhile_bne_append hvalue,
      ← List.cons_append, ← hclosing, literal?_append, Option.bind_some]

theorem advances (m : Marks) : Advances m.read? := by
  intro c s a r h
  obtain ⟨htext, -⟩ := read?_eq_some_iff.mp (show m.read? (c :: s) = some ((a.1, a.2), r) from h)
  refine ⟨a.1 ++ m.opening.toList ++ a.2 ++ m.closing.toList, ?_⟩
  rw [lead, List.cons_append] at htext
  rw [(List.cons.inj htext).2]
  simp

/-! ### Continued lines -/

theorem nonblank_lead (hname : ∀ c ∈ name, isWord c = true) :
    ∀ c ∈ m.lead name, isBlank c = false := by
  intro c hc
  rcases List.mem_cons.mp hc with rfl | hc
  · decide
  · rcases List.mem_append.mp hc with hc | hc
    · exact isBlank_eq_false_of_isWord (hname c hc)
    · exact m.nonblank c (List.mem_append_left _ hc)

/-- **An annotation that the continuation closes** is open from its argument on. -/
theorem exists_of_joins (ht : StartsIn (isBlank · = true) t) (hs : m.read? s = none)
    (h : m.read? (s ++ t) = some ((name, value), r)) :
    (∀ c ∈ name, isWord c = true) ∧ ∃ u v, s = m.lead name ++ u ∧ m.stop ∉ u ∧
      t = v ++ (m.closing.toList ++ r) := by
  obtain ⟨htext, hne, hwords, hvalue⟩ := read?_eq_some_iff.mp h
  refine ⟨hwords, ?_⟩
  obtain ⟨u, rfl, hu⟩ := exists_of_append_eq ht (nonblank_lead hwords) htext
  rcases List.append_eq_append_iff.mp hu with ⟨w, rfl, hw⟩ | ⟨w, rfl, hw⟩
  · -- the argument ends before the blank, so the marks behind it do
    obtain ⟨x, rfl, -⟩ := exists_of_append_eq ht
      (fun c hc => m.nonblank c (List.mem_append_right _ hc)) hw.symm
    have hread : m.read? (m.lead name ++ (value ++ (m.closing.toList ++ x))) =
        some ((name, value), x) := read?_eq_some_iff.mpr ⟨rfl, hne, hwords, hvalue⟩
    exact absurd (hs.symm.trans hread) nofun
  · exact ⟨u, w, rfl, fun hmem => hvalue (List.mem_append_left _ hmem), hw⟩

theorem count_lead (hname : ∀ c ∈ name, isWord c = true) :
    (m.lead name).count m.stop = m.opening.toList.count m.stop := by
  have hnone : m.stop ∉ name := by
    intro hmem
    exact absurd ((hname m.stop hmem).symm.trans m.isWord_stop) (by decide)
  rw [lead, List.count_cons_of_ne m.stop_ne.symm, List.count_append,
    List.count_eq_zero.mpr hnone, Nat.zero_add]

/-- An annotation has the mark that ends its argument behind those that open it. -/
theorem count_opening_lt (h : (m.read? s).isSome = true) :
    m.opening.toList.count m.stop < s.count m.stop := by
  obtain ⟨⟨⟨name, value⟩, r⟩, hx⟩ := Option.isSome_iff_exists.mp h
  obtain ⟨rfl, -, hwords, -⟩ := read?_eq_some_iff.mp hx
  obtain ⟨rest, hclosing⟩ := m.exists_closing
  have hend : 0 < (value ++ (m.closing.toList ++ r)).count m.stop := by
    rw [List.count_pos_iff, hclosing]
    simp
  rw [List.count_append, count_lead hwords]
  exact Nat.lt_add_of_pos_right hend

/-- **A line that is continued behind a blank keeps its annotations.** -/
theorem readsBefore (m : Marks) (ht : StartsIn (isBlank · = true) t) : ReadsBefore m.read? t where
  advances := m.advances
  keeps := by
    rintro s ⟨name, value⟩ r h
    obtain ⟨rfl, hrest⟩ := read?_eq_some_iff.mp h
    exact read?_eq_some_iff.mpr ⟨by simp, hrest⟩
  joins := by
    intro s hs h
    obtain ⟨⟨⟨name, value⟩, r⟩, hx⟩ := Option.isSome_iff_exists.mp h
    obtain ⟨hwords, u, v, rfl, hu, -⟩ := exists_of_joins ht hs hx
    refine m.advances.allMatches_eq_nil_iff.mpr fun w hw _ => ?_
    -- the mark that would end another annotation stands only in front of the open argument
    cases hread : m.read? w with
    | none => rfl
    | some x =>
      have hlt := count_opening_lt (Option.isSome_iff_exists.mpr ⟨x, hread⟩)
      have hle := hw.sublist.count_le m.stop
      rw [List.count_append, count_lead hwords, List.count_eq_zero.mpr hu, Nat.add_zero] at hle
      exact absurd (Nat.lt_of_lt_of_le hlt hle) (Nat.lt_irrefl _)

/-- **A continuation adds nothing** that neither begins an annotation nor closes one. -/
theorem allMatches_append_eq_nil (ht : StartsIn (isBlank · = true) t)
    (hs : allMatches (fun _ => m.read?) s = []) (hdollar : '$' ∉ t)
    (hclosing : ∃ c ∈ m.closing.toList, c ∉ t) : allMatches (fun _ => m.read?) (s ++ t) = [] := by
  refine m.advances.allMatches_eq_nil_iff.mpr fun w hw _ => ?_
  cases hread : m.read? w with
  | none => rfl
  | some x =>
    obtain ⟨⟨name, value⟩, r⟩ := x
    obtain ⟨htext, -⟩ := read?_eq_some_iff.mp hread
    rcases suffix_of_suffix_append hw with hw | ⟨v, hv, hne, rfl⟩
    · exact absurd (hw.mem (htext ▸ List.mem_cons_self)) hdollar
    · have hnone : m.read? v = none := m.advances.allMatches_eq_nil_iff.mp hs v hv hne
      obtain ⟨-, u, y, -, -, hy⟩ := exists_of_joins ht hnone hread
      obtain ⟨c, hc, hmem⟩ := hclosing
      refine absurd ?_ hmem
      rw [hy]
      exact List.mem_append_right _ (List.mem_append_left _ hc)

end Marks

theorem annotation?_eq : annotation? = parenthesized.read? := rfl

theorem quotedAnnotation?_eq : Compat.quotedAnnotation? = quoted.read? := rfl

end DeclAtlas.Schema
