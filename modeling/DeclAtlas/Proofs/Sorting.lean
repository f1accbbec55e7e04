import Mathlib.Data.List.Basic

/-!
# Sorting

Lists are sorted by merging, which keeps the order of what the order does not tell apart.  Two
consequences are used: a selection within one class of the order is not moved at all
(`filter_mergeSort`), and where no class has two members the result does not depend on the order of
the list that is sorted (`mergeSort_eq_of_perm`).
-/

namespace DeclAtlas.Sorting

variable {α : Type} {le : α → α → Bool}

/-- **Members of one class of the order keep their order.** -/
theorem filter_mergeSort (htrans : ∀ a b c, le a b = true → le b c = true → le a c = true)
    (htotal : ∀ a b, (le a b || le b a) = true) {p : α → Bool}
    (hp : ∀ a b, p a = true → p b = true → le a b = true) (l : List α) :
    (l.mergeSort le).filter p = l.filter p := by
  have hclass : (l.filter p).Pairwise fun a b => le a b = true :=
    List.pairwise_of_forall_mem_list fun a ha b hb =>
      hp a b (List.mem_filter.mp ha).2 (List.mem_filter.mp hb).2
  have hkept : (l.filter p).Sublist (l.mergeSort le) :=
    List.sublist_mergeSort htrans htotal hclass List.filter_sublist
  have hsub : (l.filter p).Sublist ((l.mergeSort le).filter p) := by
    simpa only [List.filter_filter, Bool.and_self] using hkept.filter p
  have hlength : (l.filter p).length = ((l.mergeSort le).filter p).length :=
    ((List.mergeSort_perm l le).filter p).length_eq.symm
  exact (hsub.eq_of_length hlength).symm

/-- **Lists with the same members sort alike**, if the order tells all of them apart. -/
theorem mergeSort_eq_of_perm (htrans : ∀ a b c, le a b = true → le b c = true → le a c = true)
    (htotal : ∀ a b, (le a b || le b a) = true) {l m : List α} (hperm : l.Perm m)
    (hanti : ∀ a ∈ l, ∀ b ∈ l, le a b = true → le b a = true → a = b) :
    l.mergeSort le = m.mergeSort le := by
  have hsame : (l.mergeSort le).Perm (m.mergeSort le) :=
    (List.mergeSort_perm l le).trans (hperm.trans (List.mergeSort_perm m le).symm)
  refine hsame.eq_of_pairwise (fun a b ha hb hab hba => ?_)
    (List.pairwise_mergeSort htrans htotal l)
    (List.pairwise_mergeSort htrans htotal m)
  have hb' : b ∈ l := hperm.mem_iff.mpr (List.mem_mergeSort.mp hb)
  exact hanti a (List.mem_mergeSort.mp ha) b hb' hab hba

end DeclAtlas.Sorting
