import DeclAtlas.Dependency.Report
import DeclAtlas.Proofs.Text.ByteOrder
import Mathlib.Data.List.Induction
import Mathlib.Data.List.Nodup

/-!
# Groups of labels

Labels are sorted, freed of repetitions and put into groups before they are reported.  None of
this loses a label or makes one up: the labels of the groups are the labels that were grouped, each
as often as before (`perm_labels_groupBy`), and a set of labels has the members of the list it was
made of (`mem_labelSet`).  Nor does it depend on the order of the labels, since sorting forgets it
(`sortLabels_eq_of_perm`), and for a set of labels not even on how often each of them comes
(`labelSet_eq_of_mem_iff`).

What the groups look like does not depend on the labels (`AscendingGroups`): no group is empty, its
labels have its name, and groups and labels ascend byte by byte.  Grouping keeps the order of the
labels (`Grouped`), so this holds wherever they were sorted before.
-/

namespace DeclAtlas

/-! ### Sorted labels -/

theorem pairwise_sortLabels (ls : List String) : (sortLabels ls).Pairwise (· ≤ ·) := by
  have htrans : ∀ a b c : String, decide (a ≤ b) = true → decide (b ≤ c) = true →
      decide (a ≤ c) = true := fun a b c hab hbc =>
    decide_eq_true (String.le_trans (of_decide_eq_true hab) (of_decide_eq_true hbc))
  have htotal : ∀ a b : String, (decide (a ≤ b) || decide (b ≤ a)) = true := by
    intro a b
    simpa using String.le_total a b
  exact (List.pairwise_mergeSort htrans htotal ls).imp of_decide_eq_true

theorem perm_sortLabels (ls : List String) : (sortLabels ls).Perm ls := List.mergeSort_perm ls _

/-- **Sorting forgets the order of the labels.** -/
theorem sortLabels_eq_of_perm {as bs : List String} (h : as.Perm bs) :
    sortLabels as = sortLabels bs :=
  List.Perm.eq_of_pairwise (fun _ _ _ _ => String.le_antisymm) (pairwise_sortLabels as)
    (pairwise_sortLabels bs) ((perm_sortLabels as).trans (h.trans (perm_sortLabels bs).symm))

/-! ### Sets of labels -/

theorem mem_dropRepeats {l : String} (ls : List String) : l ∈ dropRepeats ls ↔ l ∈ ls := by
  induction ls using dropRepeats.induct with
  | case1 => rfl
  | case2 a => rfl
  | case3 a r ih =>
    rw [dropRepeats, if_pos rfl, ih]
    simp
  | case4 a b r hab ih =>
    rw [dropRepeats, if_neg hab, List.mem_cons, ih]
    exact List.mem_cons.symm

theorem mem_labelSet {l : String} {ls : List String} : l ∈ labelSet ls ↔ l ∈ ls := by
  rw [labelSet, mem_dropRepeats, sortLabels, List.mem_mergeSort]

theorem pairwise_dropRepeats {ls : List String} (h : ls.Pairwise (· ≤ ·)) :
    (dropRepeats ls).Pairwise (· < ·) := by
  induction ls using dropRepeats.induct with
  | case1 => exact .nil
  | case2 a => exact List.pairwise_singleton _ a
  | case3 a r ih =>
    rw [dropRepeats, if_pos rfl]
    exact ih h.of_cons
  | case4 a b r hab ih =>
    obtain ⟨ha, hr⟩ := List.pairwise_cons.mp h
    rw [dropRepeats, if_neg hab]
    refine List.pairwise_cons.mpr ⟨fun l hl => ?_, ih hr⟩
    have hlt : a < b := String.not_le.mp fun hba =>
      hab (String.le_antisymm (ha b List.mem_cons_self) hba)
    -- the labels behind `b` are not before it
    rcases List.mem_cons.mp ((mem_dropRepeats _).mp hl) with rfl | hl
    · exact hlt
    · exact String.not_le.mp fun hla => String.not_le.mpr hlt
        (String.le_trans ((List.pairwise_cons.mp hr).1 l hl) hla)

theorem pairwise_labelSet (ls : List String) : (labelSet ls).Pairwise (· < ·) :=
  pairwise_dropRepeats (pairwise_sortLabels ls)

theorem nodup_labelSet (ls : List String) : (labelSet ls).Nodup :=
  (pairwise_labelSet ls).imp fun {a b} (h : a < b) (heq : a = b) => String.lt_irrefl b (heq ▸ h)

/-- **A set of labels is known by its members.** -/
theorem labelSet_eq_of_mem_iff {as bs : List String} (h : ∀ l, l ∈ as ↔ l ∈ bs) :
    labelSet as = labelSet bs := by
  have hperm : (labelSet as).Perm (labelSet bs) := by
    refine (List.perm_ext_iff_of_nodup (nodup_labelSet as) (nodup_labelSet bs)).mpr fun l => ?_
    rw [mem_labelSet, mem_labelSet, h l]
  exact hperm.eq_of_pairwise (fun a b _ _ hab hba => absurd hba (String.lt_asymm hab))
    (pairwise_labelSet as) (pairwise_labelSet bs)

/-! ### Groups -/

namespace LabelGroups

/-- The labels of all groups. -/
def labels (gs : LabelGroups) : List String := gs.flatMap Prod.snd

theorem perm_labels_add (group label : String) (gs : LabelGroups) :
    (labels (add group label gs)).Perm (labels gs ++ [label]) := by
  induction gs with
  | nil => exact .refl _
  | cons g gs ih =>
    obtain ⟨name, ls⟩ := g
    rw [add]
    split_ifs with hlt heq
    · exact (List.perm_append_singleton label (labels ((name, ls) :: gs))).symm
    · -- the label goes to the end of the first group
      have hsplit : labels ((name, ls ++ [label]) :: gs) = ls ++ ([label] ++ labels gs) := by
        simp [labels]
      rw [hsplit, show labels ((name, ls) :: gs) = ls ++ labels gs from rfl, List.append_assoc]
      exact (List.perm_append_comm).append_left ls
    · rw [show labels ((name, ls) :: add group label gs) = ls ++ labels (add group label gs) from rfl,
        show labels ((name, ls) :: gs) = ls ++ labels gs from rfl, List.append_assoc]
      exact ih.append_left ls

theorem perm_labels_foldl (name : String → String) (ls : List String) (gs : LabelGroups) :
    (labels (ls.foldl (fun gs l => add (name l) l gs) gs)).Perm (labels gs ++ ls) := by
  induction ls generalizing gs with
  | nil => rw [List.foldl_nil, List.append_nil]
  | cons l ls ih =>
    have hstep := (perm_labels_add (name l) l gs).append_right ls
    rw [List.append_assoc] at hstep
    exact (ih (add (name l) l gs)).trans hstep

/-- **Grouping keeps every label.** -/
theorem perm_labels_groupBy (name : String → String) (ls : List String) :
    (labels (groupBy name ls)).Perm ls :=
  perm_labels_foldl name ls []

theorem total_eq_length_labels (gs : LabelGroups) : gs.total = gs.labels.length := by
  induction gs with
  | nil => rfl
  | cons g gs ih =>
    rw [show total (g :: gs) = g.2.length + total gs from rfl, ih,
      show labels (g :: gs) = g.2 ++ labels gs from rfl, List.length_append]

/-! ### What the groups look like -/

/-- Labels put in groups by a name each: the names ascend, no group is empty, and a group holds labels
of its name in their order. -/
structure Grouped (name : String → String) (ls : List String) (gs : LabelGroups) : Prop where
  ascending : gs.Pairwise fun g h => g.1 < h.1
  nonempty : ∀ g ∈ gs, g.2 ≠ []
  named : ∀ g ∈ gs, ∀ l ∈ g.2, name l = g.1
  in_order : ∀ g ∈ gs, g.2.Sublist ls

section Add

variable {name : String → String} {ls : List String} {gs : LabelGroups} {group label : String}
  {g : String × List String}

/-- A group is as before, or it is the one that the label was added to. -/
theorem of_mem_add (h : g ∈ add group label gs) :
    g ∈ gs ∨ g.1 = group ∧ ∃ ms, g.2 = ms ++ [label] ∧ (ms = [] ∨ (group, ms) ∈ gs) := by
  induction gs with
  | nil =>
    obtain rfl := List.mem_singleton.mp h
    exact .inr ⟨rfl, [], rfl, .inl rfl⟩
  | cons first gs ih =>
    obtain ⟨key, ms⟩ := first
    rw [add] at h
    split_ifs at h with hlt heq
    · rcases List.mem_cons.mp h with rfl | h
      · exact .inr ⟨rfl, [], rfl, .inl rfl⟩
      · exact .inl h
    · subst heq
      rcases List.mem_cons.mp h with rfl | h
      · exact .inr ⟨rfl, ms, rfl, .inr List.mem_cons_self⟩
      · exact .inl (List.mem_cons_of_mem _ h)
    · rcases List.mem_cons.mp h with rfl | h
      · exact .inl List.mem_cons_self
      · rcases ih h with hg | ⟨hname, ms', hms, hold⟩
        · exact .inl (List.mem_cons_of_mem _ hg)
        · exact .inr ⟨hname, ms', hms, hold.imp_right (List.mem_cons_of_mem _)⟩

theorem ascending_add (h : gs.Pairwise fun g h => g.1 < h.1) :
    (add group label gs).Pairwise fun g h => g.1 < h.1 := by
  induction gs with
  | nil => exact List.pairwise_singleton _ _
  | cons first gs ih =>
    obtain ⟨key, ms⟩ := first
    obtain ⟨hfirst, hgs⟩ := List.pairwise_cons.mp h
    rw [add]
    split_ifs with hlt heq
    · refine List.pairwise_cons.mpr ⟨fun g hg => ?_, h⟩
      rcases List.mem_cons.mp hg with rfl | hg
      · exact hlt
      · exact String.lt_trans hlt (hfirst g hg)
    · exact List.pairwise_cons.mpr ⟨hfirst, hgs⟩
    · have hkey : key < group := String.not_le.mp fun hle =>
        heq (String.le_antisymm hle (String.not_lt.mp hlt))
      refine List.pairwise_cons.mpr ⟨fun g hg => ?_, ih hgs⟩
      rcases of_mem_add hg with hg | ⟨hname, -⟩
      · exact hfirst g hg
      · exact hname ▸ hkey

theorem Grouped.add (h : Grouped name ls gs) (label : String) :
    Grouped name (ls ++ [label]) (gs.add (name label) label) where
  ascending := ascending_add h.ascending
  nonempty := by
    intro g hg
    rcases of_mem_add hg with hg | ⟨-, ms, hms, -⟩
    · exact h.nonempty g hg
    · exact hms ▸ List.concat_ne_nil label ms
  named := by
    intro g hg l hl
    rcases of_mem_add hg with hg | ⟨hname, ms, hms, hold⟩
    · exact h.named g hg l hl
    · rw [hms, List.mem_append, List.mem_singleton] at hl
      rw [hname]
      rcases hl with hl | rfl
      · rcases hold with rfl | hold
        · exact absurd hl List.not_mem_nil
        · exact h.named _ hold l hl
      · rfl
  in_order := by
    intro g hg
    rcases of_mem_add hg with hg | ⟨-, ms, hms, hold⟩
    · exact (h.in_order g hg).trans (List.sublist_append_left ls [label])
    · have hsub : ms.Sublist ls := by
        rcases hold with rfl | hold
        · exact List.nil_sublist ls
        · exact h.in_order _ hold
      exact hms ▸ hsub.append (List.Sublist.refl [label])

end Add

theorem grouped_groupBy (name : String → String) (ls : List String) :
    Grouped name ls (groupBy name ls) := by
  induction ls using List.reverseRecOn with
  | nil => exact ⟨.nil, fun _ h => absurd h List.not_mem_nil, fun _ h => absurd h List.not_mem_nil,
      fun _ h => absurd h List.not_mem_nil⟩
  | append_singleton ls l ih =>
    rw [groupBy, List.foldl_append]
    exact ih.add l

/-- Groups as reports list them: none is empty, its labels have its name, and groups and labels ascend
byte by byte. -/
structure AscendingGroups (name : String → String) (gs : LabelGroups) : Prop where
  groups_ascend : gs.Pairwise fun g h => Text.utf8Bytes g.1 < Text.utf8Bytes h.1
  nonempty : ∀ g ∈ gs, g.2 ≠ []
  named : ∀ g ∈ gs, ∀ l ∈ g.2, name l = g.1
  labels_ascend : ∀ g ∈ gs, g.2.Pairwise fun a b => Text.utf8Bytes a ≤ Text.utf8Bytes b

theorem AscendingGroups.labels_eq_nil_iff {name : String → String} {gs : LabelGroups}
    (h : AscendingGroups name gs) : gs.labels = [] ↔ gs = [] := by
  rw [labels, List.flatMap_eq_nil_iff]
  constructor
  · intro hempty
    exact List.eq_nil_iff_forall_not_mem.mpr fun g hg => h.nonempty g hg (hempty g hg)
  · rintro rfl g hg
    exact absurd hg List.not_mem_nil

/-- **Sorted labels make ascending groups.** -/
theorem ascendingGroups_groupBy (name : String → String) {ls : List String}
    (h : ls.Pairwise (· ≤ ·)) : AscendingGroups name (groupBy name ls) where
  groups_ascend := (grouped_groupBy name ls).ascending.imp Text.utf8Bytes_lt
  nonempty := (grouped_groupBy name ls).nonempty
  named := (grouped_groupBy name ls).named
  labels_ascend := fun g hg =>
    (h.sublist ((grouped_groupBy name ls).in_order g hg)).imp Text.utf8Bytes_le_iff.mpr

theorem ascendingGroups_labelSet (name : String → String) (ls : List String) :
    AscendingGroups name (groupBy name (labelSet ls)) :=
  ascendingGroups_groupBy name
    ((pairwise_labelSet ls).imp fun h => String.not_lt.mp (String.lt_asymm h))

theorem nodup_labels_labelSet (name : String → String) (ls : List String) :
    (labels (groupBy name (labelSet ls))).Nodup :=
  (perm_labels_groupBy name _).nodup_iff.mpr (nodup_labelSet ls)

end LabelGroups

theorem Label.mem_labels_groupByDomain {s : GraphSettings} {l : String} {ls : List String} :
    l ∈ (Label.groupByDomain s ls).labels ↔ l ∈ ls :=
  (LabelGroups.perm_labels_groupBy (Label.domain s) ls).mem_iff

end DeclAtlas
