import DeclAtlas.Proofs.Text.Reading
import Mathlib.Data.List.Infix

/-!
# Occurrences of a text in another

A text is found where it stands first.  `contains_iff` turns the search into the relation on lists, and
`findFrom?_append_append` gives the place of the first occurrence, where the text does not stand in what
comes before.  An occurrence could still begin there and reach into the next one; a text whose first
character does not come again in it leaves no room for this.  Nor does one whose first character does
not stand in what comes before (`findFrom?_append_cons`).
-/

namespace DeclAtlas.Text

variable {w s : List Char}

theorem startsWith_iff : startsWith w s = true ↔ w <+: s := by
  rw [startsWith, Option.isSome_iff_exists]
  exact exists_congr fun r => dropLead?_eq_some.trans eq_comm

theorem endsWith_iff : endsWith w s = true ↔ w <:+ s := by
  have hlead : endsWith w s = startsWith w.reverse s.reverse := by
    rw [endsWith, dropEnd?, Option.isSome_map, startsWith]
  rw [hlead, startsWith_iff, List.reverse_prefix]

/-- A text is found exactly if it stands somewhere. -/
theorem contains_iff : contains w s = true ↔ w <:+: s := by
  induction s with
  | nil => cases w <;> simp [contains, findFrom?]
  | cons c s ih =>
    rw [contains] at ih ⊢
    rw [List.infix_cons_iff, ← startsWith_iff, ← ih, findFrom?]
    by_cases h : startsWith w (c :: s) = true
    · simp [h]
    · simp [h]

theorem contains_eq_false_iff : contains w s = false ↔ ¬ w <:+: s := by
  rw [← contains_iff, Bool.not_eq_true]

/-- A text is found on one side of a character that it does not hold. -/
theorem infix_append_cons_iff {c : Char} (hc : c ∉ w) (a b : List Char) :
    w <:+: a ++ c :: b ↔ w <:+: a ∨ w <:+: b := by
  have hnil : ∀ v, v <+: c :: b → c ∉ v → v = [] := by
    intro v hv hmem
    rcases List.prefix_cons_iff.mp hv with rfl | ⟨t, rfl, -⟩
    · rfl
    · exact absurd List.mem_cons_self hmem
  rw [List.infix_append_iff, List.infix_cons_iff]
  constructor
  · rintro (ha | (hlead | hb) | ⟨u, v, rfl, hu, hv⟩)
    · exact .inl ha
    · exact .inr (hnil w hlead hc ▸ List.nil_infix)
    · exact .inr hb
    · have hmem : c ∉ v := fun h => hc (List.mem_append_right u h)
      rw [hnil v hv hmem, List.append_nil]
      exact .inl hu.isInfix
  · rintro (ha | hb)
    · exact .inl ha
    · exact .inr (.inl (.inr hb))

theorem findFrom?_of_startsWith (h : startsWith w s = true) : findFrom? w s = some s := by
  cases s with
  | nil =>
    obtain rfl := List.prefix_nil.mp (startsWith_iff.mp h)
    rfl
  | cons c s => rw [findFrom?, if_pos h]

theorem suffix_of_findFrom? {t : List Char} (h : findFrom? w s = some t) : t <:+ s := by
  induction s with
  | nil =>
    rw [findFrom?] at h
    split at h
    · exact Option.some.inj h ▸ List.suffix_rfl
    · exact absurd h nofun
  | cons c s ih =>
    rw [findFrom?] at h
    split at h
    · exact Option.some.inj h ▸ List.suffix_rfl
    · exact (ih h).trans (List.suffix_cons c s)

/-- What follows the first occurrence, and what stands before it. -/
theorem exists_cut? {r : List Char} (h : after? w s = some r) :
    ∃ a, cut? w s = some (a, r) ∧ s = a ++ (w ++ r) := by
  obtain ⟨t, ht, hr⟩ := Option.bind_eq_some_iff.mp h
  obtain rfl : t = w ++ r := dropLead?_eq_some.mp hr
  obtain ⟨a, rfl⟩ := suffix_of_findFrom? ht
  refine ⟨a, ?_, rfl⟩
  rw [cut?, ht, Option.bind_some, hr, Option.map_some, List.length_append, Nat.add_sub_cancel,
    List.take_left]

/-- **The first occurrence.**  Where a text does not stand in what comes before, and cannot overlap
itself, it is found after that. -/
theorem findFrom?_append_append (hw : ∀ c ∈ w.head?, c ∉ w.tail) (a r : List Char)
    (ha : contains w a = false) : findFrom? w (a ++ (w ++ r)) = some (w ++ r) := by
  induction a with
  | nil => exact findFrom?_of_startsWith (startsWith_append w r)
  | cons c a ih =>
    rw [contains_eq_false_iff, List.infix_cons_iff, not_or] at ha
    have hstart : ¬ startsWith w (c :: (a ++ (w ++ r))) = true := by
      intro h
      have hlead : w <+: (c :: a) ++ (w ++ r) := startsWith_iff.mp h
      rcases List.prefix_or_prefix_of_prefix hlead (List.prefix_append _ _) with hshort | ⟨t, ht⟩
      · exact ha.1 hshort
      · -- the occurrence would go on into the next one, whose first character comes again
        cases t with
        | nil => exact ha.1 ⟨[], by rw [List.append_nil, ← ht, List.append_nil]⟩
        | cons d t =>
          have hnext : d :: t <+: w ++ r := by
            refine (List.prefix_append_right_inj (c :: a)).mp ?_
            rwa [ht]
          rw [← ht] at hw hnext
          obtain ⟨rfl, -⟩ := List.cons_prefix_cons.mp hnext
          exact hw d rfl (List.mem_append_right a List.mem_cons_self)
    rw [List.cons_append, findFrom?, if_neg hstart]
    exact ih (contains_eq_false_iff.mpr ha.2)

/-- **A text is found where its first character comes first.** -/
theorem findFrom?_append_cons {c : Char} {a : List Char} (ha : c ∉ a) (w r : List Char) :
    findFrom? (c :: w) (a ++ (c :: w ++ r)) = some (c :: w ++ r) := by
  induction a with
  | nil => exact findFrom?_of_startsWith (startsWith_append (c :: w) r)
  | cons d a ih =>
    rw [List.mem_cons, not_or] at ha
    have hstart : ¬ startsWith (c :: w) (d :: (a ++ (c :: w ++ r))) = true := by
      intro h
      obtain ⟨hcd, -⟩ := List.cons_prefix_cons.mp (startsWith_iff.mp h)
      exact ha.1 hcd
    rw [List.cons_append, findFrom?, if_neg hstart]
    exact ih ha.2

theorem cut?_append_cons {c : Char} {a : List Char} (ha : c ∉ a) (w r : List Char) :
    cut? (c :: w) (a ++ (c :: w ++ r)) = some (a, r) := by
  rw [cut?, findFrom?_append_cons ha, Option.bind_some, dropLead?_eq_some.mpr rfl, Option.map_some,
    List.length_append, Nat.add_sub_cancel, List.take_left]

theorem map_snd_cut? (w s : List Char) : (cut? w s).map Prod.snd = after? w s := by
  rw [cut?, after?, Option.map_bind]
  congr 1
  funext r
  simp only [Function.comp_apply, Option.map_map]
  exact Option.map_id'

/-- **A text is cut at a character where it comes first.** -/
theorem cut?_singleton_eq_some {c : Char} {a b : List Char} :
    cut? [c] s = some (a, b) ↔ s = a ++ c :: b ∧ c ∉ a := by
  have hcut : ∀ {a b : List Char}, c ∉ a → cut? [c] (a ++ c :: b) = some (a, b) := by
    intro a b ha
    have hfree : contains [c] a = false := contains_eq_false_iff.mpr fun h =>
      ha ((List.singleton_infix_iff c a).mp h)
    have hfind : findFrom? [c] (a ++ c :: b) = some (c :: b) :=
      findFrom?_append_append (by simp) a b hfree
    rw [cut?, hfind]
    simp [dropLead?]
  constructor
  · intro h
    by_cases hc : c ∈ s
    · obtain ⟨a', b', rfl, ha'⟩ := List.eq_append_cons_of_mem hc
      obtain ⟨rfl, rfl⟩ := Prod.mk.inj (Option.some.inj ((hcut ha').symm.trans h))
      exact ⟨rfl, ha'⟩
    · obtain ⟨t, ht, -⟩ := Option.bind_eq_some_iff.mp h
      have hfound : contains [c] s = true := Option.isSome_iff_exists.mpr ⟨t, ht⟩
      exact absurd ((List.singleton_infix_iff c s).mp (contains_iff.mp hfound)) hc
  · rintro ⟨rfl, ha⟩
    exact hcut ha

end DeclAtlas.Text
