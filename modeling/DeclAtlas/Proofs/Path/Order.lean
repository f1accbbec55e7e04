import DeclAtlas.Path

/-!
# The order of paths

Paths are ordered by their components, the kind of a component before its name.  This is a total
order (`le_total`, `le_trans`) that tells apart all paths with different components
(`components_eq_of_le_of_le`); paths that differ only in slashes and dots that count for nothing are
the same to it.
-/

namespace DeclAtlas.Path

namespace Component

theorem rank_injective {a b : Component} (h : a.rank = b.rank) : a = b := by
  cases a <;> cases b <;> simp_all [rank]

theorem before_iff {a b : Component} : a.before b = true ↔
    a.rank.1 < b.rank.1 ∨ a.rank.1 = b.rank.1 ∧ a.rank.2 < b.rank.2 := by
  simp only [before, Bool.or_eq_true, Bool.and_eq_true, decide_eq_true_eq, beq_iff_eq]

theorem before_irrefl (a : Component) : a.before a = false := by
  rw [← Bool.not_eq_true, before_iff]
  rintro (h | ⟨-, h⟩)
  · exact Nat.lt_irrefl _ h
  · exact String.lt_irrefl _ h

theorem before_trans {a b c : Component} (hab : a.before b = true) (hbc : b.before c = true) :
    a.before c = true := by
  rw [before_iff] at hab hbc ⊢
  rcases hab with hab | ⟨heq, hab⟩ <;> rcases hbc with hbc | ⟨heq', hbc⟩
  · exact .inl (Nat.lt_trans hab hbc)
  · exact .inl (heq' ▸ hab)
  · exact .inl (heq ▸ hbc)
  · exact .inr ⟨heq.trans heq', String.lt_trans hab hbc⟩

theorem before_asymm {a b : Component} (hab : a.before b = true) : b.before a = false := by
  rw [← Bool.not_eq_true]
  intro hba
  exact absurd (before_trans hab hba) (by rw [before_irrefl]; decide)

theorem before_or_eq_or_before (a b : Component) :
    a.before b = true ∨ a = b ∨ b.before a = true := by
  rw [before_iff, before_iff]
  rcases Nat.lt_trichotomy a.rank.1 b.rank.1 with h | h | h
  · exact .inl (.inl h)
  · by_cases hab : a.rank.2 < b.rank.2
    · exact .inl (.inr ⟨h, hab⟩)
    · by_cases hba : b.rank.2 < a.rank.2
      · exact .inr (.inr (.inr ⟨h.symm, hba⟩))
      · have hname : a.rank.2 = b.rank.2 :=
          String.le_antisymm (String.not_lt.mp hba) (String.not_lt.mp hab)
        exact .inr (.inl (rank_injective (Prod.ext h hname)))
  · exact .inr (.inr (.inl h))

end Component

theorem componentsLe_cons {a b : Component} {as bs : List Component} :
    componentsLe (a :: as) (b :: bs) = true ↔
      a.before b = true ∨ a = b ∧ componentsLe as bs = true := by
  rw [componentsLe, Bool.or_eq_true, Bool.and_eq_true, beq_iff_eq]

theorem componentsLe_total (as bs : List Component) :
    componentsLe as bs = true ∨ componentsLe bs as = true := by
  induction as generalizing bs with
  | nil => exact .inl rfl
  | cons a as ih =>
    cases bs with
    | nil => exact .inr rfl
    | cons b bs =>
      rw [componentsLe_cons, componentsLe_cons]
      rcases Component.before_or_eq_or_before a b with h | rfl | h
      · exact .inl (.inl h)
      · exact (ih bs).imp (fun h => .inr ⟨rfl, h⟩) fun h => .inr ⟨rfl, h⟩
      · exact .inr (.inl h)

theorem componentsLe_trans {as bs cs : List Component} (hab : componentsLe as bs = true)
    (hbc : componentsLe bs cs = true) : componentsLe as cs = true := by
  induction as generalizing bs cs with
  | nil => rfl
  | cons a as ih =>
    cases bs with
    | nil => exact absurd hab (by simp [componentsLe])
    | cons b bs =>
      cases cs with
      | nil => exact absurd hbc (by simp [componentsLe])
      | cons c cs =>
        rw [componentsLe_cons] at hab hbc ⊢
        rcases hab with hab | ⟨rfl, hab⟩ <;> rcases hbc with hbc | ⟨rfl, hbc⟩
        · exact .inl (Component.before_trans hab hbc)
        · exact .inl hab
        · exact .inl hbc
        · exact .inr ⟨rfl, ih hab hbc⟩

theorem componentsLe_antisymm {as bs : List Component} (hab : componentsLe as bs = true)
    (hba : componentsLe bs as = true) : as = bs := by
  induction as generalizing bs with
  | nil =>
    cases bs with
    | nil => rfl
    | cons b bs => exact absurd hba (by simp [componentsLe])
  | cons a as ih =>
    cases bs with
    | nil => exact absurd hab (by simp [componentsLe])
    | cons b bs =>
      rw [componentsLe_cons] at hab hba
      rcases hab with hab | ⟨rfl, hab⟩ <;> rcases hba with hba | ⟨heq, hba⟩
      · exact absurd hba (by rw [Component.before_asymm hab]; decide)
      · exact absurd hab (by rw [heq, Component.before_irrefl]; decide)
      · exact absurd hba (by rw [Component.before_irrefl]; decide)
      · rw [ih hab hba]

theorem le_total (p q : String) : (le p q || le q p) = true := by
  rw [Bool.or_eq_true]
  exact componentsLe_total _ _

theorem le_trans {p q r : String} (hpq : le p q = true) (hqr : le q r = true) : le p r = true :=
  componentsLe_trans hpq hqr

/-- **The order tells apart all paths with different components.** -/
theorem components_eq_of_le_of_le {p q : String} (hpq : le p q = true) (hqp : le q p = true) :
    components p = components q :=
  componentsLe_antisymm hpq hqp

end DeclAtlas.Path
