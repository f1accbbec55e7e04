import DeclAtlas.Path
import DeclAtlas.Proofs.Text.Occurrences
import DeclAtlas.Proofs.Text.Parts
import Mathlib.Data.List.TakeWhile

/-!
# Paths below a directory

A path below a directory is reported by what it adds to it, as written.  This drops exactly the
components of the directory (`components_below?`), so two paths are reported alike only if they have
the same components (`components_eq_of_reported_eq`), provided that both come from one place: a
directory below the one they are reported from, or one that is given by an absolute path.

All statements rest on the components being read off the pieces between slashes: one from the
beginning of the path (`leadOf`) and one for each piece that counts (`components_eq`).
-/

namespace DeclAtlas.Path

open Text

/-! ### Components of pieces -/

/-- The component with which a path of these pieces begins, before those of its pieces. -/
def leadOf : List (List Char) → List Component
  | [] :: _ :: _ => [.root]
  | ['.'] :: _ => [.here]
  | _ => []

/-- The components that pieces stand for. -/
def counted (ps : List (List Char)) : List Component := ps.filterMap componentOf?

theorem componentOf?_eq_none_iff {q : List Char} : componentOf? q = none ↔ isIdle q = true := by
  rw [componentOf?, isIdle, Bool.or_eq_true, beq_iff_eq, beq_iff_eq]
  split_ifs <;> simp_all

theorem counted_eq_nil {ps : List (List Char)} (h : ∀ q ∈ ps, isIdle q = true) : counted ps = [] :=
  List.filterMap_eq_nil_iff.mpr fun q hq => componentOf?_eq_none_iff.mpr (h q hq)

theorem counted_append (ps qs : List (List Char)) : counted (ps ++ qs) = counted ps ++ counted qs :=
  List.filterMap_append

theorem counts_of_mem_counted {ps : List (List Char)} {c : Component} (h : c ∈ counted ps) :
    c.counts = true := by
  obtain ⟨q, -, hq⟩ := List.mem_filterMap.mp h
  rw [componentOf?] at hq
  split_ifs at hq <;> obtain rfl := Option.some.inj hq <;> rfl

theorem leadOf_cons_of_not_idle {q : List Char} (hq : isIdle q = false) (ps : List (List Char)) :
    leadOf (q :: ps) = [] := by
  rw [isIdle, Bool.or_eq_false_iff, beq_eq_false_iff_ne, beq_eq_false_iff_ne] at hq
  rw [leadOf]
  · exact fun _ _ h => hq.1 (List.cons.inj h).1
  · exact fun _ h => hq.2 (List.cons.inj h).1

/-- Only the first piece and whether there is a second one count for the beginning. -/
theorem leadOf_cons_congr {q : List Char} {ps qs : List (List Char)} (h : ps = [] ↔ qs = []) :
    leadOf (q :: ps) = leadOf (q :: qs) := by
  cases ps with
  | nil => rw [h.mp rfl]
  | cons p ps =>
    obtain ⟨p', qs, rfl⟩ := List.exists_cons_of_ne_nil (mt h.mpr (List.cons_ne_nil p ps))
    cases q with
    | nil => rfl
    | cons c r =>
      by_cases hdot : c :: r = ['.']
      · rw [hdot]
        rfl
      · have hidle : isIdle (c :: r) = false := by
          rw [isIdle, beq_eq_false_iff_ne.mpr hdot]
          rfl
        rw [leadOf_cons_of_not_idle hidle, leadOf_cons_of_not_idle hidle]

theorem leadOf_append {ps : List (List Char)} (hne : ps ≠ []) (hps : ps ≠ [[]])
    (qs : List (List Char)) : leadOf (ps ++ qs) = leadOf ps := by
  obtain ⟨p, ps, rfl⟩ := List.exists_cons_of_ne_nil hne
  cases ps with
  | cons p' ps => exact leadOf_cons_congr (by simp)
  | nil =>
    by_cases hdot : p = ['.']
    · rw [hdot]
      rfl
    · have hidle : isIdle p = false := by
        rw [isIdle, beq_eq_false_iff_ne.mpr hdot, beq_eq_false_iff_ne.mpr fun h => hps (by rw [h])]
        rfl
      rw [List.singleton_append, leadOf_cons_of_not_idle hidle, leadOf_cons_of_not_idle hidle]

theorem leadOf_cases (ps : List (List Char)) :
    leadOf ps = [] ∨ leadOf ps = [.root] ∨ leadOf ps = [.here] := by
  unfold leadOf
  split <;> simp

/-- **The components of a path are read off its pieces.** -/
theorem components_eq (p : String) :
    components p = leadOf (pieces '/' p.toList) ++ counted (pieces '/' p.toList) := by
  have hlead : (if startsWith ['/'] p.toList then [Component.root]
      else if (pieces '/' p.toList).head? = some ['.'] then [.here] else []) =
      leadOf (pieces '/' p.toList) := by
    cases p.toList with
    | nil => rfl
    | cons c r =>
      obtain ⟨q, qs, hr⟩ := List.exists_cons_of_ne_nil (pieces_ne_nil '/' r)
      by_cases hc : c = '/'
      · have hpieces : pieces '/' (c :: r) = [] :: q :: qs := by simp [pieces, hr, hc]
        have habsolute : startsWith ['/'] (c :: r) = true :=
          startsWith_iff.mpr (List.prefix_cons_iff.mpr (.inr ⟨[], by rw [hc], List.nil_prefix⟩))
        rw [hpieces, if_pos habsolute]
        rfl
      · have hpieces : pieces '/' (c :: r) = (c :: q) :: qs := by simp [pieces, hr, hc]
        have hrelative : ¬ startsWith ['/'] (c :: r) = true := by
          rw [startsWith_iff, List.cons_prefix_cons]
          exact fun h => hc h.1.symm
        rw [hpieces, if_neg hrelative, List.head?_cons]
        split_ifs with hdot
        · rw [Option.some.inj hdot]
          rfl
        · rw [leadOf]
          · exact fun _ _ h => absurd (List.cons.inj h).1 (List.cons_ne_nil c q)
          · exact fun _ h => hdot (congrArg some (List.cons.inj h).1)
  rw [components, isAbsolute, hlead]
  rfl

theorem components_ofList_joinWith {ps : List (List Char)} (hne : ps ≠ [])
    (h : ∀ q ∈ ps, '/' ∉ q) :
    components (String.ofList (joinWith ['/'] ps)) = leadOf ps ++ counted ps := by
  rw [components_eq, String.toList_ofList, pieces_joinWith hne h]

/-! ### Pieces at the end that count for nothing -/

/-- **A path without its idle end has the same components.** -/
theorem components_trimIdle (p : String) : components (trimIdle p) = components p := by
  have hplain : ∀ q ∈ pieces '/' p.toList, '/' ∉ q := fun q hq => notMem_of_mem_pieces hq
  rw [trimIdle]
  split
  · rename_i hidle
    have hall : ∀ q ∈ pieces '/' p.toList, isIdle q = true := fun q hq =>
      List.dropWhile_eq_nil_iff.mp hidle q (List.mem_reverse.mpr hq)
    have hp : components p = leadOf (pieces '/' p.toList) := by
      rw [components_eq, counted_eq_nil hall, List.append_nil]
    rw [hp]
    rcases leadOf_cases (pieces '/' p.toList) with h | h | h <;> rw [h] <;> decide
  · rename_i q qs hdrop
    have hsplit : pieces '/' p.toList = (q :: qs).reverse ++
        ((pieces '/' p.toList).reverse.takeWhile isIdle).reverse := by
      rw [← List.reverse_append, ← hdrop, List.takeWhile_append_dropWhile, List.reverse_reverse]
    have hq : isIdle q = false := by
      have hhead := List.head?_dropWhile_not isIdle (pieces '/' p.toList).reverse
      simpa [hdrop] using hhead
    have hend : counted ((pieces '/' p.toList).reverse.takeWhile isIdle).reverse = [] :=
      counted_eq_nil fun x hx => List.mem_takeWhile_imp (List.mem_reverse.mp hx)
    have hne : (q :: qs).reverse ≠ [] := by simp
    have hcounts : (q :: qs).reverse ≠ [[]] := by
      intro h
      rw [List.reverse_eq_iff, List.reverse_singleton] at h
      exact absurd hq (by rw [(List.cons.inj h).1]; decide)
    rw [components_ofList_joinWith hne, components_eq, hsplit]
    · rw [leadOf_append hne hcounts, counted_append, hend, List.append_nil]
    · intro x hx
      exact hplain x (hsplit ▸ List.mem_append_left _ hx)

/-! ### What a path adds to a directory -/

section Dropping

variable {q : List Char} (n : Nat) (ps : List (List Char))

theorem dropCounted_of_idle (hq : isIdle q = true) :
    dropCounted n (q :: ps) = dropCounted n ps := by
  rw [dropCounted.eq_def]
  exact if_pos hq

theorem dropCounted_zero (hq : isIdle q = false) : dropCounted 0 (q :: ps) = q :: ps := by
  rw [dropCounted.eq_def]
  exact if_neg (by rw [hq]; decide)

theorem dropCounted_succ (hq : isIdle q = false) :
    dropCounted (n + 1) (q :: ps) = dropCounted n ps := by
  rw [dropCounted.eq_def]
  exact if_neg (by rw [hq]; decide)

theorem suffix_dropCounted : dropCounted n ps <:+ ps := by
  induction ps generalizing n with
  | nil => exact List.suffix_refl []
  | cons q ps ih =>
    cases hq : isIdle q with
    | true => exact dropCounted_of_idle n ps hq ▸ (ih n).trans (List.suffix_cons q ps)
    | false =>
      cases n with
      | zero => rw [dropCounted_zero ps hq]
      | succ n => exact dropCounted_succ n ps hq ▸ (ih n).trans (List.suffix_cons q ps)

theorem leadOf_dropCounted : leadOf (dropCounted n ps) = [] := by
  induction ps generalizing n with
  | nil => rfl
  | cons q ps ih =>
    cases hq : isIdle q with
    | true => rw [dropCounted_of_idle n ps hq, ih]
    | false =>
      cases n with
      | zero => rw [dropCounted_zero ps hq, leadOf_cons_of_not_idle hq]
      | succ n => rw [dropCounted_succ n ps hq, ih]

theorem counted_dropCounted : counted (dropCounted n ps) = (counted ps).drop n := by
  induction ps generalizing n with
  | nil => exact List.drop_nil.symm
  | cons q ps ih =>
    cases hq : isIdle q with
    | true =>
      rw [dropCounted_of_idle n ps hq, ih, counted, counted,
        List.filterMap_cons_none (componentOf?_eq_none_iff.mpr hq)]
    | false =>
      have hcounts : componentOf? q ≠ none := by
        rw [ne_eq, componentOf?_eq_none_iff, hq]
        decide
      obtain ⟨c, hc⟩ := Option.ne_none_iff_exists'.mp hcounts
      cases n with
      | zero => rw [dropCounted_zero ps hq, List.drop_zero]
      | succ n =>
        rw [dropCounted_succ n ps hq, ih, counted, counted, List.filterMap_cons_some hc,
          List.drop_succ_cons]

end Dropping

/-- Dropping the components of a directory drops as many pieces as they stand for. -/
theorem drop_components {ds : List Component} {ps : List (List Char)} (hne : ds ≠ [])
    (h : ds <+: leadOf ps ++ counted ps) :
    (leadOf ps ++ counted ps).drop ds.length = (counted ps).drop (ds.countP Component.counts) := by
  obtain ⟨t, ht⟩ := h
  rw [← ht, List.drop_left]
  have hall : ∀ {cs : List Component}, cs ++ t = counted ps →
    cs.countP Component.counts = cs.length := by
    intro cs hcs
    refine List.countP_eq_length.mpr fun c hc => ?_
    have hmem : c ∈ counted ps := hcs ▸ List.mem_append_left t hc
    exact counts_of_mem_counted hmem
  have hlead : ∀ c, leadOf ps = [c] → c.counts = false →
    t = (counted ps).drop (ds.countP Component.counts) := by
    intro c hc hcounts
    obtain ⟨d, ds, rfl⟩ := List.exists_cons_of_ne_nil hne
    rw [hc] at ht
    obtain ⟨rfl, htail⟩ := List.cons.inj ht
    have htail : ds ++ t = counted ps := htail
    rw [List.countP_cons_of_neg (by rw [hcounts]; decide), hall htail, ← htail, List.drop_left]
  rcases leadOf_cases ps with h | h | h
  · rw [h, List.nil_append] at ht
    rw [hall ht, ← ht, List.drop_left]
  · exact hlead _ h rfl
  · exact hlead _ h rfl

/-- **What a path adds to a directory has the components behind those of the directory.** -/
theorem components_below? {dir p q : String} (h : below? dir p = some q) :
    components dir <+: components p ∧
      components q = (components p).drop (components dir).length := by
  rw [below?] at h
  split at h
  · rename_i hdir
    rw [hdir, ← Option.some.inj h, components_trimIdle]
    exact ⟨List.nil_prefix, rfl⟩
  · rename_i d ds hdir
    split_ifs at h with hlead
    rw [List.isPrefixOf_iff_prefix] at hlead
    refine ⟨hdir ▸ hlead, ?_⟩
    rw [hdir, ← Option.some.inj h, components_trimIdle]
    rw [components_eq p] at hlead ⊢
    rw [drop_components (List.cons_ne_nil d ds) hlead, ← counted_dropCounted]
    generalize hrest : dropCounted _ (pieces '/' p.toList) = rest
    have hplain : ∀ x ∈ rest, '/' ∉ x := fun x hx =>
      notMem_of_mem_pieces ((suffix_dropCounted _ _).mem (hrest ▸ hx))
    cases rest with
    | nil => rfl
    | cons x xs =>
      rw [components_ofList_joinWith (List.cons_ne_nil x xs) hplain, ← hrest, leadOf_dropCounted,
        List.nil_append]

theorem exists_below? {dir p : String} (h : components dir <+: components p) :
    ∃ q, below? dir p = some q := by
  rw [below?]
  split
  · exact ⟨_, rfl⟩
  · rename_i d ds hdir
    rw [if_pos (List.isPrefixOf_iff_prefix.mpr (hdir ▸ h))]
    exact ⟨_, rfl⟩

/-! ### Where reported paths come from -/

/-- The path under which a file is reported: what it adds to `root`, or the path itself. -/
def shownPath (root p : String) : String := (below? root p).getD p

theorem head?_components_of_isAbsolute {p : String} (h : isAbsolute p = true) :
    (components p).head? = some .root := by
  rw [components, if_pos h]
  rfl

/-- The root directory is a component at the beginning only. -/
theorem root_notMem_tail (p : String) : Component.root ∉ (components p).tail := by
  have hcounted : Component.root ∉ counted (pieces '/' p.toList) := fun h =>
    absurd (counts_of_mem_counted h) (by decide)
  rw [components_eq]
  rcases leadOf_cases (pieces '/' p.toList) with h | h | h <;> rw [h]
  · exact fun hmem => hcounted (List.mem_of_mem_tail hmem)
  · exact hcounted
  · exact hcounted

/-- A relative path below a directory begins with the directory. -/
theorem components_prefix_join (dir : String) {p : String} (hp : isAbsolute p = false) :
    components dir <+: components (join dir p) := by
  by_cases hdir : dir.toList = []
  · have hempty : components dir = [] := by
      rw [components_eq, hdir]
      rfl
    exact hempty ▸ List.nil_prefix
  · have hjoin : join dir p = if endsWith ['/'] dir.toList then dir ++ p else dir ++ "/" ++ p := by
      have hne : dir.isEmpty = false := by
        rw [← Bool.not_eq_true, String.isEmpty_iff]
        exact fun h => hdir (by rw [h]; rfl)
      rw [join, hp, hne]
      rfl
    rw [hjoin, components_eq dir, components_eq]
    split_ifs with hslash
    · obtain ⟨d, hd⟩ := endsWith_iff.mp hslash
      have hpieces : pieces '/' dir.toList = pieces '/' d ++ [[]] :=
        hd ▸ pieces_append_cons '/' d []
      have hpieces' : pieces '/' (dir ++ p).toList = pieces '/' d ++ pieces '/' p.toList := by
        rw [String.toList_append, ← hd, List.append_assoc]
        exact pieces_append_cons '/' d p.toList
      obtain ⟨x, xs, hx⟩ := List.exists_cons_of_ne_nil (pieces_ne_nil '/' d)
      have hlead : leadOf (pieces '/' d ++ [[]]) =
        leadOf (pieces '/' d ++ pieces '/' p.toList) := by
        rw [hx]
        exact leadOf_cons_congr (by simp [pieces_ne_nil])
      rw [hpieces, hpieces', hlead, counted_append, counted_append,
        counted_eq_nil (List.forall_mem_singleton.mpr rfl), List.append_nil, ← List.append_assoc]
      exact List.prefix_append _ _
    · have hpieces : pieces '/' (dir ++ "/" ++ p).toList =
          pieces '/' dir.toList ++ pieces '/' p.toList := by
        rw [String.toList_append, String.toList_append, List.append_assoc]
        exact pieces_append_cons '/' dir.toList p.toList
      have hdir' : pieces '/' dir.toList ≠ [[]] := fun h =>
        hdir (by rw [← joinWith_pieces '/' dir.toList, h]; rfl)
      rw [hpieces, leadOf_append (pieces_ne_nil '/' _) hdir', counted_append, ← List.append_assoc]
      exact List.prefix_append _ _

theorem components_eq_of_below? {dir p q x y : String} (hp : below? dir p = some x)
    (hq : below? dir q = some y) (h : components x = components y) :
      components p = components q := by
  obtain ⟨hlead, hdrop⟩ := components_below? hp
  obtain ⟨hlead', hdrop'⟩ := components_below? hq
  rw [← List.prefix_iff_eq_append.mp hlead, ← List.prefix_iff_eq_append.mp hlead', ← hdrop, h,
    hdrop']

/-- What a path adds to a directory is no absolute path outside the directory. -/
theorem components_ne_of_below? {dir p q x : String} (hp : below? dir p = some x)
    (hq : below? dir q = none) (hroot : (components q).head? = some .root) :
    components x ≠ components q := by
  intro h
  obtain ⟨-, hdrop⟩ := components_below? hp
  cases hdir : components dir with
  | nil =>
    have hlead : components dir <+: components q := hdir ▸ List.nil_prefix
    obtain ⟨y, hy⟩ := exists_below? hlead
    exact absurd (hy.symm.trans hq) (Option.some_ne_none y)
  | cons d ds =>
    have hmem : Component.root ∈ components q := List.mem_of_mem_head? hroot
    rw [← h, hdrop, hdir, List.length_cons, ← List.drop_tail] at hmem
    exact root_notMem_tail p (List.mem_of_mem_drop hmem)

/-- **Files of one place are reported under different paths** if their own paths differ by more than
slashes and dots that count for nothing. -/
theorem components_eq_of_reported_eq {root source p q : String}
    (hp : components (join root source) <+: components p)
    (hq : components (join root source) <+: components q)
    (h : components (shownPath root p) = components (shownPath root q)) :
    components p = components q := by
  rw [shownPath, shownPath] at h
  cases hsource : isAbsolute source with
  | false =>
    have hroot := components_prefix_join root hsource
    obtain ⟨x, hx⟩ := exists_below? (hroot.trans hp)
    obtain ⟨y, hy⟩ := exists_below? (hroot.trans hq)
    rw [hx, hy] at h
    exact components_eq_of_below? hx hy h
  | true =>
    have hjoin : join root source = source := by rw [join, hsource, Bool.true_or, if_pos rfl]
    have hroot : ∀ {s}, components (join root source) <+: components s →
        (components s).head? = some .root := by
      rintro s ⟨t, ht⟩
      rw [← ht, hjoin, List.head?_append, head?_components_of_isAbsolute hsource]
      rfl
    cases hx : below? root p with
    | none =>
      cases hy : below? root q with
      | none => rwa [hx, hy] at h
      | some y =>
        rw [hx, hy] at h
        exact absurd h.symm (components_ne_of_below? hy hx (hroot hp))
    | some x =>
      cases hy : below? root q with
      | none =>
        rw [hx, hy] at h
        exact absurd h (components_ne_of_below? hx hy (hroot hq))
      | some y =>
        rw [hx, hy] at h
        exact components_eq_of_below? hx hy h

end DeclAtlas.Path
