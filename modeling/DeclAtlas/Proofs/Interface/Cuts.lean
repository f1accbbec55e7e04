import DeclAtlas.Proofs.Interface.Overrides

/-!
# Where a block may be cut

A block is read form by form, and an override takes its lines with it.  This file asks when two
blocks read one after another give what they give joined.

* `IsLocal`: a reader that looks no further than the lines its form takes, as long as there are
  more.  Then the lines up to a place that is reached decide that it is reached
  (`Reaches.take_append`).
* `Reaches.of_settled`: if what follows a block changes nothing that is read in it, the reading of
  a longer block comes to the end of it.
* `ClosesOverrides`: every override that begins in a block is closed in it.

The two are the same condition (`register_append_iff`): an override that is left open takes the
first line of the next block, whatever that line registers.
-/

namespace DeclAtlas

open Text

namespace Nesting

/-! ### Calls that are closed -/

/-- The parentheses of some first lines close as many as they open. -/
def Closes (ls : List Line) : Prop := ∃ k < ls.length, total parenDelta (ls.take (k + 1)) ≤ 0

theorem Closes.takeBalanced_append {ls : List Line} (h : Closes ls) (more : List Line) :
    takeBalanced parenDelta 0 (ls ++ more) = takeBalanced parenDelta 0 ls := by
  obtain ⟨k, hk, hclosed⟩ := h
  have hne : ls.take (k + 1) ≠ [] := by
    intro hnil
    have hlength := congrArg List.length hnil
    rw [List.length_take, List.length_nil] at hlength
    omega
  have hzero : 0 + total parenDelta (ls.take (k + 1)) ≤ 0 := by omega
  have hfirst : ∀ rest, takeBalanced parenDelta 0 (ls.take (k + 1) ++ rest) =
      takeBalanced parenDelta 0 (ls.take (k + 1)) :=
    Nesting.takeBalanced_append hne hzero
  have hself := hfirst (ls.drop (k + 1))
  have hmore := hfirst (ls.drop (k + 1) ++ more)
  rw [List.take_append_drop] at hself
  rw [← List.append_assoc, List.take_append_drop] at hmore
  rw [hmore, hself]

/-- A closed call is gathered alike whatever follows it. -/
theorem Closes.gather_append {ls : List Line} (h : Closes ls) (more : List Line) :
    gather (ls ++ more) = gather ls := by
  rw [gather, gather, h.takeBalanced_append more]

/-- A call that is not closed takes all lines, and goes on taking. -/
theorem takeBalanced_append_of_not_closes {ls : List Line} (h : ¬ Closes ls) (more : List Line) :
    takeBalanced parenDelta 0 (ls ++ more) =
      ls ++ takeBalanced parenDelta (total parenDelta ls) more := by
  rw [takeBalanced_append_of_pos, Int.zero_add]
  intro i hi
  by_contra hle
  exact h ⟨i, hi, by omega⟩

theorem extra_gather_le (l : Line) (later : List Line) :
    (gather (l :: later)).extra ≤ later.length := by
  have hlength := (takeBalanced_isPrefix parenDelta 0 (l :: later)).length_le
  rw [List.length_cons] at hlength
  show (takeBalanced parenDelta 0 (l :: later)).length - 1 ≤ later.length
  omega

/-- The lines that are gathered are the first one and those it takes with it. -/
theorem takeBalanced_cons_eq (l : Line) (later : List Line) :
    takeBalanced parenDelta 0 (l :: later) = l :: later.take (gather (l :: later)).extra := by
  have hpos := List.length_pos_iff.mpr
    (takeBalanced_ne_nil parenDelta 0 (List.cons_ne_nil l later))
  obtain ⟨n, hn⟩ := Nat.exists_eq_add_of_le' hpos
  have hextra : (gather (l :: later)).extra = n := by
    show (takeBalanced parenDelta 0 (l :: later)).length - 1 = n
    omega
  rw [List.prefix_iff_eq_take.mp (takeBalanced_isPrefix parenDelta 0 (l :: later)), hn, hextra]
  rfl

/-- **A call that leaves lines behind is closed by those it takes.** -/
theorem closes_of_extra_lt {l : Line} {later : List Line}
    (h : (gather (l :: later)).extra < later.length) :
    Closes (l :: later.take (gather (l :: later)).extra) := by
  by_contra hopen
  have hgo := takeBalanced_append_of_not_closes hopen (later.drop (gather (l :: later)).extra)
  rw [List.cons_append, List.take_append_drop, takeBalanced_cons_eq] at hgo
  have hmore := takeBalanced_ne_nil parenDelta
    (total parenDelta (l :: later.take (gather (l :: later)).extra))
    (List.ne_nil_of_length_pos (by rw [List.length_drop]; omega :
      0 < (later.drop (gather (l :: later)).extra).length))
  exact hmore (List.self_eq_append_right.mp hgo)

/-! ### What a reader looks at -/

variable {α : Type} {read? : Line → List Line → Option (α × Nat)} {ls : List Line}
  {as : List α} {n : Nat}

/-- A reader that looks no further than the lines its form takes, as long as there are more. -/
structure IsLocal (read? : Line → List Line → Option (α × Nat)) : Prop where
  none_of_none : ∀ {l ls}, read? l ls = none → ∀ ls', read? l ls' = none
  extra_le : ∀ {l ls a extra}, read? l ls = some (a, extra) → extra ≤ ls.length
  take_append : ∀ {l ls a extra}, read? l ls = some (a, extra) → extra < ls.length →
    ∀ more, read? l (ls.take extra ++ more) = some (a, extra)

theorem lt_length_of_drop_eq_cons {l : Line} {later : List Line} (h : ls.drop n = l :: later) :
    n < ls.length := by
  have hlength := congrArg List.length h
  rw [List.length_drop, List.length_cons] at hlength
  omega

theorem Reaches.le_length (hlocal : IsLocal read?) (h : Reaches read? ls as n) :
    n ≤ ls.length := by
  induction h with
  | start => exact Nat.zero_le _
  | pass _ _ ih => exact Nat.succ_le_succ ih
  | form hread _ ih =>
    have hextra := hlocal.extra_le hread
    rw [List.length_drop] at ih
    rw [List.length_cons]
    omega

/-- **The lines before a line that is reached decide that it is.** -/
theorem Reaches.take_append (hlocal : IsLocal read?) (h : Reaches read? ls as n)
    (hn : n < ls.length) (more : List Line) : Reaches read? (ls.take n ++ more) as n := by
  induction h with
  | start => exact .start _
  | pass hread _ ih =>
    rw [List.length_cons] at hn
    exact .pass (hlocal.none_of_none hread _) (ih (by omega))
  | @form l ls a extra as n hread _ ih =>
    rw [List.length_cons] at hn
    have hrest := ih (by rw [List.length_drop]; omega)
    have htaken : ls.take (extra + n) ++ more =
        ls.take extra ++ ((ls.drop extra).take n ++ more) := by
      rw [List.take_add, List.append_assoc]
    have hlength : (ls.take extra).length = extra := by
      rw [List.length_take]
      omega
    have hhead : read? l (ls.take (extra + n) ++ more) = some (a, extra) := by
      rw [htaken]
      exact hlocal.take_append hread (by omega) _
    have hdrop : (ls.take (extra + n) ++ more).drop extra = (ls.drop extra).take n ++ more := by
      rw [htaken, List.drop_left' hlength]
    exact .form hhead (hdrop ▸ hrest)

/-- **If what follows a block changes nothing that is read in it, the reading comes to its end.** -/
theorem Reaches.of_settled (hlocal : IsLocal read?) (more : List Line) : ∀ {ls : List Line},
    (∀ as n l later, Reaches read? ls as n → ls.drop n = l :: later →
      read? l (later ++ more) = read? l later) →
    Reaches read? (ls ++ more) (readForms read? ls.length 0 ls) ls.length := by
  intro ls
  induction hm : ls.length using Nat.strong_induction_on generalizing ls with
  | _ m ih =>
    intro hsettled
    subst hm
    cases ls with
    | nil => exact .start _
    | cons l later =>
      have hhead := hsettled [] 0 l later (.start _) rfl
      cases hread : read? l later with
      | none =>
        rw [List.length_cons, readForms, hread]
        refine .pass (hhead.trans hread) (ih later.length (Nat.lt_succ_self _) rfl ?_)
        intro as n l' later' hreach hdrop
        exact hsettled as (n + 1) l' later' (.pass hread hreach) hdrop
      | some x =>
        obtain ⟨a, extra⟩ := x
        have hextra := hlocal.extra_le hread
        have hlength : (later.drop extra).length = later.length - extra := List.length_drop
        have hrest := ih (later.drop extra).length (by rw [hlength, List.length_cons]; omega) rfl
          fun as n l' later' hreach hdrop => by
            refine hsettled (a :: as) (extra + n + 1) l' later' (.form hread hreach) ?_
            rw [List.drop_succ_cons, ← List.drop_drop, hdrop]
        have hcount : (l :: later).length = extra + (later.drop extra).length + 1 := by
          rw [List.length_cons, hlength]
          omega
        have hforms : readForms read? (l :: later).length 0 (l :: later) =
            a :: readForms read? (later.drop extra).length 0 (later.drop extra) := by
          rw [List.length_cons, readForms, hread, hlength, ← readForms_taken]
        have hdrop : (later ++ more).drop extra = later.drop extra ++ more :=
          List.drop_append_of_le_length hextra
        rw [hforms, hcount]
        refine .form (hhead.trans hread) ?_
        show Reaches read? ((later ++ more).drop extra) _ _
        rw [hdrop]
        exact hrest

end Nesting

open Nesting

/-! ### Lines that begin an override -/

/-- The kind of the override that begins on a line, if the first form that claims it is one. -/
def overrideOn? (l : Line) : Option OverrideKind :=
  if isSkippable (trim l) then none
  else match claimWith? forms (trim l) with
    | some (.spanning kind) => some kind
    | _ => none

section Lines

variable {l : Line} {later : List Line} {kind : OverrideKind}

theorem gatherOverride_congr (kind : OverrideKind) {ls ls' : List Line}
    (h : gather ls = gather ls') : gatherOverride kind ls = gatherOverride kind ls' := by
  rw [gatherOverride, gatherOverride, h]

theorem entryWith?_of_overrideOn? (h : overrideOn? l = some kind) (later : List Line) :
    entryWith? forms l later = some (.docOverride (gatherOverride kind (l :: later)).1,
      (gather (l :: later)).extra) := by
  unfold overrideOn? at h
  split at h
  · exact absurd h (by simp)
  · rename_i hskip
    split at h
    · rename_i k hclaim
      obtain rfl := Option.some.inj h
      rw [entryWith?, if_neg hskip, hclaim]
      rfl
    · exact absurd h (by simp)

/-- On any other line, what is read there is on the line alone. -/
theorem exists_entryWith?_eq (h : overrideOn? l = none) :
    ∃ e? : Option Entry, ∀ later, entryWith? forms l later = e?.map fun e => (e, 0) := by
  unfold overrideOn? at h
  split at h
  · rename_i hskip
    exact ⟨none, fun later => by rw [entryWith?, if_pos hskip]; rfl⟩
  · rename_i hskip
    cases hclaim : claimWith? forms (trim l) with
    | none => exact ⟨none, fun later => by rw [entryWith?, if_neg hskip, hclaim]; rfl⟩
    | some c =>
      cases c with
      | entry e => exact ⟨some e, fun later => by rw [entryWith?, if_neg hskip, hclaim]; rfl⟩
      | spanning kind =>
        rw [hclaim] at h
        exact absurd h (by simp)

/-- **Registration forms are read locally.** -/
theorem isLocal_entryWith? : IsLocal (entryWith? forms) where
  none_of_none := by
    intro l ls hread ls'
    cases hl : overrideOn? l with
    | none =>
      obtain ⟨e?, he⟩ := exists_entryWith?_eq hl
      rw [he, ← he ls, hread]
    | some kind =>
      rw [entryWith?_of_overrideOn? hl] at hread
      exact absurd hread (by simp)
  extra_le := by
    intro l ls e extra hread
    cases hl : overrideOn? l with
    | none =>
      obtain ⟨e?, he⟩ := exists_entryWith?_eq hl
      rw [he, Option.map_eq_some_iff] at hread
      obtain ⟨e', -, heq⟩ := hread
      obtain ⟨-, rfl⟩ := Prod.mk.inj heq
      exact Nat.zero_le _
    | some kind =>
      rw [entryWith?_of_overrideOn? hl] at hread
      obtain ⟨-, rfl⟩ := Prod.mk.inj (Option.some.inj hread)
      exact extra_gather_le l ls
  take_append := by
    intro l ls e extra hread hlt more
    cases hl : overrideOn? l with
    | none =>
      obtain ⟨e?, he⟩ := exists_entryWith?_eq hl
      rw [he, ← he ls, hread]
    | some kind =>
      rw [entryWith?_of_overrideOn? hl] at hread ⊢
      obtain ⟨rfl, rfl⟩ := Prod.mk.inj (Option.some.inj hread)
      have hclosed := closes_of_extra_lt hlt
      have hself := hclosed.gather_append (ls.drop (gather (l :: ls)).extra)
      rw [List.cons_append, List.take_append_drop] at hself
      have hgather : gather (l :: (ls.take (gather (l :: ls)).extra ++ more)) = gather (l :: ls) :=
        (hclosed.gather_append more).trans hself.symm
      rw [gatherOverride_congr kind hgather, hgather]

/-! ### Entries of a block -/

theorem Nesting.Reaches.entries_eq {block : List Line} {es : List Entry} {n : Nat}
    (h : Reaches (entryWith? forms) block es n) : entries block = es ++ entries (block.drop n) := by
  have hread := h.readForms_eq (h.le_length isLocal_entryWith?)
  rwa [← List.length_drop] at hread

theorem entries_override (h : overrideOn? l = some kind) (later : List Line) :
    entries (l :: later) = .docOverride (gatherOverride kind (l :: later)).1 ::
      entries (later.drop (gather (l :: later)).extra) := by
  have hreach : Reaches (entryWith? forms) (l :: later)
      [.docOverride (gatherOverride kind (l :: later)).1] ((gather (l :: later)).extra + 0 + 1) :=
    .form (entryWith?_of_overrideOn? h later) (.start _)
  exact hreach.entries_eq

end Lines

/-! ### Blocks one after another -/

/-- **Every override that begins in a block is closed in it.** -/
def ClosesOverrides (block : List Line) : Prop :=
  ∀ es n l later, Reaches (entryWith? forms) block es n → block.drop n = l :: later →
    (overrideOn? l).isSome → Closes (l :: later)

theorem entries_append {block : List Line} (h : ClosesOverrides block) (more : List Line) :
    entries (block ++ more) = entries block ++ entries more := by
  have hreach : Reaches (entryWith? forms) (block ++ more) (entries block) block.length := by
    refine Reaches.of_settled isLocal_entryWith? more fun es n l later hreach hdrop => ?_
    cases hl : overrideOn? l with
    | none =>
      obtain ⟨e?, he⟩ := exists_entryWith?_eq hl
      rw [he, he]
    | some kind =>
      have hclosed := h es n l later hreach hdrop (by rw [hl]; rfl)
      have hgather : gather (l :: (later ++ more)) = gather (l :: later) :=
        hclosed.gather_append more
      rw [entryWith?_of_overrideOn? hl, entryWith?_of_overrideOn? hl,
        gatherOverride_congr kind hgather, hgather]
  have hentries := hreach.entries_eq
  rwa [List.drop_left] at hentries

/-- The entries of a block whose last override is left open, with more lines behind it. -/
theorem exists_entries_append_of_open {block : List Line} {es : List Entry} {n : Nat} {l : Line}
    {later : List Line} {kind : OverrideKind} (hreach : Reaches (entryWith? forms) block es n)
    (hdrop : block.drop n = l :: later) (hl : overrideOn? l = some kind)
    (hopen : ¬ Closes (l :: later)) {more : List Line}
    (hmore : takeBalanced parenDelta (total parenDelta (l :: later)) more = more) :
    ∃ o, entries (block ++ more) = es ++ [.docOverride o] := by
  have hn := lt_length_of_drop_eq_cons hdrop
  have hlonger := hreach.take_append isLocal_entryWith? hn (l :: later ++ more)
  rw [← hdrop, ← List.append_assoc, List.take_append_drop] at hlonger
  have htaken : takeBalanced parenDelta 0 (l :: (later ++ more)) = l :: (later ++ more) := by
    have hall := takeBalanced_append_of_not_closes hopen more
    rwa [hmore] at hall
  have hextra : (gather (l :: (later ++ more))).extra = (later ++ more).length := by
    rw [gather, htaken]
    rfl
  refine ⟨(gatherOverride kind (l :: (later ++ more))).1, ?_⟩
  rw [hlonger.entries_eq, List.drop_append_of_le_length (Nat.le_of_lt hn), hdrop,
    List.cons_append, entries_override hl, hextra, List.drop_length]
  rfl

/-- **Two blocks one after another give what they give joined exactly if the first one closes its
overrides.**  Whatever the interface they are registered in and whatever the second block, nothing
else is needed.  If an override is left open, there is a second block that tells the two readings
apart. -/
theorem register_append_iff (block : List Line) :
    ClosesOverrides block ↔ ∀ (more : List Line) (i : Interface),
      i.register (block ++ more) = (i.register block).register more := by
  constructor
  · intro h more i
    rw [Interface.register, entries_append h more, Interface.addAll_append]
    rfl
  · intro h es n l later hreach hdrop hoverride
    by_contra hopen
    obtain ⟨kind, hl⟩ := Option.isSome_iff_exists.mp hoverride
    -- an override of its own on the next line is lost in the open one
    have hroot : entries ["JSG_TS_ROOT()".toList] = [.docOverride ⟨.root, "(root type)"⟩] := by
      decide +kernel
    have hlast : takeBalanced parenDelta (total parenDelta (l :: later))
        ["JSG_TS_ROOT()".toList] = ["JSG_TS_ROOT()".toList] := by
      rw [takeBalanced]
      split <;> rfl
    obtain ⟨o, halone⟩ := exists_entries_append_of_open hreach hdrop hl hopen
      (takeBalanced_nil parenDelta _)
    obtain ⟨o', hjoined⟩ := exists_entries_append_of_open hreach hdrop hl hopen hlast
    rw [List.append_nil] at halone
    have hsame := congrArg (fun i => i.docOverrides.length)
      (h ["JSG_TS_ROOT()".toList] (Interface.empty "" (.resource none)))
    simp only [Interface.register, docOverrides_addAll, hjoined, halone, hroot,
      List.filterMap_append, List.length_append] at hsame
    simp [Entry.override?] at hsame

end DeclAtlas
