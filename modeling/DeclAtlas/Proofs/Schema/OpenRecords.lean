import DeclAtlas.Proofs.Schema.QualifiedName

/-!
# The open records

`Schema/Reader.lean` keeps the open records as a stack of names and depths, the innermost of them
in hand and all others in one list, where a parent is looked up by its qualified name.  This file
proves that the three parts stay together over any text, balanced or not.

* `Parked stack aside current`: every open record but the innermost stands in `aside`, and the
  innermost is `current`.  Opening (`Parked.openRecord`), declaring (`Parked.declareIn`) and closing
  (`Parked.returnTo`) keep it, so a parent is found whenever one is looked for
  (`Parked.findsParents`).
* `Rising stack depth`: the depths of the stack rise towards the innermost record and stay below the
  depth of braces.
* `HoldsTogether.feed`: a line keeps both, and so does a whole text (`holdsTogether_readLines`).
* `HoldsTogether.consistent`: what this says of the names and depths of the open records.
-/

namespace DeclAtlas.Schema

open Text

namespace Reading

/-! ### What is stated of a reading -/

/-- The names of the open records, outermost first. -/
def names (r : Reading) : List String := r.stack.reverse.map Opening.name

/-- The depths at which the open records were opened, outermost first. -/
def openDepths (r : Reading) : List Nat := r.stack.reverse.map Opening.depth

/-- A reading whose parts agree with each other. -/
structure Consistent (r : Reading) : Prop where
  /-- Every name has its depth. -/
  length_eq : r.names.length = r.openDepths.length
  /-- Inner records are opened deeper. -/
  depths_rise : r.openDepths.Pairwise (· < ·)
  /-- The innermost record is still open. -/
  last_lt : ∀ d ∈ r.openDepths.getLast?, d < r.depth
  /-- A record is in hand exactly when one is open. -/
  current_isSome_iff : r.current.isSome = true ↔ r.names ≠ []
  /-- The record in hand is the innermost open one. -/
  current_eq : ∀ q ∈ r.current,
    q.qualifiedName = dotted r.names ∧ r.names.getLast? = some q.name
  /-- The ancestors of the record in hand are set aside. -/
  ancestor_aside : ∀ p, p ≠ [] → p <+: r.names → p ≠ r.names →
    ∃ q ∈ r.aside, q.qualifiedName = dotted p

/-- Every closing from this stack on that goes back to a parent finds it. -/
def FindsParents (depth : Nat) : List Opening → List Record → Option Record → Prop
  | [], _, _ => True
  | o :: rest, aside, current => depth ≤ o.depth →
    (rest ≠ [] → ∃ q ∈ aside ++ current.toList, q.qualifiedName = qualifiedNameOf rest) ∧
      FindsParents depth rest (returnTo rest aside current).1 (returnTo rest aside current).2

/-- The reading with the record that a line opens, before the members on the line are read. -/
def opened (r : Reading) (l : Line) : Reading :=
  match openedRecord? l with
  | some name => r.openRecord name
  | none => r

/-- The depth of braces after a line. -/
def depthAfter (r : Reading) (l : Line) : Nat := r.depth + l.count '{' - l.count '}'

/-- Whether a record is open when the members on a line are read. -/
def insideRecord (r : Reading) (l : Line) : Bool := (openedRecord? l).isSome || !r.names.isEmpty

/-- The path of the record that a line opens. -/
def openedPath? (r : Reading) (l : Line) : Option (List String) :=
  (openedRecord? l).map fun n => r.names ++ [n]

/-- The field that a line declares in an open record. -/
def fieldInside? (r : Reading) (l : Line) : Option Field :=
  if r.insideRecord l then field? l else none

/-- Every line with what had been read before it. -/
def trace (r : Reading) : List Line → List (Reading × Line)
  | [] => []
  | l :: ls => (r, l) :: trace (r.feed l) ls

theorem opened_depth (r : Reading) (l : Line) : (r.opened l).depth = r.depth := by
  unfold opened
  cases openedRecord? l <;> rfl

theorem feed_eq (r : Reading) (l : Line) :
    r.feed l = closeFinished (r.depthAfter l) (r.opened l).stack (r.opened l).aside
      ((r.opened l).current.map (declareIn l)) := by
  rw [depthAfter, ← opened_depth r l]
  rfl

/-! ### Taking a record out -/

theorem takeOut?_eq_some {name : String} : ∀ {rs rest : List Record} {q : Record},
    takeOut? name rs = some (q, rest) →
      ∃ a b, rs = a ++ q :: b ∧ rest = a ++ b ∧ q.qualifiedName = name := by
  intro rs
  induction rs with
  | nil => intro rest q h; simp [takeOut?] at h
  | cons r rs ih =>
    intro rest q h
    by_cases hr : r.qualifiedName = name
    · rw [takeOut?, if_pos hr, Option.some.injEq, Prod.mk.injEq] at h
      obtain ⟨rfl, rfl⟩ := h
      exact ⟨[], rs, rfl, rfl, hr⟩
    · rw [takeOut?, if_neg hr] at h
      obtain ⟨⟨q', rest'⟩, ht, e⟩ := Option.map_eq_some_iff.mp h
      obtain ⟨rfl, rfl⟩ := Prod.mk.injEq .. ▸ e
      obtain ⟨a, b, rfl, rfl, hq⟩ := ih ht
      exact ⟨r :: a, b, rfl, rfl, hq⟩

/-- A record is taken out wherever it is the first of its qualified name. -/
theorem takeOut?_append {a b : List Record} {q : Record}
    (h : ∀ x ∈ a, x.qualifiedName ≠ q.qualifiedName) :
    takeOut? q.qualifiedName (a ++ q :: b) = some (q, a ++ b) := by
  induction a with
  | nil => rw [List.nil_append, takeOut?, if_pos rfl, List.nil_append]
  | cons x a ih =>
    rw [List.cons_append, takeOut?, if_neg (h x List.mem_cons_self),
      ih fun y hy => h y (List.mem_cons_of_mem x hy)]
    rfl

theorem isSome_takeOut? {name : String} {rs : List Record}
    (h : ∃ q ∈ rs, q.qualifiedName = name) : (takeOut? name rs).isSome = true := by
  obtain ⟨q, hq, hname⟩ := h
  induction rs with
  | nil => simp at hq
  | cons r rs ih =>
    by_cases hr : r.qualifiedName = name
    · rw [takeOut?, if_pos hr]; rfl
    · rw [takeOut?, if_neg hr, Option.isSome_map]
      rcases List.mem_cons.mp hq with rfl | hq
      · exact absurd hname hr
      · exact ih hq

section GoingBack

variable {stack : List Opening} {aside : List Record} {current : Option Record}

theorem returnTo_nil : returnTo [] aside current = (aside ++ current.toList, none) := rfl

/-- Going back takes out the parent and adds the closed record to its nested ones. -/
theorem returnTo_of_takeOut? {q : Record} {rest : List Record} (hne : stack ≠ [])
    (h : takeOut? (qualifiedNameOf stack) (aside ++ current.toList) = some (q, rest)) :
    returnTo stack aside current = (rest,
      some { q with nested := q.nested ++ current.toList.map Record.qualifiedName }) := by
  simp only [returnTo, List.isEmpty_iff, hne, if_false, h]

theorem returnTo_of_takeOut?_eq_none (hne : stack ≠ [])
    (h : takeOut? (qualifiedNameOf stack) (aside ++ current.toList) = none) :
    returnTo stack aside current = (aside ++ current.toList, none) := by
  simp only [returnTo, List.isEmpty_iff, hne, if_false, h]

end GoingBack

/-! ### Parents are set aside -/

/-- A record whose own name ends its qualified name. -/
def OwnNamed (q : Record) : Prop :=
  ∃ path : List String, (∀ n ∈ path, Dotless n) ∧ Dotless q.name ∧
    q.qualifiedName = dotted (path ++ [q.name])

/-- The open records are in hand or set aside. -/
structure Parked (stack : List Opening) (aside : List Record) (current : Option Record) : Prop where
  /-- Names of open records have no dots. -/
  dotless : ∀ o ∈ stack, Dotless o.name
  /-- Every record is named for the end of its path. -/
  ownNamed : ∀ q ∈ aside ++ current.toList, OwnNamed q
  /-- The record in hand is the innermost open one. -/
  current_eq : current.map Record.qualifiedName =
    if stack = [] then none else some (qualifiedNameOf stack)
  /-- The records around it are set aside. -/
  ancestor : ∀ s, s ≠ [] → s <:+ stack → s ≠ stack →
    ∃ q ∈ aside, q.qualifiedName = qualifiedNameOf s

variable {stack : List Opening} {aside : List Record} {current : Option Record}

theorem parked_nil : Parked [] [] none where
  dotless := by simp
  ownNamed := by simp
  current_eq := rfl
  ancestor := fun s hne hs _ => absurd (List.suffix_nil.mp hs) hne

/-- Two stacks of dotless names, one a proper end of the other, have different qualified names. -/
theorem qualifiedNameOf_ne_of_suffix {s : List Opening} (hd : ∀ o ∈ stack, Dotless o.name)
    (hs : s <:+ stack) (hne : s ≠ []) (h : s ≠ stack) :
    qualifiedNameOf s ≠ qualifiedNameOf stack := by
  intro e
  have hdot : ∀ t : List Opening, t <:+ stack → ∀ n ∈ t.reverse.map Opening.name, Dotless n := by
    intro t ht n hn
    obtain ⟨o, ho, rfl⟩ := List.mem_map.mp hn
    exact hd o (ht.mem (List.mem_reverse.mp ho))
  have hstack : stack ≠ [] := fun h0 => hne (List.suffix_nil.mp (h0 ▸ hs))
  have hnames := dotted_injective (hdot s hs) (hdot stack List.suffix_rfl)
    (by simpa using hne) (by simpa using hstack) e
  refine h (hs.eq_of_length ?_)
  simpa using congrArg List.length hnames

theorem Parked.openRecord (h : Parked stack aside current) {name : String} (hn : Dotless name)
    (depth : Nat) :
    Parked (⟨name, depth⟩ :: stack) (aside ++ current.toList)
      (some (Record.empty name (qualifiedNameOf (⟨name, depth⟩ :: stack)))) where
  dotless := by
    intro o ho
    rcases List.mem_cons.mp ho with rfl | ho
    · exact hn
    · exact h.dotless o ho
  ownNamed := by
    intro q hq
    rcases List.mem_append.mp hq with hq | hq
    · exact h.ownNamed q hq
    · obtain rfl := List.mem_singleton.mp hq
      refine ⟨stack.reverse.map Opening.name, ?_, hn, qualifiedNameOf_cons _ _⟩
      intro n hmem
      obtain ⟨o, ho, rfl⟩ := List.mem_map.mp hmem
      exact h.dotless o (List.mem_reverse.mp ho)
  current_eq := by simp [Record.empty]
  ancestor := by
    intro s hne hs hproper
    rcases List.suffix_cons_iff.mp hs with rfl | hs
    · exact absurd rfl hproper
    -- the innermost open record has just been set aside, the others were before
    by_cases he : s = stack
    · subst he
      have hc := h.current_eq
      rw [if_neg hne] at hc
      obtain ⟨q, hq, hname⟩ := Option.map_eq_some_iff.mp hc
      exact ⟨q, List.mem_append_right _ (by simp [hq]), hname⟩
    · obtain ⟨q, hq, hname⟩ := h.ancestor s hne hs he
      exact ⟨q, List.mem_append_left _ hq, hname⟩

theorem Parked.declareIn (h : Parked stack aside current) (l : Line) :
    Parked stack aside (current.map (declareIn l)) where
  dotless := h.dotless
  ownNamed := by
    intro q hq
    rcases List.mem_append.mp hq with hq | hq
    · exact h.ownNamed q (List.mem_append_left _ hq)
    · obtain ⟨c, hc, rfl⟩ := Option.map_eq_some_iff.mp (Option.mem_toList.mp hq)
      exact h.ownNamed c (List.mem_append_right _ (Option.mem_toList.mpr hc))
  current_eq := by
    rw [← h.current_eq, Option.map_map]
    rfl
  ancestor := h.ancestor

/-- The parent of the innermost open record is among the records set aside. -/
theorem Parked.exists_parent {o : Opening} (h : Parked (o :: stack) aside current)
    (hne : stack ≠ []) :
    ∃ q ∈ aside ++ current.toList, q.qualifiedName = qualifiedNameOf stack := by
  obtain ⟨q, hq, hname⟩ := h.ancestor stack hne (List.suffix_cons o stack)
    fun e => by simpa using congrArg List.length e
  exact ⟨q, List.mem_append_left _ hq, hname⟩

/-- **Closing the innermost record keeps the others in place.** -/
theorem Parked.returnTo {o : Opening} (h : Parked (o :: stack) aside current) :
    Parked stack (returnTo stack aside current).1 (returnTo stack aside current).2 := by
  have hdot : ∀ x ∈ stack, Dotless x.name := fun x hx => h.dotless x (List.mem_cons_of_mem o hx)
  by_cases hne : stack = []
  · subst hne
    exact ⟨hdot, by simpa [returnTo_nil] using h.ownNamed, rfl,
      fun s hs hsuf _ => absurd (List.suffix_nil.mp hsuf) hs⟩
  · obtain ⟨⟨q, rest⟩, ht⟩ := Option.isSome_iff_exists.mp (isSome_takeOut? (h.exists_parent hne))
    obtain ⟨a, b, hab, rfl, hname⟩ := takeOut?_eq_some ht
    rw [returnTo_of_takeOut? hne ht]
    refine ⟨hdot, ?_, ?_, ?_⟩
    · intro x hx
      rcases List.mem_append.mp hx with hx | hx
      · refine h.ownNamed x (hab ▸ ?_)
        rcases List.mem_append.mp hx with hx | hx
        · exact List.mem_append_left _ hx
        · exact List.mem_append_right _ (List.mem_cons_of_mem q hx)
      · obtain rfl := List.mem_singleton.mp hx
        exact h.ownNamed q (hab ▸ List.mem_append_right _ List.mem_cons_self)
    · rw [if_neg hne, Option.map_some, hname]
    · -- an ancestor of the parent is not the parent itself, so it was not taken out
      intro s hs hsuf hproper
      obtain ⟨x, hx, hxname⟩ := h.ancestor s hs (hsuf.trans (List.suffix_cons o stack)) fun e => by
        have := hsuf.length_le
        rw [e, List.length_cons] at this
        omega
      refine ⟨x, ?_, hxname⟩
      have hmem : x ∈ a ++ q :: b := hab ▸ List.mem_append_left _ hx
      rcases List.mem_append.mp hmem with hx | hx
      · exact List.mem_append_left _ hx
      · rcases List.mem_cons.mp hx with rfl | hx
        · exact absurd (hxname.symm.trans hname)
            (qualifiedNameOf_ne_of_suffix hdot hsuf hs hproper)
        · exact List.mem_append_right _ hx

/-! ### Closing the finished records -/

theorem closeFinished_cons_of_lt {depth : Nat} {o : Opening} (h : o.depth < depth) :
    closeFinished depth (o :: stack) aside current = ⟨aside, o :: stack, depth, current⟩ := by
  rw [closeFinished, if_pos h]

theorem closeFinished_cons_of_le {depth : Nat} {o : Opening} (h : depth ≤ o.depth) :
    closeFinished depth (o :: stack) aside current =
      closeFinished depth stack (returnTo stack aside current).1
        (returnTo stack aside current).2 := by
  rw [closeFinished, if_neg (Nat.not_lt.mpr h)]

theorem closeFinished_depth (depth : Nat) : ∀ (stack : List Opening) (aside : List Record)
    (current : Option Record), (closeFinished depth stack aside current).depth = depth := by
  intro stack
  induction stack with
  | nil => intro _ _; rfl
  | cons o stack ih =>
    intro aside current
    by_cases h : o.depth < depth
    · rw [closeFinished_cons_of_lt h]
    · rw [closeFinished_cons_of_le (Nat.not_lt.mp h), ih]

/-- Closing takes the records from the stack whose depth has been reached again. -/
theorem closeFinished_stack (depth : Nat) : ∀ (stack : List Opening) (aside : List Record)
    (current : Option Record),
    (closeFinished depth stack aside current).stack =
      stack.dropWhile fun o => decide (depth ≤ o.depth) := by
  intro stack
  induction stack with
  | nil => intro _ _; rfl
  | cons o stack ih =>
    intro aside current
    by_cases h : o.depth < depth
    · rw [closeFinished_cons_of_lt h, List.dropWhile_cons_of_neg (by simpa using h)]
    · rw [closeFinished_cons_of_le (Nat.not_lt.mp h), ih,
        List.dropWhile_cons_of_pos (by simpa using h)]

theorem Parked.closeFinished (depth : Nat) : ∀ {stack : List Opening} {aside : List Record}
    {current : Option Record}, Parked stack aside current →
    Parked (closeFinished depth stack aside current).stack
      (closeFinished depth stack aside current).aside
      (closeFinished depth stack aside current).current := by
  intro stack
  induction stack with
  | nil => intro _ _ h; exact h
  | cons o stack ih =>
    intro aside current h
    by_cases ho : o.depth < depth
    · rw [closeFinished_cons_of_lt ho]; exact h
    · rw [closeFinished_cons_of_le (Nat.not_lt.mp ho)]; exact ih h.returnTo

/-- **Closing never looks for a parent in vain.** -/
theorem Parked.findsParents (depth : Nat) : ∀ {stack : List Opening} {aside : List Record}
    {current : Option Record}, Parked stack aside current →
      FindsParents depth stack aside current := by
  intro stack
  induction stack with
  | nil => intro _ _ _; exact trivial
  | cons o stack ih => intro _ _ h _; exact ⟨fun hne => h.exists_parent hne, ih h.returnTo⟩

/-! ### Depths -/

/-- Depths that rise towards the innermost record and stay below the depth of braces. -/
def Rising (stack : List Opening) (depth : Nat) : Prop :=
  (∀ o ∈ stack, o.depth < depth) ∧ stack.Pairwise fun a b => b.depth < a.depth

theorem Rising.openRecord {depth : Nat} (h : Rising stack depth) (name : String) :
    Rising (⟨name, depth⟩ :: stack) (depth + 1) := by
  refine ⟨fun o ho => ?_, List.pairwise_cons.mpr ⟨fun o ho => h.1 o ho, h.2⟩⟩
  rcases List.mem_cons.mp ho with rfl | ho
  · exact Nat.lt_succ_self _
  · exact Nat.lt_succ_of_lt (h.1 o ho)

/-- What is left of a rising stack when the depths not below `depth` are taken off. -/
theorem rising_dropWhile (depth : Nat) : ∀ {stack : List Opening},
    stack.Pairwise (fun a b => b.depth < a.depth) →
      Rising (stack.dropWhile fun o => decide (depth ≤ o.depth)) depth := by
  intro stack
  induction stack with
  | nil => intro h; exact ⟨by simp, h⟩
  | cons o stack ih =>
    intro h
    by_cases ho : o.depth < depth
    · rw [List.dropWhile_cons_of_neg (by simpa using ho)]
      refine ⟨fun x hx => ?_, h⟩
      rcases List.mem_cons.mp hx with rfl | hx
      · exact ho
      · exact Nat.lt_trans ((List.pairwise_cons.mp h).1 x hx) ho
    · rw [List.dropWhile_cons_of_pos (by simpa using ho)]
      exact ih (List.pairwise_cons.mp h).2

/-! ### Readings that hold together -/

/-- The invariant of reading: the open records are parked and their depths rise. -/
structure HoldsTogether (r : Reading) : Prop where
  parked : Parked r.stack r.aside r.current
  rising : Rising r.stack r.depth

theorem holdsTogether_start : start.HoldsTogether := ⟨parked_nil, by simp [start], .nil⟩

theorem HoldsTogether.opened {r : Reading} (h : r.HoldsTogether) (l : Line) :
    Parked (r.opened l).stack (r.opened l).aside (r.opened l).current ∧
      (r.opened l).stack.Pairwise fun a b => b.depth < a.depth := by
  unfold Reading.opened
  cases hl : openedRecord? l with
  | none => exact ⟨h.parked, h.rising.2⟩
  | some n =>
    exact ⟨h.parked.openRecord (dotless_of_openedRecord? hl) r.depth, (h.rising.openRecord n).2⟩

theorem HoldsTogether.feed {r : Reading} (h : r.HoldsTogether) (l : Line) :
    (r.feed l).HoldsTogether := by
  obtain ⟨hp, hr⟩ := h.opened l
  rw [feed_eq]
  refine ⟨(hp.declareIn l).closeFinished _, ?_⟩
  rw [closeFinished_stack, closeFinished_depth]
  exact rising_dropWhile _ hr

theorem HoldsTogether.foldl {r : Reading} (h : r.HoldsTogether) (ls : List Line) :
    (ls.foldl Reading.feed r).HoldsTogether := by
  induction ls generalizing r with
  | nil => exact h
  | cons l ls ih => exact ih (h.feed l)

theorem holdsTogether_readLines (ls : List Line) : (readLines ls).HoldsTogether :=
  holdsTogether_start.foldl ls

/-- A record is in hand exactly when one is open. -/
theorem Parked.isSome_current_iff (h : Parked stack aside current) :
    current.isSome = true ↔ stack ≠ [] := by
  have hc := congrArg Option.isSome h.current_eq
  rw [Option.isSome_map] at hc
  rw [hc]
  by_cases hs : stack = [] <;> simp [hs]

theorem HoldsTogether.findsParents {r : Reading} (h : r.HoldsTogether) (l : Line) :
    FindsParents (r.depthAfter l) (r.opened l).stack (r.opened l).aside
      ((r.opened l).current.map (declareIn l)) :=
  ((h.opened l).1.declareIn l).findsParents _

/-- **The invariant in terms of names and depths.** -/
theorem HoldsTogether.consistent {r : Reading} (h : r.HoldsTogether) : r.Consistent where
  length_eq := by simp [names, openDepths]
  depths_rise := by
    rw [openDepths, List.map_reverse, List.pairwise_reverse, List.pairwise_map]
    exact h.rising.2
  last_lt := by
    intro d hd
    rw [openDepths, List.map_reverse, List.getLast?_reverse, List.head?_map] at hd
    obtain ⟨o, ho, rfl⟩ := Option.map_eq_some_iff.mp hd
    exact h.rising.1 o (List.mem_of_mem_head? ho)
  current_isSome_iff := by
    rw [h.parked.isSome_current_iff]
    simp [names]
  current_eq := by
    intro q hq
    have hc := h.parked.current_eq
    rw [Option.mem_def.mp hq, Option.map_some] at hc
    by_cases hs : r.stack = []
    · rw [if_pos hs] at hc; exact absurd hc (by simp)
    rw [if_neg hs, Option.some.injEq] at hc
    obtain ⟨path, hpath, hown, hqn⟩ :=
      h.parked.ownNamed q (List.mem_append_right _ (Option.mem_toList.mpr hq))
    have hnames : path ++ [q.name] = r.names := by
      refine dotted_injective (fun n hn => ?_) (fun n hn => ?_) (by simp) (by simpa [names])
        (hqn.symm.trans hc)
      · rcases List.mem_append.mp hn with hn | hn
        · exact hpath n hn
        · rw [List.mem_singleton.mp hn]; exact hown
      · obtain ⟨o, ho, rfl⟩ := List.mem_map.mp hn
        exact h.parked.dotless o (List.mem_reverse.mp ho)
    exact ⟨hc, by rw [← hnames, List.getLast?_concat]⟩
  ancestor_aside := by
    intro p hne ⟨t, ht⟩ hproper
    -- the prefix of the names belongs to an end of the stack
    obtain ⟨a, b, hab, rfl, rfl⟩ := List.map_eq_append_iff.mp ht.symm
    have hstack : r.stack = b.reverse ++ a.reverse := by
      rw [← List.reverse_append, ← hab, List.reverse_reverse]
    obtain ⟨q, hq, hname⟩ := h.parked.ancestor a.reverse (by simpa using hne)
      ⟨b.reverse, hstack.symm⟩ fun e => hproper (by rw [names, ← e, List.reverse_reverse])
    exact ⟨q, hq, by rw [hname, qualifiedNameOf_eq, List.reverse_reverse]⟩

end Reading

end DeclAtlas.Schema
