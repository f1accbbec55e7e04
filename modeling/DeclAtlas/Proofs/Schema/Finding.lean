import DeclAtlas.Proofs.Schema.Agreement

/-!
# Which record a name finds

A record is asked for by its path or by its own name, and the path is tried first.  Names of records
have no dots, so a name without a dot is the path of a top-level record or of none
(`dotted_eq_iff`).  Therefore a top-level record is found under its name although records inside
others may have that name too and, being closed earlier, stand in front of it; and a name with a dot
is a path or nothing, since no record has it as its own name.
-/

namespace DeclAtlas.Schema

open Text

/-! ### Where records are opened -/

/-- A line opens the record while the records named in `path` are open. -/
def Record.OpenedInside (r : Record) (text : String) (path : List String) : Prop :=
  (path, r.name) ∈ openings text ∧ r.qualifiedName = dotted (path ++ [r.name])

/-- The record is opened inside no other one. -/
def Record.TopLevel (r : Record) (text : String) : Prop := r.OpenedInside text []

/-- The record is opened inside another one. -/
def Record.Inner (r : Record) (text : String) : Prop := ∃ path, path ≠ [] ∧ r.OpenedInside text path

/-- A name without a dot is a path only of length one. -/
theorem dotted_eq_iff {path : List String} {n name : String}
    (hpath : ∀ m ∈ path ++ [n], Dotless m) (hname : Dotless name) :
    dotted (path ++ [n]) = name ↔ path = [] ∧ n = name := by
  have hsingle : ∀ m, dotted [m] = m := fun _ => String.intercalate_singleton
  constructor
  · intro h
    have hone : path ++ [n] = [name] := by
      refine dotted_injective hpath (fun m hm => ?_) (by simp) (by simp)
        (h.trans (hsingle name).symm)
      exact List.mem_singleton.mp hm ▸ hname
    obtain ⟨hnil, hlast⟩ := List.append_inj' (hone.trans (List.nil_append _).symm) rfl
    exact ⟨hnil, List.singleton_inj.mp hlast⟩
  · rintro ⟨rfl, rfl⟩
    exact hsingle n

namespace Record

variable {text name : String} {r : Record}

theorem OpenedInside.dotless {path : List String} (h : r.OpenedInside text path) :
    ∀ m ∈ path ++ [r.name], Dotless m :=
  fun m hm => (isWordName_of_mem_openings h.1 m hm).dotless

theorem OpenedInside.path_unique {path path' : List String} (h : r.OpenedInside text path)
    (h' : r.OpenedInside text path') : path = path' := by
  have hsame : path ++ [r.name] = path' ++ [r.name] :=
    dotted_injective h.dotless h'.dotless (by simp) (by simp) (h.2.symm.trans h'.2)
  exact List.append_cancel_right hsame

/-- **Every record was opened somewhere**, and its path tells where. -/
theorem existsUnique_openedInside (hr : r ∈ parse text) : ∃! path, r.OpenedInside text path := by
  obtain ⟨path, hopens⟩ := exists_mem_openings hr
  exact ⟨path, hopens, fun _ h => h.path_unique hopens⟩

theorem dotless_name (hr : r ∈ parse text) : Dotless r.name := by
  obtain ⟨path, hopens, -⟩ := existsUnique_openedInside hr
  exact hopens.dotless r.name (by simp)

/-- A name without a dot is the path of the top-level records of that name. -/
theorem qualifiedName_eq_iff (hr : r ∈ parse text) (hname : Dotless name) :
    r.qualifiedName = name ↔ r.name = name ∧ r.TopLevel text := by
  obtain ⟨path, hopens, -⟩ := existsUnique_openedInside hr
  rw [hopens.2, dotted_eq_iff hopens.dotless hname]
  constructor
  · rintro ⟨rfl, hn⟩
    exact ⟨hn, hopens⟩
  · rintro ⟨hn, htop⟩
    exact ⟨hopens.path_unique htop, hn⟩

/-- A top-level record of a name without a dot is there if some record has that path. -/
theorem exists_topLevel_iff (hname : Dotless name) :
    (∃ r ∈ parse text, r.name = name ∧ r.TopLevel text) ↔
      ∃ r ∈ parse text, r.qualifiedName = name :=
  exists_congr fun _ => and_congr_right fun hr => (qualifiedName_eq_iff hr hname).symm

theorem inner_iff (hr : r ∈ parse text) : r.Inner text ↔ ¬ r.TopLevel text := by
  obtain ⟨path, hopens, -⟩ := existsUnique_openedInside hr
  constructor
  · rintro ⟨path', hne, hinner⟩ htop
    exact hne (hinner.path_unique htop)
  · intro htop
    refine ⟨path, ?_, hopens⟩
    rintro rfl
    exact htop hopens

end Record

/-! ### The first record of a kind -/

/-- `r` is the first of the records with a property. -/
def IsFirst (P : Record → Prop) (records : List Record) (r : Record) : Prop :=
  ∃ before after, records = before ++ r :: after ∧ P r ∧ ∀ q ∈ before, ¬ P q

theorem find?_eq_some_iff_isFirst {P : Record → Prop} {p : Record → Bool} {records : List Record}
    (hp : ∀ q ∈ records, p q = true ↔ P q) {r : Record} :
    records.find? p = some r ↔ IsFirst P records r := by
  rw [List.find?_eq_some_iff_append]
  constructor
  · rintro ⟨hr, before, after, rfl, hbefore⟩
    refine ⟨before, after, rfl, (hp r (by simp)).mp hr, fun q hq hPq => ?_⟩
    have hq' := hbefore q hq
    rw [(hp q (by simp [hq])).mpr hPq] at hq'
    exact absurd hq' (by decide)
  · rintro ⟨before, after, rfl, hr, hbefore⟩
    refine ⟨(hp r (by simp)).mpr hr, before, after, rfl, fun q hq => ?_⟩
    rw [Bool.not_eq_true', ← Bool.not_eq_true, hp q (by simp [hq])]
    exact hbefore q hq

/-! ### Finding -/

section Finding

variable {records : List Record} {name : String}

theorem find?_beq_eq_none_iff {f : Record → String} :
    records.find? (f · == name) = none ↔ ∀ r ∈ records, f r ≠ name := by
  simp only [List.find?_eq_none, beq_iff_eq, ne_eq]

theorem find?_eq_none_iff :
    find? records name = none ↔ ∀ r ∈ records, r.qualifiedName ≠ name ∧ r.name ≠ name := by
  rw [find?, Option.or_eq_none_iff, find?_beq_eq_none_iff, find?_beq_eq_none_iff, ← forall₂_and]

theorem find?_of_forall_path_ne (h : ∀ q ∈ records, q.qualifiedName ≠ name) :
    find? records name = records.find? (·.name == name) := by
  rw [find?, find?_beq_eq_none_iff.mpr h, Option.none_or]

theorem find?_of_forall_name_ne (h : ∀ q ∈ records, q.name ≠ name) :
    find? records name = records.find? (·.qualifiedName == name) := by
  rw [find?, find?_beq_eq_none_iff.mpr h, Option.or_none]

end Finding

/-- **A name finds a top-level record first, a path only the record it leads to.**  For every text:
a name without a dot finds the first top-level record of that name if there is one, whatever is
closed before it, and else the first record of that name inside another one; a name with a dot finds
the first record with that path and never one by its own name; and nothing is found exactly when no
record has that path or that name. -/
theorem find?_prefers_top_level (text name : String) :
    let records := parse text
    (∀ r ∈ records, ∃! path, r.OpenedInside text path) ∧
      (Dotless name → (∃ r ∈ records, r.name = name ∧ r.TopLevel text) →
        ∃ r, find? records name = some r ∧
          IsFirst (fun q => q.name = name ∧ q.TopLevel text) records r) ∧
      (Dotless name → (¬ ∃ r ∈ records, r.name = name ∧ r.TopLevel text) →
        ∀ r, find? records name = some r ↔
          IsFirst (fun q => q.name = name ∧ q.Inner text) records r) ∧
      (¬ Dotless name → ∀ r, find? records name = some r ↔
        IsFirst (fun q => q.qualifiedName = name) records r) ∧
      (find? records name = none ↔ ∀ r ∈ records, r.qualifiedName ≠ name ∧ r.name ≠ name) := by
  intro records
  refine ⟨fun r hr => Record.existsUnique_openedInside hr, ?_, ?_, ?_, find?_eq_none_iff⟩
  · intro hname htop
    have hexists : ∃ q ∈ records, q.qualifiedName = name :=
      (Record.exists_topLevel_iff hname).mp htop
    obtain ⟨r, hr, hfirst⟩ := exists_find?_path hexists
    refine ⟨r, hr, (find?_eq_some_iff_isFirst fun q hq => ?_).mp hfirst⟩
    rw [beq_iff_eq, Record.qualifiedName_eq_iff hq hname]
  · intro hname hnone r
    have hne : ∀ q ∈ records, q.qualifiedName ≠ name :=
      fun q hq h => hnone ((Record.exists_topLevel_iff hname).mpr ⟨q, hq, h⟩)
    rw [find?_of_forall_path_ne hne]
    refine find?_eq_some_iff_isFirst fun q hq => ?_
    rw [beq_iff_eq, Record.inner_iff hq]
    exact ⟨fun h => ⟨h, fun htop => hnone ⟨q, hq, h, htop⟩⟩, And.left⟩
  · intro hname r
    have hne : ∀ q ∈ records, q.name ≠ name := fun q hq h => hname (h ▸ Record.dotless_name hq)
    rw [find?_of_forall_name_ne hne]
    exact find?_eq_some_iff_isFirst fun q _ => beq_iff_eq

/-- A record inside another one is closed before the top-level record of its name, and the name of
the other one inside is no top-level record's. -/
theorem top_level_found_behind_inner :
    let text := "struct B @0xb \x7b\n  struct A @0xa \x7b\n  \x7d\n  struct C @0xc \x7b\n  \x7d\n" ++
      "\x7d\nstruct A @0xd \x7b\n\x7d\n"
    (parse text).map Record.qualifiedName = ["B.A", "B.C", "B", "A"] ∧
      (∃ r, find? (parse text) "A" = some r ∧ r.TopLevel text) ∧
      (∃ r, find? (parse text) "C" = some r ∧ r.Inner text) ∧
      (∃ r, find? (parse text) "B.A" = some r ∧ r.qualifiedName = "B.A") ∧
      find? (parse text) "B.D" = none := by
  intro text
  have hpaths : (parse text).map Record.qualifiedName = ["B.A", "B.C", "B", "A"] := by
    decide +kernel
  have hnames : (parse text).map Record.name = ["A", "C", "B", "A"] := by decide +kernel
  have htop : ∀ name, Dotless name →
      ((∃ r ∈ parse text, r.name = name ∧ r.TopLevel text) ↔ name ∈ ["B.A", "B.C", "B", "A"]) := by
    intro name hname
    rw [Record.exists_topLevel_iff hname, ← hpaths, List.mem_map]
  have hfound : (find? (parse text) "C").isSome = true ∧
    (find? (parse text) "B.A").isSome = true := by
    decide +kernel
  obtain ⟨c, hc⟩ := Option.isSome_iff_exists.mp hfound.1
  obtain ⟨ba, hba⟩ := Option.isSome_iff_exists.mp hfound.2
  obtain ⟨-, hA, -⟩ := find?_prefers_top_level text "A"
  obtain ⟨-, -, hC, -⟩ := find?_prefers_top_level text "C"
  obtain ⟨-, -, -, hBA, -⟩ := find?_prefers_top_level text "B.A"
  obtain ⟨-, -, -, -, hBD⟩ := find?_prefers_top_level text "B.D"
  refine ⟨hpaths, ?_, ⟨c, hc, ?_⟩, ⟨ba, hba, ?_⟩, hBD.mpr fun r hr => ?_⟩
  · obtain ⟨r, hr, -, -, -, ⟨-, hr'⟩, -⟩ := hA (by decide) ((htop "A" (by decide)).mpr (by decide))
    exact ⟨r, hr, hr'⟩
  · have hnone := (htop "C" (by decide)).not.mpr (by decide)
    obtain ⟨-, -, -, ⟨-, hinner⟩, -⟩ := (hC (by decide) hnone c).mp hc
    exact hinner
  · obtain ⟨-, -, -, hpath, -⟩ := (hBA (by decide) ba).mp hba
    exact hpath
  · have hpath : r.qualifiedName ∈ (parse text).map Record.qualifiedName := List.mem_map_of_mem hr
    have hname : r.name ∈ (parse text).map Record.name := List.mem_map_of_mem hr
    rw [hpaths] at hpath
    rw [hnames] at hname
    refine ⟨fun h => ?_, fun h => ?_⟩
    · exact absurd (h ▸ hpath) (by decide)
    · exact absurd (h ▸ hname) (by decide)

end DeclAtlas.Schema
