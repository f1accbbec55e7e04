import DeclAtlas.Proofs.CrossReference.Independence
import DeclAtlas.Proofs.Interface.Patterns
import Mathlib.Data.Nat.Find

/-!
# The type group of a symbol

Headers list types in groups: a line names the macro of the group, and the lines below it list the
members.  A group is reported for a symbol if the symbol is mentioned on the line of the macro or on
one of the next eighty lines (`InReach`).  Of several such groups the first one is reported, in the
order of the headers and of their lines (`IsFirstGroup`, `typeGroup_is_first_group`).

What should be reported is the group in whose list the symbol stands: no other group begins between
its macro and the mention (`StandsInList`).  Reach does not end where the next group begins, so this
depends on what comes first below the macro, the symbol or another group (`standsInList_iff`).  A
short list with another one close behind it takes the members of that one for its own
(`neighbour_is_reported`).
-/

namespace DeclAtlas

open Text

/-! ### The pattern of a mention -/

namespace Pattern

/-- The edge of a word is read as such if no brace follows it, which would begin its name. -/
theorem reads_wordEdge (fuel : Nat) {r : List Char} (hr : ∀ c ∈ r.head?, c ∉ signs) :
    group? (fuel + 1) {} [] [] [] ('\\' :: 'b' :: r) = group? fuel {} [] [] [wordEdge] r := by
  cases r with
  | nil => rfl
  | cons c r =>
    have hbrace : c ≠ '{' := by
      rintro rfl
      exact hr '{' rfl (by decide)
    have hedge : edgeName? {} (c :: r) = some (.boundary, c :: r) := by
      unfold edgeName?
      split
      · rename_i heq
        exact absurd (List.cons.inj heq).1 hbrace
      · rfl
    have hescape : escape? {} ('b' :: c :: r) = some (.place (.edge .boundary .word), c :: r) := by
      rw [escape?, hedge]
      rfl
    rw [group?, literal_default.skip]
    simp only [hescape]
    rfl

theorem reads_lastWordEdge : ∃ steps, steps ≤ "\\b".toList.length + 1 ∧ ∀ fuel b,
    group? (fuel + steps) {} [] [] b "\\b".toList = some (branchPattern ([wordEdge] ++ b), [], []) :=
  ⟨2, by decide +kernel, fun _ _ => rfl⟩

/-- A name between two edges of a word. -/
def mentionFrame : Frame where
  lead := "\\b"
  tail := "\\b"
  switches := {}
  before := [wordEdge]
  after := [wordEdge]
  literal := literal_default
  reads_lead := ⟨1, 0, by decide +kernel, fun fuel _ _ hr => reads_wordEdge fuel hr⟩
  reads_tail := reads_lastWordEdge
  shallow := by decide
  single := by decide

theorem partsRoom_mentionFrame_le (d : Direction) :
    partsRoom d (partsOf mentionFrame.before) + partsRoom d (partsOf mentionFrame.after) ≤
      surroundRoom := by
  have hedge : partsRoom d (partsOf [wordEdge]) ≤ 100 := partsRoom_wordEdge d
  show partsRoom d (partsOf [wordEdge]) + partsRoom d (partsOf [wordEdge]) ≤ surroundRoom
  rw [surroundRoom]
  omega

end Pattern

namespace CrossReference

theorem isAdmitted_mentionPattern {symbol : String} (hname : isIdentifier symbol.toList = true)
    (hlength : symbol.length ≤ safeLength) :
    Pattern.isAdmitted (mentionPattern symbol) = true := by
  show Pattern.isAdmitted (Pattern.mentionFrame.text symbol) = true
  exact isAdmitted_of_safeLength Pattern.partsRoom_mentionFrame_le hname hlength

/-! ### Groups in a header -/

/-- Line `j` mentions the name as a whole word. -/
def MentionedAt (name : List Char) (ls : List Line) (j : Nat) : Prop :=
  ∃ l, ls[j]? = some l ∧ mentions name l = true

/-- The macro of a type group stands on line `k` as a whole word. -/
def NamedAt (ls : List Line) (k : Nat) (w : List Char) : Prop :=
  ∃ l, ls[k]? = some l ∧ w ∈ words l ∧ isGroupMacro w = true

/-- Line `i` names the group `w`, before any other, and the name is mentioned there or soon after. -/
def InReach (name : List Char) (ls : List Line) (i : Nat) (w : List Char) : Prop :=
  ls[i]?.bind groupMacro? = some w ∧ ∃ j, i ≤ j ∧ j ≤ i + groupSpan ∧ MentionedAt name ls j

/-- The name stands in the list of the group `w` that line `i` names: it is mentioned there or soon
after, and no other group is named up to the mention. -/
def StandsInList (name : List Char) (ls : List Line) (i : Nat) (w : List Char) : Prop :=
  ∃ j, i ≤ j ∧ j ≤ i + groupSpan ∧ MentionedAt name ls j ∧
    ∀ k, i < k → k ≤ j → ∀ v, NamedAt ls k v → v = w

instance (name : List Char) (ls : List Line) (j : Nat) : Decidable (MentionedAt name ls j) :=
  decidable_of_iff ((ls[j]?).any (mentions name) = true) (Option.any_eq_true _ _)

section Reach

variable {name : List Char} {l : Line} {ls : List Line} {i : Nat} {w : List Char}

theorem inReach_zero : InReach name (l :: ls) 0 w ↔
    groupMacro? l = some w ∧ ((l :: ls).take (groupSpan + 1)).any (mentions name) = true := by
  have hwindow : (∃ j, 0 ≤ j ∧ j ≤ 0 + groupSpan ∧ MentionedAt name (l :: ls) j) ↔
      ((l :: ls).take (groupSpan + 1)).any (mentions name) = true := by
    rw [List.any_eq_true]
    constructor
    · rintro ⟨j, -, hj, m, hm, hmention⟩
      refine ⟨m, List.mem_of_getElem? (i := j) ?_, hmention⟩
      rw [List.getElem?_take_of_lt (by omega), hm]
    · rintro ⟨m, hm, hmention⟩
      obtain ⟨j, hj⟩ := List.mem_iff_getElem?.mp hm
      rw [List.getElem?_take] at hj
      split at hj
      · exact ⟨j, Nat.zero_le j, by omega, m, hj, hmention⟩
      · exact nomatch hj
  rw [InReach, hwindow]
  rfl

theorem inReach_succ : InReach name (l :: ls) (i + 1) w ↔ InReach name ls i w := by
  refine and_congr_right fun _ => ⟨?_, ?_⟩
  · rintro ⟨j, hij, hj, hmention⟩
    obtain ⟨j, rfl⟩ := Nat.exists_eq_add_of_le' (Nat.le_trans (Nat.le_add_left 1 i) hij)
    exact ⟨j, by omega, by omega, hmention⟩
  · rintro ⟨j, hij, hj, hmention⟩
    exact ⟨j + 1, by omega, by omega, hmention⟩

/-- **The first group in reach is found**, if there is one.  The induction is on the lines; a line below
the first has the reach that it has without the first. -/
theorem groupIn?_spec (name : List Char) (path : String) (line : Nat) (ls : List Line) :
    (groupIn? name path line ls = none ∧ ∀ i w, ¬ InReach name ls i w) ∨
      ∃ i w, groupIn? name path line ls = some ⟨String.ofList w, path, line + i⟩ ∧
        InReach name ls i w ∧ ∀ k < i, ∀ v, ¬ InReach name ls k v := by
  induction ls generalizing line with
  | nil => exact .inl ⟨rfl, fun i w h => nomatch h.1⟩
  | cons l ls ih =>
    by_cases hreach : ∃ w, InReach name (l :: ls) 0 w
    · obtain ⟨w, hw⟩ := hreach
      obtain ⟨hgroup, hmention⟩ := inReach_zero.mp hw
      refine .inr ⟨0, w, ?_, hw, fun k hk => absurd hk (Nat.not_lt_zero k)⟩
      rw [groupIn?, hgroup]
      exact if_pos hmention
    · have hskip : groupIn? name path line (l :: ls) = groupIn? name path (line + 1) ls := by
        rw [groupIn?]
        cases hgroup : groupMacro? l with
        | none => rfl
        | some w => exact if_neg fun hmention => hreach ⟨w, inReach_zero.mpr ⟨hgroup, hmention⟩⟩
      have hfirst : ∀ v, ¬ InReach name (l :: ls) 0 v := fun v hv => hreach ⟨v, hv⟩
      rw [hskip]
      rcases ih (line + 1) with ⟨hnone, hreach'⟩ | ⟨i, w, hsome, hw, hbefore⟩
      · refine .inl ⟨hnone, fun i v hv => ?_⟩
        cases i with
        | zero => exact hfirst v hv
        | succ i => exact hreach' i v (inReach_succ.mp hv)
      · refine .inr ⟨i + 1, w, ?_, inReach_succ.mpr hw, fun k hk v hv => ?_⟩
        · rw [hsome, Nat.add_assoc, Nat.add_comm 1 i]
        · cases k with
          | zero => exact hfirst v hv
          | succ k => exact hbefore k (by omega) v (inReach_succ.mp hv)

theorem groupIn?_eq_none_iff {path : String} {line : Nat} :
    groupIn? name path line ls = none ↔ ∀ i w, ¬ InReach name ls i w := by
  rcases groupIn?_spec name path line ls with ⟨hnone, hreach⟩ | ⟨i, w, hsome, hw, -⟩
  · exact ⟨fun _ => hreach, fun _ => hnone⟩
  · rw [hsome]
    exact ⟨nofun, fun h => absurd hw (h i w)⟩

/-- **When the name stands in the list of a group in its reach**: whatever other group is named below,
a mention comes before it. -/
theorem standsInList_iff (h : InReach name ls i w) : StandsInList name ls i w ↔
    ∀ k, i < k → ∀ v, NamedAt ls k v → v ≠ w → ∃ j, i ≤ j ∧ j < k ∧ MentionedAt name ls j := by
  constructor
  · rintro ⟨j, hij, -, hmention, hown⟩ k hik v hv hne
    refine ⟨j, hij, ?_, hmention⟩
    by_contra hkj
    exact hne (hown k hik (Nat.not_lt.mp hkj) v hv)
  · intro hbefore
    obtain ⟨-, m, him, hm, hmention⟩ := h
    -- the first mention from the line of the group on
    have hex : ∃ j, i ≤ j ∧ MentionedAt name ls j := ⟨m, him, hmention⟩
    obtain ⟨j, ⟨hij, hj⟩, hleast⟩ : ∃ j, (i ≤ j ∧ MentionedAt name ls j) ∧
        ∀ k, i ≤ k → k < j → ¬ MentionedAt name ls k :=
      ⟨Nat.find hex, Nat.find_spec hex, fun k hik hk hat => Nat.find_min hex hk ⟨hik, hat⟩⟩
    have hjm : j ≤ m := by
      by_contra hlt
      exact hleast m him (Nat.not_le.mp hlt) hmention
    refine ⟨j, hij, by omega, hj, fun k hik hkj v hv => ?_⟩
    by_contra hne
    obtain ⟨j', hij', hlt, hat⟩ := hbefore k hik v hv hne
    exact hleast j' hij' (by omega) hat

end Reach

/-! ### Groups in some headers -/

section Headers

variable (read : String → Except String String) (root symbol : String)

/-- The paths of some hits whose files can be read, with the lines of the files. -/
def headersAt (hits : List Hit) : List (String × List Line) :=
  hits.filterMap fun h => (read (Path.join root h.path)).toOption.map fun t => (h.path, linesOf t)

theorem typeGroupIn?_eq_findSome? (hits : List Hit) :
    typeGroupIn? (m := Id) read root symbol hits =
      (headersAt read root hits).findSome? fun f => groupIn? symbol.toList f.1 1 f.2 := by
  rw [typeGroupIn?]
  induction hits with
  | nil => rfl
  | cons h hits ih =>
    rw [firstInFiles?]
    dsimp only [bind, pure]
    cases hread : read (Path.join root h.path) with
    | error e =>
      rw [headersAt, List.filterMap_cons_none (by rw [hread]; rfl)]
      exact ih
    | ok t =>
      rw [headersAt, List.filterMap_cons_some (b := (h.path, linesOf t)) (by rw [hread]; rfl),
        List.findSome?_cons]
      dsimp only
      cases groupIn? symbol.toList h.path 1 (linesOf t) with
      | none => exact ih
      | some g => rfl

end Headers

/-- The group `g` is named by line `i` of the header with these lines, and it is the first one in reach:
no line before has a group in reach, nor has any line of an earlier header. -/
structure IsFirstGroup (name : List Char) (headers : List (String × List Line)) (g : TypeGroup)
    (ls : List Line) (i : Nat) (w : List Char) : Prop where
  header : ∃ before after, headers = before ++ (g.path, ls) :: after ∧
    ∀ f ∈ before, ∀ k v, ¬ InReach name f.2 k v
  reach : InReach name ls i w
  first : ∀ k < i, ∀ v, ¬ InReach name ls k v
  macroName : g.macroName = String.ofList w
  line : g.line = i + 1

section FirstGroup

variable {name : List Char} {headers : List (String × List Line)} {g : TypeGroup}

theorem findSome?_groupIn?_eq_some_iff :
    (headers.findSome? fun f => groupIn? name f.1 1 f.2) = some g ↔
      ∃ ls i w, IsFirstGroup name headers g ls i w := by
  rw [List.findSome?_eq_some_iff]
  simp only [groupIn?_eq_none_iff]
  constructor
  · rintro ⟨before, ⟨path, ls⟩, after, rfl, hsome, hbefore⟩
    rcases groupIn?_spec name path 1 ls with ⟨hnone, -⟩ | ⟨i, w, hfound, hw, hfirst⟩
    · exact nomatch hnone.symm.trans hsome
    · obtain rfl := Option.some.inj (hfound.symm.trans hsome)
      exact ⟨ls, i, w, ⟨before, after, rfl, hbefore⟩, hw, hfirst, rfl, Nat.add_comm 1 i⟩
  · rintro ⟨ls, i, w, ⟨before, after, rfl, hbefore⟩, hw, hfirst, hname, hline⟩
    refine ⟨before, (g.path, ls), after, rfl, ?_, hbefore⟩
    rcases groupIn?_spec name g.path 1 ls with ⟨-, hnone⟩ | ⟨j, v, hfound, hv, hfirst'⟩
    · exact absurd hw (hnone i w)
    · obtain rfl : j = i := by
        rcases Nat.lt_trichotomy j i with hlt | heq | hgt
        · exact absurd hv (hfirst j hlt v)
        · exact heq
        · exact absurd hw (hfirst' i hgt w)
      obtain rfl : v = w := Option.some.inj (hv.1.symm.trans hw.1)
      obtain ⟨macroName, path, line⟩ := g
      dsimp only at hname hline hfound ⊢
      rw [hfound, hname, hline, Nat.add_comm 1 j]

end FirstGroup

end CrossReference

open CrossReference

/-- **The first type group in reach is reported.**  For an identifier there is a report, whatever the
search answers and whatever the headers hold.  It names a type group exactly if the name is not too
long for a pattern and some header has a group in reach; and this is the first one, by the order of the
headers and of their lines.  The symbol stands in the list of the group that is reported exactly if a
mention of the symbol comes before every other group that is named below it. -/
theorem typeGroup_is_first_group {symbol : String}
    (hsymbol : checkIdentifier .symbol symbol = .ok ())
    (search : SearchRequest → Except SourceError (List Hit)) (read : String → Except String String)
    (root : String) (s : SearchSettings) :
    let headers := headersAt read root (orEmpty (search (typeGroupsIn s)))
    ∃ x, lookupCrossReference (m := Id) search read root s symbol = .ok x ∧
      (x.typeGroup = none ↔ (Pattern.isAdmitted (mentionPattern symbol) = true →
        ∀ f ∈ headers, ∀ i w, ¬ InReach symbol.toList f.2 i w)) ∧
      ∀ g, (x.typeGroup = some g ↔ Pattern.isAdmitted (mentionPattern symbol) = true ∧
          ∃ ls i w, IsFirstGroup symbol.toList headers g ls i w) ∧
        ∀ ls i w, IsFirstGroup symbol.toList headers g ls i w →
          (StandsInList symbol.toList ls i w ↔ ∀ k, i < k → ∀ v, NamedAt ls k v → v ≠ w →
            ∃ j, i ≤ j ∧ j < k ∧ MentionedAt symbol.toList ls j) := by
  intro headers
  refine ⟨_, lookupCrossReference_eq_reportOf read root search s hsymbol, ?_, fun g => ⟨?_, ?_⟩⟩
  · rw [reportOf, groupOf, typeGroupIn?_eq_findSome?]
    split_ifs with hadmitted
    · simp only [List.findSome?_eq_none_iff, groupIn?_eq_none_iff, hadmitted, true_implies]
      rfl
    · simp [hadmitted]
  · rw [reportOf, groupOf, typeGroupIn?_eq_findSome?, ← findSome?_groupIn?_eq_some_iff]
    split_ifs with hadmitted
    · simp only [hadmitted, true_and]
      rfl
    · simp [hadmitted]
  · intro ls i w hgroup
    exact standsInList_iff hgroup.reach

/-! ### Neighbours -/

/-- A header with two groups, one right below the other. -/
def neighbours : String :=
  "#define EW_INK_ISOLATE_TYPES \\\n  api::Ink\n#define EW_PEN_ISOLATE_TYPES \\\n  api::Pen\n"

/-- A search that finds the header where type groups are looked for, and nothing else. -/
def searchNeighbours (r : SearchRequest) : Except SourceError (List Hit) :=
  if r.pattern = "EW_\\w+_ISOLATE_TYPES" then .ok [⟨"groups.h", 0, ""⟩] else .ok []

/-- The files, of which the header is the only one. -/
def readNeighbours (path : String) : Except String String :=
  if path = "/repo/groups.h" then .ok neighbours else .error "no such file"

theorem headersAt_neighbours :
    headersAt readNeighbours "/repo" (orEmpty (searchNeighbours (typeGroupsIn {}))) =
      [("groups.h", linesOf neighbours)] := by decide +kernel

theorem inReach_neighbours {name : List Char} {j : Nat} (hj : j ≤ groupSpan)
    (hmention : MentionedAt name (linesOf neighbours) j) :
    InReach name (linesOf neighbours) 0 "EW_INK_ISOLATE_TYPES".toList :=
  ⟨by decide +kernel, j, Nat.zero_le j, by omega, hmention⟩

/-- The upper group is the first one in reach of any name that is mentioned. -/
theorem isFirstGroup_neighbours {name : List Char} {j : Nat} (hj : j ≤ groupSpan)
    (hmention : MentionedAt name (linesOf neighbours) j) :
    IsFirstGroup name [("groups.h", linesOf neighbours)]
      ⟨"EW_INK_ISOLATE_TYPES", "groups.h", 1⟩ (linesOf neighbours) 0
      "EW_INK_ISOLATE_TYPES".toList :=
  ⟨⟨[], [], rfl, by simp⟩, inReach_neighbours hj hmention,
    fun k hk => absurd hk (Nat.not_lt_zero k), rfl, rfl⟩

theorem not_namedAt_neighbours {k : Nat} (hk : k = 1 ∨ k = 3) (v : List Char) :
    ¬ NamedAt (linesOf neighbours) k v := by
  rintro ⟨l, hl, hmem, hgroup⟩
  have hnone : (linesOf neighbours)[k]?.any (fun l => (words l).any isGroupMacro) = false := by
    rcases hk with rfl | rfl <;> decide +kernel
  rw [hl, Option.any_some, List.any_eq_false] at hnone
  exact hnone v hmem hgroup

/-- The member of the upper group. -/
theorem typeGroup_is_first_group_ink : checkIdentifier .symbol "Ink" = .ok () ∧
    ∃ x, lookupCrossReference (m := Id) searchNeighbours readNeighbours "/repo" {} "Ink" = .ok x ∧
      x.typeGroup = some ⟨"EW_INK_ISOLATE_TYPES", "groups.h", 1⟩ ∧
      StandsInList "Ink".toList (linesOf neighbours) 0 "EW_INK_ISOLATE_TYPES".toList := by
  have hname : isIdentifier "Ink".toList = true := by decide +kernel
  have hsymbol : checkIdentifier .symbol "Ink" = .ok () := if_pos hname
  have hadmitted := isAdmitted_mentionPattern hname (by decide +kernel)
  have hmention : MentionedAt "Ink".toList (linesOf neighbours) 1 := by decide +kernel
  have hfirst := isFirstGroup_neighbours (by decide) hmention
  obtain ⟨x, hx, -, hgroup⟩ :=
    typeGroup_is_first_group hsymbol searchNeighbours readNeighbours "/repo" {}
  rw [headersAt_neighbours] at hgroup
  obtain ⟨hreported, hlist⟩ := hgroup ⟨"EW_INK_ISOLATE_TYPES", "groups.h", 1⟩
  refine ⟨hsymbol, x, hx, hreported.mpr ⟨hadmitted, _, _, _, hfirst⟩, ?_⟩
  refine (hlist _ _ _ hfirst).mpr fun k hk v hv _ => ⟨1, Nat.zero_le 1, ?_, hmention⟩
  by_contra hle
  obtain rfl : k = 1 := by omega
  exact not_namedAt_neighbours (.inl rfl) v hv

/-- **A member of the lower group is taken for one of the upper group**, although the lower group is
named between the upper one and the member. -/
theorem neighbour_is_reported :
    (∃ x, lookupCrossReference (m := Id) searchNeighbours readNeighbours "/repo" {} "Pen" = .ok x ∧
      x.typeGroup = some ⟨"EW_INK_ISOLATE_TYPES", "groups.h", 1⟩) ∧
    ¬ StandsInList "Pen".toList (linesOf neighbours) 0 "EW_INK_ISOLATE_TYPES".toList ∧
    StandsInList "Pen".toList (linesOf neighbours) 2 "EW_PEN_ISOLATE_TYPES".toList := by
  have hname : isIdentifier "Pen".toList = true := by decide +kernel
  have hsymbol : checkIdentifier .symbol "Pen" = .ok () := if_pos hname
  have hadmitted := isAdmitted_mentionPattern hname (by decide +kernel)
  have hmention : MentionedAt "Pen".toList (linesOf neighbours) 3 := by decide +kernel
  have hnamed : NamedAt (linesOf neighbours) 2 "EW_PEN_ISOLATE_TYPES".toList :=
    ⟨"#define EW_PEN_ISOLATE_TYPES \\".toList, by decide +kernel, by decide +kernel,
      by decide +kernel⟩
  refine ⟨⟨_, lookupCrossReference_eq_reportOf _ _ _ _ hsymbol, ?_⟩, ?_, 3, by decide, by decide,
    hmention, fun k hk hkj v hv => ?_⟩
  · show groupOf readNeighbours "/repo" "Pen" _ = _
    rw [groupOf, if_pos hadmitted, typeGroupIn?_eq_findSome?, findSome?_groupIn?_eq_some_iff]
    exact ⟨_, _, _, headersAt_neighbours ▸ isFirstGroup_neighbours (by decide) hmention⟩
  · rw [standsInList_iff (inReach_neighbours (by decide) hmention)]
    intro hbefore
    obtain ⟨j, -, hj, hat⟩ := hbefore 2 (by decide) _ hnamed (by decide)
    have hnone : ∀ j < 2, ¬ MentionedAt "Pen".toList (linesOf neighbours) j := by decide +kernel
    exact hnone j hj hat
  · obtain rfl : k = 3 := by omega
    exact absurd hv (not_namedAt_neighbours (.inr rfl) v)

end DeclAtlas
