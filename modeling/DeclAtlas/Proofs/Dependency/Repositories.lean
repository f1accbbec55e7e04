import DeclAtlas.Proofs.Dependency.Groups
import DeclAtlas.Proofs.Text.Occurrences
import DeclAtlas.Proofs.Text.Parts

/-!
# One group for each repository

The repository `r` has many names: the apparent `@r`, and canonical ones that have module extensions
before the bare name and version marks after it, as in `@@+http+r` and `@@r+`.  Both are set off by
plus signs, and `Label.repo` takes the last part between plus signs that is not empty.  A bare name
holds no plus sign, so this part is `r` whatever the extensions and however many the marks
(`repo_of_spells`).

A group is the list of the labels with its name, in the order in which they came (`Grouped.snd_eq`).
With one name for all spellings there is one group for them (`spellings_share_group`).
-/

namespace DeclAtlas

open Text

/-! ### Spellings -/

/-- The bare name of a repository. -/
structure RepoName where
  text : List Char
  ne_nil : text ≠ []
  no_plus : '+' ∉ text
  no_slash : '/' ∉ text
  no_at : '@' ∉ text

/-- What stands before the bare name in a canonical one: nothing, or extensions up to a plus sign. -/
structure ExtensionLead where
  text : List Char
  ends : text = [] ∨ text.getLast? = some '+'
  no_slash : '/' ∉ text

namespace RepoName

/-- The apparent name, under which reports group the labels of a repository. -/
def key (r : RepoName) : String := String.ofList ('@' :: r.text)

/-- The labels of a repository, whatever the spelling of its name. -/
inductive Spells (r : RepoName) : String → Prop where
  | apparent (package : List Char) :
    Spells r (String.ofList ('@' :: (r.text ++ '/' :: '/' :: package)))
  | canonical (p : ExtensionLead) (marks : Nat) (package : List Char) :
    Spells r (String.ofList
      ('@' :: '@' :: (p.text ++ (r.text ++ List.replicate marks '+')) ++ '/' :: '/' :: package))

end RepoName

namespace Label

theorem head_append {a : List Char} (ha : '/' ∉ a) (package : List Char) :
    head (a ++ '/' :: '/' :: package) = a := by
  have hcut : cut? ['/', '/'] (a ++ '/' :: '/' :: package) = some (a, package) :=
    cut?_append_cons ha ['/'] package
  rw [head, hcut]

/-- Extensions add parts before the others and touch none of them. -/
theorem exists_pieces_append (p : ExtensionLead) (s : List Char) :
    ∃ before, pieces '+' (p.text ++ s) = before ++ pieces '+' s := by
  rcases p.ends with hnil | hlast
  · exact ⟨[], by rw [hnil, List.nil_append, List.nil_append]⟩
  · obtain ⟨q, hq⟩ := List.getLast?_eq_some_iff.mp hlast
    refine ⟨pieces '+' q, ?_⟩
    rw [hq, List.append_assoc, List.singleton_append, pieces_append_cons]

/-- **The last part that is not empty is the bare name.** -/
theorem find?_pieces_canonical (r : RepoName) (p : ExtensionLead) (k : Nat) :
    (pieces '+' (p.text ++ (r.text ++ List.replicate k '+'))).reverse.find? (!·.isEmpty) =
      some r.text := by
  obtain ⟨before, hbefore⟩ := exists_pieces_append p (r.text ++ List.replicate k '+')
  have hname : (!r.text.isEmpty) = true := by
    simpa using r.ne_nil
  have hmarks : (List.replicate k ([] : List Char)).find? (!·.isEmpty) = none := by
    rw [List.find?_eq_none]
    intro m hm
    rw [List.eq_of_mem_replicate hm]
    decide
  rw [hbefore, pieces_append_replicate r.no_plus, List.reverse_append, List.reverse_cons,
    List.reverse_replicate, List.append_assoc, List.find?_append, hmarks, Option.none_or,
    List.singleton_append]
  exact List.find?_cons_of_pos hname

/-- **Every spelling of a repository comes down to its apparent name.** -/
theorem repo_of_spells {r : RepoName} {l : String} (h : r.Spells l) : repo l = r.key := by
  cases h with
  | apparent package =>
    have hslash : '/' ∉ '@' :: r.text := by
      simp [r.no_slash]
    have hhead : head ('@' :: (r.text ++ '/' :: '/' :: package)) = '@' :: r.text :=
      head_append hslash package
    have hsingle : dropLead? ['@', '@'] ('@' :: r.text) = none := by
      rw [Option.eq_none_iff_forall_ne_some]
      intro seg hseg
      -- a second at sign would belong to the bare name
      obtain ⟨-, hr⟩ := List.cons.inj (dropLead?_eq_some.mp hseg)
      exact r.no_at (hr ▸ List.mem_cons_self)
    simp only [repo, String.toList_ofList, hhead, hsingle]
    rfl
  | canonical p k package =>
    have hslash : '/' ∉ '@' :: '@' :: (p.text ++ (r.text ++ List.replicate k '+')) := by
      simp [p.no_slash, r.no_slash]
    have hdouble : dropLead? ['@', '@'] ('@' :: '@' :: (p.text ++ (r.text ++ List.replicate k '+'))) =
        some (p.text ++ (r.text ++ List.replicate k '+')) := dropLead?_eq_some.mpr rfl
    simp only [repo, String.toList_ofList, head_append hslash, hdouble, find?_pieces_canonical]
    rfl

end Label

/-! ### Groups -/

namespace LabelGroups

/-- Labels split by a name each: every group is the list of all labels of its name in their order, the
names are different and ascend, and every label stands in one group, as often as it was given. -/
structure Splits (name : String → String) (ls : List String) (gs : LabelGroups) : Prop where
  ascending : gs.Pairwise fun g h => g.1 < h.1
  nonempty : ∀ g ∈ gs, g.2 ≠ []
  whole : ∀ g ∈ gs, g.2 = ls.filter fun l => name l = g.1
  one : ∀ l ∈ ls, ∃! g, g ∈ gs ∧ l ∈ g.2
  perm : gs.labels.Perm ls

section Filter

variable {name : String → String} {ls : List String} {gs : LabelGroups} {g : String × List String}

/-- Among the labels of all groups those with the name of a group are its own. -/
theorem filter_labels (hasc : gs.Pairwise fun g h => g.1 < h.1)
    (hnamed : ∀ g ∈ gs, ∀ l ∈ g.2, name l = g.1) (hg : g ∈ gs) :
    gs.labels.filter (fun l => name l = g.1) = g.2 := by
  induction gs with
  | nil => exact absurd hg List.not_mem_nil
  | cons first gs ih =>
    obtain ⟨hfirst, hgs⟩ := List.pairwise_cons.mp hasc
    have hnames : ∀ g ∈ gs, ∀ l ∈ g.2, name l = g.1 := fun g hg =>
      hnamed g (List.mem_cons_of_mem first hg)
    have hown : ∀ l ∈ first.2, name l = first.1 := hnamed first List.mem_cons_self
    rw [labels, List.flatMap_cons, List.filter_append]
    rcases List.mem_cons.mp hg with rfl | hg
    · have hrest : (gs.flatMap Prod.snd).filter (fun l => name l = g.1) = [] := by
        rw [List.filter_eq_nil_iff]
        intro l hl hname
        obtain ⟨h, hh, hlh⟩ := List.mem_flatMap.mp hl
        have hlt := hfirst h hh
        rw [← hnames h hh l hlh, of_decide_eq_true hname] at hlt
        exact String.lt_irrefl _ hlt
      rw [hrest, List.append_nil, List.filter_eq_self]
      intro l hl
      exact decide_eq_true (hown l hl)
    · have hnone : first.2.filter (fun l => name l = g.1) = [] := by
        rw [List.filter_eq_nil_iff]
        intro l hl hname
        have hlt := hfirst g hg
        rw [← hown l hl, of_decide_eq_true hname] at hlt
        exact String.lt_irrefl _ hlt
      rw [hnone, List.nil_append]
      exact ih hgs hnames hg

/-- **A group is the list of the labels of its name.** -/
theorem Grouped.snd_eq (h : Grouped name ls gs) (hperm : gs.labels.Perm ls) (hg : g ∈ gs) :
    g.2 = ls.filter fun l => name l = g.1 := by
  have hsub : g.2.Sublist (ls.filter fun l => name l = g.1) := by
    have hfilter := (h.in_order g hg).filter fun l => name l = g.1
    rwa [List.filter_eq_self.mpr fun l hl => decide_eq_true (h.named g hg l hl)] at hfilter
  have hlength := (hperm.filter fun l => name l = g.1).length_eq
  rw [filter_labels h.ascending h.named hg] at hlength
  exact hsub.eq_of_length hlength

end Filter

theorem splits_groupBy (name : String → String) (ls : List String) :
    Splits name ls (groupBy name ls) := by
  have hgrouped := grouped_groupBy name ls
  have hperm := perm_labels_groupBy name ls
  refine ⟨hgrouped.ascending, hgrouped.nonempty, fun g => hgrouped.snd_eq hperm, ?_, hperm⟩
  intro l hl
  obtain ⟨g, hg, hlg⟩ := List.mem_flatMap.mp (hperm.mem_iff.mpr hl)
  refine ⟨g, ⟨hg, hlg⟩, ?_⟩
  rintro h ⟨hh, hlh⟩
  have hkey : h.1 = g.1 := (hgrouped.named h hh l hlh).symm.trans (hgrouped.named g hg l hlg)
  apply Prod.ext hkey
  rw [hgrouped.snd_eq hperm hh, hgrouped.snd_eq hperm hg, hkey]

end LabelGroups

/-- **All spellings of a repository fall in one group.**  Every label of a repository has its apparent
name as key, whether it is spelled with the apparent or with a canonical name.  Grouping labels by
repository puts each of them in exactly one group, in their order; so the labels of a repository stand
in the group with its apparent name, and in no other. -/
theorem spellings_share_group (r : RepoName) (labels : List String) :
    (∀ l, r.Spells l → Label.repo l = r.key) ∧
    LabelGroups.Splits Label.repo labels (Label.groupByRepo labels) ∧
    ∀ l ∈ labels, r.Spells l → ∀ g ∈ Label.groupByRepo labels, l ∈ g.2 ↔ g.1 = r.key := by
  have hsplits := LabelGroups.splits_groupBy Label.repo labels
  refine ⟨fun l => Label.repo_of_spells, hsplits, ?_⟩
  intro l hl hspells g hg
  have hkey : Label.repo l = r.key := Label.repo_of_spells hspells
  rw [hsplits.whole g hg, List.mem_filter, decide_eq_true_iff, hkey]
  constructor
  · rintro ⟨-, hname⟩
    exact hname.symm
  · intro hname
    exact ⟨hl, hname.symm⟩

/-- The bare name of one repository. -/
def capnpRepo : RepoName where
  text := "capnp-cpp".toList
  ne_nil := by decide
  no_plus := by decide
  no_slash := by decide
  no_at := by decide

/-- The extension that fetches archives. -/
def httpExtension : ExtensionLead where
  text := "+http+".toList
  ends := by decide
  no_slash := by decide

/-- Three spellings between labels of another repository. -/
theorem spellings_share_group_capnp :
    let fetched := "@@+http+capnp-cpp//src/kj:kj"
    let marked := "@@+http+capnp-cpp++//src/kj:async"
    let apparent := "@capnp-cpp//src/capnp:capnp_tool"
    let labels := [fetched, "@ssl//:crypto", apparent, "@@ssl+//:ssl", marked]
    (capnpRepo.Spells fetched ∧ capnpRepo.Spells marked ∧ capnpRepo.Spells apparent) ∧
    Label.groupByRepo labels =
      [("@capnp-cpp", [fetched, apparent, marked]), ("@ssl", ["@ssl//:crypto", "@@ssl+//:ssl"])] ∧
    (∀ g ∈ Label.groupByRepo labels, fetched ∈ g.2 ↔ g.1 = capnpRepo.key) ∧
    (∀ g ∈ Label.groupByRepo labels, marked ∈ g.2 ↔ g.1 = capnpRepo.key) ∧
    ∀ g ∈ Label.groupByRepo labels, apparent ∈ g.2 ↔ g.1 = capnpRepo.key := by
  intro fetched marked apparent labels
  have hfetched : capnpRepo.Spells fetched := .canonical httpExtension 0 "src/kj:kj".toList
  have hmarked : capnpRepo.Spells marked := .canonical httpExtension 2 "src/kj:async".toList
  have happarent : capnpRepo.Spells apparent := .apparent "src/capnp:capnp_tool".toList
  obtain ⟨-, -, hgroup⟩ := spellings_share_group capnpRepo labels
  exact ⟨⟨hfetched, hmarked, happarent⟩, by decide +kernel,
    hgroup fetched (by decide) hfetched, hgroup marked (by decide) hmarked,
    hgroup apparent (by decide) happarent⟩

end DeclAtlas
