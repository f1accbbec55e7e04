import DeclAtlas.Proofs.Interface.CallReading
import Mathlib.Data.List.Perm.Subperm

/-!
# The order of the table of forms

The forms are tried in the order of their table, so the order decides which of them gets a line that
several could claim.  A form claims only lines that have its name as a word, so a line with at most
one such word is claimed by at most one form (`eq_of_claims`), and then every order of the table reads
it alike (`claimWith?_perm`).

Where macros do share a line the order matters: the first form of the table gets the whole line.
-/

namespace DeclAtlas

open Text Nesting

/-! ### Names on a line -/

/-- Whether a word is the name of a form. -/
def isFormName (w : List Char) : Bool := forms.any fun f => f.name.toList == w

/-- How many words of a line are names of forms. -/
def nameCount (l : Line) : Nat := (words l).countP isFormName

theorem nameCount_trim (l : Line) : nameCount (trim l) = nameCount l := by
  rw [nameCount, nameCount, words_trim]

theorem Form.mem_words_of_claim? {f : Form} (hf : f ∈ forms) {l : Line}
    (h : (f.claim? l).isSome = true) : f.name.toList ∈ words l := by
  by_contra hn
  rw [f.claim?_eq_none hf hn] at h
  exact absurd h (by simp)

/-- **A line is claimed by no more forms than it has names of forms.** -/
theorem countP_claims_le (l : Line) :
    (forms.countP fun f => (f.claim? l).isSome) ≤ nameCount l := by
  have hnodup : (((forms.filter fun f => (f.claim? l).isSome).map Form.name).map
      String.toList).Nodup := by
    refine (nodup_forms_name.sublist (List.filter_sublist.map _)).map ?_
    exact fun a b h => String.toList_inj.mp h
  have hnames : ((forms.filter fun f => (f.claim? l).isSome).map Form.name).map String.toList ⊆
      (words l).filter isFormName := by
    intro w hw
    rw [List.map_map] at hw
    obtain ⟨f, hf, rfl⟩ := List.mem_map.mp hw
    obtain ⟨hmem, hclaim⟩ := List.mem_filter.mp hf
    refine List.mem_filter.mpr ⟨f.mem_words_of_claim? hmem hclaim, ?_⟩
    exact List.any_eq_true.mpr ⟨f, hmem, beq_self_eq_true _⟩
  have hlength := (List.subperm_of_subset hnodup hnames).length_le
  rw [List.length_map, List.length_map] at hlength
  rwa [List.countP_eq_length_filter, nameCount, List.countP_eq_length_filter]

/-- Two forms that claim a line with one name at most are the same. -/
theorem eq_of_claims {l : Line} (hone : nameCount l ≤ 1) {f g : Form} (hf : f ∈ forms)
    (hg : g ∈ forms) (hfl : (f.claim? l).isSome = true) (hgl : (g.claim? l).isSome = true) :
    f = g := by
  have hle := Nat.le_trans (countP_claims_le l) hone
  have hfmem : f ∈ forms.filter fun f => (f.claim? l).isSome := List.mem_filter.mpr ⟨hf, hfl⟩
  have hgmem : g ∈ forms.filter fun f => (f.claim? l).isSome := List.mem_filter.mpr ⟨hg, hgl⟩
  rw [List.countP_eq_length_filter] at hle
  match h : forms.filter fun f => (f.claim? l).isSome with
  | [] =>
    rw [h] at hfmem
    exact absurd hfmem (by simp)
  | [c] =>
    rw [h, List.mem_singleton] at hfmem hgmem
    exact hfmem.trans hgmem.symm
  | c :: d :: rest =>
    rw [h] at hle
    exact absurd hle (by simp)

/-! ### Tables in another order -/

/-- Where all that answers answers alike, the order of asking does not matter. -/
theorem findSome?_of_perm {α β : Type} {f : α → Option β} {as bs : List α} (h : as.Perm bs)
    (hone : ∀ a ∈ as, ∀ b ∈ as, ∀ x y, f a = some x → f b = some y → x = y) :
    as.findSome? f = bs.findSome? f := by
  cases has : as.findSome? f with
  | none =>
    have hnone := List.findSome?_eq_none_iff.mp has
    exact (List.findSome?_eq_none_iff.mpr fun b hb => hnone b (h.mem_iff.mpr hb)).symm
  | some x =>
    obtain ⟨a, ha, hx⟩ := List.exists_of_findSome?_eq_some has
    cases hbs : bs.findSome? f with
    | none =>
      rw [List.findSome?_eq_none_iff.mp hbs a (h.mem_iff.mp ha)] at hx
      exact absurd hx (by simp)
    | some y =>
      obtain ⟨b, hb, hy⟩ := List.exists_of_findSome?_eq_some hbs
      rw [hone a ha b (h.mem_iff.mpr hb) x y hx hy]

theorem claimWith?_perm {table : List Form} (h : table.Perm forms) {l : Line}
    (hone : nameCount l ≤ 1) : claimWith? table l = claimWith? forms l := by
  refine findSome?_of_perm h fun f hf g hg x y hx hy => ?_
  have hfl := Option.isSome_iff_exists.mpr ⟨x, hx⟩
  have hgl := Option.isSome_iff_exists.mpr ⟨y, hy⟩
  obtain rfl := eq_of_claims hone (h.mem_iff.mp hf) (h.mem_iff.mp hg) hfl hgl
  exact Option.some.inj (hx.symm.trans hy)

theorem entryWith?_perm {table : List Form} (h : table.Perm forms) {l : Line}
    (hone : nameCount l ≤ 1) (later : List Line) :
    entryWith? table l later = entryWith? forms l later := by
  rw [← nameCount_trim] at hone
  rw [entryWith?, entryWith?, claimWith?_perm h hone]

/-- **The order of the table does not matter where macros do not share a line.**  Each line with one
name at most is claimed by one form at most, and a block of such lines makes the same of an interface
under every order of the forms. -/
theorem register_of_perm {block : List Line} (hone : ∀ l ∈ block, nameCount l ≤ 1) :
    (∀ l ∈ block, (forms.countP fun f => (f.claim? (trim l)).isSome) ≤ 1) ∧
    ∀ table : List Form, table.Perm forms → ∀ i : Interface,
      i.addAll (entriesWith table block) = i.register block := by
  constructor
  · intro l hl
    have hl := hone l hl
    rw [← nameCount_trim] at hl
    exact Nat.le_trans (countP_claims_le (trim l)) hl
  · intro table htable i
    have hentries : entriesWith table block = entries block :=
      readForms_congr (fun l hl later => entryWith?_perm htable (hone l hl) later) _ _
    rw [hentries, Interface.register]

/-- A block with a method whose names hold those of two further forms, read by the reversed table. -/
theorem register_of_perm_reverse :
    let block := [" JSG_METHOD_NAMED(JSG_METHODS, xJSG_METHOD);".toList,
      " JSG_TS_OVERRIDE(T \x7b".toList, " \x7d);".toList]
    ((∀ l ∈ block, nameCount l ≤ 1) ∧ forms.reverse.Perm forms) ∧
    (∀ l ∈ block, (forms.countP fun f => (f.claim? (trim l)).isSome) ≤ 1) ∧
    (Interface.empty "T" .valueStruct).addAll (entriesWith forms.reverse block) =
      (Interface.empty "T" .valueStruct).register block ∧
    ((Interface.empty "T" .valueStruct).register block).methods =
      [⟨"JSG_METHODS", "xJSG_METHOD", false⟩] := by
  intro block
  have hone : ∀ l ∈ block, nameCount l ≤ 1 := by decide +kernel
  have hperm : forms.reverse.Perm forms := List.reverse_perm forms
  obtain ⟨hclaims, htable⟩ := register_of_perm hone
  exact ⟨⟨hone, hperm⟩, hclaims, htable forms.reverse hperm _, by decide +kernel⟩

-- two macros on one line
example :
    let block := ["JSG_METHOD(f); JSG_CALLABLE(g);".toList]
    ((Interface.empty "T" .valueStruct).register block).callableVia = none ∧
    ((Interface.empty "T" .valueStruct).addAll (entriesWith forms.reverse block)).callableVia =
      some "g" := by
  decide +kernel

end DeclAtlas
