import DeclAtlas.Proofs.Interface.Cuts
import DeclAtlas.Proofs.Interface.Growth

/-!
# What the lines of a block are claimed for

A line of a block says something if the reading comes to it and some form claims it (`Claimed`).  What
it says is an entry of one kind, and the kind is known from the form alone (`Form.kind_of_makes`).  So
the entries of a block and its claimed lines are of the same kinds (`exists_kind_eq_of_mem_entries`,
`Claimed.exists_mem_entries`).
-/

namespace DeclAtlas

open Text Nesting

/-! ### Lines that are read -/

/-- What is read of a block is read on a line that the reading comes to. -/
theorem Nesting.exists_reaches_of_mem_readForms {α : Type}
    {read? : Line → List Line → Option (α × Nat)} {a : α} {ls : List Line}
    (ha : a ∈ readForms read? ls.length 0 ls) :
    ∃ as n l later extra, Reaches read? ls as n ∧ ls.drop n = l :: later ∧
      read? l later = some (a, extra) := by
  induction hm : ls.length using Nat.strong_induction_on generalizing ls with
  | _ m ih =>
    subst hm
    cases ls with
    | nil => exact absurd ha List.not_mem_nil
    | cons l later =>
      rw [List.length_cons, readForms] at ha
      cases hread : read? l later with
      | none =>
        rw [hread] at ha
        obtain ⟨as, n, l', later', extra, hreach, hdrop, hl'⟩ :=
          ih later.length (Nat.lt_succ_self _) ha rfl
        exact ⟨as, n + 1, l', later', extra, .pass hread hreach, hdrop, hl'⟩
      | some x =>
        obtain ⟨a', taken⟩ := x
        rw [hread] at ha
        rcases List.mem_cons.mp ha with rfl | ha
        · exact ⟨[], 0, l, later, taken, .start _, rfl, hread⟩
        · -- the lines behind those that are taken are a block of their own
          rw [readForms_taken, ← List.length_drop] at ha
          obtain ⟨as, n, l', later', extra, hreach, hdrop, hl'⟩ :=
            ih (later.drop taken).length (by rw [List.length_drop, List.length_cons]; omega) ha rfl
          refine ⟨a' :: as, taken + n + 1, l', later', extra, .form hread hreach, ?_, hl'⟩
          rw [List.drop_succ_cons, ← List.drop_drop, hdrop]

/-! ### What a claim gives -/

/-- What a claim on the first of some lines gives, and how many further lines it takes. -/
def Claim.read : Claim → List Line → Entry × Nat
  | .entry e, _ => (e, 0)
  | .spanning kind, ls => (.docOverride (gatherOverride kind ls).1, (gatherOverride kind ls).2)

theorem Claim.kind_read (x : Claim) (ls : List Line) : (x.read ls).1.kind = x.kind := by
  cases x <;> rfl

/-! ### Claimed lines -/

/-- The form that claims a line, unless the line is passed over. -/
def formOn? (l : Line) : Option Form :=
  if isSkippable (trim l) then none else claimant? (trim l)

/-- The reading of a block comes to its line `n`, and the form claims the line. -/
structure Claimed (block : List Line) (n : Nat) (l : Line) (f : Form) : Prop where
  reached : ∃ es, Reaches (entryWith? forms) block es n
  line : block[n]? = some l
  form : formOn? l = some f

theorem mem_forms_of_formOn? {l : Line} {f : Form} (h : formOn? l = some f) : f ∈ forms := by
  unfold formOn? at h
  split at h
  · exact nomatch h
  · exact List.mem_of_find?_eq_some h

theorem isSome_claim?_of_formOn? {l : Line} {f : Form} (h : formOn? l = some f) :
    (f.claim? (trim l)).isSome = true := by
  unfold formOn? at h
  split at h
  · exact nomatch h
  · have hsome := List.find?_some h
    exact hsome

/-- What is read on a line is what the form that claims it gives. -/
theorem entryWith?_eq_bind_formOn? (l : Line) (later : List Line) : entryWith? forms l later =
    (formOn? l).bind fun f => (f.claim? (trim l)).map fun x => x.read (l :: later) := by
  unfold entryWith? formOn?
  split
  · rfl
  · rw [claimWith?_eq_bind_claimant?]
    cases claimant? (trim l) with
    | none => rfl
    | some f =>
      rw [Option.bind_some, Option.bind_some]
      cases f.claim? (trim l) with
      | none => rfl
      | some x => cases x <;> rfl

section Claimed

variable {block : List Line} {n : Nat} {l : Line} {f : Form} {e : Entry}

theorem Claimed.mem_forms (h : Claimed block n l f) : f ∈ forms := mem_forms_of_formOn? h.form

theorem Claimed.exists_claim? (h : Claimed block n l f) : ∃ x, f.claim? (trim l) = some x :=
  Option.isSome_iff_exists.mp (isSome_claim?_of_formOn? h.form)

theorem Claimed.kind_read (h : Claimed block n l f) {x : Claim} (hx : f.claim? (trim l) = some x)
    (ls : List Line) : (x.read ls).1.kind = f.kind := by
  rw [x.kind_read, Form.kind_of_makes h.mem_forms (Form.makes_of_claim? hx)]

/-- **An entry comes from a line that is claimed for it.** -/
theorem exists_claimed_of_mem_entries (he : e ∈ entries block) :
    ∃ n l f x later, Claimed block n l f ∧ block.drop n = l :: later ∧
      f.claim? (trim l) = some x ∧ (x.read (l :: later)).1 = e := by
  obtain ⟨es, n, l, later, extra, hreach, hdrop, hread⟩ := exists_reaches_of_mem_readForms he
  rw [entryWith?_eq_bind_formOn?] at hread
  obtain ⟨f, hf, hclaim⟩ := Option.bind_eq_some_iff.mp hread
  obtain ⟨x, hx, hxread⟩ := Option.map_eq_some_iff.mp hclaim
  have hline : block[n]? = some l := by
    rw [← List.head?_drop, hdrop]
    rfl
  exact ⟨n, l, f, x, later, ⟨⟨es, hreach⟩, hline, hf⟩, hdrop, hx, by rw [hxread]⟩

/-- An entry that is no override is what the form of its line makes of the line. -/
theorem exists_claim?_of_mem_entries (he : e ∈ entries block) (hkind : e.kind ≠ .docOverride) :
    ∃ n l f, Claimed block n l f ∧ f.claim? (trim l) = some (.entry e) := by
  obtain ⟨n, l, f, x, later, hclaimed, -, hx, rfl⟩ := exists_claimed_of_mem_entries he
  cases x with
  | entry e => exact ⟨n, l, f, hclaimed, hx⟩
  | spanning kind => exact absurd rfl hkind

/-- The kinds of the entries are those that lines are claimed for. -/
theorem exists_kind_eq_of_mem_entries (he : e ∈ entries block) :
    ∃ n l f, Claimed block n l f ∧ e.kind = f.kind := by
  obtain ⟨n, l, f, x, later, hclaimed, -, hx, rfl⟩ := exists_claimed_of_mem_entries he
  exact ⟨n, l, f, hclaimed, hclaimed.kind_read hx _⟩

/-- **A claimed line gives an entry of its kind.** -/
theorem Claimed.exists_mem_entries (h : Claimed block n l f) :
    ∃ e ∈ entries block, e.kind = f.kind := by
  obtain ⟨es, hreach⟩ := h.reached
  obtain ⟨hn, rfl⟩ := List.getElem?_eq_some_iff.mp h.line
  obtain ⟨x, hx⟩ := h.exists_claim?
  let y := x.read (block[n] :: block.drop (n + 1))
  have hread : entryWith? forms block[n] (block.drop (n + 1)) = some y := by
    rw [entryWith?_eq_bind_formOn?, h.form, Option.bind_some, hx, Option.map_some]
  have hfirst : Reaches (entryWith? forms) (block.drop n) [y.1] (y.2 + 0 + 1) := by
    rw [List.drop_eq_getElem_cons hn]
    exact .form hread (.start _)
  refine ⟨y.1, ?_, h.kind_read hx _⟩
  rw [hreach.entries_eq, hfirst.entries_eq]
  exact List.mem_append_right es List.mem_cons_self

end Claimed

end DeclAtlas
