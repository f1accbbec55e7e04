import DeclAtlas.Compat.Flag
import DeclAtlas.Proofs.Schema.FieldOrder
import DeclAtlas.Proofs.Text.Reading

/-!
# Boolean fields are flags

Flags are read off the same lines as the fields of records, but line by line and with a wider bound
on ordinals.  A line on which a record finds a field of type `Bool` is read as a flag of the same name
and ordinal (`exists_flag?_of_field?`), so the flags of a schema hold all boolean fields of each of
its records, in order (`boolean_fields_sublist_flags`).

The converse fails: a type that only begins with the word, such as `BoolList`, makes a flag too, and
so does a line outside all records.
-/

namespace DeclAtlas.Compat

open Text Schema

/-! ### One line -/

theorem asciiNatBelow?_mono {a b : Nat} (hle : a ≤ b) {s : List Char} {n : Nat}
    (h : asciiNatBelow? a s = some n) : asciiNatBelow? b s = some n := by
  rw [asciiNatBelow?, Option.filter_eq_some_iff] at h ⊢
  exact ⟨h.1, decide_eq_true (Nat.lt_of_lt_of_le (of_decide_eq_true h.2) hle)⟩

theorem prefix_dropEndWhile (p : Char → Bool) (s : List Char) : dropEndWhile p s <+: s := by
  rw [dropEndWhile, ← List.reverse_suffix, List.reverse_reverse]
  exact List.dropWhile_suffix p

/-- **A boolean field is a flag.** -/
theorem exists_flag?_of_field? {l : Line} {f : Field} (h : field? l = some f)
    (htype : f.type = "Bool") :
    ∃ g, flag? l = some g ∧ g.fieldName = f.name ∧ g.ordinal = f.ordinal := by
  simp only [field?, Option.bind_eq_bind, Option.bind_eq_some_iff, Option.some.injEq] at h
  obtain ⟨⟨⟨name, digits⟩, s⟩, hhead, ⟨type, rest⟩, hrun, n, hn, rfl⟩ := h
  have hbool : "Bool".toList <+: s := by
    have hdrop : "Bool".toList <+: type := by
      rw [← htype, String.toList_ofList]
      exact prefix_dropEndWhile _ type
    exact hdrop.trans ⟨rest, (run?_eq_some hrun).1.symm⟩
  obtain ⟨t, ht⟩ := hbool
  have hliteral : literal? "Bool" s = some t := literal?_eq_some.mpr ht.symm
  have hordinal : asciiNatBelow? flagOrdinalBound digits = some n :=
    asciiNatBelow?_mono (by decide) hn
  simp only [flag?, Option.bind_eq_bind, hhead, Option.bind_some, hliteral, hordinal,
    Option.some.injEq, exists_eq_left', and_self]

/-! ### Lines -/

/-- **The flags of some lines hold their boolean fields.** -/
theorem sublist_filterMap_flag? (ls : List Line) :
    (((ls.filterMap field?).filter (·.type == "Bool")).map fun f => (f.name, f.ordinal)).Sublist
      ((ls.filterMap flag?).map fun g => (g.fieldName, g.ordinal)) := by
  induction ls with
  | nil => exact List.Sublist.refl _
  | cons l ls ih =>
    have hflags : ((ls.filterMap flag?).map fun g => (g.fieldName, g.ordinal)).Sublist
        (((l :: ls).filterMap flag?).map fun g => (g.fieldName, g.ordinal)) :=
      ((List.sublist_cons_self l ls).filterMap flag?).map _
    cases hl : field? l with
    | none =>
      rw [List.filterMap_cons_none hl]
      exact ih.trans hflags
    | some f =>
      rw [List.filterMap_cons_some hl]
      cases htype : f.type == "Bool" with
      | false =>
        rw [List.filter_cons_of_neg (by simp [htype])]
        exact ih.trans hflags
      | true =>
        obtain ⟨g, hg, hname, hordinal⟩ := exists_flag?_of_field? hl (beq_iff_eq.mp htype)
        have hkept : (f :: ls.filterMap field?).filter (·.type == "Bool") =
            f :: (ls.filterMap field?).filter (·.type == "Bool") := List.filter_cons_of_pos htype
        rw [hkept, List.filterMap_cons_some hg, List.map_cons, List.map_cons, hname, hordinal]
        exact ih.cons_cons _

/-- **The flags of a schema hold the boolean fields of each record**, in order. -/
theorem boolean_fields_sublist_flags (text : String) (r : Record) (hr : r ∈ parse text) :
    ((r.fields.filter (·.type == "Bool")).map fun f => (f.name, f.ordinal)).Sublist
      ((flags text).map fun g => (g.fieldName, g.ordinal)) := by
  have hfields := (fields_sublist_of_mem_parse hr).filter (·.type == "Bool")
  exact (hfields.map _).trans (sublist_filterMap_flag? (linesOf text))

/-- A record that goes on behind a nested one, with a field of another type and a flag that is no
field. -/
theorem boolean_fields_sublist_flags_nested :
    let text := "struct A @0x1 \x7b\n  x @1 :Bool;\n  struct B @0x2 \x7b\n    y @0 :Bool,;\n  \x7d\n" ++
      "  n @2 :Text;\n  z @0 :Bool $a(1);\n  wide @70000 :Bool;\n\x7d\n"
    ∃ a ∈ parse text, a.name = "A" ∧
      (a.fields.filter (·.type == "Bool")).map (fun f => (f.name, f.ordinal)) =
        [("x", 1), ("z", 0)] ∧
      ((a.fields.filter (·.type == "Bool")).map fun f => (f.name, f.ordinal)).Sublist
        ((flags text).map fun g => (g.fieldName, g.ordinal)) := by
  intro text
  have hread : ∃ a ∈ parse text, a.name = "A" ∧
      (a.fields.filter (·.type == "Bool")).map (fun f => (f.name, f.ordinal)) =
        [("x", 1), ("z", 0)] := by
    decide +kernel
  obtain ⟨a, ha, hname, hfields⟩ := hread
  exact ⟨a, ha, hname, hfields, boolean_fields_sublist_flags text a ha⟩

end DeclAtlas.Compat
