import DeclAtlas.Dependency.Reference
import DeclAtlas.Proofs.Text.Parts
import DeclAtlas.Proofs.Text.Slices

/-!
# Qualifiers of references

A reference is split behind the first qualifier that it begins with, in any letter case.  This file
says so without the reader (`IsFirstQualifier`) and compares the reader with one that goes by bytes
(`parseSliced?`): that one takes the slice of a text that is as long as the qualifier, compares it with
the qualifier byte by byte, and then takes the rest of the text from there on.  The slice need not be
a text, and then the text does not begin with the qualifier; but the rest is only taken where a slice
was found, so that no character is ever cut (`parse_splits_qualifier`).
-/

namespace DeclAtlas.Reference

open Text

variable {t : ResolverSettings} {p : String} {e : Ecosystem} {w s rest : List Char}

/-! ### Beginning with a qualifier -/

/-- A text begins with a qualifier, up to the case of ASCII letters. -/
def BeginsWith (p : String) (s : List Char) : Prop :=
  ∃ spelled rest, s = spelled ++ rest ∧ SameLetters spelled p.toList

theorem dropQualifier?_eq_some_iff :
    dropQualifier? w s = some rest ↔ ∃ spelled, s = spelled ++ rest ∧ SameLetters spelled w := by
  induction w generalizing s with
  | nil =>
    simp only [dropQualifier?, SameLetters, List.map_nil, List.map_eq_nil_iff, Option.some.injEq]
    constructor
    · rintro rfl
      exact ⟨[], rfl, rfl⟩
    · rintro ⟨spelled, rfl, rfl⟩
      rfl
  | cons a w ih =>
    cases s with
    | nil =>
      constructor
      · intro h
        cases h
      · rintro ⟨spelled, h, hsame⟩
        obtain ⟨rfl, -⟩ := List.append_eq_nil_iff.mp h.symm
        cases hsame
    | cons b s =>
      rw [dropQualifier?]
      constructor
      · intro h
        by_cases hab : a.toLower = b.toLower
        · rw [if_pos hab] at h
          obtain ⟨spelled, rfl, hsame⟩ := ih.mp h
          refine ⟨b :: spelled, rfl, ?_⟩
          rw [SameLetters, List.map_cons, List.map_cons, hab, hsame]
        · rw [if_neg hab] at h
          cases h
      · rintro ⟨spelled, h, hsame⟩
        cases spelled with
        | nil => cases hsame
        | cons c spelled =>
          obtain ⟨rfl, rfl⟩ := List.cons.inj h
          obtain ⟨hab, htail⟩ := List.cons.inj hsame
          rw [if_pos hab.symm]
          exact ih.mpr ⟨spelled, rfl, htail⟩

theorem beginsWith_iff : BeginsWith p s ↔ ∃ rest, dropQualifier? p.toList s = some rest := by
  simp only [dropQualifier?_eq_some_iff]
  exact exists_comm

theorem dropQualifier?_eq_none_iff : dropQualifier? p.toList s = none ↔ ¬ BeginsWith p s := by
  rw [beginsWith_iff, ← Option.isSome_iff_exists, Option.not_isSome_iff_eq_none]

/-! ### The reading by slices -/

/-- Whether the slice of a text that is as long as the qualifier is the qualifier, up to the case of
ASCII letters. -/
def leads (p s : String) : Bool := (sliceTo? p.utf8ByteSize s).any fun head => sameBytes head p

/-- The reference that a user's text stands for, read by slices; none if a character would be cut. -/
def parseSliced? (t : ResolverSettings) (input : String) : Option Reference :=
  let s := trimString input
  match (qualifiers t).find? fun q => leads q.1 s with
  | none => some ⟨none, s⟩
  | some (p, e) => (sliceFrom? p.utf8ByteSize s).map fun rest =>
      ⟨some e, String.ofList (trimStart rest.toList)⟩

/-- **A text is cut behind the qualifier that it begins with.** -/
theorem cutAt?_of_sameLetters {s : String} {spelled : List Char} (hs : s.toList = spelled ++ rest)
    (hsame : SameLetters spelled p.toList) :
    cutAt? p.utf8ByteSize s = some (String.ofList spelled, String.ofList rest) := by
  have hsame' : SameLetters (String.ofList spelled).toList p.toList := by
    rwa [String.toList_ofList]
  refine cutAt?_eq_some_iff.mpr ⟨?_, hsame'.utf8ByteSize_eq.symm⟩
  rw [← String.ofList_append, ← hs, String.ofList_toList]

theorem leads_iff {s : String} : leads p s = true ↔ BeginsWith p s.toList := by
  rw [leads, sliceTo?, Option.any_map, Option.any_eq_true]
  constructor
  · rintro ⟨⟨head, rest⟩, hcut, hsame⟩
    obtain ⟨rfl, -⟩ := cutAt?_eq_some_iff.mp hcut
    exact ⟨head.toList, rest.toList, String.toList_append, sameBytes_iff.mp hsame⟩
  · rintro ⟨spelled, rest, hs, hsame⟩
    refine ⟨_, cutAt?_of_sameLetters hs hsame, sameBytes_iff.mpr ?_⟩
    rwa [String.toList_ofList]

/-! ### The first qualifier -/

/-- The first of the prefixes that a text begins with, those of Rust before those of C++. -/
def IsFirstQualifier (t : ResolverSettings) (s : List Char) (p : String) (e : Ecosystem) : Prop :=
  ∃ before after, t.rustPrefixes.map (·, Ecosystem.rust) ++ t.cppPrefixes.map (·, Ecosystem.cpp) =
    before ++ (p, e) :: after ∧ BeginsWith p s ∧ ∀ q ∈ before, ¬ BeginsWith q.1 s

theorem exists_isFirstQualifier (h : ∃ q ∈ qualifiers t, BeginsWith q.1 s) :
    ∃ p e, IsFirstQualifier t s p e := by
  classical
  obtain ⟨q, hq, hbegins⟩ := h
  have hsome : ((qualifiers t).find? fun q => decide (BeginsWith q.1 s)).isSome = true :=
    List.find?_isSome.mpr ⟨q, hq, decide_eq_true hbegins⟩
  obtain ⟨⟨p, e⟩, hfound⟩ := Option.isSome_iff_exists.mp hsome
  obtain ⟨hp, before, after, hlist, hbefore⟩ := List.find?_eq_some_iff_append.mp hfound
  refine ⟨p, e, before, after, hlist, of_decide_eq_true hp, fun q hq => ?_⟩
  have hnot := hbefore q hq
  rwa [Bool.not_eq_true', decide_eq_false_iff_not] at hnot

section Parse

variable {input : String}

/-- A text with a first qualifier is read behind it. -/
theorem exists_parse_eq (h : IsFirstQualifier t (trim input.toList) p e) :
    ∃ spelled rest, trim input.toList = spelled ++ rest ∧ SameLetters spelled p.toList ∧
      parse t input = ⟨some e, String.ofList (trimStart rest)⟩ := by
  obtain ⟨before, after, hlist, ⟨spelled, rest, hs, hsame⟩, hbefore⟩ := h
  have hrest : dropQualifier? p.toList (trim input.toList) = some rest :=
    dropQualifier?_eq_some_iff.mpr ⟨spelled, hs, hsame⟩
  have hfound : (qualifiers t).findSome? (fun q =>
      (dropQualifier? q.1.toList (trim input.toList)).map fun rest =>
        (⟨some q.2, String.ofList (trimStart rest)⟩ : Reference)) =
      some ⟨some e, String.ofList (trimStart rest)⟩ := by
    refine List.findSome?_eq_some_iff.mpr ⟨before, (p, e), after, hlist, ?_, fun q hq => ?_⟩
    · rw [hrest, Option.map_some]
    · rw [dropQualifier?_eq_none_iff.mpr (hbefore q hq), Option.map_none]
  exact ⟨spelled, rest, hs, hsame, by rw [parse, hfound, Option.getD_some]⟩

/-- A text without a qualifier is read as a whole. -/
theorem parse_of_not_beginsWith (h : ∀ q ∈ qualifiers t, ¬ BeginsWith q.1 (trim input.toList)) :
    parse t input = ⟨none, String.ofList (trim input.toList)⟩ := by
  rw [parse, List.findSome?_eq_none_iff.mpr, Option.getD_none]
  intro q hq
  rw [dropQualifier?_eq_none_iff.mpr (h q hq), Option.map_none]

/-- **Reading by slices cuts no character**, and reads the same. -/
theorem parseSliced?_eq (t : ResolverSettings) (input : String) :
    parseSliced? t input = some (parse t input) := by
  have htrim : (trimString input).toList = trim input.toList := String.toList_ofList
  rw [parseSliced?]
  by_cases hbegins : ∃ q ∈ qualifiers t, BeginsWith q.1 (trim input.toList)
  · obtain ⟨p, e, hfirst⟩ := exists_isFirstQualifier hbegins
    obtain ⟨spelled, rest, hs, hsame, hparse⟩ := exists_parse_eq hfirst
    obtain ⟨before, after, hlist, hp, hbefore⟩ := hfirst
    have hfound : (qualifiers t).find? (fun q => leads q.1 (trimString input)) = some (p, e) := by
      refine List.find?_eq_some_iff_append.mpr ⟨?_, before, after, hlist, fun q hq => ?_⟩
      · rwa [leads_iff, htrim]
      · rw [Bool.not_eq_true', Bool.eq_false_iff, Ne, leads_iff, htrim]
        exact hbefore q hq
    have hcut := cutAt?_of_sameLetters (htrim.trans hs) hsame
    rw [hfound, hparse]
    dsimp only
    rw [sliceFrom?, hcut, Option.map_some, Option.map_some, String.toList_ofList]
  · have hnone : ∀ q ∈ qualifiers t, ¬ BeginsWith q.1 (trim input.toList) := fun q hq hp =>
      hbegins ⟨q, hq, hp⟩
    have hfound : (qualifiers t).find? (fun q => leads q.1 (trimString input)) = none := by
      refine List.find?_eq_none.mpr fun q hq => ?_
      rw [leads_iff, htrim]
      exact hnone q hq
    rw [hfound, parse_of_not_beginsWith hnone]
    rfl

theorem fst_mem_of_mem_qualifiers {q : String × Ecosystem} (h : q ∈ qualifiers t) :
    q.1 ∈ t.rustPrefixes ++ t.cppPrefixes := by
  rw [qualifiers, List.mem_append, List.mem_map, List.mem_map] at h
  rw [List.mem_append]
  rcases h with ⟨p, hp, rfl⟩ | ⟨p, hp, rfl⟩
  · exact .inl hp
  · exact .inr hp

/-- **A reference is split behind its first qualifier.**  Reading it by slices never cuts a
character.  It is bound to an ecosystem exactly if the trimmed text begins with a prefix of it, in any
letter case, and with no prefix before that one, those of Rust standing before those of C++; then the
text is the prefix as it is spelled there, white space and the name.  A text that begins with none of
the prefixes is a name as a whole. -/
theorem parse_splits_qualifier (t : ResolverSettings) (input : String) :
    parseSliced? t input = some (parse t input) ∧
    (∀ e, (parse t input).ecosystem = some e ↔
      ∃ p, IsFirstQualifier t (trim input.toList) p e) ∧
    (∀ p e, IsFirstQualifier t (trim input.toList) p e →
      ∃ (spelled : List Char) (b : Blanks), SameLetters spelled p.toList ∧
        trim input.toList = spelled ++ (b.text ++ (parse t input).name.toList) ∧
        ∀ c ∈ (parse t input).name.toList.head?, isBlank c = false) ∧
    ((∀ p ∈ t.rustPrefixes ++ t.cppPrefixes, ¬ BeginsWith p (trim input.toList)) →
      parse t input = ⟨none, String.ofList (trim input.toList)⟩) := by
  refine ⟨parseSliced?_eq t input, fun e => ⟨fun he => ?_, ?_⟩, fun p e hfirst => ?_,
    fun hnone => parse_of_not_beginsWith fun q hq hp => ?_⟩
  · by_cases hbegins : ∃ q ∈ qualifiers t, BeginsWith q.1 (trim input.toList)
    · obtain ⟨p, e', hfirst⟩ := exists_isFirstQualifier hbegins
      obtain ⟨_, _, _, _, hparse⟩ := exists_parse_eq hfirst
      rw [hparse] at he
      obtain rfl := Option.some.inj he
      exact ⟨p, hfirst⟩
    · rw [parse_of_not_beginsWith fun q hq hp => hbegins ⟨q, hq, hp⟩] at he
      exact nomatch he
  · rintro ⟨p, hfirst⟩
    obtain ⟨_, _, _, _, hparse⟩ := exists_parse_eq hfirst
    rw [hparse]
  · obtain ⟨spelled, rest, hs, hsame, hparse⟩ := exists_parse_eq hfirst
    obtain ⟨b, hb⟩ := exists_blanks_trimStart rest
    rw [hparse, String.toList_ofList]
    exact ⟨spelled, b, hsame, by rw [← hb, hs], fun c hc => head_trimStart hc⟩
  · exact hnone q.1 (fst_mem_of_mem_qualifiers hq) hp

/-- A prefix whose length falls inside a character of the text, one that only its last character
tells from the text, and one that the text spells in another case. -/
theorem parse_splits_qualifier_accent :
    let t : ResolverSettings := { rustPrefixes := ["c:", "c\u00E9;"], cppPrefixes := ["C\u00E9:", ""] }
    let input := " c\u00E9:\u3000lib "
    cutAt? "c:".utf8ByteSize (trimString input) = none ∧
      parseSliced? t input = some ⟨some .cpp, "lib"⟩ ∧
      IsFirstQualifier t (trim input.toList) "C\u00E9:" .cpp ∧
      ∃ (spelled : List Char) (b : Blanks), SameLetters spelled "C\u00E9:".toList ∧
        trim input.toList = spelled ++ (b.text ++ "lib".toList) := by
  intro t input
  have hread : parse t input = ⟨some .cpp, "lib"⟩ := by decide +kernel
  have hfirst : IsFirstQualifier t (trim input.toList) "C\u00E9:" .cpp := by
    refine ⟨[("c:", .rust), ("c\u00E9;", .rust)], [("", .cpp)], rfl, ?_, ?_⟩
    · exact beginsWith_iff.mpr ⟨"\u3000lib".toList, by decide +kernel⟩
    · intro q hq
      refine dropQualifier?_eq_none_iff.mp ?_
      revert q
      decide +kernel
  obtain ⟨hsliced, -, hsplit, -⟩ := parse_splits_qualifier t input
  obtain ⟨spelled, b, hsame, hparts, -⟩ := hsplit _ _ hfirst
  rw [hread] at hsliced hparts
  exact ⟨by decide +kernel, hsliced, hfirst, spelled, b, hsame, hparts⟩

end Parse

end DeclAtlas.Reference
