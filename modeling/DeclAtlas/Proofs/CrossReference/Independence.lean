import DeclAtlas.CrossReference

/-!
# Lookups do not meddle with each other

A cross reference runs six lookups, and each of them owns some sections of the report.  Two facts keep
them apart.  No two lookups ask for the same pattern, whatever the symbol is (`eq_of_pattern`): the
patterns differ in their first or in their last character.  And the report is a function of what the
lookups find (`gather_eq_reportOf`), in which a section sees nothing but the hits of the lookup that
owns it (`sameSections_reportOf`).

So a source that answers one lookup differently changes the sections of that lookup only, and since a
failed search counts as one without hits, a failure is not told from it.
-/

namespace DeclAtlas

namespace CrossReference

/-- The lookups of a cross reference. -/
inductive Lookup where
  | declarations
  | implementations
  | registration
  | tests
  | gating
  | typeGroup
  deriving DecidableEq

namespace Lookup

/-- What a lookup asks for. -/
def request (s : SearchSettings) (symbol : String) : Lookup → SearchRequest
  | declarations => declarationsOf s symbol
  | implementations => implementationsOf s symbol
  | registration => registrationOf s symbol
  | tests => testsOf symbol
  | gating => gatingOf s symbol
  | typeGroup => typeGroupsIn s

/-- Two reports with the same in the sections of a lookup. -/
def SameSections (x y : CrossReference) : Lookup → Prop
  | declarations => x.declarations = y.declarations
  | implementations => x.implementations = y.implementations
  | registration => x.registration = y.registration ∧ x.registeredMembers = y.registeredMembers
  | tests => x.tests = y.tests
  | gating => x.gating = y.gating
  | typeGroup => x.typeGroup = y.typeGroup

/-- The lookups own everything in a report but the symbol. -/
theorem eq_of_sameSections {x y : CrossReference} (hsymbol : x.symbol = y.symbol)
    (h : ∀ k : Lookup, k.SameSections x y) : x = y := by
  obtain ⟨hregistration, hmembers⟩ := h registration
  have hdeclarations := h declarations
  have himplementations := h implementations
  have htests := h tests
  have hgating := h gating
  have htypeGroup := h typeGroup
  cases x
  cases y
  simp_all only [SameSections]

/-! ### Patterns -/

/-- The first and the last character of the pattern of a lookup. -/
def ends : Lookup → Char × Char
  | declarations => ('c', 'b')
  | implementations => ('\\', ':')
  | registration => ('J', 'b')
  | tests => ('\\', 'b')
  | gating => ('f', 't')
  | typeGroup => ('E', 'S')

theorem eq_of_ends {j k : Lookup} (h : j.ends = k.ends) : j = k := by
  cases j <;> cases k <;> first | rfl | exact absurd h (by decide)

theorem ends_around {a b : String} {c d : Char} (x : String) (ha : a.toList.head? = some c)
    (hb : b.toList.getLast? = some d) :
    (a ++ x ++ b).toList.head? = some c ∧ (a ++ x ++ b).toList.getLast? = some d := by
  simp only [String.toList_append, List.head?_append, List.getLast?_append, ha, hb,
    Option.some_or, and_self]

variable (s : SearchSettings) (symbol : String)

theorem ends_pattern (k : Lookup) :
    (k.request s symbol).pattern.toList.head? = some k.ends.1 ∧
    (k.request s symbol).pattern.toList.getLast? = some k.ends.2 := by
  cases k with
  | declarations => exact ends_around symbol (by decide) (by decide)
  | implementations => exact ends_around symbol (by decide) (by decide)
  | registration => exact ends_around symbol (by decide) (by decide)
  | tests => exact ends_around symbol (by decide) (by decide)
  | gating =>
    have hends := ends_around (a := "flags\\.get\\w*\\(\\).*\\b") (b := "\\b.*flags\\.get")
      (c := 'f') (d := 't') (symbol ++ "\\b|\\b" ++ symbol) (by decide) (by decide)
    rwa [← String.append_assoc, ← String.append_assoc] at hends
  | typeGroup =>
    have hends : "EW_\\w+_ISOLATE_TYPES".toList.head? = some 'E' ∧
        "EW_\\w+_ISOLATE_TYPES".toList.getLast? = some 'S' := by decide
    exact hends

variable {s symbol}

/-- **No two lookups ask for the same pattern.** -/
theorem eq_of_pattern {j k : Lookup}
    (h : (j.request s symbol).pattern = (k.request s symbol).pattern) : j = k := by
  obtain ⟨hfirst, hlast⟩ := ends_pattern s symbol j
  obtain ⟨hfirst', hlast'⟩ := ends_pattern s symbol k
  rw [h] at hfirst hlast
  have hfst : j.ends.1 = k.ends.1 := Option.some.inj (hfirst.symm.trans hfirst')
  have hsnd : j.ends.2 = k.ends.2 := Option.some.inj (hlast.symm.trans hlast')
  exact eq_of_ends (Prod.ext hfst hsnd)

end Lookup

/-! ### The report as a function of the hits -/

section

variable (read : String → Except String String) (root symbol : String)

/-- The members that are registered at the first of some hits. -/
def membersOf (hits : List Hit) : List String :=
  match hits.head? with
  | some h => registeredMembersAt (m := Id) read root h
  | none => []

/-- The first type group in some files that lists the symbol. -/
def groupOf (files : List Hit) : Option TypeGroup :=
  if Pattern.isAdmitted (mentionPattern symbol) then
    typeGroupIn? (m := Id) read root symbol files
  else none

/-- The report made of what the lookups find. -/
def reportOf (hits : Lookup → List Hit) : CrossReference where
  symbol := symbol
  declarations := primaryFirst (hits .declarations)
  implementations := countByFile (hits .implementations)
  registration := (hits .registration).head?
  registeredMembers := membersOf read root (hits .registration)
  typeGroup := groupOf read root symbol (hits .typeGroup)
  gating := hits .gating
  tests := uniquePaths (hits .tests)

/-- **A section depends on the lookup that owns it only.** -/
theorem sameSections_reportOf {hits hits' : Lookup → List Hit} {k : Lookup}
    (h : hits k = hits' k) :
    k.SameSections (reportOf read root symbol hits) (reportOf read root symbol hits') := by
  cases k <;> simp only [Lookup.SameSections, reportOf, h, and_self]

variable (search : SearchRequest → Except SourceError (List Hit)) (s : SearchSettings)

theorem findTypeGroup?_eq_groupOf : findTypeGroup? (m := Id) search read root s symbol =
    groupOf read root symbol (orEmpty (search (typeGroupsIn s))) := by
  unfold findTypeGroup? hitsOf groupOf
  dsimp only [bind, pure]

theorem gather_eq_reportOf : gather (m := Id) search read root s symbol =
    reportOf read root symbol fun k => orEmpty (search (k.request s symbol)) := by
  unfold gather hitsOf
  dsimp only [bind, pure]
  rw [findTypeGroup?_eq_groupOf]
  simp only [reportOf, membersOf, Lookup.request]
  cases (orEmpty (search (registrationOf s symbol))).head? with
  | none => rfl
  | some h => rfl

variable {symbol}

theorem lookupCrossReference_eq_reportOf (hsymbol : checkIdentifier .symbol symbol = .ok ()) :
    lookupCrossReference (m := Id) search read root s symbol =
      .ok (reportOf read root symbol fun k => orEmpty (search (k.request s symbol))) := by
  rw [lookupCrossReference, hsymbol, ← gather_eq_reportOf]
  rfl

end

end CrossReference

open CrossReference

/-- **A lookup that is answered differently changes its own sections only.**  For an identifier there
are reports for any two searches that agree on every request without the pattern of the lookup; they
agree in the sections of the other five, and altogether if the lookup fails in one of them and finds
nothing in the other. -/
theorem sections_independent {symbol : String} (hsymbol : checkIdentifier .symbol symbol = .ok ())
    (read : String → Except String String) (root : String) (s : SearchSettings) (k : Lookup)
    {search search' : SearchRequest → Except SourceError (List Hit)}
    (hsearch : ∀ r, r.pattern ≠ (k.request s symbol).pattern → search r = search' r) :
    ∃ x y, lookupCrossReference (m := Id) search read root s symbol = .ok x ∧
      lookupCrossReference (m := Id) search' read root s symbol = .ok y ∧
      x.symbol = y.symbol ∧ (∀ j, j ≠ k → j.SameSections x y) ∧
      (∀ e, search (k.request s symbol) = .error e → search' (k.request s symbol) = .ok [] →
        x = y) := by
  have hreport : ∀ f : SearchRequest → Except SourceError (List Hit),
      lookupCrossReference (m := Id) f read root s symbol =
        .ok (reportOf read root symbol fun k => orEmpty (f (k.request s symbol))) := by
    intro f
    rw [lookupCrossReference, hsymbol, ← gather_eq_reportOf]
    rfl
  have hother : ∀ j, j ≠ k → search (j.request s symbol) = search' (j.request s symbol) := by
    intro j hj
    exact hsearch _ fun hpattern => hj (Lookup.eq_of_pattern hpattern)
  refine ⟨_, _, hreport search, hreport search', rfl, fun j hj => ?_, fun e he hnone => ?_⟩
  · refine sameSections_reportOf read root symbol ?_
    rw [hother j hj]
  · refine Lookup.eq_of_sameSections rfl fun j => sameSections_reportOf read root symbol ?_
    by_cases hj : j = k
    · rw [hj, he, hnone]
      rfl
    · rw [hother j hj]

/-- A search for implementations with a hit, a failure and nothing to find.  The tests, whose pattern
begins alike, are found in any case. -/
theorem sections_independent_implementations :
    let answering : Except SourceError (List Hit) → SearchRequest → Except SourceError (List Hit) :=
      fun answer r =>
        if r.pattern = "\\bBlob::" then answer
        else if r.pattern = "\\bBlob\\b" then .ok [⟨"blob-test.js", 0, ""⟩]
        else .ok []
    let report : Except SourceError (List Hit) → Except InputError CrossReference := fun answer =>
      lookupCrossReference (m := Id) (answering answer) (fun _ => .error "no file") "/" {} "Blob"
    let found := Except.ok [⟨"blob.c++", 3, "int Blob::size() {}"⟩]
    let request := Lookup.implementations.request {} "Blob"
    let error := SourceError.invalidPattern request.pattern
    (checkIdentifier .symbol "Blob" = .ok () ∧
      (∀ a b r, r.pattern ≠ request.pattern → answering a r = answering b r) ∧
      answering (.error error) request = .error error ∧ answering (.ok []) request = .ok []) ∧
    ∃ x y, report found = .ok x ∧ report (.error error) = .ok y ∧ report (.ok []) = .ok y ∧
      (∀ j : Lookup, j ≠ .implementations → j.SameSections x y) ∧
      x.implementations = [⟨"blob.c++", 1⟩] ∧ y.implementations = [] ∧
      y.tests = ["blob-test.js"] := by
  intro answering report found request error
  have hsymbol : checkIdentifier .symbol "Blob" = .ok () := if_pos (by decide +kernel)
  have hsearch : ∀ a b r, r.pattern ≠ request.pattern → answering a r = answering b r := by
    intro a b r hr
    exact (if_neg hr).trans (if_neg hr).symm
  have hfails : answering (.error error) request = .error error := if_pos rfl
  have hnone : answering (.ok []) request = .ok [] := if_pos rfl
  obtain ⟨x, y, hx, hy, -, hsections, -⟩ := sections_independent hsymbol
    (fun _ => .error "no file") "/" {} .implementations (hsearch found (.error error))
  obtain ⟨y', z, hy', hz, -, -, hsame⟩ := sections_independent hsymbol
    (fun _ => .error "no file") "/" {} .implementations (hsearch (.error error) (.ok []))
  obtain rfl : y = y' := Except.ok.inj (hy.symm.trans hy')
  obtain rfl := hsame error hfails hnone
  have hfound : (report found).toOption.map (·.implementations) = some [⟨"blob.c++", 1⟩] := by
    decide +kernel
  have hempty : (report (.ok [])).toOption.map (fun z => (z.implementations, z.tests)) =
      some ([], ["blob-test.js"]) := by decide +kernel
  have hx : report found = .ok x := hx
  have hz : report (.ok []) = .ok y := hz
  rw [hx] at hfound
  rw [hz] at hempty
  obtain ⟨himplementations, htests⟩ := Prod.mk.inj (Option.some.inj hempty)
  exact ⟨⟨hsymbol, hsearch, hfails, hnone⟩, x, y, hx, hy, hz, hsections,
    Option.some.inj hfound, himplementations, htests⟩

end DeclAtlas
