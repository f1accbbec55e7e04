import DeclAtlas.Interface.Lookup
import DeclAtlas.Proofs.Nesting.Blocks

/-!
# Which lines an interface comes from

The interface of a resource type is read from the block of its marker, and the block should be all
of a file that it depends on, the two facts about the whole file apart.  Where the block ends is the
subject of `Nesting.blockAt?_eq_of_take`; here it follows that later lines cannot change the interface
(`ofResource_of_take`), provided that the line of the closing brace leaves no brace open.  That line
decides: where the closing brace shares it with the head of the next type, the registrations of the
next type are read into this one (`leak_of_shared_line`).
-/

namespace DeclAtlas

open Text Nesting

variable {typeName : List Char} {ls ls' : List Line} {n : Nat} {condition : Option String}

/-- The marker is found on the lines up to it. -/
theorem findMarker?_of_take {m : Nat} (h : findMarker? typeName ls = some (n, condition))
    (hm : n < m) (hsame : ls'.take m = ls.take m) :
    findMarker? typeName ls' = some (n, condition) := by
  have happend : ∀ {ls : List Line}, findMarker? typeName (ls.take m) = some (n, condition) →
      findMarker? typeName ls = some (n, condition) := by
    intro ls hfound
    rw [← List.take_append_drop m ls, findMarker?, List.zipIdx_append, List.findSome?_append]
    rw [findMarker?] at hfound
    rw [hfound, Option.some_or]
  refine happend ?_
  rw [hsame]
  rw [← List.take_append_drop m ls, findMarker?, List.zipIdx_append, List.findSome?_append,
    Option.or_eq_some_iff] at h
  rcases h with h | ⟨-, h⟩
  · exact h
  · -- a marker behind the first `m` lines has a number of at least `m`
    obtain ⟨⟨l, i⟩, hmem, hl⟩ := List.exists_of_findSome?_eq_some h
    obtain ⟨c, -, hc⟩ := Option.map_eq_some_iff.mp hl
    obtain ⟨rfl, -⟩ := Prod.mk.inj hc
    obtain ⟨hle, hlt, -⟩ := List.mem_zipIdx hmem
    rw [List.length_take, Nat.zero_add] at hle hlt
    rw [List.length_drop] at hlt
    omega

namespace Interface

/-- The interface of a file whose marker has a block. -/
theorem ofResource_eq_ok {typeName file content : String} {block : Block}
    (hmarker : findMarker? typeName.toList (linesOf content) = some (n, condition))
    (hblock : blockAt? (linesOf content) n = some block) :
    ofResource typeName file content =
      .ok { ({ empty typeName (.resource condition) with location := ⟨file, n + 1⟩ }).register
              block.lines with
            memoryInfo := hasMemoryInfo typeName.toList content.toList
            iteratorDeclarations := DeclAtlas.iteratorDeclarations content.toList } := by
  unfold ofResource
  simp only [hmarker, hblock]

/-- What is read of a file is registered from the block of its first marker. -/
theorem exists_of_readResource {typeName file content : String} {i : Interface}
    (h : readResource typeName file content = .ok i) :
    ∃ n condition block, findMarker? typeName.toList (linesOf content) = some (n, condition) ∧
      blockAt? (linesOf content) n = some block ∧
      i = { ({ empty typeName (.resource condition) with location := ⟨file, n + 1⟩ }).register
              block.lines with
            memoryInfo := hasMemoryInfo typeName.toList content.toList
            iteratorDeclarations := DeclAtlas.iteratorDeclarations content.toList } := by
  unfold readResource ofResource at h
  split at h
  · cases hmarker : findMarker? typeName.toList (linesOf content) with
    | none => simp [hmarker, Except.mapError] at h
    | some marker =>
      obtain ⟨n, condition⟩ := marker
      cases hblock : blockAt? (linesOf content) n with
      | none => simp [hmarker, hblock, Except.mapError] at h
      | some block =>
        simp only [hmarker, hblock, Except.mapError, Except.ok.injEq] at h
        exact ⟨n, condition, block, rfl, hblock, h.symm⟩
  · exact nomatch h

/-- **Lines behind the line of the closing brace do not count.**  Let the braces of the marker's
block be matched character by character, and let what stands around them on their lines open no more
braces than it closes.  If the lines after that of the closing brace are replaced by any others, or
left out, the interface stays the same, up to the two facts that are looked for in the whole file. -/
theorem ofResource_of_take {typeName file content content' : String} {i : Interface}
    {braces : MatchedBraces} (h : ofResource typeName file content = .ok i)
    (hmarker : findMarker? typeName.toList (linesOf content) = some (n, condition))
    (hbraces : matchedAt? (linesOf content) n = some braces)
    (hclosed : braceDelta braces.before + braceDelta braces.after ≤ 0)
    (hsame : (linesOf content').take (braces.last + 1) =
      (linesOf content).take (braces.last + 1)) :
    ∃ j, ofResource typeName file content' = .ok j ∧
      { j with
        memoryInfo := i.memoryInfo
        iteratorDeclarations := i.iteratorDeclarations } = i := by
  obtain ⟨m, k, hopening, hlast, -⟩ := exists_of_matchedAt? hbraces
  have hmarker' := findMarker?_of_take hmarker (by omega) hsame
  have hblock : ∃ block, blockAt? (linesOf content) n = some block := by
    rw [blockAt?, hopening]
    exact ⟨_, rfl⟩
  obtain ⟨block, hblock⟩ := hblock
  have hblock' : blockAt? (linesOf content') n = some block := by
    rw [blockAt?_eq_of_take hbraces hclosed hsame, hblock]
  rw [ofResource_eq_ok hmarker hblock] at h
  refine ⟨_, ofResource_eq_ok hmarker' hblock', ?_⟩
  rw [← Except.ok.inj h]

/-- A block that opens on the line after its marker and holds two blocks on one line. -/
theorem ofResource_of_take_branches :
    let lead := "JSG_RESOURCE_TYPE(T)\n\x7b\nif (a) \x7b JSG_METHOD(a); \x7d else \x7b\n\x7d\n\x7d;\n"
    let content := lead ++ "JSG_METHOD(b);\n"
    let braces : MatchedBraces := ⟨[], 4, [';']⟩
    findMarker? "T".toList (linesOf content) = some (0, none) ∧
      matchedAt? (linesOf content) 0 = some braces ∧
      braceDelta braces.before + braceDelta braces.after ≤ 0 ∧
      (linesOf lead).take 5 = (linesOf content).take 5 ∧
      ∃ i j, ofResource "T" "t.h" content = .ok i ∧ ofResource "T" "t.h" lead = .ok j ∧
        j.methods = i.methods := by
  intro lead content braces
  have hmarker : findMarker? "T".toList (linesOf content) = some (0, none) := by decide +kernel
  have hbraces : matchedAt? (linesOf content) 0 = some braces := by decide +kernel
  have hclosed : braceDelta braces.before + braceDelta braces.after ≤ 0 := by decide
  have hsame : (linesOf lead).take 5 = (linesOf content).take 5 := by decide +kernel
  obtain ⟨block, hblock⟩ := Option.isSome_iff_exists.mp
    (show (blockAt? (linesOf content) 0).isSome = true by decide +kernel)
  obtain ⟨i, hi⟩ : ∃ i, ofResource "T" "t.h" content = .ok i :=
    ⟨_, ofResource_eq_ok hmarker hblock⟩
  obtain ⟨j, hj, heq⟩ := ofResource_of_take hi hmarker hbraces hclosed hsame
  exact ⟨hmarker, hbraces, hclosed, hsame, i, j, hi, hj, by rw [← heq]⟩

/-- **Registrations leak into the type before** if its closing brace shares a line with the opening
brace of the next type: lines behind that line are read as if they belonged to it. -/
theorem leak_of_shared_line :
    let lead := "JSG_RESOURCE_TYPE(T) \x7b\nJSG_METHOD(own);\n\x7d class U \x7b\n"
    let content := lead ++ "JSG_METHOD(foreign);\n\x7d\n"
    let braces : MatchedBraces := ⟨"JSG_RESOURCE_TYPE(T) ".toList, 2, " class U \x7b".toList⟩
    findMarker? "T".toList (linesOf content) = some (0, none) ∧
      matchedAt? (linesOf content) 0 = some braces ∧
      (linesOf lead).take 3 = (linesOf content).take 3 ∧
      ∃ i j, ofResource "T" "t.h" content = .ok i ∧ ofResource "T" "t.h" lead = .ok j ∧
        i.methods = [⟨"own", "own", false⟩, ⟨"foreign", "foreign", false⟩] ∧
        j.methods = [⟨"own", "own", false⟩] := by
  intro lead content braces
  have hmarker : findMarker? "T".toList (linesOf content) = some (0, none) := by decide +kernel
  have hmarker' : findMarker? "T".toList (linesOf lead) = some (0, none) := by decide +kernel
  have hblock : blockAt? (linesOf content) 0 = some ⟨0, linesOf content⟩ := by decide +kernel
  have hblock' : blockAt? (linesOf lead) 0 = some ⟨0, linesOf lead⟩ := by decide +kernel
  refine ⟨hmarker, by decide +kernel, by decide +kernel, _, _, ofResource_eq_ok hmarker hblock,
    ofResource_eq_ok hmarker' hblock', ?_, ?_⟩
  · decide +kernel
  · decide +kernel

end Interface

end DeclAtlas
