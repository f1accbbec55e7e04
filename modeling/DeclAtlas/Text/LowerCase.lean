import DeclAtlas.Text.Casing

/-!
# Lower-casing

Names are compared without regard to case by comparing their lower-case forms.  The mapping is the
full one of Unicode: most capitals have a single small form, the dotted capital I becomes an i with
a combining dot, and a capital sigma becomes a final sigma exactly at the end of a word.

Patterns that disregard case go by single characters instead: two characters are the same letter when
they fold to the same one, the small form of a capital, and for a few letters with several small forms
the usual one.  Folding knows the letters of Unicode 16.
-/

namespace DeclAtlas.Text

/-- The small form of `c` where it is a capital of ASCII or of some runs. -/
def smallForm (runs : List CapitalRun) (c : Char) : Char :=
  if c.toNat < 128 then c.toLower
  else match runs.find? (·.holds c.toNat) with
    | some r => Char.ofNat (c.toNat + r.shift).toNat
    | none => c

/-- The small form of a single character, context left aside. -/
def lowerChar (c : Char) : Char := smallForm (capitalRuns ++ recentCapitalRuns) c

/-- Whether `c` is a letter with case. -/
def isCased (c : Char) : Bool := casedRanges.contains c

/-- Whether casing looks through `c` for the neighbouring letter. -/
def isCaseIgnorable (c : Char) : Bool := caseIgnorableRanges.contains c

/-- Whether the nearest character that casing does not look through is a letter with case. -/
def leadsToCased (s : List Char) : Bool :=
  match s.dropWhile isCaseIgnorable with
  | c :: _ => isCased c
  | [] => false

/-- Lower-cases the rest of a text; `before` is what came earlier, nearest first. -/
def lowerFrom (before : List Char) : List Char → List Char
  | [] => []
  | c :: r =>
    if c = 'Σ' then
      (if leadsToCased before && !leadsToCased r then 'ς' else 'σ') :: lowerFrom (c :: before) r
    else if c = 'İ' then 'i' :: '\u0307' :: lowerFrom (c :: before) r
    else lowerChar c :: lowerFrom (c :: before) r

/-- The lower-case form of a text. -/
def lower (s : List Char) : List Char := lowerFrom [] s

/-- The lower-case form of a string. -/
def lowerString (s : String) : String := String.ofList (lower s.toList)

/-! ### Letters regardless of case -/

/-- Small letters that are variants of another one. -/
def variantLetters : List (Char × Char) :=
  [('ſ', 's'), ('µ', 'μ'), ('\u0345', 'ι'), ('\u1FBE', 'ι'), ('\u1FD3', '\u0390'),
   ('ϐ', 'β'), ('ϵ', 'ε'), ('ϑ', 'θ'), ('ϰ', 'κ'), ('ϖ', 'π'), ('ϱ', 'ρ'), ('ς', 'σ'), ('ϕ', 'φ'),
   ('\u1FE3', '\u03B0'), ('\u1C80', 'в'), ('\u1C81', 'д'), ('\u1C82', 'о'), ('\u1C83', 'с'),
   ('\u1C84', 'т'), ('\u1C85', 'т'), ('\u1C86', 'ъ'), ('\u1C87', 'ѣ'), ('\u1C88', '\uA64B'),
   ('ẛ', 'ṡ'), ('ﬅ', 'ﬆ')]

/-- The letter that a small letter is a variant of, or the small letter itself. -/
def usualForm (c : Char) : Char := (variantLetters.lookup c).getD c

/-- The capitals of a run, each with its small form. -/
def CapitalRun.pairs (r : CapitalRun) : List (Char × Char) :=
  (List.range ((r.last - r.first) / r.step + 1)).map fun k =>
    let code := r.first + k * r.step
    (Char.ofNat code, Char.ofNat (code + r.shift).toNat)

/-- The capitals of ASCII with their small forms. -/
def asciiPairs : List (Char × Char) := CapitalRun.pairs ⟨0x41, 0x5A, 1, 32⟩

/-- The characters that fold to another one, with that one; `ascii` restricts them to ASCII. -/
def foldPairs (ascii : Bool) : List (Char × Char) :=
  if ascii then asciiPairs
  else asciiPairs ++ (capitalRuns.flatMap CapitalRun.pairs).map (fun p => (p.1, usualForm p.2)) ++
    variantLetters

end DeclAtlas.Text
