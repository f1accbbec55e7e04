import DeclAtlas.Interface.Lookup
import DeclAtlas.Proofs.Character.Classes
import DeclAtlas.Proofs.Pattern.Literal

/-!
# The patterns of a lookup

A lookup names its type in four patterns: the search for markers, the class at the left margin, the
marker with its condition and the declaration of a struct.  Each is the text of a frame (`Frame`)
with the name in its place, so whether it is admitted is a matter of the length of the name only.

* `isAdmitted_of_safeLength`: all of them are admitted for a name of up to `safeLength` characters.
* `not_isAdmitted_of_roomLimit`: none of them is, for a name that is too long.
-/

namespace DeclAtlas

open Text

/-! ### Identifiers -/

theorem isWord_of_isIdentifier {s : List Char} (h : isIdentifier s = true) :
    s ≠ [] ∧ ∀ c ∈ s, isWord c = true := by
  cases s with
  | nil => exact absurd h (by decide)
  | cons c r =>
    simp only [isIdentifier, Bool.and_eq_true, Bool.or_eq_true, beq_iff_eq] at h
    refine ⟨List.cons_ne_nil c r, List.forall_mem_cons.mpr ⟨?_, List.all_eq_true.mp h.2⟩⟩
    have hascii : CharSet.asciiWord.contains c = true := by
      rw [CharSet.contains_asciiWord, Char.isAlphanum, Bool.or_assoc, Bool.or_eq_true]
      rcases h.1 with hc | rfl
      · exact .inl hc
      · exact .inr (by decide)
    rw [← CharSet.contains_word, CharSet.word, CharSet.contains_union]
    exact .inl hascii

theorem plain_of_isIdentifier {s : List Char} (h : isIdentifier s = true) : Pattern.Plain s :=
  Pattern.plain_of_isWord (isWord_of_isIdentifier h).2

namespace Pattern

/-! ### The frames -/

theorem literal_default : ({} : Switches).Literal := ⟨rfl, rfl⟩

/-- The edge of a word, which ends a name. -/
def wordEdge : Item := .part ⟨.place (.edge .boundary .word), 0⟩

/-- What is read of a marker before its name. -/
def markerLead : Branch :=
  [.part ⟨star (.one .blank), 1⟩, .part ⟨letter '(', 0⟩, .part ⟨star (.one .blank), 1⟩] ++
    itemsOf (letters resourceMacro.toList)

theorem reads_markerLead (fuel : Nat) {r : List Char} (hr : ∀ c ∈ r.head?, c ∉ signs) :
    group? (fuel + 22) {} [] [] [] ("JSG_RESOURCE_TYPE\\s*\\(\\s*".toList ++ r) =
      group? fuel {} [] [] markerLead r := by
  have hread : group? (fuel + 22) {} [] [] [] ("JSG_RESOURCE_TYPE\\s*\\(\\s*".toList ++ r) =
      group? fuel {} [] [] markerLead (dropReluctance r) := rfl
  rw [hread, dropReluctance_of_head? fun h => hr '?' h (by decide)]

/-- The search for markers. -/
def markerFrame : Frame where
  lead := "JSG_RESOURCE_TYPE\\s*\\(\\s*"
  tail := "\\b"
  switches := {}
  before := markerLead
  after := [wordEdge]
  literal := literal_default
  reads_lead := ⟨22, 0, by decide +kernel, fun fuel _ _ hr => reads_markerLead fuel hr⟩
  reads_tail := ⟨2, by decide +kernel, fun _ _ => rfl⟩
  shallow := by decide
  single := by decide

/-- The condition of a marker, which need not be there. -/
def conditionPart : Pattern :=
  .again 0 (some 1) (.seq (star (.one .blank)) (.seq (letter ',') (.seq (star (.one .blank))
    (.group (star (.one (.except (.unionOf [.single ')']))))))))

/-- The marker with its condition. -/
def conditionFrame : Frame where
  lead := "JSG_RESOURCE_TYPE\\s*\\(\\s*"
  tail := "\\b(?:\\s*,\\s*([^)]*))?"
  switches := {}
  before := markerLead
  after := [.part ⟨conditionPart, 6⟩, wordEdge]
  literal := literal_default
  reads_lead := ⟨22, 0, by decide +kernel, fun fuel _ _ hr => reads_markerLead fuel hr⟩
  reads_tail := ⟨20, by decide +kernel, fun _ _ => rfl⟩
  shallow := by decide
  single := by decide

/-- What is read of a class at the left margin before its name. -/
def marginLead : Branch :=
  itemsOf (letters "class ".toList) ++ [.part ⟨.place (.lineStart false), 0⟩, .setting]

/-- The class at the left margin. -/
def marginFrame : Frame where
  lead := "(?m)^class "
  tail := "\\b"
  switches := { multiline := true }
  before := marginLead
  after := [wordEdge]
  literal := ⟨rfl, rfl⟩
  reads_lead := ⟨8, 0, by decide +kernel, fun _ _ _ _ => rfl⟩
  reads_tail := ⟨2, by decide +kernel, fun _ _ => rfl⟩
  shallow := by decide
  single := by decide

/-- The keyword of a declaration. -/
def keywordPart : Pattern :=
  .group (.alt (inOrder (letters "class".toList)) (inOrder (letters "struct".toList)))

/-- What is read of a declaration before its name. -/
def declarationLead : Branch :=
  [.part ⟨.again 1 none (.one .blank), 1⟩, .part ⟨keywordPart, 3⟩]

/-- The keywords are read in a group of their own, which takes eleven steps. -/
theorem reads_declarationLead {fuel : Nat} (hfuel : 11 ≤ fuel) {r : List Char}
    (hr : ∀ c ∈ r.head?, c ∉ signs) :
    group? (fuel + 3) {} [] [] [] ("(class|struct)\\s+".toList ++ r) =
      group? fuel {} [] [] declarationLead r := by
  obtain ⟨k, rfl⟩ := Nat.exists_eq_add_of_le' hfuel
  have hread : group? (k + 11 + 3) {} [] [] [] ("(class|struct)\\s+".toList ++ r) =
      group? (k + 11) {} [] [] declarationLead (dropReluctance r) := rfl
  rw [hread, dropReluctance_of_head? fun h => hr '?' h (by decide)]

/-- The declaration of a struct. -/
def declarationFrame : Frame where
  lead := "(class|struct)\\s+"
  tail := "\\b"
  switches := {}
  before := declarationLead
  after := [wordEdge]
  literal := literal_default
  reads_lead := ⟨3, 11, by decide +kernel, fun _ _ hfuel hr => reads_declarationLead hfuel hr⟩
  reads_tail := ⟨2, by decide +kernel, fun _ _ => rfl⟩
  shallow := by decide
  single := by decide

theorem text_markerFrame (s : SearchSettings) (name : String) :
    markerFrame.text name = (markerRequest s name).pattern := rfl

theorem text_conditionFrame (name : String) :
    conditionFrame.text name = conditionPattern name := rfl

theorem text_marginFrame (name : String) : marginFrame.text name = marginPattern name := rfl

theorem text_declarationFrame (name : String) :
    declarationFrame.text name = declarationPattern name := rfl

/-! ### Their room -/

theorem room_star_blank_le (d : Direction) : (star (.one .blank)).room d ≤ 1500 := by
  cases d <;>
  · rw [star, room, room]
    decide +kernel

theorem room_wordEdge (d : Direction) : wordEdge.nested.value.room d = stateRoom := by
  rw [wordEdge, Item.nested, room]

theorem room_conditionPart_le (d : Direction) : conditionPart.room d ≤ 5000 := by
  cases d <;>
  · simp only [conditionPart, star, letter, room]
    decide +kernel

theorem room_keywordPart_le (d : Direction) : keywordPart.room d ≤ 5000 := by
  cases d <;>
  · simp only [keywordPart, room]
    decide +kernel

theorem room_blanks_le (d : Direction) : (Pattern.again 1 none (.one .blank)).room d ≤ 5000 := by
  cases d <;>
  · simp only [room]
    decide +kernel

theorem room_lineStart (d : Direction) : (Pattern.place (.lineStart false)).room d = stateRoom := by
  rw [room]

theorem partsOf_markerLead : partsOf markerLead =
    letters resourceMacro.toList ++ [star (.one .blank), letter '(', star (.one .blank)] := by
  rw [markerLead, partsOf_append, partsOf_itemsOf]
  rfl

theorem partsRoom_markerLead_le (d : Direction) : partsRoom d (partsOf markerLead) ≤ 6000 := by
  have hmacro := partsRoom_letters_le d resourceMacro.toList
  have hlength : resourceMacro.toList.length = 17 := by decide +kernel
  have hblank := room_star_blank_le d
  have hopening := room_letter_le d '('
  rw [partsOf_markerLead, partsRoom_append]
  simp only [partsRoom_cons, partsRoom_nil, hlength, stateRoom, branchRoom] at *
  omega

theorem partsRoom_wordEdge (d : Direction) : partsRoom d (partsOf [wordEdge]) ≤ 100 := by
  have hedge : partsRoom d (partsOf [wordEdge]) = wordEdge.nested.value.room d + branchRoom := rfl
  rw [hedge, room_wordEdge]
  decide

/-- The room of what surrounds a name in its frame, at most. -/
def surroundRoom : Nat := 20000

theorem partsRoom_markerFrame_le (d : Direction) :
    partsRoom d (partsOf markerFrame.before) + partsRoom d (partsOf markerFrame.after) ≤
      surroundRoom := by
  have hlead : partsRoom d (partsOf markerFrame.before) ≤ 6000 := partsRoom_markerLead_le d
  have htail : partsRoom d (partsOf markerFrame.after) ≤ 100 := partsRoom_wordEdge d
  rw [surroundRoom]
  omega

theorem partsRoom_conditionFrame_le (d : Direction) :
    partsRoom d (partsOf conditionFrame.before) + partsRoom d (partsOf conditionFrame.after) ≤
      surroundRoom := by
  have hlead : partsRoom d (partsOf conditionFrame.before) ≤ 6000 := partsRoom_markerLead_le d
  have hafter : partsRoom d (partsOf conditionFrame.after) = partsRoom d (partsOf [wordEdge]) +
      partsRoom d [conditionPart] := rfl
  have hedge := partsRoom_wordEdge d
  have hcondition := room_conditionPart_le d
  rw [hafter]
  simp only [partsRoom_cons, partsRoom_nil, branchRoom, surroundRoom] at *
  omega

theorem partsRoom_marginFrame_le (d : Direction) :
    partsRoom d (partsOf marginFrame.before) + partsRoom d (partsOf marginFrame.after) ≤
      surroundRoom := by
  have hlead : partsOf marginFrame.before =
      [.empty, .place (.lineStart false)] ++ letters "class ".toList := by
    rw [show marginFrame.before = marginLead from rfl, marginLead, partsOf_append, partsOf_itemsOf]
    rfl
  have hclass := partsRoom_letters_le d "class ".toList
  have hlength : "class ".toList.length = 6 := by decide +kernel
  have hempty : Pattern.empty.room d = stateRoom := by rw [room]
  have hstart := room_lineStart d
  have htail : partsRoom d (partsOf marginFrame.after) ≤ 100 := partsRoom_wordEdge d
  rw [hlead, partsRoom_append]
  simp only [partsRoom_cons, partsRoom_nil, hlength, stateRoom, branchRoom, surroundRoom] at *
  omega

theorem partsRoom_declarationFrame_le (d : Direction) :
    partsRoom d (partsOf declarationFrame.before) + partsRoom d (partsOf declarationFrame.after) ≤
      surroundRoom := by
  have hlead : partsOf declarationFrame.before = [keywordPart, .again 1 none (.one .blank)] := rfl
  have hkeyword := room_keywordPart_le d
  have hblanks := room_blanks_le d
  have htail : partsRoom d (partsOf declarationFrame.after) ≤ 100 := partsRoom_wordEdge d
  rw [hlead]
  simp only [partsRoom_cons, partsRoom_nil, branchRoom, surroundRoom] at *
  omega

end Pattern

/-! ### Names that are short or too long -/

/-- How long a name may be, whichever characters it has, without a pattern being refused. -/
def safeLength : Nat := 65536

theorem isAdmitted_of_safeLength {F : Pattern.Frame} {name : String}
    (hroom : ∀ d, Pattern.partsRoom d (Pattern.partsOf F.before) +
      Pattern.partsRoom d (Pattern.partsOf F.after) ≤ Pattern.surroundRoom)
    (hname : isIdentifier name.toList = true) (hlength : name.length ≤ safeLength) :
    Pattern.isAdmitted (F.text name) = true := by
  refine Pattern.Frame.isAdmitted_of_length_le (isWord_of_isIdentifier hname).1
    (plain_of_isIdentifier hname) hroom ?_
  rw [← String.length_toList] at hlength
  simp only [safeLength, Pattern.surroundRoom, Pattern.stateRoom, Pattern.branchRoom,
    Pattern.roomLimit] at *
  omega

section

variable {name : String}

theorem isAdmitted_markerRequest (s : SearchSettings) (hname : isIdentifier name.toList = true)
    (hlength : name.length ≤ safeLength) :
    Pattern.isAdmitted (markerRequest s name).pattern = true := by
  rw [← Pattern.text_markerFrame]
  exact isAdmitted_of_safeLength Pattern.partsRoom_markerFrame_le hname hlength

theorem isAdmitted_conditionPattern (hname : isIdentifier name.toList = true)
    (hlength : name.length ≤ safeLength) : Pattern.isAdmitted (conditionPattern name) = true := by
  rw [← Pattern.text_conditionFrame]
  exact isAdmitted_of_safeLength Pattern.partsRoom_conditionFrame_le hname hlength

theorem isAdmitted_marginPattern (hname : isIdentifier name.toList = true)
    (hlength : name.length ≤ safeLength) : Pattern.isAdmitted (marginPattern name) = true := by
  rw [← Pattern.text_marginFrame]
  exact isAdmitted_of_safeLength Pattern.partsRoom_marginFrame_le hname hlength

theorem isAdmitted_declarationPattern (hname : isIdentifier name.toList = true)
    (hlength : name.length ≤ safeLength) : Pattern.isAdmitted (declarationPattern name) = true := by
  rw [← Pattern.text_declarationFrame]
  exact isAdmitted_of_safeLength Pattern.partsRoom_declarationFrame_le hname hlength

theorem not_isAdmitted_of_roomLimit {F : Pattern.Frame}
    (hafter : Pattern.inOrder (Pattern.partsOf F.after) ≠ .empty)
    (hname : isIdentifier name.toList = true)
    (hlength : Pattern.roomLimit < name.length * Pattern.stateRoom) :
    Pattern.isAdmitted (F.text name) = false := by
  rw [← String.length_toList] at hlength
  exact Pattern.Frame.not_isAdmitted_of_lt (isWord_of_isIdentifier hname).1
    (plain_of_isIdentifier hname) hafter hlength

theorem not_isAdmitted_marginPattern (hname : isIdentifier name.toList = true)
    (hlength : Pattern.roomLimit < name.length * Pattern.stateRoom) :
    Pattern.isAdmitted (marginPattern name) = false := by
  rw [← Pattern.text_marginFrame]
  exact not_isAdmitted_of_roomLimit Pattern.noConfusion hname hlength

theorem not_isAdmitted_declarationPattern (hname : isIdentifier name.toList = true)
    (hlength : Pattern.roomLimit < name.length * Pattern.stateRoom) :
    Pattern.isAdmitted (declarationPattern name) = false := by
  rw [← Pattern.text_declarationFrame]
  exact not_isAdmitted_of_roomLimit Pattern.noConfusion hname hlength

end

/-- The identifier of `n + 1` letters. -/
def longName (n : Nat) : String := String.ofList (List.replicate (n + 1) 'A')

theorem isIdentifier_longName (n : Nat) : isIdentifier (longName n).toList = true := by
  have hword : isWord 'A' = true := by decide +kernel
  rw [longName, String.toList_ofList, List.replicate_succ, isIdentifier, List.all_replicate, hword]
  simp

theorem length_longName (n : Nat) : (longName n).length = n + 1 := by
  rw [← String.length_toList, longName, String.toList_ofList, List.length_replicate]

end DeclAtlas
