import DeclAtlas.Proofs.Interface.CallReading
import DeclAtlas.Proofs.Interface.Patterns

/-!
# Markers, searched for and read

The marker of a type is looked for twice.  The search finds its lines with a pattern
(`markerRequest`), and the file of the best hit is then read for it again (`findMarker?`).  Both mean
the same lines: those on which, somewhere, the macro, blanks, a parenthesis, blanks and the name stand
one after another, the name up to a word boundary (`BeginsWithMarker`).

* `exists_spans_markerParts_iff`: what the pattern spans, by the semantics of patterns.
* `isSome_marker?_iff`: what the reader of markers reads.
* `isMatch_markerRequest`: the pattern, as it is read from its text, is found on just the lines in which
  the reader finds a marker.
-/

namespace DeclAtlas

open Text

/-- A text that begins with a marker of the type. -/
def BeginsWithMarker (name s : List Char) : Prop :=
  ∃ (a b : Blanks) (r : List Char),
    s = resourceMacro.toList ++ (a.text ++ '(' :: (b.text ++ (name ++ r))) ∧
      boundaryAfter name r = true

/-! ### Reading a marker -/

theorem opening?_eq_some_iff {name : String} {s t : List Char} :
    Form.opening? name s = some t ↔ ∃ a : Blanks, s = name.toList ++ (a.text ++ '(' :: t) := by
  constructor
  · intro h
    simp only [Form.opening?, Option.bind_eq_bind, Option.bind_eq_some_iff] at h
    obtain ⟨r, hr, hopen⟩ := h
    obtain ⟨a, rfl⟩ := exists_of_trimStart (literal?_eq_some.mp hopen)
    exact ⟨a, literal?_eq_some.mp hr⟩
  · rintro ⟨a, rfl⟩
    exact Form.opening?_append name a t

/-- After blanks a reader succeeds exactly if it does behind some of them. -/
theorem isSome_afterBlanks_iff {α : Type} {k : List Char → Option α} {s : List Char} :
    (afterBlanks k s).isSome = true ↔ ∃ (b : Blanks) (t : List Char),
      s = b.text ++ t ∧ (k t).isSome = true := by
  induction s with
  | nil =>
    constructor
    · intro h
      exact ⟨.none, [], rfl, h⟩
    · rintro ⟨b, t, hs, h⟩
      obtain ⟨-, rfl⟩ := List.append_eq_nil_iff.mp hs.symm
      exact h
  | cons c s ih =>
    by_cases hc : isBlank c = true
    · rw [afterBlanks, if_pos hc, Option.isSome_or, Bool.or_eq_true, ih]
      constructor
      · rintro (⟨b, t, rfl, h⟩ | h)
        · exact ⟨⟨c :: b.text, List.forall_mem_cons.mpr ⟨hc, b.blank⟩⟩, t, rfl, h⟩
        · exact ⟨.none, c :: s, rfl, h⟩
      · rintro ⟨⟨b, hb⟩, t, hs, h⟩
        cases b with
        | nil =>
          obtain rfl : c :: s = t := hs
          exact .inr h
        | cons d b =>
          obtain ⟨rfl, rfl⟩ := List.cons.inj hs
          exact .inl ⟨⟨b, (List.forall_mem_cons.mp hb).2⟩, t, rfl, h⟩
    · rw [afterBlanks, if_neg hc]
      constructor
      · intro h
        exact ⟨.none, c :: s, rfl, h⟩
      · rintro ⟨⟨b, hb⟩, t, hs, h⟩
        cases b with
        | nil =>
          obtain rfl : c :: s = t := hs
          exact h
        | cons d b =>
          obtain ⟨rfl, -⟩ := List.cons.inj hs
          exact absurd (hb c List.mem_cons_self) hc

theorem isSome_nameAt?_iff {name s : List Char} :
    (nameAt? name s).isSome = true ↔ ∃ r, s = name ++ r ∧ boundaryAfter name r = true := by
  constructor
  · intro h
    obtain ⟨r, hr⟩ := Option.isSome_iff_exists.mp h
    obtain ⟨hlead, hb⟩ := Option.filter_eq_some_iff.mp hr
    exact ⟨r, dropLead?_eq_some.mp hlead, hb⟩
  · rintro ⟨r, rfl, hb⟩
    rw [nameAt?, dropLead?_eq_some.mpr rfl, Option.filter_some, if_pos hb]
    rfl

/-- **What the reader of markers reads.** -/
theorem isSome_marker?_iff {name s : List Char} :
    (marker? name s).isSome = true ↔ BeginsWithMarker name s := by
  have hparts : (marker? name s).isSome = true ↔ ∃ t, Form.opening? resourceMacro s = some t ∧
      (afterBlanks (nameAt? name) t).isSome = true := by
    rw [marker?]
    cases Form.opening? resourceMacro s with
    | none => simp
    | some t =>
      cases h : afterBlanks (nameAt? name) t <;> simp [h]
  rw [hparts]
  simp only [opening?_eq_some_iff, isSome_afterBlanks_iff, isSome_nameAt?_iff]
  constructor
  · rintro ⟨_, ⟨a, rfl⟩, b, _, rfl, r, rfl, h⟩
    exact ⟨a, b, r, rfl, h⟩
  · rintro ⟨a, b, r, rfl, h⟩
    exact ⟨_, ⟨a, rfl⟩, b, _, rfl, r, rfl, h⟩

/-! ### The pattern of a marker -/

namespace Pattern

/-- The patterns that a marker of the type is made of. -/
def markerParts (name : List Char) : List Pattern :=
  letters resourceMacro.toList ++ (star (.one .blank) :: letter '(' :: star (.one .blank) ::
    (letters name ++ [.place (.edge .boundary .word)]))

theorem parts_markerFrame (name : String) :
    markerFrame.parts name = markerParts name.toList := by
  have hlead : partsOf markerFrame.before = letters resourceMacro.toList ++
      [star (.one .blank), letter '(', star (.one .blank)] := by
    rw [show markerFrame.before = markerLead from rfl, markerLead, partsOf_append, partsOf_itemsOf]
    rfl
  rw [Frame.parts, hlead, List.append_assoc]
  rfl

theorem ordered_markerParts (name : List Char) : (inOrder (markerParts name)).Ordered := by
  have hletters : ∀ w, ∀ p ∈ letters w, p.Ordered := by
    intro w p hp
    obtain ⟨c, -, rfl⟩ := List.mem_map.mp hp
    exact trivial
  have hstar : (star (.one .blank)).Ordered := ⟨by simp, trivial⟩
  refine ordered_inOrder fun p hp => ?_
  simp only [markerParts, List.mem_append, List.mem_cons, List.not_mem_nil, or_false] at hp
  rcases hp with h | rfl | rfl | rfl | h | rfl
  · exact hletters _ p h
  · exact hstar
  · exact trivial
  · exact hstar
  · exact hletters _ p h
  · exact trivial

theorem spans_edge_iff {x y : Spot} :
    (Pattern.place (.edge .boundary .word)).Spans x y ↔
      y = x ∧ (x.before.any isWord != x.rest.head?.any isWord) = true := by
  have hword : CharSet.word.contains = isWord := funext CharSet.contains_word
  rw [← hword]
  rfl

/-- **What the pattern of a marker spans.** -/
theorem exists_spans_markerParts_iff {name : List Char} (hname : name ≠ []) (x : Spot) :
    (∃ y, (inOrder (markerParts name)).Spans x y) ↔ BeginsWithMarker name x.rest := by
  have hblank : CharSet.blank.contains = isBlank := funext CharSet.contains_blank
  have hbefore : ∀ (z : Spot) (r : List Char), (z.after name r).before = name.getLast? := by
    intro z r
    obtain ⟨c, hc⟩ := Option.ne_none_iff_exists'.mp (mt List.getLast?_eq_none_iff.mp hname)
    rw [Spot.after, hc]
    rfl
  simp only [markerParts, spans_inOrder_append, spans_inOrder_cons, spans_letters, spans_star,
    letter, spans_one, CharSet.contains_single, hblank, spans_edge_iff,
    spans_inOrder_nil]
  constructor
  · rintro ⟨_, _, ⟨t₁, h₁, rfl⟩, _, ⟨a, t₂, ha, h₂, rfl⟩, _, ⟨_, t₃, rfl, h₃, rfl⟩, _,
      ⟨b, t₄, hb, h₄, rfl⟩, _, ⟨r, h₅, rfl⟩, _, ⟨rfl, hedge⟩, -⟩
    rw [hbefore] at hedge
    refine ⟨⟨a, ha⟩, ⟨b, hb⟩, r, ?_, hedge⟩
    simp only [Spot.after] at h₂ h₃ h₄ h₅
    rw [h₁, h₂, h₃, h₄, h₅]
  · rintro ⟨a, b, r, hs, hedge⟩
    refine ⟨_, _, ⟨_, hs, rfl⟩, _, ⟨a.text, _, a.blank, rfl, rfl⟩, _, ⟨_, _, rfl, rfl, rfl⟩, _,
      ⟨b.text, _, b.blank, rfl, rfl⟩, _, ⟨r, rfl, rfl⟩, _, ⟨rfl, ?_⟩, rfl⟩
    rw [hbefore]
    exact hedge

end Pattern

/-- **The search and the reader mean the same lines.** -/
theorem isMatch_markerRequest {s : SearchSettings} {typeName : String} {p : Pattern}
    (hname : isIdentifier typeName.toList = true)
    (hp : Pattern.ofString? (markerRequest s typeName).pattern = some p) (l : Line) :
    p.isMatch l = (findMatch? (marker? typeName.toList) l).isSome := by
  have hne := (isWord_of_isIdentifier hname).1
  rw [← Pattern.text_markerFrame, Pattern.markerFrame.ofString?_text hne (plain_of_isIdentifier hname),
    Option.ite_none_right_eq_some, Pattern.parts_markerFrame] at hp
  obtain rfl := Option.some.inj hp.2
  rw [Bool.eq_iff_iff, Pattern.isMatch_iff (Pattern.ordered_markerParts _), isSome_findMatch?_iff]
  simp only [isSome_marker?_iff]
  constructor
  · rintro ⟨u, v, y, hl, hy⟩
    exact ⟨u, v, hl, (Pattern.exists_spans_markerParts_iff hne ⟨u.getLast?, v⟩).mp ⟨y, hy⟩⟩
  · rintro ⟨u, v, hl, hv⟩
    obtain ⟨y, hy⟩ := (Pattern.exists_spans_markerParts_iff hne ⟨u.getLast?, v⟩).mpr hv
    exact ⟨u, v, y, hl, hy⟩

end DeclAtlas
