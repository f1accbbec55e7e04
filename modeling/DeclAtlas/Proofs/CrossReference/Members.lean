import DeclAtlas.Proofs.CrossReference.Independence
import DeclAtlas.Proofs.Interface.Claims
import DeclAtlas.Proofs.Interface.Confinement
import DeclAtlas.Proofs.Interface.Patterns
import DeclAtlas.Proofs.Interface.TableOrder
import DeclAtlas.Proofs.Text.Words

/-!
# Registered members and the interface

A block is read twice.  The interface reads it by the table of forms, passes over comments and takes an
override as a whole.  The cross reference lists its lines that mention the macro of a member, and knows
neither comments nor overrides.

The mention is a matter of single words (`isMemberLine_iff`), and a line that a form claims has the
name of the form as a word.  So a line that declares a method or a property is listed, unless its form
is one of three that the list of macros leaves out (`unlistedMacros`) and no other word stands in for
it.  A line that the interface does not read is listed if it mentions a member
(`members_of_registration`).
-/

namespace DeclAtlas

open Text Nesting

/-! ### Lines that mention a member -/

namespace CrossReference

theorem word_memberStems : ∀ m ∈ memberStems, ("JSG_" ++ m).toList ≠ [] ∧
    ("JSG_" ++ m).toList.all isWord = true := by decide +kernel

/-- **A member is mentioned in a word.** -/
theorem isMemberLine_iff (l : Line) :
    isMemberLine l = true ↔ ∃ w ∈ words l, isMemberLine w = true := by
  have hstem : ∀ m ∈ memberStems, (containsString ("JSG_" ++ m) l = true ↔
      ∃ w ∈ words l, containsString ("JSG_" ++ m) w = true) := by
    intro m hm
    obtain ⟨hne, hword⟩ := word_memberStems m hm
    simp only [containsString, contains_iff]
    exact infix_iff_exists_mem_words (List.all_eq_true.mp hword) hne l
  simp only [isMemberLine, List.any_eq_true]
  constructor
  · rintro ⟨m, hm, hl⟩
    obtain ⟨w, hw, hmw⟩ := (hstem m hm).mp hl
    exact ⟨w, hw, m, hm, hmw⟩
  · rintro ⟨w, hw, m, hm, hmw⟩
    exact ⟨m, hm, (hstem m hm).mpr ⟨w, hw, hmw⟩⟩

theorem isMemberLine_trim (l : Line) : isMemberLine (trim l) = isMemberLine l := by
  rw [Bool.eq_iff_iff, isMemberLine_iff, words_trim, ← isMemberLine_iff]

/-- The members of a block that has few of them: a line is listed if it mentions one. -/
theorem mem_membersAt_iff {content : String} {line : Nat} {b : Block} {l : Line}
    (hblock : blockAt? (linesOf content) (line - 1) = some b)
    (hfew : b.lines.countP isMemberLine ≤ memberLimit) (hl : l ∈ b.lines) :
    String.ofList (trim l) ∈ membersAt content line ↔ isMemberLine l = true := by
  have hcount : ((b.lines.map trim).filter isMemberLine).length ≤ memberLimit := by
    have htrim : isMemberLine ∘ trim = isMemberLine := funext isMemberLine_trim
    rwa [← List.countP_eq_length_filter, List.countP_map, htrim]
  rw [membersAt, hblock]
  dsimp only
  have hinj : Function.Injective String.ofList := fun _ _ => String.ofList_injective
  rw [List.take_of_length_le hcount, List.mem_map_of_injective hinj, List.mem_filter,
    isMemberLine_trim]
  exact and_iff_right (List.mem_map_of_mem hl)

theorem membersOf_of_head? {read : String → Except String String} {root content : String}
    {hits : List Hit} {h : Hit} (hhit : hits.head? = some h)
    (hread : read (Path.join root h.path) = .ok content) :
    membersOf read root hits = membersAt content h.line := by
  rw [membersOf, hhit]
  dsimp only
  rw [registeredMembersAt]
  dsimp only [bind, pure]
  rw [hread]

end CrossReference

/-! ### Lines that declare a member -/

/-- The macros of members that the cross reference does not know. -/
def unlistedMacros : List String :=
  ["JSG_STATIC_READONLY_PROPERTY_NAMED", "JSG_STATIC_READONLY_PROPERTY", "JSG_INSPECT_PROPERTY"]

theorem Form.isMemberLine_name_iff : ∀ f ∈ forms, f.kind = .method ∨ f.kind = .property →
    (CrossReference.isMemberLine f.name.toList = true ↔ f.name ∉ unlistedMacros) := by
  decide +kernel

/-- A line that declares a member mentions one by the name of its form, or by another word. -/
theorem Claimed.isMemberLine_iff {block : List Line} {n : Nat} {l : Line} {f : Form}
    (h : Claimed block n l f) (hkind : f.kind = .method ∨ f.kind = .property) :
    CrossReference.isMemberLine l = true ↔ f.name ∉ unlistedMacros ∨
      ∃ w ∈ words l, w ≠ f.name.toList ∧ CrossReference.isMemberLine w = true := by
  have hname : f.name.toList ∈ words l := by
    rw [← words_trim]
    exact f.mem_words_of_claim? h.mem_forms (isSome_claim?_of_formOn? h.form)
  rw [CrossReference.isMemberLine_iff, ← f.isMemberLine_name_iff h.mem_forms hkind]
  constructor
  · rintro ⟨w, hw, hmember⟩
    by_cases heq : w = f.name.toList
    · exact .inl (heq ▸ hmember)
    · exact .inr ⟨w, hw, heq, hmember⟩
  · rintro (hmember | ⟨w, hw, -, hmember⟩)
    · exact ⟨_, hname, hmember⟩
    · exact ⟨w, hw, hmember⟩

namespace Interface

theorem mem_methods_add {i : Interface} {e : Entry} {m : Method} (h : m ∈ (i.add e).methods) :
    m ∈ i.methods ∨ .method m = e := by
  cases e with
  | method m' => exact (mem_appendNew h).imp_right (congrArg Entry.method)
  | _ => exact .inl h

theorem mem_properties_add {i : Interface} {e : Entry} {p : Property}
    (h : p ∈ (i.add e).properties) : p ∈ i.properties ∨ .property p = e := by
  cases e with
  | property p' => exact (mem_appendNew h).imp_right (congrArg Entry.property)
  | _ => exact .inl h

/-- What the entries put in a list is declared by one of them, if it is so for one entry. -/
theorem mem_addAll {α : Type} {list : Interface → List α} {make : α → Entry}
    (hadd : ∀ {i e a}, a ∈ list (i.add e) → a ∈ list i ∨ make a = e) {a : α} (es : List Entry) :
    ∀ i : Interface, a ∈ list (i.addAll es) → a ∈ list i ∨ make a ∈ es := by
  induction es with
  | nil => exact fun _ => .inl
  | cons e es ih =>
    intro i h
    rcases ih (i.add e) h with h | h
    · exact (hadd h).imp_right fun heq => List.mem_cons.mpr (.inl heq)
    · exact .inr (List.mem_cons_of_mem e h)

end Interface

/-! ### Lines that are not read -/

/-- Line `n` of a block is a comment, or it is taken by an override that begins above it. -/
inductive Unread (block : List Line) (n : Nat) (l : Line) : Prop
  | comment {es : List Entry} (reached : Reaches (entryWith? forms) block es n)
    (line : block[n]? = some l) (skipped : isSkippable (trim l) = true)
  | taken {es : List Entry} {j : Nat} {first : Line} {later : List Line} {kind : OverrideKind}
    (reached : Reaches (entryWith? forms) block es j) (begins : block.drop j = first :: later)
    (override : overrideOn? first = some kind) (above : j < n)
    (within : n ≤ j + (gather (first :: later)).extra) (line : block[n]? = some l)

theorem Unread.mem {block : List Line} {n : Nat} {l : Line} (h : Unread block n l) : l ∈ block := by
  cases h with
  | comment reached line skipped => exact List.mem_of_getElem? line
  | taken reached begins override above within line => exact List.mem_of_getElem? line

open CrossReference

/-- **What is listed of a block that the interface is read from.**  Let the first hit for the
registration of a symbol be the marker that its interface is read from.  Each method and each property
of the interface is then declared on a line of the block that is registered there.  If no more than
`memberLimit` lines of the block mention a member, such a line is listed exactly if its macro is known or
another of its words mentions a member.  And of the lines that the interface does not read, just those
are listed that mention a member in some word. -/
theorem members_of_registration {symbol content : String} {h : Hit} {i : Interface}
    (hsymbol : checkIdentifier .symbol symbol = .ok ())
    (search : SearchRequest → Except SourceError (List Hit)) (read : String → Except String String)
    (root : String) (s : SearchSettings)
    (hhit : (orEmpty (search (registrationOf s symbol))).head? = some h)
    (hread : read (Path.join root h.path) = .ok content)
    (hi : readResource symbol h.path content = .ok i) (hline : i.location.line = h.line) :
    ∃ b x, blockAt? (linesOf content) (h.line - 1) = some b ∧
      lookupCrossReference (m := Id) search read root s symbol = .ok x ∧
      (∀ m ∈ i.methods, ∃ n l f, Claimed b.lines n l f ∧
        f.claim? (trim l) = some (.entry (.method m))) ∧
      (∀ p ∈ i.properties, ∃ n l f, Claimed b.lines n l f ∧
        f.claim? (trim l) = some (.entry (.property p))) ∧
      (b.lines.countP isMemberLine ≤ memberLimit →
        (∀ n l f, Claimed b.lines n l f → f.kind = .method ∨ f.kind = .property →
          (String.ofList (trim l) ∈ x.registeredMembers ↔ f.name ∉ unlistedMacros ∨
            ∃ w ∈ words l, w ≠ f.name.toList ∧ isMemberLine w = true)) ∧
        ∀ n l, Unread b.lines n l →
          (String.ofList (trim l) ∈ x.registeredMembers ↔
            ∃ w ∈ words l, isMemberLine w = true)) := by
  obtain ⟨n, condition, b, -, hblock, hib⟩ := Interface.exists_of_readResource hi
  have hgrows := Interface.growsTo_addAll (entries b.lines)
    { Interface.empty symbol (.resource condition) with location := ⟨h.path, n + 1⟩ }
  -- the interface is at its marker, and this is the hit, so both readings are of one block
  have hblock : blockAt? (linesOf content) (h.line - 1) = some b := by
    have hlocation : i.location.line = n + 1 := by
      rw [hib]
      exact congrArg Location.line hgrows.location
    rw [← hline, hlocation]
    exact hblock
  have hmembers := membersOf_of_head? hhit hread
  refine ⟨b, _, hblock, lookupCrossReference_eq_reportOf read root search s hsymbol,
    fun m hm => ?_, fun p hp => ?_, fun hfew => ⟨fun n l f hclaimed hkind => ?_, fun n l hl => ?_⟩⟩
  · rw [hib] at hm
    rcases Interface.mem_addAll Interface.mem_methods_add _ _ hm with hm | hm
    · exact absurd hm List.not_mem_nil
    · exact exists_claim?_of_mem_entries hm (by decide : EntryKind.method ≠ _)
  · rw [hib] at hp
    rcases Interface.mem_addAll Interface.mem_properties_add _ _ hp with hp | hp
    · exact absurd hp List.not_mem_nil
    · exact exists_claim?_of_mem_entries hp (by decide : EntryKind.property ≠ _)
  · show String.ofList (trim l) ∈ membersOf read root _ ↔ _
    have hmem := List.mem_of_getElem? hclaimed.line
    rw [← hclaimed.isMemberLine_iff hkind, ← mem_membersAt_iff hblock hfew hmem]
    exact hmembers ▸ Iff.rfl
  · show String.ofList (trim l) ∈ membersOf read root _ ↔ _
    rw [← isMemberLine_iff, ← mem_membersAt_iff hblock hfew hl.mem]
    exact hmembers ▸ Iff.rfl

/-! ### A block that is read in two ways -/

/-- A block with a comment, a method, a property and an override of three lines. -/
def penBlock : List Line :=
  ["JSG_RESOURCE_TYPE(Pen) \x7b".toList, "  // JSG_METHOD(old);".toList,
    "  JSG_METHOD(write);".toList, "  JSG_STATIC_READONLY_PROPERTY(width);".toList,
    "  JSG_TS_OVERRIDE(Pen \x7b".toList, "    JSG_METHOD(typed);".toList, "  \x7d);".toList,
    "\x7d".toList]

/-- The header with this block. -/
def penHeader : String := String.ofList (penBlock.flatMap fun l => l ++ ['\n'])

/-- A search that finds the marker of the header, whatever is looked for. -/
def searchPen (_ : SearchRequest) : Except SourceError (List Hit) := .ok [⟨"pen.h", 1, ""⟩]

/-- A reader that knows no other file. -/
def readPen (_ : String) : Except String String := .ok penHeader

theorem registered_penHeader :
    findMarker? "Pen".toList (linesOf penHeader) = some (0, none) ∧
      blockAt? (linesOf penHeader) 0 = some ⟨0, penBlock⟩ := by
  have hlines : linesOf penHeader = penBlock := by
    rw [linesOf, penHeader, String.toList_ofList]
    decide +kernel
  rw [hlines]
  decide +kernel

theorem readResource_penHeader : ∃ i, readResource "Pen" "pen.h" penHeader = .ok i ∧
    i.location.line = 1 ∧ i.properties.map Property.jsName = ["width"] := by
  obtain ⟨hmarker, hblock⟩ := registered_penHeader
  have hadmitted : Pattern.isAdmitted (conditionPattern "Pen") = true :=
    isAdmitted_conditionPattern (by decide +kernel) (by decide +kernel)
  have hentries : entries penBlock = [methodEntry false "write" "write",
      getterEntry .onConstructor true false "width" "width",
      .docOverride ⟨.override, "Pen \x7b JSG_METHOD(typed); \x7d"⟩] := by
    decide +kernel
  rw [readResource, if_pos hadmitted, Interface.ofResource_eq_ok hmarker hblock,
    Interface.register, hentries]
  exact ⟨_, rfl, rfl, rfl⟩

/-- The reading comes to the comment, the method, the property and the override. -/
theorem reaches_penBlock : Reaches (entryWith? forms) penBlock [] 1 ∧
    Reaches (entryWith? forms) penBlock [] 2 ∧ (∃ es, Reaches (entryWith? forms) penBlock es 3) ∧
    ∃ es, Reaches (entryWith? forms) penBlock es 4 := by
  obtain ⟨hmarker, hremark, hmethod, hwidth⟩ :
      entryWith? forms "JSG_RESOURCE_TYPE(Pen) \x7b".toList (penBlock.drop 1) = none ∧
      entryWith? forms "  // JSG_METHOD(old);".toList (penBlock.drop 2) = none ∧
      entryWith? forms "  JSG_METHOD(write);".toList (penBlock.drop 3) =
        some (methodEntry false "write" "write", 0) ∧
      entryWith? forms "  JSG_STATIC_READONLY_PROPERTY(width);".toList (penBlock.drop 4) =
        some (getterEntry .onConstructor true false "width" "width", 0) := by
    decide +kernel
  exact ⟨.pass hmarker (.start _), .pass hmarker (.pass hremark (.start _)),
    ⟨_, .pass hmarker (.pass hremark (.form hmethod (.start _)))⟩,
    ⟨_, .pass hmarker (.pass hremark (.form hmethod (.form hwidth (.start _))))⟩⟩

theorem exists_claimed_penBlock {n : Nat} {l : Line} {kind : EntryKind} {name : String}
    (hreached : ∃ es, Reaches (entryWith? forms) penBlock es n) (hline : penBlock[n]? = some l)
    (hform : (formOn? l).map (fun f => (f.kind, f.name)) = some (kind, name)) :
    ∃ f, Claimed penBlock n l f ∧ f.kind = kind ∧ f.name = name := by
  obtain ⟨f, hf, heq⟩ := Option.map_eq_some_iff.mp hform
  obtain ⟨hkind, hname⟩ := Prod.mk.inj heq
  exact ⟨f, ⟨hreached, hline, hf⟩, hkind, hname⟩

/-- The method of the block is listed. -/
theorem members_of_registration_pen :
    let h : Hit := ⟨"pen.h", 1, ""⟩
    (checkIdentifier .symbol "Pen" = .ok () ∧
      (orEmpty (searchPen (registrationOf {} "Pen"))).head? = some h ∧
      readPen (Path.join "/repo" h.path) = .ok penHeader ∧
      ∃ i, readResource "Pen" h.path penHeader = .ok i ∧ i.location.line = h.line) ∧
    ∃ x, lookupCrossReference (m := Id) searchPen readPen "/repo" {} "Pen" = .ok x ∧
      "JSG_METHOD(write);" ∈ x.registeredMembers := by
  intro h
  have hsymbol : checkIdentifier .symbol "Pen" = .ok () := if_pos (by decide +kernel)
  have hhit : (orEmpty (searchPen (registrationOf {} "Pen"))).head? = some h := rfl
  have hread : readPen (Path.join "/repo" h.path) = .ok penHeader := rfl
  obtain ⟨i, hi, hline, -⟩ := readResource_penHeader
  obtain ⟨b, x, hblock, hx, -, -, hlisted⟩ :=
    members_of_registration hsymbol searchPen readPen "/repo" {} hhit hread hi hline
  obtain rfl : ⟨0, penBlock⟩ = b := Option.some.inj (registered_penHeader.2.symm.trans hblock)
  obtain ⟨hdeclared, -⟩ := hlisted (by decide +kernel)
  obtain ⟨f, hclaimed, hkind, hname⟩ : ∃ f, Claimed penBlock 2 "  JSG_METHOD(write);".toList f ∧
      f.kind = .method ∧ f.name = "JSG_METHOD" :=
    exists_claimed_penBlock ⟨[], reaches_penBlock.2.1⟩ rfl (by decide +kernel)
  have hknown : f.name ∉ unlistedMacros := by
    rw [hname]
    decide
  have hmember := (hdeclared _ _ f hclaimed (.inl hkind)).mpr (.inl hknown)
  have htext : String.ofList (trim "  JSG_METHOD(write);".toList) = "JSG_METHOD(write);" := by
    decide +kernel
  exact ⟨⟨hsymbol, hhit, hread, i, hi, hline⟩, x, hx, htext ▸ hmember⟩

/-- **The two readings of a block disagree.**  A property of the interface is not listed, but the comment
and the line inside the override are. -/
theorem members_unlike_interface :
    ∃ x i, lookupCrossReference (m := Id) searchPen readPen "/repo" {} "Pen" = .ok x ∧
      readResource "Pen" "pen.h" penHeader = .ok i ∧ i.location.line = 1 ∧
      penBlock.countP isMemberLine ≤ memberLimit ∧
      (i.properties.map Property.jsName = ["width"] ∧ ∃ f, f.kind = .property ∧
        Claimed penBlock 3 "  JSG_STATIC_READONLY_PROPERTY(width);".toList f ∧
        "JSG_STATIC_READONLY_PROPERTY(width);" ∉ x.registeredMembers) ∧
      (Unread penBlock 1 "  // JSG_METHOD(old);".toList ∧
        "// JSG_METHOD(old);" ∈ x.registeredMembers) ∧
      Unread penBlock 5 "    JSG_METHOD(typed);".toList ∧
        "JSG_METHOD(typed);" ∈ x.registeredMembers := by
  have hsymbol : checkIdentifier .symbol "Pen" = .ok () := if_pos (by decide +kernel)
  obtain ⟨i, hi, hline, hproperties⟩ := readResource_penHeader
  obtain ⟨hremark, -, hwidth, es, hoverride⟩ := reaches_penBlock
  have hmembers : membersOf readPen "/repo" (orEmpty (searchPen (registrationOf {} "Pen"))) =
      membersAt penHeader 1 := membersOf_of_head? (h := ⟨"pen.h", 1, ""⟩) rfl rfl
  have hlisted : membersAt penHeader 1 = ["// JSG_METHOD(old);", "JSG_METHOD(write);",
      "JSG_TS_OVERRIDE(Pen \x7b", "JSG_METHOD(typed);"] := by
    have hblock : blockAt? (linesOf penHeader) (1 - 1) = some ⟨0, penBlock⟩ :=
      registered_penHeader.2
    rw [membersAt, hblock]
    decide +kernel
  obtain ⟨f, hclaimed, hkind, -⟩ : ∃ f,
      Claimed penBlock 3 "  JSG_STATIC_READONLY_PROPERTY(width);".toList f ∧
      f.kind = .property ∧ f.name = "JSG_STATIC_READONLY_PROPERTY" :=
    exists_claimed_penBlock hwidth rfl (by decide +kernel)
  have hcomment : Unread penBlock 1 "  // JSG_METHOD(old);".toList :=
    .comment hremark rfl (by decide +kernel)
  have htaken : Unread penBlock 5 "    JSG_METHOD(typed);".toList :=
    .taken hoverride rfl (by decide +kernel : overrideOn? _ = some .override) (by decide)
      (by decide +kernel) rfl
  refine ⟨_, i, lookupCrossReference_eq_reportOf _ _ _ _ hsymbol, hi, hline, by decide +kernel,
    ⟨hproperties, f, hkind, hclaimed, ?_⟩, ⟨hcomment, ?_⟩, htaken, ?_⟩
  · show _ ∉ membersOf readPen "/repo" (orEmpty (searchPen (registrationOf {} "Pen")))
    rw [hmembers, hlisted]
    decide
  · show _ ∈ membersOf readPen "/repo" (orEmpty (searchPen (registrationOf {} "Pen")))
    rw [hmembers, hlisted]
    decide
  · show _ ∈ membersOf readPen "/repo" (orEmpty (searchPen (registrationOf {} "Pen")))
    rw [hmembers, hlisted]
    decide

end DeclAtlas
