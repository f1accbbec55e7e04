import DeclAtlas.Interface.ValueStruct
import DeclAtlas.Proofs.Interface.Growth
import DeclAtlas.Proofs.Nesting.SpannedCalls

/-!
# Recorded arguments

Two kinds of calls may span lines: those that write a documentation override, in a registration block
or in the declaration of a value struct, and the one that lists the fields of a value struct.  All of
them are gathered alike, and what is recorded is what is read of the lines gathered.  So all of them are
recorded rightly under the same condition: that the call stands alone
(`Nesting.SpannedCall.StandsAlone`).  A remark with parentheses behind the call is enough to break it
(`entries_of_remark`).
-/

namespace DeclAtlas

open Text Nesting

/-! ### Macros of spanning calls -/

theorem OverrideKind.isMacro (kind : OverrideKind) : IsMacro kind.macroName.toList := by
  cases kind <;> exact isMacro_cons (by decide) (by decide)

theorem isMacro_structMacro : IsMacro structMacro := isMacro_cons (by decide) (by decide)

/-! ### Field names -/

/-- What stands between the commas of a text, trimmed; nothing between two commas is no name. -/
def namesIn (args : List Char) : List String :=
  (((List.splitOn ',' args).map trim).filter (· ≠ [])).map String.ofList

theorem boundName_ofBound (bound : String) : (StructField.ofBound bound).boundName = bound := by
  rw [StructField.ofBound]
  split <;> rfl

theorem structFieldsOf_eq (args : List Char) :
    structFieldsOf args = (namesIn args).map StructField.ofBound := by
  have hfilter : ∀ l : List Char, (!l.isEmpty) = decide (l ≠ []) := by
    intro l
    cases l <;> rfl
  rw [structFieldsOf, namesIn, pieces_eq_splitOn, List.map_map]
  simp only [hfilter]
  rfl

/-- The names hold all characters that are neither blank nor commas. -/
theorem count_namesIn {x : Char} (hx : isBlank x = false) (hcomma : x ≠ ',') (args : List Char) :
    ((namesIn args).flatMap String.toList).count x = args.count x := by
  have hnames : (namesIn args).flatMap String.toList =
      ((List.splitOn ',' args).map trim).flatten := by
    rw [namesIn, List.flatMap_map, ← List.flatten_filter_ne_nil, ← List.flatMap_id']
    simp only [String.toList_ofList]
  obtain ⟨p, ps, hpieces⟩ := List.exists_cons_of_ne_nil (pieces_ne_nil ',' args)
  rw [hnames, count_flatten_map_trim hx, ← pieces_eq_splitOn, hpieces, List.flatten_cons,
    List.count_append, ← count_flatMap_cons hcomma.symm, ← List.count_append,
    ← eq_append_of_pieces hpieces]

theorem count_eq_of_structFieldsOf {a b : List Char}
    (h : structFieldsOf a = (namesIn b).map StructField.ofBound) {x : Char}
    (hx : isBlank x = false) (hcomma : x ≠ ',') : a.count x = b.count x := by
  have hnames : namesIn a = namesIn b := by
    have hbound := congrArg (List.map StructField.boundName) h
    have hid : StructField.boundName ∘ StructField.ofBound = id := funext boundName_ofBound
    rwa [structFieldsOf_eq, List.map_map, List.map_map, hid, List.map_id, List.map_id] at hbound
  rw [← count_namesIn hx hcomma, hnames, count_namesIn hx hcomma]

/-! ### Overrides -/

theorem content_gatherOverride_iff {kind : OverrideKind}
    (c : SpannedCall kind.macroName.toList) (after : List Line) :
    (gatherOverride kind (c.lines ++ after)).1.content = String.ofList c.argument ↔
      c.StandsAlone after := by
  constructor
  · intro h
    have hargument := String.ofList_injective h
    refine SpannedCall.standsAlone_of_count kind.isMacro ?_ ?_ <;> rw [hargument]
  · intro h
    exact congrArg String.ofList (SpannedCall.argumentOf_gather kind.isMacro h)

/-- The override that an entry declares, if it declares one. -/
def Entry.override? : Entry → Option DocOverride
  | .docOverride o => some o
  | _ => none

theorem docOverrides_addAll (es : List Entry) (i : Interface) :
    (i.addAll es).docOverrides = i.docOverrides ++ es.filterMap Entry.override? := by
  have hfold : (i.addAll es).docOverrides =
      (es.filterMap Entry.override?).foldl (fun os o => os ++ [o]) i.docOverrides :=
    Interface.field_addAll (fun _ e => by cases e <;> rfl) es i
  rw [hfold, List.foldl_append_eq_append, ← List.flatMap_def, List.flatMap_singleton']

/-- The number of lines, from that of a declaration on, that its overrides are looked for on. -/
def bodyLength (ls : List Line) (owner : Nat) : Nat :=
  (match blockAt? ls owner with
    | some b => b.last
    | none => ls.length - 1) + 1 - owner

theorem structOverrides_eq (ls : List Line) (owner : Nat) : structOverrides ls owner =
    readForms structOverride? (bodyLength ls owner) 0 (ls.drop owner) := rfl

theorem exists_docOverrides_register {block : List Line} {kind : OverrideKind}
    (r : ReachedCall (entryWith? forms) block kind.macroName.toList)
    (hskip : isSkippable (trim r.call.head) = false)
    (hclaim : claimWith? forms (trim r.call.head) = some (.spanning kind)) (i : Interface) :
    ∃ content later, (i.register block).docOverrides =
        i.docOverrides ++ (r.earlier.filterMap Entry.override? ++ ⟨kind, content⟩ :: later) ∧
      (content = String.ofList r.call.argument ↔ r.call.StandsAlone r.after) := by
  have hread : entryWith? forms r.call.head (r.call.lines.tail ++ r.after) =
      some (.docOverride (gatherOverride kind (r.call.lines ++ r.after)).1,
        (gatherOverride kind (r.call.lines ++ r.after)).2) := by
    rw [entryWith?, hskip, hclaim, r.call.lines_eq]
    rfl
  obtain ⟨later, hlater⟩ := r.exists_readForms_eq r.line_lt hread
  have hentries : entries block = r.earlier ++
      .docOverride (gatherOverride kind (r.call.lines ++ r.after)).1 :: later := hlater
  refine ⟨_, later.filterMap Entry.override?, ?_, content_gatherOverride_iff r.call r.after⟩
  rw [Interface.register, docOverrides_addAll, hentries, List.filterMap_append]
  rfl

theorem exists_structOverrides_eq {ls : List Line} {owner : Nat} {kind : OverrideKind}
    (r : ReachedCall structOverride? (ls.drop owner) kind.macroName.toList)
    (hkind : structOverrideKind? r.call.head = some kind) (hline : r.line < bodyLength ls owner) :
    ∃ content later, structOverrides ls owner = r.earlier ++ ⟨kind, content⟩ :: later ∧
      (content = String.ofList r.call.argument ↔ r.call.StandsAlone r.after) := by
  have hread : structOverride? r.call.head (r.call.lines.tail ++ r.after) =
      some (gatherOverride kind (r.call.lines ++ r.after)) := by
    rw [structOverride?, hkind, r.call.lines_eq]
    rfl
  obtain ⟨later, hlater⟩ := r.exists_readForms_eq hline hread
  exact ⟨_, later, (structOverrides_eq ls owner).trans hlater,
    content_gatherOverride_iff r.call r.after⟩

theorem structFieldsOf_gather_iff (c : SpannedCall structMacro) (after : List Line) :
    structFieldsOf (argumentOf structMacro (gather (c.lines ++ after)).joined) =
      (namesIn c.argument).map StructField.ofBound ↔ c.StandsAlone after := by
  constructor
  · intro h
    exact SpannedCall.standsAlone_of_count isMacro_structMacro
      (count_eq_of_structFieldsOf h (by decide) (by decide))
      (count_eq_of_structFieldsOf h (by decide) (by decide))
  · intro h
    rw [SpannedCall.argumentOf_gather isMacro_structMacro h, structFieldsOf_eq]

/-! ### What is recorded -/

/-- **A call is recorded with its own argument, and nothing else, exactly if it stands alone**,
wherever it is read: as an override in a registration block, as an override in the declaration of a
value struct, and as the list of fields of a value struct. -/
theorem recorded_iff_standsAlone (block : List Line) (typeName file text : String) :
    (∀ {kind : OverrideKind}
      (r : ReachedCall (entryWith? forms) block kind.macroName.toList),
      isSkippable (trim r.call.head) = false →
      claimWith? forms (trim r.call.head) = some (.spanning kind) → ∀ i : Interface,
      ∃ content later, (i.register block).docOverrides =
          i.docOverrides ++ (r.earlier.filterMap Entry.override? ++ ⟨kind, content⟩ :: later) ∧
        (content = String.ofList r.call.argument ↔ r.call.StandsAlone r.after)) ∧
    ∀ {i : Interface} {owner n : Nat},
      findStruct? typeName.toList (linesOf text) = some (owner, n) →
      Interface.ofStruct? typeName file text = some i →
      (∀ {kind : OverrideKind}
        (r : ReachedCall structOverride? ((linesOf text).drop owner) kind.macroName.toList),
        structOverrideKind? r.call.head = some kind → r.line < bodyLength (linesOf text) owner →
        ∃ content later, i.docOverrides = r.earlier ++ ⟨kind, content⟩ :: later ∧
          (content = String.ofList r.call.argument ↔ r.call.StandsAlone r.after)) ∧
      ∀ (c : SpannedCall structMacro) (after : List Line),
        (linesOf text).drop n = c.lines ++ after →
        (i.structFields = (namesIn c.argument).map StructField.ofBound ↔ c.StandsAlone after) := by
  refine ⟨exists_docOverrides_register, fun hfound hi => ?_⟩
  rw [Interface.ofStruct?, hfound, Option.map_some] at hi
  obtain rfl := Option.some.inj hi
  refine ⟨exists_structOverrides_eq, fun c after hlines => ?_⟩
  dsimp only
  rw [hlines]
  exact structFieldsOf_gather_iff c after

/-- An override of two lines, its parentheses nested, with a remark behind it. -/
def nestedCall (kind : OverrideKind) : SpannedCall kind.macroName.toList where
  before := [' ', ' ']
  gap := .none
  first := "B<C>(".toList
  later := ["    x), y".toList]
  rest := "; // end".toList
  unnamed := by cases kind <;> decide
  balanced := by decide

/-- A list of fields on two lines. -/
def fieldsCall : SpannedCall structMacro where
  before := [' ', ' ']
  gap := .none
  first := ['a', ',']
  later := ["    $b".toList]
  rest := [';']
  unnamed := by decide
  balanced := by decide

/-- Overrides and fields on two lines each, with nested parentheses and a remark behind them. -/
theorem recorded_nested_arguments :
    let block := "JSG_METHOD(a);".toList ::
      ((nestedCall .override).lines ++ ["JSG_METHOD(b);".toList])
    let text := "struct T \x7b\n  JSG_STRUCT(a,\n    $b);\n" ++
      "  JSG_STRUCT_TS_OVERRIDE(B<C>(\n    x), y); // end\n\x7d;\n"
    (∃ later, ((Interface.empty "T" (.resource none)).register block).docOverrides =
      ⟨.override, "B<C>( x), y"⟩ :: later) ∧
    ∃ i later, Interface.ofStruct? "T" "t.h" text = some i ∧
      i.docOverrides = ⟨.structOverride, "B<C>( x), y"⟩ :: later ∧
      i.structFields = [⟨"a", "a"⟩, ⟨"b", "$b"⟩] := by
  intro block text
  constructor
  · have hmethod : entryWith? forms "JSG_METHOD(a);".toList
        ((nestedCall .override).lines ++ ["JSG_METHOD(b);".toList]) =
          some (methodEntry false "a" "a", 0) := by decide +kernel
    let r : ReachedCall (entryWith? forms) block OverrideKind.override.macroName.toList :=
      { call := nestedCall .override
        line := 1
        after := ["JSG_METHOD(b);".toList]
        earlier := [methodEntry false "a" "a"]
        drop_eq := rfl
        reaches := .form hmethod (.start _) }
    have hskip : isSkippable (trim (nestedCall .override).head) = false := by decide +kernel
    have halone : (nestedCall .override).StandsAlone ["JSG_METHOD(b);".toList] := by decide
    obtain ⟨content, later, hread, hcontent⟩ := (recorded_iff_standsAlone block "T" "t.h" text).1 r
      hskip rfl (Interface.empty "T" (.resource none))
    have hargument : String.ofList (nestedCall .override).argument = "B<C>( x), y" := by
      decide +kernel
    rw [hcontent.mpr halone, hargument] at hread
    exact ⟨later, hread⟩
  · have hfound : findStruct? "T".toList (linesOf text) = some (0, 1) := by decide +kernel
    obtain ⟨i, hi⟩ : ∃ i, Interface.ofStruct? "T" "t.h" text = some i := by
      rw [Interface.ofStruct?, hfound]
      exact ⟨_, rfl⟩
    have htext : linesOf text = "struct T \x7b".toList ::
        (fieldsCall.lines ++ ((nestedCall .structOverride).lines ++ ["\x7d;".toList])) := by
      decide +kernel
    let r : ReachedCall structOverride? ((linesOf text).drop 0)
        OverrideKind.structOverride.macroName.toList :=
      { call := nestedCall .structOverride
        line := 3
        after := ["\x7d;".toList]
        earlier := []
        drop_eq := by decide +kernel
        reaches := by
          rw [List.drop_zero, htext]
          exact .pass rfl (.pass rfl (.pass rfl (.start _))) }
    obtain ⟨hoverride, hfields⟩ := (recorded_iff_standsAlone block "T" "t.h" text).2 hfound hi
    have hkind : structOverrideKind? (nestedCall .structOverride).head = some .structOverride := by
      decide +kernel
    have hline : 3 < bodyLength (linesOf text) 0 := by decide +kernel
    have halone : (nestedCall .structOverride).StandsAlone ["\x7d;".toList] := by decide
    obtain ⟨content, later, hread, hcontent⟩ := hoverride r hkind hline
    have hlines : (linesOf text).drop 1 =
        fieldsCall.lines ++ ((nestedCall .structOverride).lines ++ ["\x7d;".toList]) := by
      rw [htext, List.drop_one, List.tail_cons]
    have hargument : String.ofList (nestedCall .structOverride).argument = "B<C>( x), y" := by
      decide +kernel
    rw [hcontent.mpr halone, hargument] at hread
    refine ⟨i, later, hi, hread, ?_⟩
    rw [(hfields fieldsCall _ hlines).mpr (by decide)]
    decide +kernel

/-- **A remark with parentheses behind a call is recorded with it**, though the argument ends before. -/
theorem docOverrides_of_remark :
    let c : SpannedCall OverrideKind.override.macroName.toList :=
      ⟨[], .none, ['A'], [], "; // not B()".toList, by decide, by decide⟩
    c.lines = ["JSG_TS_OVERRIDE(A); // not B()".toList] ∧ c.argument = ['A'] ∧
      ((Interface.empty "T" (.resource none)).register c.lines).docOverrides =
        [⟨.override, "A); // not B("⟩] := by
  decide +kernel

end DeclAtlas
