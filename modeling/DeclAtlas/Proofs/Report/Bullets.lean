import DeclAtlas.Proofs.Interface.IteratorDeclarations
import DeclAtlas.Proofs.Interface.StoredTexts
import DeclAtlas.Report

/-!
# One line for each item

The report on a resource type has a line with a bullet for each item that is registered.  The lines are
put together section by section, and so is what is known of them (`Bulleted`): none of them holds a
line feed, and the ones with a bullet are the items.

The iterator declarations are the exception.  They are recorded as they are written, and a macro may be
written on several lines, so a line of the report may come apart in the text
(`lines_of_resource_report`).  What is cut off has no bullet, because nothing in a declaration could be
one.
-/

namespace DeclAtlas

open Text Nesting

namespace Markdown

/-- Whether a line has a bullet. -/
def isBullet (l : Line) : Bool := startsWith ['-', ' '] l

/-- The lines of a text that have a bullet. -/
def bulletLines (text : String) : List Line := (pieces '\n' text.toList).filter isBullet

/-! ### Lines of a report -/

/-- Lines of a report without line feeds, and the ones among them that have a bullet. -/
structure Bulleted (ls items : List String) : Prop where
  oneLine : ∀ l ∈ ls, OneLine l
  items : ls.filter (fun l => isBullet l.toList) = items

namespace Bulleted

variable {a b x y : List String} {s : String}

theorem nil : Bulleted [] [] := ⟨nofun, rfl⟩

theorem append (h : Bulleted a x) (h' : Bulleted b y) : Bulleted (a ++ b) (x ++ y) where
  oneLine := List.forall_mem_append.mpr ⟨h.oneLine, h'.oneLine⟩
  items := by rw [List.filter_append, h.items, h'.items]

theorem line (hs : OneLine s) (hbullet : isBullet s.toList = false) : Bulleted [s] [] where
  oneLine := List.forall_mem_singleton.mpr hs
  items := List.filter_cons_of_neg (by simp [hbullet])

theorem heading (hs : OneLine s) (hbullet : isBullet s.toList = false) :
    Bulleted (Markdown.heading s) [] :=
  (line hs hbullet).append (line (s := "") (by simp [OneLine]) rfl)

/-- Lines all of which have a bullet. -/
theorem map {α : Type} {item : α → String} {xs : List α} (hitem : ∀ x ∈ xs, OneLine (item x))
    (hbullet : ∀ x, isBullet (item x).toList = true) : Bulleted (xs.map item) (xs.map item) where
  oneLine := List.forall_mem_map.mpr hitem
  items := List.filter_eq_self.mpr (List.forall_mem_map.mpr fun x _ => hbullet x)

theorem itemSection {α : Type} {title : String} {item : α → String} {xs : List α}
    (htitle : OneLine title) (hitem : ∀ x ∈ xs, OneLine (item x))
    (hbullet : ∀ x, isBullet (item x).toList = true) :
    Bulleted (Markdown.itemSection title item xs) (xs.map item) := by
  unfold Markdown.itemSection
  split
  · rename_i hempty
    rw [List.isEmpty_iff.mp hempty]
    exact nil
  · have hhead : Bulleted (Markdown.heading ("### " ++ title)) [] :=
      heading (oneLine_append.mpr ⟨by decide, htitle⟩) (by simp [isBullet, startsWith, dropLead?])
    have hlines := (hhead.append (map hitem hbullet)).append (line (s := "") (by decide) rfl)
    simpa using hlines

end Bulleted

/-! ### Items -/

section Items

variable {s t : String}

theorem oneLine_code : OneLine (code s) ↔ OneLine s := by
  simp only [code, oneLine_append]
  exact ⟨fun h => h.1.2, fun h => ⟨⟨by decide, h⟩, by decide⟩⟩

theorem isBullet_append (s : String) : isBullet ("- " ++ s).toList = true := by
  rw [String.toList_append]
  exact startsWith_append _ _

theorem oneLine_commas {xs : List String} (h : ∀ x ∈ xs, OneLine x) : OneLine (commas xs) := by
  unfold OneLine commas
  rw [String.toList_intercalate]
  induction xs with
  | nil => simp
  | cons x xs ih =>
    obtain ⟨hx, hxs⟩ := List.forall_mem_cons.mp h
    have hx : '\n' ∉ x.toList := hx
    cases xs with
    | nil => simpa using hx
    | cons y ys =>
      simp only [List.map_cons, List.intercalate_cons_cons, List.mem_append, not_or] at ih ⊢
      exact ⟨⟨hx, by decide⟩, ih hxs⟩

theorem oneLine_boundTo (ht : OneLine t) : OneLine (boundTo s t) := by
  unfold boundTo
  split
  · decide
  · exact oneLine_append.mpr ⟨by decide, oneLine_code.mpr ht⟩

theorem oneLine_inheritanceItem {x : Inheritance} (hx : OneLine x.target) :
    OneLine (inheritanceItem x) := by
  cases x <;> exact oneLine_append.mpr ⟨oneLine_append.mpr ⟨by decide, hx⟩, by decide⟩

theorem oneLine_methodItem {m : Method} (hm : m.EveryText OneLine) : OneLine (methodItem m) := by
  simp only [methodItem, oneLine_append]
  refine ⟨⟨⟨by decide, oneLine_code.mpr hm.1⟩, oneLine_boundTo hm.2⟩, ?_⟩
  split <;> decide

theorem oneLine_propertyItem {p : Property} (hp : p.EveryText OneLine) :
    OneLine (propertyItem p) := by
  have hmarks : ∀ (q : Placement) (readonly lazy : Bool), OneLine (commas
      (placementText q :: (if readonly then ["readonly"] else []) ++
        if lazy then ["lazy"] else [])) := by
    intro q readonly lazy
    cases q <;> cases readonly <;> cases lazy <;> decide +kernel
  obtain ⟨hjs, hgetter, hsetter⟩ := hp
  simp only [propertyItem, oneLine_append]
  refine ⟨⟨⟨⟨⟨⟨⟨by decide, oneLine_code.mpr hjs⟩, by decide⟩, oneLine_code.mpr hgetter⟩, ?_⟩,
    by decide⟩, hmarks _ _ _⟩, by decide⟩
  cases hs : p.setter with
  | none => decide
  | some s => exact oneLine_append.mpr ⟨by decide, oneLine_code.mpr (hsetter s hs)⟩

theorem oneLine_constantItem {c : Constant} (hc : c.EveryText OneLine) :
    OneLine (constantItem c) := by
  simp only [constantItem, oneLine_append]
  refine ⟨⟨by decide, oneLine_code.mpr hc.1⟩, ?_⟩
  split
  · decide
  · exact oneLine_append.mpr ⟨by decide, oneLine_code.mpr hc.2⟩

theorem oneLine_nestedTypeItem {t : NestedType} (ht : t.EveryText OneLine) :
    OneLine (nestedTypeItem t) := by
  simp only [nestedTypeItem, oneLine_append]
  exact ⟨⟨by decide, oneLine_code.mpr ht.1⟩, oneLine_boundTo ht.2⟩

theorem oneLine_hookItem {symbol : HookKind → String} (hsymbol : ∀ k, OneLine (symbol k))
    {h : Hook} (hh : OneLine h.method) : OneLine (hookItem symbol h) := by
  simp only [hookItem, oneLine_append]
  exact ⟨⟨⟨by decide, oneLine_code.mpr (hsymbol h.kind)⟩, by decide⟩, oneLine_code.mpr hh⟩

theorem oneLine_preview (hs : OneLine s) : OneLine (preview s) := by
  unfold preview
  split
  · refine oneLine_append.mpr ⟨fun h => hs ?_, by decide⟩
    rw [String.toList_ofList] at h
    exact List.mem_of_mem_take h
  · exact hs

theorem oneLine_overrideItem {o : DocOverride} (ho : OneLine o.content) :
    OneLine (overrideItem o) := by
  have hmacro : OneLine o.kind.macroName := by cases o.kind <;> decide
  simp only [overrideItem, oneLine_append]
  exact ⟨⟨⟨by decide, oneLine_code.mpr hmacro⟩, by decide⟩, oneLine_preview ho⟩

theorem isBullet_inheritanceItem (x : Inheritance) : isBullet (inheritanceItem x).toList = true := by
  cases x with
  | ofType t =>
    show isBullet ("- JSG_INHERIT(" ++ t ++ ")").toList = true
    rw [String.toList_append, String.toList_append]
    rfl
  | intrinsic t =>
    show isBullet ("- JSG_INHERIT_INTRINSIC(" ++ t ++ ")").toList = true
    rw [String.toList_append, String.toList_append]
    rfl

theorem isBullet_methodItem (m : Method) : isBullet (methodItem m).toList = true := by
  simp only [methodItem, String.append_assoc, isBullet_append]

theorem isBullet_propertyItem (p : Property) : isBullet (propertyItem p).toList = true := by
  simp only [propertyItem, String.append_assoc, isBullet_append]

theorem isBullet_constantItem (c : Constant) : isBullet (constantItem c).toList = true := by
  simp only [constantItem, String.append_assoc, isBullet_append]

theorem isBullet_nestedTypeItem (t : NestedType) : isBullet (nestedTypeItem t).toList = true := by
  simp only [nestedTypeItem, String.append_assoc, isBullet_append]

theorem isBullet_hookItem (symbol : HookKind → String) (h : Hook) :
    isBullet (hookItem symbol h).toList = true := by
  simp only [hookItem, String.append_assoc, isBullet_append]

theorem isBullet_overrideItem (o : DocOverride) : isBullet (overrideItem o).toList = true := by
  simp only [overrideItem, String.append_assoc, isBullet_append]

theorem oneLine_text {l : Location} (hl : OneLine l.file) : OneLine l.text := by
  have hline : OneLine (toString l.line) := by
    intro h
    rw [Nat.toString_eq_repr, Nat.toList_repr] at h
    exact absurd (Nat.isDigit_of_mem_toDigits (by decide) (by decide) h) (by decide)
  simp only [Location.text, oneLine_append]
  exact ⟨⟨hl, by decide⟩, hline⟩

end Items

/-! ### The report on a resource type -/

/-- The line of a serialization. -/
def serializationItem (t : SerializationTag) : String :=
  "- " ++ ((if t.oneWay then "one-way serializable" else "serializable") ++ " with tag " ++
    code t.tag)

/-- The line of a callable. -/
def callableItem (c : String) : String := "- " ++ ("Invocable via " ++ code c)

/-- The line of a wildcard getter. -/
def wildcardItem (g : String) : String := "- " ++ ("Catch-all getter: " ++ code g)

/-- The lines with a bullet in the report on a resource type, up to the iterator declarations. -/
def resourceItems (i : Interface) : List String :=
  i.inheritedFrom.map inheritanceItem ++
  i.methods.map methodItem ++
  i.properties.map propertyItem ++
  i.constants.map constantItem ++
  i.nestedTypes.map nestedTypeItem ++
  i.iterators.map (hookItem iteratorSymbol) ++
  i.serializationTag.toList.map serializationItem ++
  i.callableVia.toList.map callableItem ++
  i.wildcardGetter.toList.map wildcardItem ++
  i.disposers.map (hookItem disposalSymbol) ++
  i.docOverrides.map overrideItem ++
  i.scriptBundles.map fun b => "- " ++ code b

/-- The lines before the sections. -/
def preambleLines (i : Interface) (condition : Option String) : List String :=
  heading ("## Interface: " ++ i.typeName) ++
  ["**File:** " ++ code i.location.text] ++
  (match condition with
    | some c => ["**Config:** " ++ code c ++ " (conditional registration)"]
    | none => []) ++
  (if i.alsoRegisteredIn.isEmpty then []
    else ["**Also registered in:** " ++ commas (i.alsoRegisteredIn.map fun l => code l.text) ++
      " (may be a nested class with the same name)"]) ++
  [""]

/-- The line of an iterator declaration. -/
def iteratorItem (d : String) : String := "- " ++ code d

/-- The lines of the iterator declarations. -/
def iteratorLines (i : Interface) : List String :=
  if i.iteratorDeclarations.isEmpty then []
  else "**Iterator declarations:**" :: i.iteratorDeclarations.map iteratorItem

/-- A section with a single item. -/
theorem Bulleted.singleSection {α : Type} {title : String} {item : α → String} {x : Option α}
    (htitle : OneLine title) (hitem : ∀ a ∈ x, OneLine (item a)) :
    Bulleted (Markdown.singleSection title (x.map item))
      (x.toList.map fun a => "- " ++ item a) := by
  have hmap : (x.map item).toList.map (fun s => "- " ++ s) = x.toList.map fun a => "- " ++ item a := by
    cases x <;> rfl
  rw [← hmap]
  refine itemSection htitle (fun s hs => ?_) isBullet_append
  obtain ⟨a, ha, rfl⟩ := Option.map_eq_some_iff.mp (Option.mem_toList.mp hs)
  exact oneLine_append.mpr ⟨by decide, hitem a ha⟩

/-- A section of hooks, each shown with the symbol of its protocol. -/
theorem Bulleted.hookSection {title : String} {symbol : HookKind → String} {hooks : List Hook}
    (htitle : OneLine title) (hsymbol : ∀ k, OneLine (symbol k))
    (hhooks : ∀ h ∈ hooks, OneLine h.method) :
    Bulleted (Markdown.itemSection title (hookItem symbol) hooks)
      (hooks.map (hookItem symbol)) :=
  itemSection htitle (fun h hh => oneLine_hookItem hsymbol (hhooks h hh)) (isBullet_hookItem symbol)

section Resource

variable {i : Interface} {condition : Option String}
  (hi : ({ i with iteratorDeclarations := [] } : Interface).EveryText OneLine)

include hi

/-- What precedes the sections. -/
theorem bulleted_preamble (hcondition : ∀ c ∈ condition, OneLine c) :
    Bulleted (preambleLines i condition) [] := by
  refine Bulleted.append (x := []) (.append (x := []) (.append (x := []) (.append (x := []) ?_ ?_)
    ?_) ?_) (.line (by decide) rfl)
  · exact .heading (oneLine_append.mpr ⟨by decide, hi.typeName⟩)
      (by simp [isBullet, startsWith, dropLead?])
  · exact .line (oneLine_append.mpr ⟨by decide, oneLine_code.mpr (oneLine_text hi.file)⟩)
      (by simp [isBullet, startsWith, dropLead?])
  · cases condition with
    | none => exact .nil
    | some c =>
      refine .line ?_ (by simp [isBullet, startsWith, dropLead?])
      simp only [oneLine_append]
      exact ⟨⟨by decide, oneLine_code.mpr (hcondition c rfl)⟩, by decide⟩
  · split
    · exact .nil
    · refine .line ?_ (by simp [isBullet, startsWith, dropLead?])
      simp only [oneLine_append]
      refine ⟨⟨by decide, oneLine_commas (List.forall_mem_map.mpr fun l hl => ?_)⟩, by decide⟩
      exact oneLine_code.mpr (oneLine_text (hi.alsoRegisteredIn l hl))

theorem bulleted_inheritance :
    Bulleted (itemSection "Inheritance" inheritanceItem i.inheritedFrom)
      (i.inheritedFrom.map inheritanceItem) :=
  .itemSection (by decide) (fun x hx => oneLine_inheritanceItem (hi.inheritedFrom x hx))
    isBullet_inheritanceItem

theorem bulleted_methods :
    Bulleted (itemSection "Methods" methodItem i.methods) (i.methods.map methodItem) :=
  .itemSection (by decide) (fun m hm => oneLine_methodItem (hi.methods m hm)) isBullet_methodItem

theorem bulleted_properties :
    Bulleted (itemSection "Properties" propertyItem i.properties)
      (i.properties.map propertyItem) :=
  .itemSection (by decide) (fun p hp => oneLine_propertyItem (hi.properties p hp))
    isBullet_propertyItem

theorem bulleted_constants :
    Bulleted (itemSection "Constants" constantItem i.constants) (i.constants.map constantItem) :=
  .itemSection (by decide) (fun c hc => oneLine_constantItem (hi.constants c hc))
    isBullet_constantItem

theorem bulleted_nestedTypes :
    Bulleted (itemSection "Nested Types" nestedTypeItem i.nestedTypes)
      (i.nestedTypes.map nestedTypeItem) :=
  .itemSection (by decide) (fun t ht => oneLine_nestedTypeItem (hi.nestedTypes t ht))
    isBullet_nestedTypeItem

theorem bulleted_iterators :
    Bulleted (itemSection "Iterators" (hookItem iteratorSymbol) i.iterators)
      (i.iterators.map (hookItem iteratorSymbol)) :=
  .hookSection (by decide) (fun k => by cases k <;> decide) hi.iterators

theorem bulleted_disposers :
    Bulleted (itemSection "Disposal" (hookItem disposalSymbol) i.disposers)
      (i.disposers.map (hookItem disposalSymbol)) :=
  .hookSection (by decide) (fun k => by cases k <;> decide) hi.disposers

theorem bulleted_serialization :
    Bulleted (singleSection "Serialization" (i.serializationTag.map fun t =>
      (if t.oneWay then "one-way serializable" else "serializable") ++ " with tag " ++
        code t.tag)) (i.serializationTag.toList.map serializationItem) := by
  refine .singleSection (by decide) fun t ht => ?_
  simp only [oneLine_append]
  refine ⟨⟨?_, by decide⟩, oneLine_code.mpr (hi.serializationTag t ht)⟩
  split <;> decide

theorem bulleted_callable :
    Bulleted (singleSection "Callable" (i.callableVia.map fun c => "Invocable via " ++ code c))
      (i.callableVia.toList.map callableItem) :=
  .singleSection (by decide) fun c hc =>
    oneLine_append.mpr ⟨by decide, oneLine_code.mpr (hi.callableVia c hc)⟩

theorem bulleted_wildcard :
    Bulleted (singleSection "Wildcard Property" (i.wildcardGetter.map fun g =>
      "Catch-all getter: " ++ code g)) (i.wildcardGetter.toList.map wildcardItem) :=
  .singleSection (by decide) fun g hg =>
    oneLine_append.mpr ⟨by decide, oneLine_code.mpr (hi.wildcardGetter g hg)⟩

theorem bulleted_bundles :
    Bulleted (itemSection "Script Bundles" (fun b => "- " ++ code b) i.scriptBundles)
      (i.scriptBundles.map fun b => "- " ++ code b) :=
  .itemSection (by decide)
    (fun b hb => oneLine_append.mpr ⟨by decide, oneLine_code.mpr (hi.scriptBundles b hb)⟩)
    (fun b => isBullet_append (code b))

theorem bulleted_overrides :
    Bulleted (overrideSection i.docOverrides) (i.docOverrides.map overrideItem) := by
  rw [overrideSection]
  exact .itemSection (by decide) (fun o ho => oneLine_overrideItem (hi.docOverrides o ho))
    isBullet_overrideItem

omit hi in
theorem bulleted_memory (i : Interface) :
    Bulleted (if i.memoryInfo then ["**Memory tracking:** Has `JSG_MEMORY_INFO`"] else []) [] := by
  split
  · exact .line (by decide) rfl
  · exact .nil

/-- **The report on a resource type** is made of its items and of lines that have no bullet, and the
iterator declarations come last. -/
theorem exists_resourceLines (hcondition : ∀ c ∈ condition, OneLine c) :
    ∃ front, resourceLines i condition = front ++ iteratorLines i ∧
      Bulleted front (resourceItems i) := by
  refine ⟨_, rfl, ?_⟩
  have hsections := (bulleted_preamble hi hcondition)
    |>.append (bulleted_inheritance hi) |>.append (bulleted_methods hi)
    |>.append (bulleted_properties hi) |>.append (bulleted_constants hi)
    |>.append (bulleted_nestedTypes hi) |>.append (bulleted_iterators hi)
    |>.append (bulleted_serialization hi) |>.append (bulleted_callable hi)
    |>.append (bulleted_wildcard hi) |>.append (bulleted_disposers hi)
    |>.append (bulleted_overrides hi) |>.append (bulleted_bundles hi)
    |>.append (bulleted_memory i)
  rw [List.append_nil, List.nil_append] at hsections
  exact hsections

end Resource

/-! ### The text of a report -/

/-- The first line of a text. -/
def firstLine (s : String) : Line := s.toList.takeWhile (· ≠ '\n')

/-- The lines of a document, and the empty one behind the last line feed. -/
theorem pieces_document (ls : List String) :
    pieces '\n' (document ls).toList = ls.flatMap (fun l => pieces '\n' l.toList) ++ [[]] := by
  induction ls with
  | nil => rfl
  | cons l ls ih =>
    have hcons : (document (l :: ls)).toList = l.toList ++ '\n' :: (document ls).toList := by
      simp [document]
    rw [hcons, pieces_append_cons, ih, List.flatMap_cons, List.append_assoc]

/-- A document is read back line by line exactly if no line of it holds a line feed. -/
theorem pieces_document_eq_iff {ls : List String} :
    pieces '\n' (document ls).toList = ls.map String.toList ++ [[]] ↔ ∀ l ∈ ls, OneLine l := by
  constructor
  · intro h l hl
    refine notMem_of_mem_pieces (s := (document ls).toList) ?_
    rw [h]
    exact List.mem_append_left _ (List.mem_map_of_mem hl)
  · intro h
    rw [pieces_document, List.append_left_inj, ← List.flatMap_singleton' (ls.map String.toList),
      List.flatMap_map]
    exact List.flatMap_congr fun l hl => pieces_of_notMem (h l hl)

theorem bulletLines_document (ls : List String) :
    bulletLines (document ls) = ls.flatMap fun l => bulletLines l := by
  have hnil : [([] : Line)].filter isBullet = [] := rfl
  rw [bulletLines, pieces_document, List.filter_append, hnil, List.append_nil, List.filter_flatMap]
  rfl

theorem Bulleted.flatMap_bulletLines {ls items : List String} (h : Bulleted ls items) :
    ls.flatMap bulletLines = items.map String.toList := by
  obtain ⟨honeLine, rfl⟩ := h
  induction ls with
  | nil => rfl
  | cons l ls ih =>
    obtain ⟨hl, hls⟩ := List.forall_mem_cons.mp honeLine
    rw [List.flatMap_cons, ih hls, bulletLines, pieces_of_notMem hl, List.filter_cons]
    cases hbullet : isBullet l.toList <;> simp [hbullet]

/-- Of the lines that an iterator declaration comes apart into, the first has a bullet and no other,
since there is no bullet in the declaration. -/
theorem bulletLines_iteratorItem {d : String} (hd : '-' ∉ d.toList) :
    bulletLines (iteratorItem d) = [firstLine (iteratorItem d)] := by
  obtain ⟨p, ps, hpieces⟩ := List.exists_cons_of_ne_nil (pieces_ne_nil '\n' (code d).toList)
  have hcode : (code d).toList = p ++ ps.flatMap ('\n' :: ·) := eq_append_of_pieces hpieces
  have hitem : (iteratorItem d).toList = '-' :: ' ' :: (code d).toList := by simp [iteratorItem]
  have hmem : '-' ∉ (code d).toList := by simp [code, hd]
  -- a later piece stands in the declaration, so it does not begin with a dash
  have hlater : ps.filter isBullet = [] := by
    refine List.filter_eq_nil_iff.mpr fun q hq hbullet => hmem ?_
    rw [hcode]
    refine List.mem_append_right p (List.mem_flatMap.mpr ⟨q, hq, List.mem_cons_of_mem '\n' ?_⟩)
    exact (startsWith_iff.mp hbullet).subset List.mem_cons_self
  have hpieces' : pieces '\n' (iteratorItem d).toList = ('-' :: ' ' :: p) :: ps := by
    rw [hitem]
    simp [pieces, hpieces]
  have hbullet : isBullet ('-' :: ' ' :: p) = true := startsWith_append ['-', ' '] p
  rw [bulletLines, hpieces', List.filter_cons_of_pos hbullet, hlater, firstLine,
    takeWhile_ne_of_pieces hpieces']

theorem flatMap_bulletLines_iteratorLines {i : Interface}
    (hi : ∀ d ∈ i.iteratorDeclarations, '-' ∉ d.toList) :
    (iteratorLines i).flatMap bulletLines =
      i.iteratorDeclarations.map fun d => firstLine (iteratorItem d) := by
  unfold iteratorLines
  split
  · rename_i hempty
    rw [List.isEmpty_iff.mp hempty]
    rfl
  · have htitle : bulletLines "**Iterator declarations:**" = [] := by decide +kernel
    rw [List.flatMap_cons, htitle, List.nil_append, List.flatMap_map, List.map_eq_flatMap]
    exact List.flatMap_congr fun d hd => bulletLines_iteratorItem (hi d hd)

theorem oneLine_iteratorLines_iff {i : Interface} :
    (∀ l ∈ iteratorLines i, OneLine l) ↔ ∀ d ∈ i.iteratorDeclarations, OneLine d := by
  have hitem : ∀ d, OneLine (iteratorItem d) ↔ OneLine d := fun d =>
    oneLine_append.trans ⟨fun h => oneLine_code.mp h.2, fun h => ⟨by decide, oneLine_code.mpr h⟩⟩
  unfold iteratorLines
  split
  · rename_i hempty
    rw [List.isEmpty_iff.mp hempty]
  · simp only [List.forall_mem_cons, List.forall_mem_map, hitem]
    exact ⟨fun h => h.2, fun h => ⟨by decide +kernel, h⟩⟩

end Markdown

open Markdown

/-- **The report on a resource type, line by line.**  Every text that is registered is on one line, if
the name of the file is, except for the iterator declarations.  Such a declaration stands in the file
as it is recorded, up to its closing parenthesis, and holds a line feed exactly if there is one in the
blanks between its parts.  The lines that are put together are the lines of the report exactly if no
declaration holds one.  In any case the report has one line with a bullet for each item, in their
order, and the last of them are the first lines of the declarations. -/
theorem lines_of_resource_report {typeName file content : String} {i : Interface}
    (h : readResource typeName file content = .ok i) (hfile : OneLine file) :
    ({ i with iteratorDeclarations := [] } : Interface).EveryText OneLine ∧
    (∀ d ∈ i.iteratorDeclarations, ∃ k : IteratorHead, d = String.ofList (k.text ++ [')']) ∧
      k.text <:+: content.toList ∧ (OneLine d ↔ '\n' ∉ k.blanks)) ∧
    (pieces '\n' ((Report.interface i).render .markdown).toList =
        (interfaceLines i).map String.toList ++ [[]] ↔
      ∀ d ∈ i.iteratorDeclarations, OneLine d) ∧
    bulletLines ((Report.interface i).render .markdown) =
      (resourceItems i).map String.toList ++
        i.iteratorDeclarations.map fun d => firstLine (iteratorItem d) := by
  have hi := oneLine_of_readResource h hfile
  obtain ⟨condition, hregistration, hdeclarations⟩ : ∃ condition,
      i.registration = .resource condition ∧
        i.iteratorDeclarations = iteratorDeclarations content.toList := by
    obtain ⟨n, condition, b, -, -, rfl⟩ := Interface.exists_of_readResource h
    have hgrows := Interface.growsTo_addAll (entries b.lines)
      { Interface.empty typeName (.resource condition) with location := ⟨file, n + 1⟩ }
    exact ⟨condition, hgrows.registration, rfl⟩
  have hheads : ∀ d ∈ i.iteratorDeclarations, ∃ k : IteratorHead,
      d = String.ofList (k.text ++ [')']) ∧ k.text <:+: content.toList := fun d hd =>
    exists_of_mem_iteratorDeclarations (hdeclarations ▸ hd)
  obtain ⟨front, hlines, hfront⟩ := exists_resourceLines hi
    fun c (hc : c ∈ condition) => hi.condition c (hregistration.trans (congrArg _ hc))
  have hlines : interfaceLines i = front ++ iteratorLines i := by
    rw [← hlines, interfaceLines, hregistration]
  have hrender : (Report.interface i).render .markdown = document (front ++ iteratorLines i) :=
    congrArg document hlines
  refine ⟨hi, fun d hd => ?_, ?_, ?_⟩
  · obtain ⟨k, rfl, hk⟩ := hheads d hd
    refine ⟨k, rfl, hk, ?_⟩
    rw [← k.mem_text_iff (c := '\n') (by decide) (by decide) (by decide)]
    simp [OneLine]
  · rw [hrender, hlines, pieces_document_eq_iff, List.forall_mem_append, oneLine_iteratorLines_iff]
    exact and_iff_right hfront.oneLine
  · rw [hrender, bulletLines_document, List.flatMap_append, hfront.flatMap_bulletLines,
      flatMap_bulletLines_iteratorLines fun d hd => ?_]
    obtain ⟨k, rfl, -⟩ := hheads d hd
    have hdash := k.notMem_text (c := '-') (by decide) (by decide) (by decide) (by decide)
    simpa using hdash

/-! ### A declaration on two lines -/

/-- A header with a method and with an iterator declaration that is written on two lines. -/
def entriesHeader : String :=
  "JSG_RESOURCE_TYPE(T) \x7b\n  JSG_METHOD(keys);\n\x7d\n" ++
    "JSG_ITERATOR(Entries,\n    entries, kj::String)\n"

theorem readResource_entriesHeader : ∃ i, readResource "T" "t.h" entriesHeader = .ok i ∧
    i.iteratorDeclarations = ["JSG_ITERATOR(Entries,\n    entries)"] ∧
    resourceItems i = ["- `keys`"] := by
  have hmarker : findMarker? "T".toList (linesOf entriesHeader) = some (0, none) := by
    decide +kernel
  have hblock : blockAt? (linesOf entriesHeader) 0 = some ⟨0, (linesOf entriesHeader).take 3⟩ := by
    decide +kernel
  have hadmitted : Pattern.isAdmitted (conditionPattern "T") = true :=
    isAdmitted_conditionPattern (by decide +kernel) (by decide +kernel)
  rw [readResource, if_pos hadmitted, Interface.ofResource_eq_ok hmarker hblock]
  exact ⟨_, rfl, by decide +kernel, by decide +kernel⟩

/-- The report on the header has two lines with a bullet. -/
theorem lines_of_resource_report_entries :
    OneLine "t.h" ∧ ∃ i, readResource "T" "t.h" entriesHeader = .ok i ∧
      bulletLines ((Report.interface i).render .markdown) =
        ["- `keys`".toList, "- `JSG_ITERATOR(Entries,".toList] := by
  have hfile : OneLine "t.h" := by decide
  obtain ⟨i, hi, hdeclarations, hitems⟩ := readResource_entriesHeader
  obtain ⟨-, -, -, hbullets⟩ := lines_of_resource_report hi hfile
  rw [hdeclarations, hitems] at hbullets
  refine ⟨hfile, i, hi, hbullets.trans ?_⟩
  decide +kernel

/-- **A line feed is recorded**, and it comes into the report with the declaration. -/
theorem newline_in_declaration :
    OneLine "t.h" ∧ ∃ i, readResource "T" "t.h" entriesHeader = .ok i ∧
      "JSG_ITERATOR(Entries,\n    entries)" ∈ i.iteratorDeclarations ∧
      ¬ OneLine "JSG_ITERATOR(Entries,\n    entries)" := by
  obtain ⟨i, hi, hdeclarations, -⟩ := readResource_entriesHeader
  exact ⟨by decide, i, hi, hdeclarations ▸ List.mem_cons_self, by decide +kernel⟩

end DeclAtlas
