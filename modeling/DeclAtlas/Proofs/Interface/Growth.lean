import DeclAtlas.Proofs.Interface.Forms
import Mathlib.Data.List.Nodup

/-!
# How an interface grows

An interface is registered block by block, from texts of any kind.  What one entry does to it is said
once, and everything else follows by induction on the entries.

* `Interface.GrowsTo`: the lists only get longer at their ends, and what no entry speaks of stays.
  One entry makes an interface grow (`growsTo_add`), so blocks do.
* `Interface.KeysDistinct`: methods and properties have distinct keys, because an entry whose key is
  taken is left out.  Entries that were there before add nothing (`methods_addAll_of_subset`).
* `Interface.inSlot_addAll`: a slot holds the last entry for it.  Which slot an entry is for is known
  from the form it was read by (`slot?_entry`), so this is what the last line claimed for the slot
  says (`Interface.inSlot_foldl_register`).
-/

namespace DeclAtlas

open Text Nesting

/-! ### Lists with keys -/

section Keys

variable {α κ : Type} {same : α → α → Bool} {key : α → κ}

theorem prefix_appendNew (same : α → α → Bool) (xs : List α) (x : α) :
    xs <+: Interface.appendNew same xs x := by
  unfold Interface.appendNew
  split
  · exact List.prefix_refl xs
  · exact List.prefix_append xs [x]

theorem mem_appendNew {same : α → α → Bool} {xs : List α} {x y : α}
    (h : y ∈ Interface.appendNew same xs x) : y ∈ xs ∨ y = x := by
  unfold Interface.appendNew at h
  split at h
  · exact .inl h
  · simpa using h

theorem prefix_foldl_appendNew (same : α → α → Bool) (ys : List α) : ∀ xs : List α,
    xs <+: ys.foldl (Interface.appendNew same) xs := by
  induction ys with
  | nil => exact List.prefix_refl
  | cons y ys ih => exact fun xs => (prefix_appendNew same xs y).trans (ih _)

variable (hsame : ∀ a b, same a b = true ↔ key a = key b)

include hsame

theorem any_same_iff {xs : List α} {x : α} : xs.any (same · x) = true ↔ key x ∈ xs.map key := by
  simp only [List.any_eq_true, hsame, List.mem_map]

theorem appendNew_of_mem {xs : List α} {x : α} (h : key x ∈ xs.map key) :
    Interface.appendNew same xs x = xs := if_pos ((any_same_iff hsame).mpr h)

theorem appendNew_of_notMem {xs : List α} {x : α} (h : key x ∉ xs.map key) :
    Interface.appendNew same xs x = xs ++ [x] := if_neg (mt (any_same_iff hsame).mp h)

theorem mem_keys_appendNew (xs : List α) (x : α) :
    key x ∈ (Interface.appendNew same xs x).map key := by
  by_cases h : key x ∈ xs.map key
  · rwa [appendNew_of_mem hsame h]
  · rw [appendNew_of_notMem hsame h]
    simp

theorem nodup_appendNew {xs : List α} (hxs : (xs.map key).Nodup) (x : α) :
    ((Interface.appendNew same xs x).map key).Nodup := by
  by_cases h : key x ∈ xs.map key
  · rwa [appendNew_of_mem hsame h]
  · rw [appendNew_of_notMem hsame h, List.map_append, List.map_singleton, ← List.concat_eq_append]
    exact hxs.concat h

theorem nodup_foldl_appendNew (ys : List α) : ∀ {xs : List α}, (xs.map key).Nodup →
    ((ys.foldl (Interface.appendNew same) xs).map key).Nodup := by
  induction ys with
  | nil => exact id
  | cons y ys ih => exact fun hxs => ih (nodup_appendNew hsame hxs y)

theorem mem_keys_foldl_appendNew {y : α} {ys : List α} : ∀ xs : List α, y ∈ ys →
    key y ∈ (ys.foldl (Interface.appendNew same) xs).map key := by
  induction ys with
  | nil => exact fun _ h => absurd h List.not_mem_nil
  | cons z ys ih =>
    intro xs hy
    rcases List.mem_cons.mp hy with rfl | hy
    · have hkept := prefix_foldl_appendNew same ys (Interface.appendNew same xs y)
      exact (hkept.map key).subset (mem_keys_appendNew hsame xs y)
    · exact ih _ hy

theorem foldl_appendNew_of_mem {xs ys : List α} (h : ∀ y ∈ ys, key y ∈ xs.map key) :
    ys.foldl (Interface.appendNew same) xs = xs := by
  induction ys with
  | nil => rfl
  | cons y ys ih =>
    rw [List.foldl_cons, appendNew_of_mem hsame (h y List.mem_cons_self)]
    exact ih fun z hz => h z (List.mem_cons_of_mem y hz)

/-- Elements that have been added before are not added again. -/
theorem foldl_appendNew_again {ys zs : List α} (h : ys ⊆ zs) (xs : List α) :
    ys.foldl (Interface.appendNew same) (zs.foldl (Interface.appendNew same) xs) =
      zs.foldl (Interface.appendNew same) xs :=
  foldl_appendNew_of_mem hsame fun _ hy => mem_keys_foldl_appendNew hsame xs (h hy)

end Keys

/-! ### Growth -/

namespace Interface

/-- An interface with more at the ends of the lists that entries speak of. -/
structure GrowsTo (i j : Interface) : Prop where
  typeName : j.typeName = i.typeName
  location : j.location = i.location
  registration : j.registration = i.registration
  alsoRegisteredIn : j.alsoRegisteredIn = i.alsoRegisteredIn
  structFields : j.structFields = i.structFields
  memoryInfo : j.memoryInfo = i.memoryInfo
  iteratorDeclarations : j.iteratorDeclarations = i.iteratorDeclarations
  inheritedFrom : i.inheritedFrom <+: j.inheritedFrom
  methods : i.methods <+: j.methods
  properties : i.properties <+: j.properties
  constants : i.constants <+: j.constants
  nestedTypes : i.nestedTypes <+: j.nestedTypes
  iterators : i.iterators <+: j.iterators
  disposers : i.disposers <+: j.disposers
  docOverrides : i.docOverrides <+: j.docOverrides
  scriptBundles : i.scriptBundles <+: j.scriptBundles

theorem GrowsTo.refl (i : Interface) : i.GrowsTo i where
  typeName := rfl
  location := rfl
  registration := rfl
  alsoRegisteredIn := rfl
  structFields := rfl
  memoryInfo := rfl
  iteratorDeclarations := rfl
  inheritedFrom := List.prefix_refl _
  methods := List.prefix_refl _
  properties := List.prefix_refl _
  constants := List.prefix_refl _
  nestedTypes := List.prefix_refl _
  iterators := List.prefix_refl _
  disposers := List.prefix_refl _
  docOverrides := List.prefix_refl _
  scriptBundles := List.prefix_refl _

theorem GrowsTo.trans {i j k : Interface} (h : i.GrowsTo j) (h' : j.GrowsTo k) : i.GrowsTo k where
  typeName := h'.typeName.trans h.typeName
  location := h'.location.trans h.location
  registration := h'.registration.trans h.registration
  alsoRegisteredIn := h'.alsoRegisteredIn.trans h.alsoRegisteredIn
  structFields := h'.structFields.trans h.structFields
  memoryInfo := h'.memoryInfo.trans h.memoryInfo
  iteratorDeclarations := h'.iteratorDeclarations.trans h.iteratorDeclarations
  inheritedFrom := h.inheritedFrom.trans h'.inheritedFrom
  methods := h.methods.trans h'.methods
  properties := h.properties.trans h'.properties
  constants := h.constants.trans h'.constants
  nestedTypes := h.nestedTypes.trans h'.nestedTypes
  iterators := h.iterators.trans h'.iterators
  disposers := h.disposers.trans h'.disposers
  docOverrides := h.docOverrides.trans h'.docOverrides
  scriptBundles := h.scriptBundles.trans h'.scriptBundles

/-- **One entry makes an interface grow.** -/
theorem growsTo_add (i : Interface) (e : Entry) : i.GrowsTo (i.add e) := by
  have h := GrowsTo.refl i
  cases e with
  | inherits x => exact { h with inheritedFrom := List.prefix_append _ _ }
  | method m => exact { h with methods := prefix_appendNew _ _ _ }
  | property p => exact { h with properties := prefix_appendNew _ _ _ }
  | callable m => exact { h with }
  | wildcard g => exact { h with }
  | constant c => exact { h with constants := List.prefix_append _ _ }
  | nestedType t => exact { h with nestedTypes := List.prefix_append _ _ }
  | iterator k => exact { h with iterators := List.prefix_append _ _ }
  | disposer k => exact { h with disposers := List.prefix_append _ _ }
  | serialization t => exact { h with }
  | docOverride o => exact { h with docOverrides := List.prefix_append _ _ }
  | scriptBundle b => exact { h with scriptBundles := List.prefix_append _ _ }

theorem growsTo_addAll (es : List Entry) : ∀ i : Interface, i.GrowsTo (i.addAll es) := by
  induction es with
  | nil => exact GrowsTo.refl
  | cons e es ih => exact fun i => (growsTo_add i e).trans (ih (i.add e))

/-- Blocks one after another are their entries one after another. -/
theorem foldl_register (blocks : List (List Line)) : ∀ i : Interface,
    blocks.foldl register i = i.addAll (blocks.flatMap entries) := by
  induction blocks with
  | nil => exact fun _ => rfl
  | cons b blocks ih =>
    intro i
    rw [List.foldl_cons, ih, List.flatMap_cons, addAll_append, register]

/-! ### Keys -/

/-- The key of a method. -/
def methodKey (m : Method) : String × Bool := (m.jsName, m.isStatic)

/-- The key of a property. -/
def propertyKey (p : Property) : String × Placement := (p.jsName, p.placement)

theorem sameMethod_iff (a b : Method) : sameMethod a b = true ↔ methodKey a = methodKey b := by
  simp [sameMethod, methodKey]

theorem sameProperty_iff (a b : Property) :
    sameProperty a b = true ↔ propertyKey a = propertyKey b := by
  simp [sameProperty, propertyKey]

/-- Methods and properties have distinct keys. -/
structure KeysDistinct (i : Interface) : Prop where
  methods : (i.methods.map methodKey).Nodup
  properties : (i.properties.map propertyKey).Nodup

end Interface

/-- The method that an entry declares. -/
def Entry.method? : Entry → Option Method
  | .method m => some m
  | _ => none

/-- The property that an entry declares. -/
def Entry.property? : Entry → Option Property
  | .property p => some p
  | _ => none

namespace Interface

/-- What entries do to a field that takes only some of them. -/
theorem field_addAll {α β : Type} {field : Interface → β} {pick : Entry → Option α}
    {put : β → α → β}
    (hadd : ∀ i e, field (i.add e) = (pick e).elim (field i) (put (field i)))
    (es : List Entry) (i : Interface) :
    field (i.addAll es) = (es.filterMap pick).foldl put (field i) := by
  rw [List.foldl_filterMap, addAll, ← List.foldl_hom field]
  intro i e
  rw [hadd]
  cases pick e <;> rfl

theorem methods_addAll (es : List Entry) (i : Interface) : (i.addAll es).methods =
    (es.filterMap Entry.method?).foldl (appendNew sameMethod) i.methods :=
  field_addAll (fun _ e => by cases e <;> rfl) es i

theorem properties_addAll (es : List Entry) (i : Interface) : (i.addAll es).properties =
    (es.filterMap Entry.property?).foldl (appendNew sameProperty) i.properties :=
  field_addAll (fun _ e => by cases e <;> rfl) es i

theorem KeysDistinct.addAll {i : Interface} (h : i.KeysDistinct) (es : List Entry) :
    (i.addAll es).KeysDistinct where
  methods := by
    rw [methods_addAll]
    exact nodup_foldl_appendNew sameMethod_iff _ h.methods
  properties := by
    rw [properties_addAll]
    exact nodup_foldl_appendNew sameProperty_iff _ h.properties

theorem methods_addAll_of_subset {es fs : List Entry} (h : fs ⊆ es) (i : Interface) :
    ((i.addAll es).addAll fs).methods = (i.addAll es).methods := by
  rw [methods_addAll fs, methods_addAll es]
  exact foldl_appendNew_again sameMethod_iff (List.filterMap_subset Entry.method? h) i.methods

theorem properties_addAll_of_subset {es fs : List Entry} (h : fs ⊆ es) (i : Interface) :
    ((i.addAll es).addAll fs).properties = (i.addAll es).properties := by
  rw [properties_addAll fs, properties_addAll es]
  exact foldl_appendNew_again sameProperty_iff (List.filterMap_subset Entry.property? h)
    i.properties

end Interface

/-! ### Slots -/

/-- What an interface holds one of at most. -/
inductive Slot where
  | callable
  | wildcard
  | serialization
  deriving DecidableEq

/-- The slot that an entry is for. -/
def Entry.slot? : Entry → Option Slot
  | .callable _ => some .callable
  | .wildcard _ => some .wildcard
  | .serialization _ => some .serialization
  | _ => none

/-- The slot that the macro of a form fills. -/
def Form.slot? (f : Form) : Option Slot :=
  if f.name = "JSG_CALLABLE" then some .callable
  else if f.name = "JSG_WILDCARD_PROPERTY" then some .wildcard
  else if f.name = "JSG_ONEWAY_SERIALIZABLE" ∨ f.name = "JSG_SERIALIZABLE" then
    some .serialization
  else none

namespace Interface

/-- What is in a slot, as the entry that puts it there. -/
def inSlot (i : Interface) : Slot → Option Entry
  | .callable => i.callableVia.map .callable
  | .wildcard => i.wildcardGetter.map .wildcard
  | .serialization => i.serializationTag.map .serialization

theorem inSlot_add (i : Interface) (e : Entry) (s : Slot) :
    (i.add e).inSlot s = if e.slot? = some s then some e else i.inSlot s := by
  cases s <;> cases e <;> rfl

/-- **A slot holds the last entry for it.** -/
theorem inSlot_addAll (s : Slot) (es : List Entry) : ∀ i : Interface, (i.addAll es).inSlot s =
    (es.filter fun e => e.slot? = some s).getLast?.or (i.inSlot s) := by
  induction es with
  | nil => exact fun _ => rfl
  | cons e es ih =>
    intro i
    have hstep : (i.addAll (e :: es)).inSlot s = ((i.add e).addAll es).inSlot s := rfl
    rw [hstep, ih, inSlot_add]
    by_cases he : e.slot? = some s
    · rw [if_pos he, List.filter_cons_of_pos (by simpa using he), List.getLast?_cons]
      cases (es.filter fun e => e.slot? = some s).getLast? <;> rfl
    · rw [if_neg he, List.filter_cons_of_neg (by simpa using he)]

end Interface

/-! ### Claims for a slot -/

/-- The slot that a claim is for. -/
def Claim.slot? : Claim → Option Slot
  | .entry e => e.slot?
  | .spanning _ => none

/-- The slot for entries of a kind. -/
def EntryKind.slot? : EntryKind → Option Slot
  | .callable => some .callable
  | .wildcard => some .wildcard
  | .serialization => some .serialization
  | _ => none

theorem Claim.slot?_eq_kind_slot? (x : Claim) : x.slot? = x.kind.slot? := by
  cases x with
  | entry e => cases e <;> rfl
  | spanning kind => rfl

namespace Form

theorem slot?_eq_kind_slot? : ∀ f ∈ forms, f.slot? = f.kind.slot? := by
  decide +kernel

/-- **A form claims lines for its slot only.** -/
theorem slot?_of_claim? {f : Form} (hf : f ∈ forms) {l : Line} {x : Claim}
    (h : f.claim? l = some x) : x.slot? = f.slot? := by
  rw [x.slot?_eq_kind_slot?, kind_of_makes hf (makes_of_claim? h), slot?_eq_kind_slot? f hf]

end Form

/-! ### Claimed lines -/

/-- The first form that claims a line. -/
def claimant? (l : Line) : Option Form := forms.find? fun f => (f.claim? l).isSome

/-- A trimmed line that gives an entry, with the form that claims it. -/
structure ClaimedLine where
  form : Form
  line : Line
  entry : Entry

/-- What is read on a line, and the number of further lines that are taken with it. -/
def claimedLine? (l : Line) (later : List Line) : Option (ClaimedLine × Nat) := do
  let f ← claimant? (trim l)
  let (e, extra) ← entryWith? forms l later
  some (⟨f, trim l, e⟩, extra)

/-- What is read in a block, in order. -/
def claimedLines (block : List Line) : List ClaimedLine :=
  readForms claimedLine? block.length 0 block

/-- The last line of some blocks that is claimed by a form for a slot. -/
def lastFor? (s : Slot) (blocks : List (List Line)) : Option ClaimedLine :=
  ((blocks.flatMap claimedLines).filter fun r => r.form.slot? = some s).getLast?

theorem findSome?_eq_bind_find? {α β : Type} (f : α → Option β) (as : List α) :
    as.findSome? f = (as.find? fun a => (f a).isSome).bind f := by
  induction as with
  | nil => rfl
  | cons a as ih =>
    cases ha : f a with
    | none => simp [ha, ih]
    | some b => simp [ha]

theorem claimWith?_eq_bind_claimant? (l : Line) :
    claimWith? forms l = (claimant? l).bind fun f => f.claim? l :=
  findSome?_eq_bind_find? (fun f : Form => f.claim? l) forms

theorem entryWith?_eq_map_claimedLine? (l : Line) (later : List Line) :
    entryWith? forms l later = (claimedLine? l later).map fun x => (x.1.entry, x.2) := by
  cases hf : claimant? (trim l) with
  | none =>
    have hnone : claimWith? forms (trim l) = none := by
      rw [claimWith?_eq_bind_claimant?, hf, Option.bind_none]
    simp [claimedLine?, entryWith?, hf, hnone]
  | some f =>
    simp only [claimedLine?, hf, Option.bind_eq_bind, Option.bind_some]
    cases entryWith? forms l later <;> rfl

theorem entries_eq_map_claimedLines (block : List Line) :
    entries block = (claimedLines block).map ClaimedLine.entry :=
  readForms_map (fun l _ => entryWith?_eq_map_claimedLine? l) block.length 0

/-- What is read on a line is what its form claims, unless that is a text to be gathered. -/
theorem claim?_of_mem_claimedLines {block : List Line} {r : ClaimedLine}
    (hr : r ∈ claimedLines block) : r.form ∈ forms ∧ (r.form.claim? r.line = some (.entry r.entry) ∨
      r.entry.slot? = none ∧ ∃ kind, r.form.claim? r.line = some (.spanning kind)) := by
  obtain ⟨l, -, later, extra, hread⟩ := exists_of_mem_readForms hr
  simp only [claimedLine?, Option.bind_eq_bind, Option.bind_eq_some_iff, Option.some.injEq,
    Prod.mk.injEq] at hread
  obtain ⟨f, hf, ⟨e, n⟩, hentry, rfl, -⟩ := hread
  refine ⟨List.mem_of_find?_eq_some hf, ?_⟩
  have hclaim : claimWith? forms (trim l) = f.claim? (trim l) := by
    rw [claimWith?_eq_bind_claimant?, hf, Option.bind_some]
  unfold entryWith? at hentry
  rw [hclaim] at hentry
  split at hentry
  · exact absurd hentry (by simp)
  · split at hentry
    · exact absurd hentry (by simp)
    · next e' he' =>
      obtain ⟨rfl, -⟩ := Prod.mk.inj (Option.some.inj hentry)
      exact .inl he'
    · next kind hkind =>
      obtain ⟨rfl, -⟩ := Prod.mk.inj (Option.some.inj hentry)
      exact .inr ⟨rfl, kind, hkind⟩

/-- **Which slot an entry is for is known from the form it was read by.** -/
theorem slot?_entry {block : List Line} {r : ClaimedLine} (hr : r ∈ claimedLines block) :
    r.entry.slot? = r.form.slot? := by
  obtain ⟨hf, hclaim | ⟨hentry, kind, hclaim⟩⟩ := claim?_of_mem_claimedLines hr
  · exact Form.slot?_of_claim? hf hclaim
  · rw [hentry, ← Form.slot?_of_claim? hf hclaim]
    rfl

theorem claim?_of_slot? {block : List Line} {r : ClaimedLine} (hr : r ∈ claimedLines block)
    {s : Slot} (hs : r.form.slot? = some s) : r.form.claim? r.line = some (.entry r.entry) := by
  obtain ⟨-, hclaim | ⟨hentry, -⟩⟩ := claim?_of_mem_claimedLines hr
  · exact hclaim
  · rw [slot?_entry hr, hs] at hentry
    exact absurd hentry (by simp)

namespace Interface

/-- **A slot holds what the last line for it says.** -/
theorem inSlot_foldl_register {i : Interface} {s : Slot} (hi : i.inSlot s = none)
    (blocks : List (List Line)) : ((blocks.foldl register i).inSlot s).map Claim.entry =
      (lastFor? s blocks).bind fun r => r.form.claim? r.line := by
  have hentries : blocks.flatMap entries = (blocks.flatMap claimedLines).map ClaimedLine.entry := by
    rw [List.map_flatMap]
    exact congrArg blocks.flatMap (funext entries_eq_map_claimedLines)
  have hslot : ∀ r ∈ blocks.flatMap claimedLines,
      decide (r.entry.slot? = some s) = decide (r.form.slot? = some s) := by
    intro r hr
    obtain ⟨b, -, hb⟩ := List.mem_flatMap.mp hr
    rw [slot?_entry hb]
  have hlast : (blocks.foldl register i).inSlot s = (lastFor? s blocks).map ClaimedLine.entry := by
    rw [foldl_register, inSlot_addAll, hi, Option.or_none, hentries, List.filter_map,
      List.getLast?_map, lastFor?]
    exact congrArg (fun rs => (List.getLast? rs).map ClaimedLine.entry) (List.filter_congr hslot)
  rw [hlast]
  cases hr : lastFor? s blocks with
  | none => rfl
  | some r =>
    obtain ⟨hmem, hs⟩ := List.mem_filter.mp (List.mem_of_getLast? hr)
    obtain ⟨b, -, hb⟩ := List.mem_flatMap.mp hmem
    exact (claim?_of_slot? hb (of_decide_eq_true hs)).symm

/-- **Blocks only add to an interface.**  Whatever blocks are registered, and at every entry of the
next one, keys are distinct; the lists keep what they hold and grow at their ends; a slot holds what
the last line claimed for it says; and a block that was registered before adds no method and no
property. -/
theorem register_growth (typeName : String) (registration : Registration)
    (blocks : List (List Line)) (block : List Line) :
    let i := blocks.foldl register (empty typeName registration)
    (∀ es, es <+: entries block → (i.addAll es).KeysDistinct) ∧
    i.GrowsTo (i.register block) ∧
    (∀ s, ((i.register block).inSlot s).map Claim.entry =
      (lastFor? s (blocks ++ [block])).bind fun r => r.form.claim? r.line) ∧
    (block ∈ blocks → (i.register block).methods = i.methods ∧
      (i.register block).properties = i.properties) := by
  intro i
  have hi : i = (empty typeName registration).addAll (blocks.flatMap entries) :=
    foldl_register blocks _
  have hempty : (empty typeName registration).KeysDistinct := ⟨List.nodup_nil, List.nodup_nil⟩
  refine ⟨fun es _ => ?_, growsTo_addAll _ i, fun s => ?_, fun hblock => ?_⟩
  · rw [hi]
    exact (hempty.addAll _).addAll es
  · have hnone : (empty typeName registration).inSlot s = none := by cases s <;> rfl
    rw [← inSlot_foldl_register hnone, List.foldl_append]
    rfl
  · have hsubset : entries block ⊆ blocks.flatMap entries :=
      fun e he => List.mem_flatMap.mpr ⟨block, hblock, he⟩
    rw [register, hi]
    exact ⟨methods_addAll_of_subset hsubset _, properties_addAll_of_subset hsubset _⟩

/-- A second block binds a taken key and a filled slot, and the first block is registered again. -/
theorem register_growth_again :
    let block := ["JSG_METHOD(open);".toList, "JSG_CALLABLE(open);".toList]
    let other := ["JSG_METHOD_NAMED(open, reopen);".toList, "JSG_CALLABLE(reopen);".toList,
      "JSG_TS_DEFINE(type T = (".toList, "JSG_METHOD(hidden);".toList, "));".toList]
    let i := [block, other].foldl register (empty "File" (.resource none))
    (block ∈ [block, other] ∧ (entries block).take 1 <+: entries block) ∧
    ((i.register block).methods = i.methods ∧ (i.register block).properties = i.properties) ∧
    (i.addAll ((entries block).take 1)).KeysDistinct ∧
    i.methods = [⟨"open", "open", false⟩] ∧ i.callableVia = some "reopen" ∧
    (i.register block).callableVia = some "open" := by
  intro block other i
  have hblock : block ∈ [block, other] := List.mem_cons_self
  have hfirst : (entries block).take 1 <+: entries block := List.take_prefix 1 _
  obtain ⟨hkeys, -, -, hagain⟩ := register_growth "File" (.resource none) [block, other] block
  have hvalues : i.methods = [⟨"open", "open", false⟩] ∧ i.callableVia = some "reopen" ∧
      (i.register block).callableVia = some "open" := by decide +kernel
  exact ⟨⟨hblock, hfirst⟩, hagain hblock, hkeys _ hfirst, hvalues⟩

end Interface

end DeclAtlas
