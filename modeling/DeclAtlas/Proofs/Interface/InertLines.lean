import DeclAtlas.Proofs.Interface.Cuts

/-!
# Lines inside an override

The lines that an override takes with it are text.  Whatever stands on them, registration forms,
comments or nothing at all, they say nothing but what the override records: put other lines in their
place, and the interface is the same but for the content of that one override, as long as the call
still ends on the last of them.

Both blocks are read in the same steps.  Up to the line of the override the same lines are read, and
none of them looks as far as the lines that differ (`Reaches.take_append`).  The override then takes
what differs, and the lines after it are a block of their own in both (`entries_eq_of_override`).
What is left is that an interface takes its entries in without looking at its overrides
(`withOverrides_addAll`).
-/

namespace DeclAtlas

open Text Nesting

/-- The override that is recorded for some whole lines. -/
def overrideOf (kind : OverrideKind) (ls : List Line) : DocOverride :=
  ⟨kind, String.ofList (argumentOf kind.macroName.toList (joinWith [' '] (ls.map trim)))⟩

theorem fst_gatherOverride (kind : OverrideKind) (l : Line) (later : List Line) :
    (gatherOverride kind (l :: later)).1 =
      overrideOf kind (l :: later.take (gather (l :: later)).extra) := by
  rw [gatherOverride, overrideOf, ← takeBalanced_cons_eq]
  rfl

/-! ### Overrides of an interface -/

namespace Interface

/-- The interface with other overrides. -/
def withOverrides (i : Interface) (os : List DocOverride) : Interface :=
  { i with docOverrides := os }

theorem withOverrides_add (i : Interface) (os : List DocOverride) (e : Entry) :
    (i.withOverrides os).add e = (i.add e).withOverrides (os ++ e.override?.toList) := by
  cases e <;> simp [add, addMethod, addProperty, withOverrides, Entry.override?]

/-- **The overrides of an interface have no part in what else is registered.** -/
theorem withOverrides_addAll (es : List Entry) : ∀ (i : Interface) (os : List DocOverride),
    (i.withOverrides os).addAll es =
      (i.addAll es).withOverrides (os ++ es.filterMap Entry.override?) := by
  induction es with
  | nil => intro i os; rw [List.filterMap_nil, List.append_nil]; rfl
  | cons e es ih =>
    intro i os
    have hstep : (i.withOverrides os).addAll (e :: es) = ((i.withOverrides os).add e).addAll es :=
      rfl
    have hoverrides : os ++ (e :: es).filterMap Entry.override? =
        os ++ e.override?.toList ++ es.filterMap Entry.override? := by
      rw [List.append_assoc, List.filterMap_cons]
      cases e.override? <;> rfl
    rw [hstep, withOverrides_add, ih, hoverrides]
    rfl

theorem addAll_append_cons_docOverride (i : Interface) (es fs : List Entry) (o : DocOverride) :
    i.addAll (es ++ .docOverride o :: fs) = (i.addAll (es ++ fs)).withOverrides
      ((i.addAll es).docOverrides ++ o :: fs.filterMap Entry.override?) := by
  have hadd : (i.addAll es).addAll (.docOverride o :: fs) =
      ((i.addAll es).withOverrides ((i.addAll es).docOverrides ++ [o])).addAll fs := rfl
  rw [addAll_append, hadd, withOverrides_addAll, addAll_append, List.append_assoc]
  rfl

end Interface

/-! ### Two blocks -/

section Blocks

variable {block later : List Line} {l : Line} {n : Nat} {es : List Entry} {kind : OverrideKind}

/-- A block comes apart at an override: what is read before it, the override, and what is read of
the lines behind those it takes. -/
theorem entries_eq_of_override (hreach : Reaches (entryWith? forms) block es n)
    (hline : block.drop n = l :: later) (hfires : overrideOn? l = some kind) :
    entries block = es ++
      .docOverride (overrideOf kind (l :: later.take (gather (l :: later)).extra)) ::
        entries (later.drop (gather (l :: later)).extra) := by
  rw [hreach.entries_eq, hline, entries_override hfires, fst_gatherOverride]

/-- **Lines inside an override are inert.**  In a block that is read up to an override, the lines it
takes after its first are replaced by others, in whatever number, with which it still ends on the
last of them.  The entries before and after the override are the same, and the interface changes in
the content of that override only. -/
theorem register_of_replaced {other : List Line}
    (hreach : Reaches (entryWith? forms) block es n) (hline : block.drop n = l :: later)
    (hfires : overrideOn? l = some kind)
    (hlast : (gather (l :: (other ++ later.drop (gather (l :: later)).extra))).extra =
      other.length) :
    let taken := later.take (gather (l :: later)).extra
    let after := later.drop (gather (l :: later)).extra
    let replaced := block.take n ++ l :: (other ++ after)
    block = block.take n ++ l :: (taken ++ after) ∧
    entries block = es ++ .docOverride (overrideOf kind (l :: taken)) :: entries after ∧
    entries replaced = es ++ .docOverride (overrideOf kind (l :: other)) :: entries after ∧
    ∀ i : Interface, ∃ front back,
      (i.register block).docOverrides = front ++ overrideOf kind (l :: taken) :: back ∧
      i.register replaced =
        (i.register block).withOverrides (front ++ overrideOf kind (l :: other) :: back) := by
  intro taken after replaced
  have hn := lt_length_of_drop_eq_cons hline
  have hsplit : block = block.take n ++ l :: (taken ++ after) := by
    have htaken : taken ++ after = later := List.take_append_drop _ _
    rw [htaken, ← hline, List.take_append_drop]
  have hentries : entries block =
      es ++ .docOverride (overrideOf kind (l :: taken)) :: entries after :=
    entries_eq_of_override hreach hline hfires
  -- the lines before the override are the same, so the other block is read up to it as well
  have hreached : Reaches (entryWith? forms) replaced es n :=
    hreach.take_append isLocal_entryWith? hn (l :: (other ++ after))
  have hrest : replaced.drop n = l :: (other ++ after) :=
    List.drop_left' (by rw [List.length_take]; omega)
  have hreplaced : entries replaced =
      es ++ .docOverride (overrideOf kind (l :: other)) :: entries after := by
    have hread := entries_eq_of_override hreached hrest hfires
    rwa [hlast, List.take_left, List.drop_left] at hread
  refine ⟨hsplit, hentries, hreplaced, fun i => ?_⟩
  refine ⟨(i.addAll es).docOverrides, (entries after).filterMap Entry.override?, ?_, ?_⟩
  · rw [Interface.register, hentries, Interface.addAll_append_cons_docOverride]
    rfl
  · rw [Interface.register, Interface.register, hentries, hreplaced,
      Interface.addAll_append_cons_docOverride, Interface.addAll_append_cons_docOverride]
    rfl

/-- Of an override on three lines the last two are replaced by a remark and a line with a form on
it; the method before it and the form after it stay. -/
theorem register_of_replaced_remark :
    let l := "JSG_TS_OVERRIDE(\x7b".toList
    let later := ["  b(): void;".toList, "\x7d);".toList, "JSG_CALLABLE(c);".toList]
    let other := ["// JSG_METHOD(d)".toList, "\x7d); JSG_CALLABLE(e)".toList]
    let block := "JSG_METHOD(a);".toList :: l :: later
    let replaced := "JSG_METHOD(a);".toList :: l :: (other ++ later.drop 2)
    let i := Interface.empty "T" (.resource none)
    (Reaches (entryWith? forms) block [methodEntry false "a" "a"] 1 ∧
      overrideOn? l = some .override ∧ (gather (l :: (other ++ later.drop 2))).extra = 2) ∧
    i.register replaced = (i.register block).withOverrides [overrideOf .override (l :: other)] ∧
    (i.register block).methods = [⟨"a", "a", false⟩] ∧
    (i.register block).callableVia = some "c" ∧
    (i.register block).docOverrides = [⟨.override, "\x7b b(): void; \x7d"⟩] := by
  intro l later other block replaced i
  have hmethod : entryWith? forms "JSG_METHOD(a);".toList (l :: later) =
      some (methodEntry false "a" "a", 0) := by decide +kernel
  have hreach : Reaches (entryWith? forms) block [methodEntry false "a" "a"] 1 :=
    .form hmethod (.start _)
  have hfires : overrideOn? l = some .override := by decide +kernel
  have hextra : (gather (l :: later)).extra = 2 := by decide +kernel
  have hlast : (gather (l :: (other ++ later.drop (gather (l :: later)).extra))).extra =
      other.length := by decide +kernel
  have hvalues : (i.register block).methods = [⟨"a", "a", false⟩] ∧
      (i.register block).callableVia = some "c" ∧
      (i.register block).docOverrides = [⟨.override, "\x7b b(): void; \x7d"⟩] := by decide +kernel
  have hline : List.drop 1 ("JSG_METHOD(a);".toList :: l :: later) = l :: later := rfl
  have hregister := register_of_replaced hreach hline hfires hlast
  rw [hextra] at hlast hregister
  obtain ⟨front, back, hbefore, hafter⟩ := hregister.2.2.2 i
  -- there is one override only, so nothing stands around it
  have hlength := congrArg List.length (hvalues.2.2.symm.trans hbefore)
  simp only [List.length_append, List.length_cons, List.length_nil] at hlength
  obtain rfl : front = [] := List.eq_nil_of_length_eq_zero (by omega)
  obtain rfl : back = [] := List.eq_nil_of_length_eq_zero (by omega)
  exact ⟨⟨hreach, hfires, hlast⟩, hafter, hvalues⟩

end Blocks

end DeclAtlas
