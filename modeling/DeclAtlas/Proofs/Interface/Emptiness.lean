import DeclAtlas.Proofs.Interface.Claims

/-!
# Blocks that register nothing

An interface to which an entry is added is not empty any more, except for a script bundle, which the
test for emptiness does not look at (`isEmpty_add`).  So of a text that is registered in a new
interface, the test tells not whether some line is claimed, but whether one is claimed by another form
than that of script bundles (`isEmpty_registerText_iff`).  With a look at the bundles it would tell
just that.
-/

namespace DeclAtlas

open Text Nesting

namespace Interface

theorem isEmpty_appendNew {α : Type} (same : α → α → Bool) (xs : List α) (x : α) :
    (appendNew same xs x).isEmpty = false := by
  unfold appendNew
  split
  · rename_i h
    obtain ⟨y, hy, -⟩ := List.any_eq_true.mp h
    exact List.isEmpty_eq_false_iff.mpr (List.ne_nil_of_mem hy)
  · exact List.isEmpty_eq_false_iff.mpr (List.append_ne_nil_of_right_ne_nil xs (List.cons_ne_nil x []))

theorem exists_of_kind_eq_scriptBundle {e : Entry} (h : e.kind = .scriptBundle) :
    ∃ b, e = .scriptBundle b := by
  cases e <;> first | exact ⟨_, rfl⟩ | exact nomatch h

/-- **One entry more.** -/
theorem isEmpty_add (i : Interface) (e : Entry) :
    (i.add e).isEmpty = true ↔ i.isEmpty = true ∧ e.kind = .scriptBundle := by
  cases e <;> simp [add, addMethod, addProperty, isEmpty, Entry.kind, isEmpty_appendNew]

theorem isEmpty_addAll (es : List Entry) : ∀ i : Interface,
    (i.addAll es).isEmpty = true ↔ i.isEmpty = true ∧ ∀ e ∈ es, e.kind = .scriptBundle := by
  induction es with
  | nil => exact fun i => ⟨fun h => ⟨h, by simp⟩, And.left⟩
  | cons e es ih =>
    intro i
    have hstep : i.addAll (e :: es) = (i.add e).addAll es := rfl
    rw [hstep, ih, isEmpty_add, List.forall_mem_cons, and_assoc]

theorem eq_nil_of_addAll {i : Interface} {es : List Entry} (hempty : (i.addAll es).isEmpty = true)
    (hbundles : (i.addAll es).scriptBundles = []) : es = [] := by
  cases es with
  | nil => rfl
  | cons e es =>
    obtain ⟨-, hkinds⟩ := (isEmpty_addAll (e :: es) i).mp hempty
    obtain ⟨b, rfl⟩ := exists_of_kind_eq_scriptBundle (hkinds e List.mem_cons_self)
    have hgrows : i.scriptBundles ++ [b] <+: (i.addAll (.scriptBundle b :: es)).scriptBundles :=
      (growsTo_addAll es (i.add (.scriptBundle b))).scriptBundles
    rw [hbundles, List.prefix_nil] at hgrows
    exact absurd hgrows (by simp)

end Interface

theorem entries_eq_nil_iff {block : List Line} :
    entries block = [] ↔ ∀ n l f, ¬ Claimed block n l f := by
  constructor
  · intro h n l f hclaimed
    obtain ⟨e, he, -⟩ := hclaimed.exists_mem_entries
    rw [h] at he
    exact absurd he List.not_mem_nil
  · intro h
    by_contra hne
    obtain ⟨e, he⟩ := List.exists_mem_of_ne_nil _ hne
    obtain ⟨n, l, f, hclaimed, -⟩ := exists_kind_eq_of_mem_entries he
    exact h n l f hclaimed

/-- There is one form for script bundles. -/
theorem Form.kind_eq_scriptBundle_iff : ∀ f ∈ forms,
    f.kind = .scriptBundle ↔ f.name = "JSG_CONTEXT_JS_BUNDLE" := by
  decide +kernel

theorem forall_kind_entries_iff {block : List Line} : (∀ e ∈ entries block, e.kind = .scriptBundle) ↔
    ∀ n l f, Claimed block n l f → f.name = "JSG_CONTEXT_JS_BUNDLE" := by
  constructor
  · intro h n l f hclaimed
    obtain ⟨e, he, hkind⟩ := hclaimed.exists_mem_entries
    exact (f.kind_eq_scriptBundle_iff hclaimed.mem_forms).mp (hkind ▸ h e he)
  · intro h e he
    obtain ⟨n, l, f, hclaimed, hkind⟩ := exists_kind_eq_of_mem_entries he
    exact hkind.trans ((f.kind_eq_scriptBundle_iff hclaimed.mem_forms).mpr (h n l f hclaimed))

namespace Interface

/-- **When an interface counts as empty.**  A text that is registered in a new interface leaves it as
it is exactly if no form claims a line of the text; and this is what the test for emptiness tells
together with a look at the script bundles.  The test alone tells that no line is claimed by another
form than that of script bundles. -/
theorem isEmpty_registerText_iff (typeName : String) (registration : Registration) (text : String) :
    let i := (empty typeName registration).registerText text
    (i = empty typeName registration ↔ ∀ n l f, ¬ Claimed (linesOf text) n l f) ∧
    (i.isEmpty = true ∧ i.scriptBundles = [] ↔ ∀ n l f, ¬ Claimed (linesOf text) n l f) ∧
    (i.isEmpty = true ↔
      ∀ n l f, Claimed (linesOf text) n l f → f.name = "JSG_CONTEXT_JS_BUNDLE") := by
  intro i
  have hnew : (empty typeName registration).isEmpty = true := rfl
  have hi : i = (empty typeName registration).addAll (entries (linesOf text)) := rfl
  have hsame : entries (linesOf text) = [] → i = empty typeName registration := by
    intro h
    rw [hi, h]
    rfl
  have hbare : i.isEmpty = true ∧ i.scriptBundles = [] → entries (linesOf text) = [] :=
    fun h => eq_nil_of_addAll h.1 h.2
  refine ⟨⟨fun h => ?_, fun h => hsame (entries_eq_nil_iff.mpr h)⟩, ⟨fun h => ?_, fun h => ?_⟩, ?_⟩
  · exact entries_eq_nil_iff.mp (hbare (h ▸ ⟨rfl, rfl⟩))
  · exact entries_eq_nil_iff.mp (hbare h)
  · rw [hsame (entries_eq_nil_iff.mpr h)]
    exact ⟨rfl, rfl⟩
  · rw [hi, isEmpty_addAll, forall_kind_entries_iff]
    exact and_iff_right hnew

/-- **A script bundle is registered, and the interface still counts as empty.** -/
theorem isEmpty_of_scriptBundle :
    let text := "JSG_CONTEXT_JS_BUNDLE(b);\n"
    let i := (empty "T" (.resource none)).registerText text
    (∃ l f, Claimed (linesOf text) 0 l f) ∧ i.scriptBundles = ["b"] ∧ i.isEmpty = true := by
  intro text i
  have hline : (linesOf text)[0]? = some "JSG_CONTEXT_JS_BUNDLE(b);".toList := by decide +kernel
  have hform : (formOn? "JSG_CONTEXT_JS_BUNDLE(b);".toList).isSome = true := by decide +kernel
  obtain ⟨f, hf⟩ := Option.isSome_iff_exists.mp hform
  exact ⟨⟨_, f, ⟨[], .start _⟩, hline, hf⟩, by decide +kernel, by decide +kernel⟩

end Interface

end DeclAtlas
