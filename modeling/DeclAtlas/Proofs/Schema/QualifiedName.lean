import DeclAtlas.Proofs.Text.Reading
import DeclAtlas.Schema.Reader

/-!
# Qualified names

The qualified name of a record is its path, the names from the outermost record down to its own,
joined by dots.  Names of records are runs of word characters (`dotless_of_openedRecord?`), so a
qualified name determines its path (`dotted_injective`); in particular no two of the records that
are open at one time have the same qualified name.
-/

namespace DeclAtlas.Schema

open Text

/-- A path as a qualified name. -/
def dotted (path : List String) : String := ".".intercalate path

/-- A name without a dot. -/
def Dotless (name : String) : Prop := '.' ∉ name.toList

instance (name : String) : Decidable (Dotless name) :=
  inferInstanceAs (Decidable ('.' ∉ name.toList))

theorem qualifiedNameOf_eq (stack : List Opening) :
    qualifiedNameOf stack = dotted (stack.reverse.map Opening.name) := rfl

theorem qualifiedNameOf_cons (o : Opening) (stack : List Opening) :
    qualifiedNameOf (o :: stack) = dotted (stack.reverse.map Opening.name ++ [o.name]) := by
  rw [qualifiedNameOf_eq, List.reverse_cons, List.map_append, List.map_singleton]

/-- A qualified name falls apart into its path. -/
theorem splitOn_dotted {path : List String} (h : ∀ n ∈ path, Dotless n) (hne : path ≠ []) :
    List.splitOn '.' (dotted path).toList = path.map String.toList := by
  rw [dotted, String.toList_intercalate]
  refine List.splitOn_intercalate '.' ?_ (by simpa using hne)
  intro s hs
  obtain ⟨n, hn, rfl⟩ := List.mem_map.mp hs
  exact h n hn

/-- **A qualified name determines its path.** -/
theorem dotted_injective {a b : List String} (ha : ∀ n ∈ a, Dotless n) (hb : ∀ n ∈ b, Dotless n)
    (hane : a ≠ []) (hbne : b ≠ []) (h : dotted a = dotted b) : a = b := by
  have hmap : a.map String.toList = b.map String.toList := by
    rw [← splitOn_dotted ha hane, ← splitOn_dotted hb hbne, h]
  exact (List.map_inj_right fun _ _ => String.toList_inj.mp).mp hmap

/-! ### Lines that open a record -/

theorem dotless_of_forall_isWord {w : List Char} (h : ∀ c ∈ w, isWord c = true) :
    Dotless (String.ofList w) := by
  intro hdot
  rw [String.toList_ofList] at hdot
  exact absurd (h '.' hdot) (by decide)

/-- A name that is a word. -/
def IsWordName (name : String) : Prop := name.toList ≠ [] ∧ ∀ c ∈ name.toList, isWord c = true

/-- What a record opening is made of. -/
theorem recordOpening?_eq_some {s name r : List Char} (h : recordOpening? s = some (name, r)) :
    (name ≠ [] ∧ ∀ c ∈ name, isWord c = true) ∧ '{' ∈ s := by
  simp only [recordOpening?, Option.bind_eq_bind, Option.bind_eq_some_iff, Option.some.injEq,
    Prod.mk.injEq] at h
  obtain ⟨s₁, ⟨_, h₀, h₁⟩, ⟨n, s₂⟩, h₂, s₃, ⟨_, h₃, h₄⟩, ⟨x, s₄⟩, h₅, s₅, h₆, rfl, rfl⟩ := h
  refine ⟨(run?_eq_some h₂).2, ?_⟩
  have hbrace : '{' ∈ trimStart s₄ := by
    rw [literal?_eq_some.mp h₆]
    exact List.mem_cons_self
  have hleft : trimStart s₄ <:+ s :=
    (suffix_trimStart s₄).trans <| (suffix_of_run? h₅).trans <| (suffix_of_literal? h₄).trans <|
      (suffix_of_blanks? h₃).trans <| (suffix_of_run? h₂).trans <|
      (suffix_of_blanks? h₁).trans (suffix_of_literal? h₀)
  exact hleft.mem hbrace

theorem isWordName_of_openedRecord? {l : Line} {n : String} (h : openedRecord? l = some n) :
    IsWordName n := by
  obtain ⟨w, hw, rfl⟩ := Option.map_eq_some_iff.mp h
  obtain ⟨u, v, r, -, hv⟩ := exists_of_findMatch? hw
  rw [IsWordName, String.toList_ofList]
  exact (recordOpening?_eq_some hv).1

theorem IsWordName.dotless {n : String} (h : IsWordName n) : Dotless n := by
  rw [← n.ofList_toList]
  exact dotless_of_forall_isWord h.2

theorem dotless_of_openedRecord? {l : Line} {n : String} (h : openedRecord? l = some n) :
    Dotless n :=
  (isWordName_of_openedRecord? h).dotless

/-- A line that opens a record raises the depth of braces. -/
theorem brace_mem_of_openedRecord? {l : Line} {n : String} (h : openedRecord? l = some n) :
    '{' ∈ l := by
  obtain ⟨w, hw, -⟩ := Option.map_eq_some_iff.mp h
  obtain ⟨u, v, r, rfl, hv⟩ := exists_of_findMatch? hw
  exact List.mem_append_right u (recordOpening?_eq_some hv).2

end DeclAtlas.Schema
