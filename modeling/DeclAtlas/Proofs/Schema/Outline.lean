import DeclAtlas.Proofs.Schema.OpenRecords
import DeclAtlas.Proofs.Schema.WrittenHeads

/-!
# Outlines of schemas

An `Outline` is a schema as it is meant: fields, annotations, blocks and records inside each other.
It is written down one item a line (`Outline.text`), and it says which records it declares
(`Outline.records`): each after the records inside it, with its own members and its own children.

The written outline is read back as these records, at every depth and width, as long as siblings
have different names (`OutlineReading.lean`).

The proof goes along the outline.  Whatever has been read before it, reading the lines of an outline
adds its records to those set aside, its members and children to the record in hand, and leaves the
stack and the depth alone (`foldl_feed_lines`).  For this a record must find its parent again among
all that were set aside; the invariant is that no two of them, nor of the records still to come,
have the same qualified name.  Different names of siblings are all this needs
(`nodup_qualifiedNames`).
-/

namespace DeclAtlas.Schema

open Text

/-! ### Outlines -/

/-- A line that opens nothing. -/
inductive Member where
  | field (f : FieldLine)
  | annotationLine (a : AnnotationLine)
  | silent (s : SilentLine)

namespace Member

/-- The line. -/
def text : Member → Line
  | .field f => f.text
  | .annotationLine a => a.text
  | .silent s => s.text

/-- The field it declares. -/
def fields : Member → List Field
  | .field f => [f.field]
  | _ => []

/-- The annotation it declares. -/
def annotations : Member → List String
  | .annotationLine a => [a.word.name]
  | _ => []

theorem braceFree_text (m : Member) : BraceFree m.text := by
  cases m with
  | field f => exact f.braceFree
  | annotationLine a => exact a.braceFree
  | silent s => exact s.braceFree

theorem isLine_text (m : Member) : IsLine m.text := by
  cases m with
  | field f => exact f.isLine
  | annotationLine a => exact a.isLine
  | silent s => exact s.isLine

theorem toList_field?_text (m : Member) : (field? m.text).toList = m.fields := by
  cases m with
  | field f => exact congrArg Option.toList f.field?_text
  | annotationLine a => exact congrArg Option.toList a.field?_text
  | silent s => exact congrArg Option.toList s.field?_text

theorem toList_declaredAnnotation?_text (m : Member) :
    (declaredAnnotation? m.text).toList = m.annotations := by
  cases m with
  | field f => exact congrArg Option.toList f.declaredAnnotation?_text
  | annotationLine a => exact congrArg Option.toList a.declaredAnnotation?_text
  | silent s => exact congrArg Option.toList s.declaredAnnotation?_text

end Member

/-- What stands between two braces, item after item. -/
inductive Outline where
  | nil
  | line (m : Member) (next : Outline)
  | block (head : BlockHead) (body : Outline) (closer : Closer) (next : Outline)
  | record (head : RecordHead) (body : Outline) (closer : Closer) (next : Outline)

namespace Outline

/-- The lines of an outline, one for each item and one for each end of a block or record. -/
def lines : Outline → List Line
  | .nil => []
  | .line m next => m.text :: next.lines
  | .block head body closer next => head.text :: (body.lines ++ closer.text :: next.lines)
  | .record head body closer next => head.text :: (body.lines ++ closer.text :: next.lines)

/-- An outline written down. -/
def text (o : Outline) : String := String.ofList (endLines o.lines)

/-- The fields of an outline that are in none of its records. -/
def fields : Outline → List Field
  | .nil => []
  | .line m next => m.fields ++ next.fields
  | .block _ body _ next => body.fields ++ next.fields
  | .record _ _ _ next => next.fields

/-- The annotations of an outline that are in none of its records. -/
def annotations : Outline → List String
  | .nil => []
  | .line m next => m.annotations ++ next.annotations
  | .block _ body _ next => body.annotations ++ next.annotations
  | .record _ _ _ next => next.annotations

/-- The names of the records of an outline that are in none of its records. -/
def children : Outline → List String
  | .nil => []
  | .line _ next => next.children
  | .block _ body _ next => body.children ++ next.children
  | .record head _ _ next => head.name :: next.children

/-- The record with a path whose members are those of an outline. -/
def node (path : List String) (name : String) (body : Outline) : Record where
  name := name
  qualifiedName := dotted (path ++ [name])
  fields := body.fields
  declaredAnnotations := body.annotations
  nested := body.children.map fun n => dotted (path ++ [name] ++ [n])

/-- The records of an outline that stands inside the record with a path: each after those inside
it. -/
def records (path : List String) : Outline → List Record
  | .nil => []
  | .line _ next => next.records path
  | .block _ body _ next => body.records path ++ next.records path
  | .record head body _ next =>
    body.records (path ++ [head.name]) ++ node path head.name body :: next.records path

/-- The records of one parent have different names, all the way down; those of the outline itself
are not looked at. -/
def DistinctInside : Outline → Prop
  | .nil => True
  | .line _ next => next.DistinctInside
  | .block _ body _ next => body.DistinctInside ∧ next.DistinctInside
  | .record _ body _ next => body.children.Nodup ∧ body.DistinctInside ∧ next.DistinctInside

/-- Siblings have different names everywhere. -/
def Distinct (o : Outline) : Prop := o.children.Nodup ∧ o.DistinctInside

theorem isLine_of_mem_lines : ∀ {o : Outline} {l : Line}, l ∈ o.lines → IsLine l := by
  intro o
  induction o with
  | nil => intro l h; simp [lines] at h
  | line m next ih =>
    intro l h
    rcases List.mem_cons.mp h with rfl | h
    · exact m.isLine_text
    · exact ih h
  | block head body closer next ihb ihn =>
    intro l h
    rcases List.mem_cons.mp h with rfl | h
    · exact head.isLine
    · rcases List.mem_append.mp h with h | h
      · exact ihb h
      · rcases List.mem_cons.mp h with rfl | h
        · exact closer.isLine
        · exact ihn h
  | record head body closer next ihb ihn =>
    intro l h
    rcases List.mem_cons.mp h with rfl | h
    · exact head.isLine
    · rcases List.mem_append.mp h with h | h
      · exact ihb h
      · rcases List.mem_cons.mp h with rfl | h
        · exact closer.isLine
        · exact ihn h

theorem linesOf_text (o : Outline) : linesOf o.text = o.lines := by
  rw [linesOf, text, String.toList_ofList, lines_endLines fun _ => isLine_of_mem_lines]

/-! ### Qualified names -/

/-- The paths of the records of an outline, in the order of `records`. -/
def paths (path : List String) : Outline → List (List String)
  | .nil => []
  | .line _ next => next.paths path
  | .block _ body _ next => body.paths path ++ next.paths path
  | .record head body _ next =>
    body.paths (path ++ [head.name]) ++ (path ++ [head.name]) :: next.paths path

theorem map_qualifiedName_records (o : Outline) (path : List String) :
    (o.records path).map Record.qualifiedName = (o.paths path).map dotted := by
  induction o generalizing path with
  | nil => rfl
  | line m next ih => exact ih path
  | block head body closer next ihb ihn => simp [records, paths, ihb, ihn]
  | record head body closer next ihb ihn => simp [records, paths, ihb, ihn, node]

/-- A path leads through one of the children. -/
theorem exists_child_of_mem_paths {o : Outline} : ∀ {path p : List String}, p ∈ o.paths path →
    ∃ n ∈ o.children, path ++ [n] <+: p := by
  induction o with
  | nil => intro _ _ h; simp [paths] at h
  | line m next ih => intro _ _ h; exact ih h
  | block head body closer next ihb ihn =>
    intro path p h
    rcases List.mem_append.mp h with h | h
    · obtain ⟨n, hn, hp⟩ := ihb h
      exact ⟨n, List.mem_append_left _ hn, hp⟩
    · obtain ⟨n, hn, hp⟩ := ihn h
      exact ⟨n, List.mem_append_right _ hn, hp⟩
  | record head body closer next ihb ihn =>
    intro path p h
    rcases List.mem_append.mp h with h | h
    · obtain ⟨n, -, hp⟩ := ihb h
      exact ⟨head.name, List.mem_cons_self, (List.prefix_append _ [n]).trans hp⟩
    · rcases List.mem_cons.mp h with rfl | h
      · exact ⟨head.name, List.mem_cons_self, List.prefix_rfl⟩
      · obtain ⟨n, hn, hp⟩ := ihn h
        exact ⟨n, List.mem_cons_of_mem _ hn, hp⟩

/-- The first name after a path is the same for all paths that go on alike. -/
theorem eq_of_concat_isPrefix {path p : List String} {n m : String}
    (hn : path ++ [n] <+: p) (hm : path ++ [m] <+: p) : n = m := by
  obtain ⟨s, rfl⟩ := hn
  obtain ⟨t, ht⟩ := hm
  simp only [List.append_assoc, List.append_cancel_left_eq, List.singleton_append,
    List.cons.injEq] at ht
  exact ht.1.symm

theorem nodup_paths {o : Outline} : ∀ {path : List String}, o.Distinct → (o.paths path).Nodup := by
  induction o with
  | nil => intro _ _; exact .nil
  | line m next ih => intro _ h; exact ih h
  | block head body closer next ihb ihn =>
    intro path ⟨hchild, hb, hn⟩
    rw [children, List.nodup_append] at hchild
    refine List.nodup_append.mpr ⟨ihb ⟨hchild.1, hb⟩, ihn ⟨hchild.2.1, hn⟩, ?_⟩
    rintro p hp q hq rfl
    obtain ⟨n, hn, hnp⟩ := exists_child_of_mem_paths hp
    obtain ⟨m, hm, hmp⟩ := exists_child_of_mem_paths hq
    exact hchild.2.2 n hn m hm (eq_of_concat_isPrefix hnp hmp)
  | record head body closer next ihb ihn =>
    intro path ⟨hchild, hbody, hb, hn⟩
    rw [children, List.nodup_cons] at hchild
    have hnext : ∀ q ∈ next.paths path, ¬ path ++ [head.name] <+: q := by
      intro q hq hpre
      obtain ⟨m, hm, hmp⟩ := exists_child_of_mem_paths hq
      exact hchild.1 (eq_of_concat_isPrefix hpre hmp ▸ hm)
    refine List.nodup_append.mpr ⟨ihb ⟨hbody, hb⟩, List.nodup_cons.mpr
      ⟨fun h => hnext _ h List.prefix_rfl, ihn ⟨hchild.2, hn⟩⟩, ?_⟩
    rintro p hp q hq rfl
    obtain ⟨n, -, hnp⟩ := exists_child_of_mem_paths hp
    rcases List.mem_cons.mp hq with rfl | hq
    · -- a path inside the record is longer than the record's own
      have := hnp.length_le
      simp only [List.length_append, List.length_singleton] at this
      omega
    · exact hnext p hq ((List.prefix_append _ [n]).trans hnp)

theorem dotless_of_mem_paths {o : Outline} : ∀ {path : List String}, (∀ n ∈ path, Dotless n) →
    ∀ p ∈ o.paths path, p ≠ [] ∧ ∀ n ∈ p, Dotless n := by
  induction o with
  | nil => intro _ _ p hp; simp [paths] at hp
  | line m next ih => intro _ hpath; exact ih hpath
  | block head body closer next ihb ihn =>
    intro path hpath p hp
    rcases List.mem_append.mp hp with hp | hp
    · exact ihb hpath p hp
    · exact ihn hpath p hp
  | record head body closer next ihb ihn =>
    intro path hpath p hp
    have hhead : ∀ n ∈ path ++ [head.name], Dotless n := by
      intro n hn
      rcases List.mem_append.mp hn with hn | hn
      · exact hpath n hn
      · rw [List.mem_singleton.mp hn]; exact dotless_of_forall_isWord head.word.word
    rcases List.mem_append.mp hp with hp | hp
    · exact ihb hhead p hp
    · rcases List.mem_cons.mp hp with rfl | hp
      · exact ⟨by simp, hhead⟩
      · exact ihn hpath p hp

/-- **No two records of an outline have the same qualified name** if siblings differ. -/
theorem nodup_qualifiedNames {o : Outline} (h : o.Distinct) :
    ((o.records []).map Record.qualifiedName).Nodup := by
  have hdot : ∀ p ∈ o.paths [], p ≠ [] ∧ ∀ n ∈ p, Dotless n := dotless_of_mem_paths (by simp)
  rw [map_qualifiedName_records]
  refine List.pairwise_map.mpr ((nodup_paths h).imp_of_mem fun hp hq hne e => hne ?_)
  exact dotted_injective (hdot _ hp).2 (hdot _ hq).2 (hdot _ hp).1 (hdot _ hq).1 e

end Outline

end DeclAtlas.Schema
