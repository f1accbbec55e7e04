import DeclAtlas.Proofs.Schema.Outline

/-!
# Reading outlines

The four kinds of lines of an outline are the four things `Reading.feed` can do: declare
(`feed_member`), open and close a block (`feed_blockHead`, `feed_blockCloser`), open a record
(`feed_recordHead`) and close it (`feed_recordCloser`).  `foldl_feed_lines` strings them together
along the outline; whole texts are the case in which nothing was read before.
-/

namespace DeclAtlas.Schema

open Text

namespace Reading

variable {stack : List Opening} {aside : List Record} {current : Option Record} {depth d : Nat}

/-! ### One line -/

/-- Nothing is closed while the innermost open record stays open. -/
theorem closeFinished_of_head (h : ∀ o ∈ stack.head?, o.depth < d) :
    closeFinished d stack aside current = ⟨aside, stack, d, current⟩ := by
  cases stack with
  | nil => rfl
  | cons o stack => exact closeFinished_cons_of_lt (h o rfl)

theorem declareIn_eq_self {l : Line} (hf : field? l = none) (ha : declaredAnnotation? l = none)
    (r : Record) : declareIn l r = r := by
  simp [declareIn, hf, ha]

/-- A line that opens no record and closes none. -/
theorem feed_of_head {l : Line} (hl : openedRecord? l = none)
    (hd : depth + l.count '{' - l.count '}' = d) (h : ∀ o ∈ stack.head?, o.depth < d) :
    feed ⟨aside, stack, depth, current⟩ l = ⟨aside, stack, d, current.map (declareIn l)⟩ := by
  rw [feed_eq, opened, hl, depthAfter, hd]
  exact closeFinished_of_head h

theorem feed_member (m : Member) (h : ∀ o ∈ stack.head?, o.depth < depth) :
    feed ⟨aside, stack, depth, current⟩ m.text = ⟨aside, stack, depth, current.map fun r =>
      { r with
        fields := r.fields ++ m.fields
        declaredAnnotations := r.declaredAnnotations ++ m.annotations }⟩ := by
  have hfree := m.braceFree_text
  have hdeclare : declareIn m.text = fun r =>
      { r with
        fields := r.fields ++ m.fields
        declaredAnnotations := r.declaredAnnotations ++ m.annotations } := by
    funext r
    rw [declareIn, m.toList_field?_text, m.toList_declaredAnnotation?_text]
  rw [feed_of_head (d := depth) (openedRecord?_eq_none hfree.1)
    (by rw [List.count_eq_zero_of_not_mem hfree.1, List.count_eq_zero_of_not_mem hfree.2]; rfl) h,
    hdeclare]

theorem feed_blockHead (head : BlockHead) (h : ∀ o ∈ stack.head?, o.depth < depth) :
    feed ⟨aside, stack, depth, current⟩ head.text = ⟨aside, stack, depth + 1, current⟩ := by
  rw [feed_of_head (d := depth + 1) head.openedRecord?_text
    (by rw [head.opensOne.1, head.opensOne.2]; rfl) fun o ho => Nat.lt_succ_of_lt (h o ho)]
  have hid : declareIn head.text = id :=
    funext fun r => declareIn_eq_self head.field?_text head.declaredAnnotation?_text r
  rw [hid, Option.map_id, id]

/-- What a closing line makes of a state: it only lowers the depth. -/
theorem feed_closer (closer : Closer) :
    feed ⟨aside, stack, depth + 1, current⟩ closer.text =
      closeFinished depth stack aside current := by
  have hid : declareIn closer.text = id :=
    funext fun r => declareIn_eq_self closer.field?_text closer.declaredAnnotation?_text r
  rw [feed_eq, opened, closer.openedRecord?_text, depthAfter, closer.count_open,
    closer.count_close, hid, Option.map_id]
  rfl

theorem feed_blockCloser (closer : Closer) (h : ∀ o ∈ stack.head?, o.depth < depth) :
    feed ⟨aside, stack, depth + 1, current⟩ closer.text = ⟨aside, stack, depth, current⟩ := by
  rw [feed_closer, closeFinished_of_head h]

theorem feed_recordHead (head : RecordHead) :
    feed ⟨aside, stack, depth, current⟩ head.text =
      ⟨aside ++ current.toList, ⟨head.name, depth⟩ :: stack, depth + 1,
        some (Record.empty head.name (qualifiedNameOf (⟨head.name, depth⟩ :: stack)))⟩ := by
  have hcount : OpensOne head.text := head.toHeadParts.opensOne_text
  have hfield : field? head.text = none := head.toHeadParts.field?_text
  have hann : declaredAnnotation? head.text = none :=
    head.toHeadParts.declaredAnnotation?_text (startsIn_cons (by decide))
  rw [feed_eq, opened, head.openedRecord?_text, depthAfter, hcount.1, hcount.2]
  simp only [openRecord, Option.map_some, declareIn_eq_self hfield hann]
  exact closeFinished_cons_of_lt (Nat.lt_succ_self depth)

/-- Closing a record goes back to its parent, which is found where it was set aside. -/
theorem feed_recordCloser {o : Opening} {a b : List Record} {parent child : Record}
    (closer : Closer) (ho : depth ≤ o.depth) (hne : stack ≠ [])
    (h : ∀ x ∈ stack.head?, x.depth < depth)
    (hparent : parent.qualifiedName = qualifiedNameOf stack)
    (ha : ∀ x ∈ a, x.qualifiedName ≠ parent.qualifiedName) :
    feed ⟨a ++ parent :: b, o :: stack, depth + 1, some child⟩ closer.text =
      ⟨a ++ (b ++ [child]), stack, depth,
        some { parent with nested := parent.nested ++ [child.qualifiedName] }⟩ := by
  have ht : takeOut? (qualifiedNameOf stack) (a ++ parent :: b ++ (some child).toList) =
      some (parent, a ++ (b ++ [child])) := by
    rw [← hparent, List.append_assoc]
    exact takeOut?_append ha
  rw [feed_closer, closeFinished_cons_of_le ho, returnTo_of_takeOut? hne ht]
  exact closeFinished_of_head h

theorem feed_rootCloser {o : Opening} {child : Record} (closer : Closer) (ho : depth ≤ o.depth) :
    feed ⟨aside, [o], depth + 1, some child⟩ closer.text =
      ⟨aside ++ [child], [], depth, none⟩ := by
  rw [feed_closer, closeFinished_cons_of_le ho, returnTo_nil]
  rfl

/-- **Closing a record** sets it aside and names it in its parent, if it has one. -/
theorem feed_childCloser {o : Opening} {inside : List Record} {child : Record} (closer : Closer)
    (ho : depth ≤ o.depth) (h : ∀ x ∈ stack.head?, x.depth < depth)
    (hcur : current.map Record.qualifiedName =
      if stack = [] then none else some (qualifiedNameOf stack))
    (hne : ∀ c ∈ current, ∀ x ∈ aside, x.qualifiedName ≠ c.qualifiedName) :
    feed ⟨aside ++ current.toList ++ inside, o :: stack, depth + 1, some child⟩ closer.text =
      ⟨aside ++ (inside ++ [child]), stack, depth,
        current.map fun c => { c with nested := c.nested ++ [child.qualifiedName] }⟩ := by
  by_cases hs : stack = []
  · subst hs
    obtain rfl : current = none := by simpa using hcur
    rw [feed_rootCloser closer ho]
    simp
  · obtain ⟨c, rfl, hc⟩ := Option.map_eq_some_iff.mp (hcur.trans (if_neg hs))
    have haside : aside ++ (some c).toList ++ inside = aside ++ c :: inside := by
      rw [List.append_assoc]
      rfl
    rw [haside, feed_recordCloser closer ho hs h hc (hne c rfl), Option.map_some]

end Reading

/-! ### A whole outline -/

namespace Outline

open Reading

/-- A record with the members and children of an outline added. -/
def addTo (path : List String) (o : Outline) (r : Record) : Record :=
  { r with
    fields := r.fields ++ o.fields
    declaredAnnotations := r.declaredAnnotations ++ o.annotations
    nested := r.nested ++ o.children.map fun n => dotted (path ++ [n]) }

theorem addTo_empty (path : List String) (name : String) (body : Outline) :
    addTo (path ++ [name]) body (Record.empty name (dotted (path ++ [name]))) =
      node path name body := by
  simp [addTo, node, Record.empty]

theorem addTo_line (path : List String) (m : Member) (next : Outline) (r : Record) :
    (line m next).addTo path r = next.addTo path
      { r with
        fields := r.fields ++ m.fields
        declaredAnnotations := r.declaredAnnotations ++ m.annotations } := by
  simp only [addTo, fields, annotations, children, List.append_assoc]

theorem addTo_block (path : List String) (head : BlockHead) (body : Outline) (closer : Closer)
    (next : Outline) (r : Record) :
    (block head body closer next).addTo path r = next.addTo path (body.addTo path r) := by
  simp only [addTo, fields, annotations, children, List.append_assoc, List.map_append]

theorem addTo_record (path : List String) (head : RecordHead) (body : Outline) (closer : Closer)
    (next : Outline) (r : Record) :
    (record head body closer next).addTo path r = next.addTo path
      { r with nested := r.nested ++ [dotted (path ++ [head.name])] } := by
  simp only [addTo, fields, annotations, children, List.map_cons, List.append_assoc,
    List.singleton_append]

/-- The qualified names in a state and of the records an outline is about to add. -/
def namesWith (path : List String) (o : Outline) (aside : List Record)
    (current : Option Record) : List String :=
  aside.map Record.qualifiedName ++ (current.map Record.qualifiedName).toList ++
    (o.records path).map Record.qualifiedName

theorem namesWith_congr {path : List String} {o : Outline} {aside : List Record}
    {current changed : Option Record}
    (h : changed.map Record.qualifiedName = current.map Record.qualifiedName) :
    o.namesWith path aside changed = o.namesWith path aside current := by
  rw [namesWith, namesWith, h]

theorem map_qualifiedName_addTo (path : List String) (o : Outline) (current : Option Record) :
    (current.map (o.addTo path)).map Record.qualifiedName = current.map Record.qualifiedName := by
  rw [Option.map_map]
  rfl

section Names

variable {path : List String} {body next : Outline} {closer : Closer} {aside : List Record}
  {current : Option Record}

/-- The names met in the body of a block are among those of the block and what follows it. -/
theorem nodup_body_of_block {head : BlockHead}
    (h : ((block head body closer next).namesWith path aside current).Nodup) :
    (body.namesWith path aside current).Nodup := by
  rw [namesWith, records, List.map_append] at h
  exact h.sublist ((List.sublist_append_left _ _).append_left _)

theorem nodup_next_of_block {head : BlockHead}
    (h : ((block head body closer next).namesWith path aside current).Nodup) :
    (next.namesWith path (aside ++ body.records path) current).Nodup := by
  rw [namesWith, records, List.map_append] at h
  rw [namesWith, List.map_append]
  refine h.perm ?_
  grind

/-- The names met in the body of a record: its own comes before those inside it. -/
theorem nodup_body_of_record {head : RecordHead} {inner : Record}
    (hinner : inner.qualifiedName = dotted (path ++ [head.name]))
    (h : ((record head body closer next).namesWith path aside current).Nodup) :
    (body.namesWith (path ++ [head.name]) (aside ++ current.toList) (some inner)).Nodup := by
  rw [namesWith, records, List.map_append, List.map_cons, Option.toList_map] at h
  rw [namesWith, List.map_append, Option.map_some, hinner]
  refine ((h.perm ?_).sublist
    (List.sublist_append_left _ ((next.records path).map Record.qualifiedName)))
  rw [node]
  grind

theorem nodup_next_of_record {head : RecordHead}
    (h : ((record head body closer next).namesWith path aside current).Nodup) :
    (next.namesWith path
      (aside ++ (body.records (path ++ [head.name]) ++ [node path head.name body]))
      current).Nodup := by
  rw [namesWith, records, List.map_append, List.map_cons] at h
  simp only [namesWith, List.map_append, List.map_cons, List.map_nil]
  refine h.perm ?_
  grind

/-- The record in hand keeps its name to itself among those set aside. -/
theorem ne_of_mem_aside {o : Outline} (h : (o.namesWith path aside current).Nodup) :
    ∀ c ∈ current, ∀ x ∈ aside, x.qualifiedName ≠ c.qualifiedName := by
  rintro c ⟨⟩ x hx e
  have hac := (List.nodup_append.mp h).1
  exact (List.nodup_append.mp hac).2.2 _ (List.mem_map_of_mem hx) _ (by simp) e

end Names

/-- **Reading the lines of an outline adds its records, its members and its children**, and leaves
the stack and the depth as they were.  Nothing is assumed of what was read before, except that the
record in hand is the innermost open one and that no qualified name occurs twice. -/
theorem foldl_feed_lines (o : Outline) : ∀ (stack : List Opening) (aside : List Record)
    (current : Option Record) (depth : Nat),
    (∀ x ∈ stack.head?, x.depth < depth) →
    current.map Record.qualifiedName = (if stack = [] then none else some (qualifiedNameOf stack)) →
    (o.namesWith (stack.reverse.map Opening.name) aside current).Nodup →
      o.lines.foldl feed ⟨aside, stack, depth, current⟩ =
        ⟨aside ++ o.records (stack.reverse.map Opening.name), stack, depth,
          current.map (o.addTo (stack.reverse.map Opening.name))⟩ := by
  induction o with
  | nil =>
    intro stack aside current depth _ _ _
    have hid : addTo (stack.reverse.map Opening.name) .nil = id := by
      funext r
      simp [addTo, fields, annotations, children]
    rw [hid, Option.map_id]
    simp [lines, records]
  | line m next ih =>
    intro stack aside current depth htop hcur hnodup
    have hname : (current.map fun r =>
        { r with
          fields := r.fields ++ m.fields
          declaredAnnotations := r.declaredAnnotations ++ m.annotations }).map
        Record.qualifiedName = current.map Record.qualifiedName := by
      rw [Option.map_map]
      rfl
    rw [lines, List.foldl_cons, feed_member m htop, ih _ _ _ _ htop (hname.trans hcur)
      (by rw [namesWith_congr hname]; exact hnodup), Option.map_map, records]
    exact congrArg (fun f => Reading.mk _ _ _ (current.map f))
      (funext fun r => (addTo_line _ m next r).symm)
  | block head body closer next ihb ihn =>
    intro stack aside current depth htop hcur hnodup
    have hname := map_qualifiedName_addTo (stack.reverse.map Opening.name) body current
    rw [lines, List.foldl_cons, feed_blockHead head htop, List.foldl_append,
      ihb _ _ _ _ (fun x hx => Nat.lt_succ_of_lt (htop x hx)) hcur (nodup_body_of_block hnodup),
      List.foldl_cons, feed_blockCloser closer htop,
      ihn _ _ _ _ htop (hname.trans hcur)
      (by rw [namesWith_congr hname]; exact nodup_next_of_block hnodup), Option.map_map, records,
      List.append_assoc]
    exact congrArg (fun f => Reading.mk _ _ _ (current.map f))
      (funext fun r => (addTo_block _ head body closer next r).symm)
  | record head body closer next ihb ihn =>
    intro stack aside current depth htop hcur hnodup
    have hpath : List.map Opening.name (List.reverse (⟨head.name, depth⟩ :: stack)) =
        stack.reverse.map Opening.name ++ [head.name] := by
      rw [List.reverse_cons, List.map_append]
      rfl
    have hbody := ihb (⟨head.name, depth⟩ :: stack) (aside ++ current.toList)
      (some (Record.empty head.name (qualifiedNameOf (⟨head.name, depth⟩ :: stack)))) (depth + 1)
      (by rintro x ⟨⟩; exact Nat.lt_succ_self depth) (by simp [Record.empty])
      (by rw [hpath]; exact nodup_body_of_record (qualifiedNameOf_cons _ _) hnodup)
    rw [hpath, Option.map_some, qualifiedNameOf_cons, addTo_empty] at hbody
    have hname : (current.map fun c =>
        { c with nested := c.nested ++
            [(node (stack.reverse.map Opening.name) head.name body).qualifiedName] }).map
        Record.qualifiedName = current.map Record.qualifiedName := by
      rw [Option.map_map]
      rfl
    rw [lines, List.foldl_cons, feed_recordHead, List.foldl_append, qualifiedNameOf_cons, hbody,
      List.foldl_cons,
      feed_childCloser closer (Nat.le_refl depth) htop hcur (ne_of_mem_aside hnodup),
      ihn _ _ _ _ htop (hname.trans hcur)
      (by rw [namesWith_congr hname]; exact nodup_next_of_record hnodup), Option.map_map, records]
    refine congr (congrArg (fun a => Reading.mk a stack depth) ?_)
      (congrArg (current.map ·) (funext fun r => (addTo_record _ head body closer next r).symm))
    simp only [List.append_assoc, List.singleton_append]

/-! ### A record around another -/

/-- A line with nothing but a closing brace. -/
def closingBrace : Closer := ⟨.none, [], by decide, by decide, by decide⟩

/-- The head of a record with a name of one letter. -/
def letterHead (c : Char) (h : isWord c = true) : HeadParts :=
  ⟨.none, .space, ⟨[c], by simp, by simp [h]⟩, .space, ['1'], by decide,
    List.forall_mem_singleton.mpr (by decide), Gap.space.toBlanks, [], by decide⟩

/-- A field with a name and a type of one letter and an ordinal of one digit. -/
def letterField (c : Char) (h : isWord c = true) (digit : Char) (n : Nat)
    (hn : asciiNatBelow? fieldOrdinalBound [digit] = some n) : FieldParts :=
  ⟨.space, ⟨[c], by simp, by simp [h]⟩, .space, [digit], n, hn, .space, ['T'], by decide,
    List.forall_mem_singleton.mpr (by decide), by rintro c ⟨⟩; decide, [';'],
    List.forall_mem_singleton.mpr (by decide), [], startsIn_nil⟩

/-- A line with such a field. -/
def letterLine (c : Char) (h : isWord c = true) (digit : Char) (n : Nat)
    (hn : asciiNatBelow? fieldOrdinalBound [digit] = some n)
    (hb : BraceFree (letterField c h digit n hn).text)
    (hl : IsLine (letterField c h digit n hn).text) : Member :=
  .field ⟨letterField c h digit n hn, hb, hl⟩

/-- A record with a record and blocks of every kind inside it, and fields all around them. -/
def recordAroundRecord : Outline :=
  .record ⟨letterHead 'A' (by decide), by decide, by decide⟩
    (.line (letterLine 'x' (by decide) '0' 0 (by decide) (by decide) (by decide))
      (.record ⟨letterHead 'B' (by decide), by decide, by decide⟩ .nil closingBrace
        (.block (.union .none Gap.space.toBlanks [] (by decide) (by decide))
          (.line (letterLine 'y' (by decide) '1' 1 (by decide) (by decide) (by decide))
            (.block (.group .none (.ofList ['g'] (by decide) (by decide)) Gap.space.toBlanks
                Gap.space.toBlanks [] (by decide) (by decide))
              (.line (letterLine 'z' (by decide) '2' 2 (by decide) (by decide) (by decide)) .nil)
              closingBrace .nil))
          closingBrace
          (.block (.enum (letterHead 'E' (by decide)) (by decide)) .nil closingBrace
            (.line (letterLine 'w' (by decide) '3' 3 (by decide) (by decide) (by decide)) .nil)))))
    closingBrace .nil

/-- The same as a text. -/
def recordAroundRecordText : String :=
  "struct A @0x1 \x7b\n x @0 :T;\nstruct B @0x1 \x7b\n\x7d\n" ++
    "union \x7b\n y @1 :T;\ng :group \x7b\n z @2 :T;\n\x7d\n\x7d\n" ++
    "enum E @0x1 \x7b\n\x7d\n w @3 :T;\n\x7d\n"

theorem text_recordAroundRecord : recordAroundRecord.text = recordAroundRecordText := by
  decide +kernel

theorem distinct_recordAroundRecord : recordAroundRecord.Distinct := by
  simp [Distinct, DistinctInside, recordAroundRecord, children]

/-! ### Whole texts -/

/-- **A written outline is read back as its records**, whatever its depth and width. -/
theorem parse_text_outline (o : Outline) (h : o.Distinct) : parse o.text = o.records [] := by
  have hread := o.foldl_feed_lines [] [] none 0 (by simp) rfl
    (by simpa [namesWith] using nodup_qualifiedNames h)
  rw [parse, linesOf_text, readLines, Reading.start, hread]
  simp [Reading.records]

theorem parse_recordAroundRecord :
    recordAroundRecord.Distinct ∧
      parse recordAroundRecordText =
        [Record.empty "B" "A.B",
          { name := "A"
            qualifiedName := "A"
            fields :=
              [⟨"x", 0, "T", [], "x @0 :T"⟩, ⟨"y", 1, "T", [], "y @1 :T"⟩,
                ⟨"z", 2, "T", [], "z @2 :T"⟩, ⟨"w", 3, "T", [], "w @3 :T"⟩]
            declaredAnnotations := []
            nested := ["A.B"] }] := by
  refine ⟨distinct_recordAroundRecord, ?_⟩
  rw [← text_recordAroundRecord, parse_text_outline recordAroundRecord distinct_recordAroundRecord]
  decide +kernel

end Outline

end DeclAtlas.Schema
