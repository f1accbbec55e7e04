import DeclAtlas.Proofs.Schema.Conservation

/-!
# The order of fields

A record that is parked while another one is read takes up its fields again where it left off.  So
its fields stand in the order of the lines that declare them, each once, wherever the lines of other
records stand in between (`fields_sublist_of_mem_parse`).
-/

namespace DeclAtlas.Schema

open Text

namespace Reading

/-- The fields of every record are some of those declared so far, in their order. -/
def InOrder (declared : List Field) (r : Reading) : Prop :=
  ∀ q ∈ r.records, q.fields.Sublist declared

theorem inOrder_start : InOrder [] start := fun _ h => absurd h List.not_mem_nil

theorem InOrder.opened {declared : List Field} {r : Reading} (h : InOrder declared r) (l : Line) :
    InOrder declared (r.opened l) := by
  intro q hq
  rw [records_opened] at hq
  rcases List.mem_append.mp hq with hq | hq
  · exact h q hq
  · obtain ⟨n, -, rfl⟩ := Option.map_eq_some_iff.mp (Option.mem_toList.mp hq)
    exact List.nil_sublist declared

/-- **A line declares its field behind those that a record has.** -/
theorem InOrder.feed {declared : List Field} {r : Reading} (h : InOrder declared r) (l : Line) :
    InOrder (declared ++ (field? l).toList) (r.feed l) := by
  intro q hq
  -- closing moves records about and changes none of their fields
  have hmoved := perm_feed (f := Record.fields) (fun _ _ => rfl) r l
  obtain ⟨x, hx, hfields⟩ := List.mem_map.mp (hmoved.mem_iff.mp (List.mem_map_of_mem hq))
  rw [← hfields]
  rcases List.mem_append.mp hx with hx | hx
  · have hbefore := h.opened l x (List.mem_append_left _ hx)
    exact hbefore.trans (List.sublist_append_left _ _)
  · obtain ⟨c, hc, rfl⟩ := Option.map_eq_some_iff.mp (Option.mem_toList.mp hx)
    have hbefore := h.opened l c (List.mem_append_right _ (Option.mem_toList.mpr hc))
    exact hbefore.append (List.Sublist.refl _)

theorem InOrder.foldl {declared : List Field} {r : Reading} (h : InOrder declared r)
    (ls : List Line) : InOrder (declared ++ ls.filterMap field?) (ls.foldl Reading.feed r) := by
  induction ls generalizing declared r with
  | nil => rwa [List.filterMap_nil, List.append_nil]
  | cons l ls ih =>
    have hdeclared : declared ++ (l :: ls).filterMap field? =
        declared ++ (field? l).toList ++ ls.filterMap field? := by
      rw [List.append_assoc, List.filterMap_cons]
      cases field? l <;> rfl
    rw [hdeclared]
    exact ih (h.feed l)

end Reading

/-- **The fields of a record stand in the order of their lines.** -/
theorem fields_sublist_of_mem_parse {text : String} {r : Record} (hr : r ∈ parse text) :
    r.fields.Sublist ((linesOf text).filterMap field?) :=
  Reading.inOrder_start.foldl (linesOf text) r hr

end DeclAtlas.Schema
