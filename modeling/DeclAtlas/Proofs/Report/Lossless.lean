import DeclAtlas.Proofs.Report.JsonText
import DeclAtlas.Report

/-!
# JSON reports lose nothing

A report can be told from its JSON text: two reports with one text are the same report, and so of the
same kind (`render_json_inj`).  The text determines the value (`Json.document_inj`), and here it is
shown model by model that the value determines the model.

The kinds of reports are told apart by the first member of their objects, whose name or text is
another one for each kind.  Inside a report the members stand in a fixed order, so only an absent
value could be taken for another one; it is written as `null`, which no model is written as
(`ofOption_inj`).
-/

namespace DeclAtlas

open Json

namespace Json

variable {α : Type} {f : α → Json}

/-- An absent value is told from one that is there. -/
theorem ofOption_inj (hf : ∀ {a b}, f a = f b ↔ a = b) (hnull : ∀ a, f a ≠ .null) {x y : Option α} :
    ofOption f x = ofOption f y ↔ x = y := by
  cases x with
  | none =>
    cases y with
    | none => exact ⟨fun _ => rfl, fun _ => rfl⟩
    | some b => exact ⟨fun h => absurd h.symm (hnull b), nofun⟩
  | some a =>
    cases y with
    | none => exact ⟨fun h => absurd h (hnull a), nofun⟩
    | some b => exact hf.trans Option.some_inj.symm

theorem ofList_inj (hf : ∀ {a b}, f a = f b ↔ a = b) {xs ys : List α} :
    ofList f xs = ofList f ys ↔ xs = ys := by
  rw [ofList, ofList, arr.injEq]
  exact List.map_inj_right fun _ _ h => hf.mp h

theorem str_inj {a b : String} : str a = str b ↔ a = b := Eq.to_iff (str.injEq a b)

theorem num_inj {m n : Nat} : num m = num n ↔ m = n := Eq.to_iff (num.injEq m n)

theorem texts_inj {xs ys : List String} : ofList str xs = ofList str ys ↔ xs = ys := ofList_inj str_inj

theorem text?_inj {x y : Option String} : ofOption str x = ofOption str y ↔ x = y :=
  ofOption_inj str_inj fun _ => nofun

end Json

/-! ### Interfaces -/

theorem Location.toJson_inj {a b : Location} : a.toJson = b.toJson ↔ a = b := by
  cases a; cases b; simp [toJson]

theorem Registration.toJson_inj {a b : Registration} : a.toJson = b.toJson ↔ a = b := by
  cases a <;> cases b <;> simp [toJson, text?_inj]

theorem Inheritance.toJson_inj {a b : Inheritance} : a.toJson = b.toJson ↔ a = b := by
  cases a <;> cases b <;> simp [toJson]

theorem Method.toJson_inj {a b : Method} : a.toJson = b.toJson ↔ a = b := by
  cases a; cases b; simp [toJson]

theorem Placement.key_inj {a b : Placement} : a.key = b.key ↔ a = b := by
  cases a <;> cases b <;> simp [key]

theorem Property.toJson_inj {a b : Property} : a.toJson = b.toJson ↔ a = b := by
  cases a; cases b; simp [toJson, text?_inj, Placement.key_inj]

theorem Constant.toJson_inj {a b : Constant} : a.toJson = b.toJson ↔ a = b := by
  cases a; cases b; simp [toJson]

theorem NestedType.toJson_inj {a b : NestedType} : a.toJson = b.toJson ↔ a = b := by
  cases a; cases b; simp [toJson]

theorem HookKind.key_inj {a b : HookKind} : a.key = b.key ↔ a = b := by
  cases a <;> cases b <;> simp [key]

theorem Hook.toJson_inj {a b : Hook} : a.toJson = b.toJson ↔ a = b := by
  cases a; cases b; simp [toJson, HookKind.key_inj]

theorem SerializationTag.toJson_inj {a b : SerializationTag} : a.toJson = b.toJson ↔ a = b := by
  cases a; cases b; simp [toJson]

theorem OverrideKind.key_inj {a b : OverrideKind} : a.key = b.key ↔ a = b := by
  cases a <;> cases b <;> simp [key]

theorem DocOverride.toJson_inj {a b : DocOverride} : a.toJson = b.toJson ↔ a = b := by
  cases a; cases b; simp [toJson, OverrideKind.key_inj]

theorem StructField.toJson_inj {a b : StructField} : a.toJson = b.toJson ↔ a = b := by
  cases a; cases b; simp [toJson]

theorem Interface.toJson_inj {a b : Interface} : a.toJson = b.toJson ↔ a = b := by
  cases a; cases b
  simp [toJson, Location.toJson_inj, Registration.toJson_inj, texts_inj, text?_inj,
    ofList_inj Location.toJson_inj, ofList_inj Inheritance.toJson_inj, ofList_inj Method.toJson_inj,
    ofList_inj Property.toJson_inj, ofList_inj Constant.toJson_inj, ofList_inj NestedType.toJson_inj,
    ofList_inj Hook.toJson_inj, ofList_inj DocOverride.toJson_inj, ofList_inj StructField.toJson_inj,
    ofOption_inj SerializationTag.toJson_inj (fun _ => nofun)]

/-! ### Ordinals -/

namespace Schema

theorem Field.toJson_inj {a b : Field} : a.toJson = b.toJson ↔ a = b := by
  cases a; cases b; simp [toJson, texts_inj]

theorem Highest.toJson_inj {a b : Highest} : a.toJson = b.toJson ↔ a = b := by
  cases a; cases b; simp [toJson]

theorem RecordSummary.toJson_inj {a b : RecordSummary} : a.toJson = b.toJson ↔ a = b := by
  cases a; cases b; simp [toJson, ofOption_inj num_inj (fun _ => nofun)]

theorem Outcome.toJson_inj {a b : Outcome} : a.toJson = b.toJson ↔ a = b := by
  cases a with
  | record r =>
    cases b with
    | record q =>
      cases r; cases q
      simp [toJson, texts_inj, ofOption_inj Highest.toJson_inj (fun _ => nofun), ofList_inj num_inj,
        ofList_inj Field.toJson_inj]
    | summary => simp [toJson]
  | summary =>
    cases b with
    | record => simp [toJson]
    | summary => simp [toJson, ofList_inj RecordSummary.toJson_inj]

end Schema

/-! ### Dependencies -/

theorem Direction.key_inj {a b : Direction} : a.key = b.key ↔ a = b := by
  cases a <;> cases b <;> simp [key]

theorem LabelGroups.toJson_inj {a b : LabelGroups} : a.toJson = b.toJson ↔ a = b := by
  have hgroup : ∀ g h : String × List String, (g.1, ofList str g.2) = (h.1, ofList str h.2) → g = h := by
    intro g h hgh
    obtain ⟨hname, hlabels⟩ := Prod.mk.inj hgh
    exact Prod.ext hname (texts_inj.mp hlabels)
  rw [toJson, toJson, obj.injEq]
  exact List.map_inj_right hgroup

theorem DependencyReport.toJson_inj {a b : DependencyReport} : a.toJson = b.toJson ↔ a = b := by
  cases a; cases b
  simp [toJson, texts_inj, text?_inj, Direction.key_inj, LabelGroups.toJson_inj]

/-! ### Flags -/

namespace Compat

theorem Flag.toJson_inj {a b : Flag} : a.toJson = b.toJson ↔ a = b := by
  cases a; cases b; simp [toJson, text?_inj]

theorem FlagReport.toJson_inj {a b : FlagReport} : a.toJson = b.toJson ↔ a = b := by
  cases a with
  | listing l =>
    cases b with
    | listing k => cases l; cases k; simp [toJson, ofList_inj Flag.toJson_inj]
    | atDate => simp [toJson]
  | atDate s =>
    cases b with
    | listing => simp [toJson]
    | atDate t => cases s; cases t; simp [toJson, ofList_inj Flag.toJson_inj]

end Compat

/-! ### Cross references -/

theorem Hit.toJson_inj {a b : Hit} : a.toJson = b.toJson ↔ a = b := by
  cases a; cases b; simp [toJson]

theorem FileCount.toJson_inj {a b : FileCount} : a.toJson = b.toJson ↔ a = b := by
  cases a; cases b; simp [toJson]

theorem TypeGroup.toJson_inj {a b : TypeGroup} : a.toJson = b.toJson ↔ a = b := by
  cases a; cases b; simp [toJson]

theorem CrossReference.toJson_inj {a b : CrossReference} : a.toJson = b.toJson ↔ a = b := by
  cases a; cases b
  simp [toJson, texts_inj, ofList_inj Hit.toJson_inj, ofList_inj FileCount.toJson_inj,
    ofOption_inj Hit.toJson_inj (fun _ => nofun), ofOption_inj TypeGroup.toJson_inj (fun _ => nofun)]

/-! ### Reports -/

namespace Report

/-- The kinds of reports. -/
inductive Kind where
  | interface
  | ordinal
  | dependencies
  | compat
  | crossReference

/-- The kind of a report. -/
def kind : Report → Kind
  | .interface _ => .interface
  | .ordinal _ => .ordinal
  | .dependencies _ => .dependencies
  | .compat _ => .compat
  | .crossReference _ => .crossReference

/-- The kind of report that an object is written for, by its first member. -/
def kindOf? : Json → Option Kind
  | .obj (("type_name", _) :: _) => some .interface
  | .obj (("reference", _) :: _) => some .dependencies
  | .obj (("symbol", _) :: _) => some .crossReference
  | .obj (("kind", .str "record") :: _) => some .ordinal
  | .obj (("kind", .str "summary") :: _) => some .ordinal
  | .obj (("kind", .str "listing") :: _) => some .compat
  | .obj (("kind", .str "at_date") :: _) => some .compat
  | _ => none

theorem kindOf?_toJson (r : Report) : kindOf? r.toJson = some r.kind := by
  cases r with
  | interface i => rfl
  | ordinal o => cases o <;> rfl
  | dependencies d => rfl
  | compat c => cases c <;> rfl
  | crossReference x => rfl

theorem kind_eq_of_toJson_eq {a b : Report} (h : a.toJson = b.toJson) : a.kind = b.kind := by
  have hkind := congrArg kindOf? h
  rw [kindOf?_toJson, kindOf?_toJson] at hkind
  exact Option.some.inj hkind

theorem toJson_inj {a b : Report} : a.toJson = b.toJson ↔ a = b := by
  constructor
  · intro h
    have hkind := kind_eq_of_toJson_eq h
    cases a with
    | interface i =>
      cases b with
      | interface j => exact congrArg interface (Interface.toJson_inj.mp h)
      | _ => exact absurd hkind nofun
    | ordinal o =>
      cases b with
      | ordinal p => exact congrArg ordinal (Schema.Outcome.toJson_inj.mp h)
      | _ => exact absurd hkind nofun
    | dependencies d =>
      cases b with
      | dependencies e => exact congrArg dependencies (DependencyReport.toJson_inj.mp h)
      | _ => exact absurd hkind nofun
    | compat c =>
      cases b with
      | compat d => exact congrArg compat (Compat.FlagReport.toJson_inj.mp h)
      | _ => exact absurd hkind nofun
    | crossReference x =>
      cases b with
      | crossReference y => exact congrArg crossReference (CrossReference.toJson_inj.mp h)
      | _ => exact absurd hkind nofun
  · rintro rfl
    rfl

/-- **A report can be told from its JSON text.**  Two reports of any kinds with the same text are of
one kind and equal in all they say. -/
theorem render_json_inj (a b : Report) : a.render .json = b.render .json ↔ a = b :=
  document_inj.trans toJson_inj

/-- A remark that reads `null` is not taken for none. -/
example : let r : DependencyReport := ⟨"a", .forward, [], none, [], [], []⟩
    (dependencies r).render .json ≠ (dependencies { r with note := some "null" }).render .json := by
  decide +kernel

end Report

end DeclAtlas
