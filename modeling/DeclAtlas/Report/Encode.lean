import DeclAtlas.Project
import DeclAtlas.Report.Json

/-!
# Reports as JSON

Every model is an object whose members stand in a fixed order.  A sum is an object whose member
`kind` tells the case.
-/

namespace DeclAtlas

open Json

/-- A location as an object. -/
def Location.toJson (l : Location) : Json := .obj [("file", .str l.file), ("line", .num l.line)]

/-- A registration as an object. -/
def Registration.toJson : Registration → Json
  | .resource c => .obj [("kind", .str "resource"), ("condition", ofOption .str c)]
  | .valueStruct => .obj [("kind", .str "struct")]

/-- An inheritance as an object. -/
def Inheritance.toJson : Inheritance → Json
  | .ofType t => .obj [("kind", .str "type"), ("target", .str t)]
  | .intrinsic t => .obj [("kind", .str "intrinsic"), ("target", .str t)]

/-- A method as an object. -/
def Method.toJson (m : Method) : Json :=
  .obj [("js_name", .str m.jsName), ("bound_name", .str m.boundName), ("is_static", .bool m.isStatic)]

/-- A placement as data. -/
def Placement.key : Placement → String
  | .onInstance => "instance"
  | .onPrototype => "prototype"
  | .onConstructor => "static"
  | .onInspect => "inspect"

/-- A property as an object. -/
def Property.toJson (p : Property) : Json :=
  .obj [("js_name", .str p.jsName), ("getter_name", .str p.getter),
    ("setter_name", ofOption .str p.setter), ("readonly", .bool p.readonly), ("lazy", .bool p.lazy),
    ("location", .str p.placement.key)]

/-- A constant as an object. -/
def Constant.toJson (c : Constant) : Json :=
  .obj [("js_name", .str c.jsName), ("expression", .str c.expression)]

/-- A member type as an object. -/
def NestedType.toJson (t : NestedType) : Json :=
  .obj [("js_name", .str t.jsName), ("bound_type", .str t.boundType)]

/-- A kind of hook as data. -/
def HookKind.key : HookKind → String
  | .sync => "sync"
  | .async => "async"

/-- A hook as an object. -/
def Hook.toJson (h : Hook) : Json :=
  .obj [("kind", .str h.kind.key), ("method_name", .str h.method)]

/-- A serialization tag as an object. -/
def SerializationTag.toJson (t : SerializationTag) : Json :=
  .obj [("one_way", .bool t.oneWay), ("tag", .str t.tag)]

/-- A kind of override as data. -/
def OverrideKind.key : OverrideKind → String
  | .root => "root"
  | .override => "override"
  | .define => "define"
  | .structOverride => "struct_override"
  | .structDefine => "struct_define"

/-- A documentation override as an object. -/
def DocOverride.toJson (o : DocOverride) : Json :=
  .obj [("kind", .str o.kind.key), ("content", .str o.content)]

/-- A struct field as an object. -/
def StructField.toJson (f : StructField) : Json :=
  .obj [("js_name", .str f.jsName), ("bound_name", .str f.boundName)]

/-- An interface as an object. -/
def Interface.toJson (i : Interface) : Json :=
  .obj [("type_name", .str i.typeName), ("location", i.location.toJson),
    ("registration", i.registration.toJson),
    ("also_registered_in", ofList Location.toJson i.alsoRegisteredIn),
    ("inherited_from", ofList Inheritance.toJson i.inheritedFrom),
    ("methods", ofList Method.toJson i.methods),
    ("properties", ofList Property.toJson i.properties),
    ("constants", ofList Constant.toJson i.constants),
    ("nested_types", ofList NestedType.toJson i.nestedTypes),
    ("iterators", ofList Hook.toJson i.iterators),
    ("disposers", ofList Hook.toJson i.disposers),
    ("serialization_tag", ofOption SerializationTag.toJson i.serializationTag),
    ("callable_via", ofOption .str i.callableVia),
    ("wildcard_getter", ofOption .str i.wildcardGetter),
    ("doc_overrides", ofList DocOverride.toJson i.docOverrides),
    ("script_bundles", ofList .str i.scriptBundles),
    ("memory_info", .bool i.memoryInfo),
    ("iterator_declarations", ofList .str i.iteratorDeclarations),
    ("struct_fields", ofList StructField.toJson i.structFields)]

namespace Schema

/-- A field as an object. -/
def Field.toJson (f : Field) : Json :=
  .obj [("name", .str f.name), ("ordinal", .num f.ordinal), ("type", .str f.type),
    ("annotations", ofList .str f.annotations), ("raw", .str f.raw)]

/-- A highest ordinal as an object. -/
def Highest.toJson (h : Highest) : Json :=
  .obj [("ordinal", .num h.ordinal), ("field", .str h.field)]

/-- A record's summary as an object. -/
def RecordSummary.toJson (r : RecordSummary) : Json :=
  .obj [("qualified_name", .str r.qualifiedName), ("total_fields", .num r.totalFields),
    ("highest", ofOption .num r.highest), ("next_ordinal", .num r.nextOrdinal)]

/-- An outcome as an object. -/
def Outcome.toJson : Outcome → Json
  | .record r =>
    .obj [("kind", .str "record"), ("qualified_name", .str r.qualifiedName),
      ("schema_file", .str r.schemaFile), ("total_fields", .num r.totalFields),
      ("next_ordinal", .num r.nextOrdinal), ("highest", ofOption Highest.toJson r.highest),
      ("gaps", ofList .num r.gaps), ("declared_annotations", ofList .str r.declaredAnnotations),
      ("last_fields", ofList Field.toJson r.lastFields)]
  | .summary schemaFile records =>
    .obj [("kind", .str "summary"), ("schema_file", .str schemaFile),
      ("records", ofList RecordSummary.toJson records)]

end Schema

/-- A direction as data. -/
def Direction.key : Direction → String
  | .forward => "forward"
  | .reverse => "reverse"

/-- Groups of labels as an object. -/
def LabelGroups.toJson (gs : LabelGroups) : Json :=
  .obj (gs.map fun g => (g.1, ofList .str g.2))

/-- A dependency report as an object. -/
def DependencyReport.toJson (r : DependencyReport) : Json :=
  .obj [("reference", .str r.reference), ("direction", .str r.direction.key),
    ("labels", ofList .str r.labels), ("note", ofOption .str r.note),
    ("internal_deps", r.internalDeps.toJson), ("external_deps", r.externalDeps.toJson),
    ("reverse_deps", r.reverseDeps.toJson)]

namespace Compat

/-- A flag as an object. -/
def Flag.toJson (f : Flag) : Json :=
  .obj [("field_name", .str f.fieldName), ("ordinal", .num f.ordinal),
    ("enable_flag", ofOption .str f.enableFlag), ("disable_flag", ofOption .str f.disableFlag),
    ("enable_date", ofOption .str f.enableDate), ("enable_all_dates", .bool f.enableAllDates),
    ("experimental", .bool f.experimental), ("needed_by_fl", .bool f.neededByFl),
    ("implied_by", ofOption .str f.impliedBy), ("obsolete", .bool f.obsolete)]

/-- A report on flags as an object. -/
def FlagReport.toJson : FlagReport → Json
  | .listing l =>
    .obj [("kind", .str "listing"), ("active", .num l.active), ("obsolete", .num l.obsolete),
      ("dated", ofList Flag.toJson l.dated), ("opt_in", ofList Flag.toJson l.optIn),
      ("experimental", ofList Flag.toJson l.experimental)]
  | .atDate s =>
    .obj [("kind", .str "at_date"), ("date", .str s.date),
      ("enabled", ofList Flag.toJson s.enabled),
      ("not_yet_enabled", ofList Flag.toJson s.notYetEnabled),
      ("opt_in", ofList Flag.toJson s.optIn),
      ("experimental", ofList Flag.toJson s.experimental)]

end Compat

/-- A hit as an object. -/
def Hit.toJson (h : Hit) : Json :=
  .obj [("path", .str h.path), ("line", .num h.line), ("text", .str h.text)]

/-- A file count as an object. -/
def FileCount.toJson (c : FileCount) : Json :=
  .obj [("path", .str c.path), ("references", .num c.references)]

/-- A type group as an object. -/
def TypeGroup.toJson (g : TypeGroup) : Json :=
  .obj [("macro_name", .str g.macroName), ("path", .str g.path), ("line", .num g.line)]

/-- A cross reference as an object. -/
def CrossReference.toJson (x : CrossReference) : Json :=
  .obj [("symbol", .str x.symbol), ("declarations", ofList Hit.toJson x.declarations),
    ("implementations", ofList FileCount.toJson x.implementations),
    ("registration", ofOption Hit.toJson x.registration),
    ("registered_members", ofList .str x.registeredMembers),
    ("type_group", ofOption TypeGroup.toJson x.typeGroup),
    ("gating", ofList Hit.toJson x.gating), ("tests", ofList .str x.tests)]

end DeclAtlas
