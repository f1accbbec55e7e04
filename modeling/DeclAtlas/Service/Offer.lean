import DeclAtlas.Service.Argument

/-!
# Offers

The service makes five offers, one for each query of a project, and tells callers what it is and
what each offer takes.
-/

namespace DeclAtlas.Service

/-- What the service tells about itself. -/
structure Profile where
  name : String
  title : String
  version : String
  /-- What the offers are for. -/
  instructions : String
  deriving Repr, DecidableEq

/-- What this service tells about itself. -/
def profile : Profile where
  name := "declmap"
  title := "Declmap"
  version := "0.1.0"
  instructions :=
    "Declmap answers structural questions about a workerd-style checkout. " ++
    "Use 'jsg_interface' for a type's script-visible surface, 'capnp_ordinal' " ++
    "before adding a schema field, 'bazel_deps' for build dependencies, " ++
    "'compat_flags' for compatibility flags and 'cross_reference' to find " ++
    "everything related to a class."

/-- An offer of the service. -/
inductive Offer where
  | interface
  | ordinal
  | dependencies
  | compat
  | crossReference
  deriving Repr, DecidableEq

namespace Offer

/-- The offers in the order in which they are listed. -/
def all : List Offer := [.interface, .ordinal, .dependencies, .compat, .crossReference]

/-- The name by which an offer is called. -/
def name : Offer → String
  | .interface => "jsg_interface"
  | .ordinal => "capnp_ordinal"
  | .dependencies => "bazel_deps"
  | .compat => "compat_flags"
  | .crossReference => "cross_reference"

/-- The offer of a name. -/
def ofName? (name : String) : Option Offer := all.find? (·.name == name)

/-- What an offer is for. -/
def description : Offer → String
  | .interface =>
    "Extract the methods, properties, constants, nested types and hooks a C++ class registers " ++
    "with JSG_RESOURCE_TYPE or JSG_STRUCT"
  | .ordinal =>
    "Find the next available field ordinal of a Cap'n Proto struct, with gaps and the last few " ++
    "fields"
  | .dependencies =>
    "Resolve a dependency name to Bazel labels and report what depends on it, or what a target " ++
    "depends on, grouped by component"
  | .compat =>
    "List compatibility flags, or show which are enabled at a compatibility date"
  | .crossReference =>
    "Find a class's declaration, implementation files, registration, type group, flag gating " ++
    "and tests"

/-- The parameters of an offer; each takes the format of the report as its last one. -/
def parameters (o : Offer) : List Parameter :=
  let own : List Parameter := match o with
    | .interface => [⟨"type_name", .text, true⟩]
    | .ordinal => [⟨"file", .path, true⟩, ⟨"struct_name", .text, false⟩]
    | .dependencies =>
      [⟨"target", .text, true⟩, ⟨"direction", .text, false⟩, ⟨"depth", .count, false⟩]
    | .compat => [⟨"date", .text, false⟩, ⟨"flag", .text, false⟩]
    | .crossReference => [⟨"symbol", .text, true⟩]
  own ++ [⟨"format", .text, false⟩]

/-- The names of the parameters that an argument has to be given for. -/
def required (o : Offer) : List String := (o.parameters.filter (·.isRequired)).map (·.name)

theorem ofName?_name (o : Offer) : ofName? o.name = some o := by
  cases o <;> decide

end Offer

end DeclAtlas.Service
