import CellRecipe.ServiceBinding
import CellRecipe.ServiceBinding.Files

/-!
# Workloads

The application behind a request, the space and organization that it belongs to, and its service
bindings.

## Main definitions

* `Workload.mountedFiles`: the files that its bindings put into a container.
-/

namespace CellRecipe

/-- A space or an organization. -/
structure Place where
  guid : String
  name : String
  deriving DecidableEq, Inhabited

namespace Place

/-- The place as it is written. -/
def document (p : Place) : Document := .record [("guid", .text p.guid), ("name", .text p.name)]

/-- The place that a JSON value stands for. -/
def ofJson? (j : Json.Source) : Option Place := do
  let r ← Json.Record.of? ["guid", "name"] j
  return {
    guid := ← r.required "guid" Json.text?
    name := ← r.required "name" Json.text? }

end Place

/-- How bindings reach the files of a container. -/
structure Features where
  bindingDirectories : Bool
  bindingsFile : Bool
  deriving DecidableEq, Inhabited

namespace Features

/-- No feature at all. -/
def none : Features := ⟨false, false⟩

/-- The features as they are written. -/
def document (f : Features) : Document :=
  .record [
    ("service_binding_k8s_enabled", .bool f.bindingDirectories),
    ("file_based_vcap_services_enabled", .bool f.bindingsFile)]

/-- The features that a JSON value stands for. -/
def ofJson? (j : Json.Source) : Option Features := do
  let r ← Json.Record.of?
    ["service_binding_k8s_enabled", "file_based_vcap_services_enabled"] j
  return {
    bindingDirectories := ← r.withDefault "service_binding_k8s_enabled" false Json.flag?
    bindingsFile := ← r.withDefault "file_based_vcap_services_enabled" false Json.flag? }

end Features

/-- The application behind a request. -/
structure Workload where
  guid : String
  name : String
  space : Place
  organization : Place
  bindings : List ServiceBinding
  features : Features
  revisionsEnabled : Bool
  deriving Inhabited

namespace Workload

/-- The workload as it is written. -/
def document (w : Workload) : Document :=
  .record [
    ("guid", .text w.guid),
    ("name", .text w.name),
    ("space", w.space.document),
    ("organization", w.organization.document),
    ("service_bindings", .list (w.bindings.map ServiceBinding.document)),
    ("features", w.features.document),
    ("revisions_enabled", .bool w.revisionsEnabled)]

/-- The workload that a JSON value stands for. -/
def ofJson? (j : Json.Source) : Option Workload := do
  let r ← Json.Record.of?
    ["guid", "name", "space", "organization", "service_bindings", "features",
      "revisions_enabled"] j
  return {
    guid := ← r.required "guid" Json.text?
    name := ← r.required "name" Json.text?
    space := ← r.required "space" Place.ofJson?
    organization := ← r.required "organization" Place.ofJson?
    bindings := ← r.withDefault "service_bindings" [] (Json.list? ServiceBinding.ofJson?)
    features := ← r.withDefault "features" .none Features.ofJson?
    revisionsEnabled := ← r.withDefault "revisions_enabled" false Json.flag? }

/-! ## Files of its bindings -/

/-- The files of bindings, in one of the two layouts. -/
inductive BindingFiles where
  | directories (files : List MountedFile)
  | single (file : MountedFile)
  deriving DecidableEq

/-- All the files. -/
def BindingFiles.files : BindingFiles → List MountedFile
  | .directories files => files
  | .single file => [file]

/-- The files of the bindings, if the workload wants any; directories go before the single file. -/
def bindingFiles (w : Workload) : Except ServiceBinding.Fault (Option BindingFiles) :=
  if w.features.bindingDirectories then
    (ServiceBinding.perBinding w.bindings).map fun files => some (.directories files)
  else if w.features.bindingsFile then
    (ServiceBinding.blob w.bindings).map fun file => some (.single file)
  else .ok none

/-- The files that the bindings put into a container. -/
def mountedFiles (w : Workload) : Except ServiceBinding.Fault (List MountedFile) :=
  w.bindingFiles.map fun found => (found.map BindingFiles.files).getD []

end Workload

end CellRecipe
