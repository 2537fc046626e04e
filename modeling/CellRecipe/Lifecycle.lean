import CellRecipe.Asset
import CellRecipe.Document
import CellRecipe.Json.Record

/-!
# Lifecycles

How a workload comes to its filesystem and is started: built by buildpacks, built by cloud native
buildpacks, or taken from a container image. Each lifecycle carries what a request says about it.

A lifecycle is written as an object with its `type` and its `data`, and a buildpack carries its
`kind` among its own fields.

## Main definitions

* `Lifecycle.kind`: which of the three it is.
* `Lifecycle.document`, `Lifecycle.ofJson?`: the written form and back.
-/

namespace CellRecipe

/-! ## Buildpacks -/

/-- A buildpack that the platform has installed. -/
structure AdminBuildpack where
  name : String
  key : String
  url : String
  deriving DecidableEq, Inhabited

namespace AdminBuildpack

/-- The members of a written buildpack. -/
def members (b : AdminBuildpack) : List (String × Document) :=
  [("name", .text b.name), ("key", .text b.key), ("url", .text b.url)]

/-- The buildpack as it is written. -/
def document (b : AdminBuildpack) : Document := .record b.members

/-- The buildpack that a JSON value stands for. -/
def ofJson? (j : Json.Source) : Option AdminBuildpack := do
  let r ← Json.Record.of? ["name", "key", "url"] j
  return {
    name := ← r.required "name" Json.text?
    key := ← r.required "key" Json.text?
    url := ← r.required "url" Json.text? }

end AdminBuildpack

/-- A buildpack that a request asks for: at a location of its own, or an installed one. -/
inductive Buildpack where
  | custom (url : String)
  | admin (buildpack : AdminBuildpack)
  deriving DecidableEq, Inhabited

namespace Buildpack

/-- The buildpack as it is written. -/
def document : Buildpack → Document
  | .custom url => .record [("kind", .text "custom"), ("url", .text url)]
  | .admin b => .record (("kind", .text "admin") :: b.members)

/-- The buildpack that a JSON value stands for. -/
def ofJson? (j : Json.Source) : Option Buildpack := do
  let (kind, content) ← Json.splitCase? "kind" j
  match kind with
  | "custom" => return .custom (← Json.field? "url" Json.text? content)
  | "admin" => return .admin (← AdminBuildpack.ofJson? content)
  | _ => none

end Buildpack

/-! ## Lifecycles -/

/-- The three kinds of lifecycle. -/
inductive LifecycleKind where
  | buildpack
  | docker
  | cnb
  deriving DecidableEq, Inhabited

namespace LifecycleKind

/-- The name of a kind. -/
def name : LifecycleKind → String
  | .buildpack => "buildpack"
  | .docker => "docker"
  | .cnb => "cnb"

/-- The kind that a JSON value names. -/
def ofJson? (j : Json.Source) : Option LifecycleKind :=
  (Json.caseName? j).bind fun s => [buildpack, docker, cnb].find? fun k => k.name == s

end LifecycleKind

/-- A lifecycle and what a request says about it. -/
inductive Lifecycle where
  | buildpack (stack : String) (buildpacks : List Buildpack)
  | docker (image : Option String) (credentials : Option ImageCredentials)
  | cnb (stack : String) (buildpacks : List Buildpack) (credentials : Option String)
  deriving DecidableEq, Inhabited

namespace Lifecycle

/-- Which kind of lifecycle it is. -/
def kind : Lifecycle → LifecycleKind
  | .buildpack _ _ => .buildpack
  | .docker _ _ => .docker
  | .cnb _ _ _ => .cnb

/-- What the request says, as it is written. -/
def data : Lifecycle → Document
  | .buildpack stack buildpacks =>
    .record [("stack", .text stack), ("buildpacks", .list (buildpacks.map Buildpack.document))]
  | .docker image credentials =>
    .record [
      ("image", .orNull .text image),
      ("credentials", .orNull ImageCredentials.document credentials)]
  | .cnb stack buildpacks credentials =>
    .record [
      ("stack", .text stack),
      ("buildpacks", .list (buildpacks.map Buildpack.document)),
      ("credentials", .orNull .text credentials)]

/-- The lifecycle as it is written. -/
def document (l : Lifecycle) : Document :=
  .record [("type", .text l.kind.name), ("data", l.data)]

/-- The lifecycle of a kind with the given data, which are an object and never an array. -/
def ofData? (kind : LifecycleKind) : Json.Source → Option Lifecycle
  | .object ms =>
    match kind with
    | .buildpack => do
      let r ← Json.Record.of? ["stack", "buildpacks"] (.object ms)
      let stack ← r.required "stack" Json.text?
      let buildpacks ← r.withDefault "buildpacks" [] (Json.list? Buildpack.ofJson?)
      return .buildpack stack buildpacks
    | .docker => do
      let r ← Json.Record.of? ["image", "credentials"] (.object ms)
      let image ← r.optional "image" Json.text?
      let credentials ← r.optional "credentials" ImageCredentials.ofJson?
      return .docker image credentials
    | .cnb => do
      let r ← Json.Record.of? ["stack", "buildpacks", "credentials"] (.object ms)
      let stack ← r.required "stack" Json.text?
      let buildpacks ← r.withDefault "buildpacks" [] (Json.list? Buildpack.ofJson?)
      let credentials ← r.optional "credentials" Json.text?
      return .cnb stack buildpacks credentials
  | _ => none

/-- The lifecycle that a JSON value stands for. Data that stand before their type have to be kept
until the type is known, so all of them have to denote something. -/
def ofJson? (j : Json.Source) : Option Lifecycle := do
  let r ← Json.Record.of? ["type", "data"] j
  let kind ← r.required "type" LifecycleKind.ofJson?
  let data ← r.required "data" (if r.precedes "data" "type" then Json.Source.whole? else some)
  ofData? kind data

end Lifecycle

end CellRecipe
