import CellRecipe.Request.Running
import CellRecipe.Staging.Pipeline

/-!
# Launches

The plans by which droplets run. A droplet that was built is fetched before the launcher starts, or
is a layer of its own where assets are declared and its checksum is known. A droplet from an image
needs no archive: its root filesystem is the image.

## Main definitions

* `Launch.plan`: the plan of a request's lifecycle for a droplet and a command.
* `Launch.rootFs`: the root filesystem in which the droplet runs.
-/

namespace CellRecipe.Launch

/-! ## Delivery -/

/-- The layer of a droplet. -/
def dropletLayer (url sha256 : String) : ImageLayer where
  name := "droplet"
  url := url
  target := Container.dropletTarget
  sharing := .exclusive
  digestAlgorithm := some "SHA256"
  digestValue := some sha256

/-- Fetching a droplet. -/
def dropletDownload (url : String) (sha256 : Option String) : Action :=
  .download {
    artifact := "droplet"
    source := url
    target := "."
    cacheKey := ""
    user := Container.workloadUser
    checksumAlgorithm := sha256.map fun _ => "sha256"
    checksumValue := sha256 }

/-- The plan that brings a droplet from its location and runs a program on top of it. A droplet is
a layer where assets are declared and its checksum is known. -/
def delivered (settings : Settings) (d : Droplet) (url : String) (run : Run) : Plan :=
  match settings.declarativeAssets, d.sha256 with
  | true, some sha256 => { action := .run run, imageLayers := [dropletLayer url sha256] }
  | _, sha256 => { action := .serial [dropletDownload url sha256, .run run] }

/-- The plan that runs a program on top of a droplet. -/
def onDroplet (settings : Settings) (d : Droplet) (run : Run) : Except Refusal Plan :=
  match d.downloadUrl with
  | none => .error (.missingDownload .droplet d.guid)
  | some url => .ok (delivered settings d url run)

/-! ## Launchers -/

/-- The run of a launcher. -/
def launcherRun (request : RunRequest) (args : List String) (user : String) : Run where
  path := Container.launcherPath
  args := args
  env := request.environment
  user := user
  logSource := request.logSource

/-- The launcher of a droplet from buildpacks. -/
def buildpackLauncher (request : RunRequest) (d : Droplet) (command : String) : Run :=
  launcherRun request ["app", command, d.executionMetadata] Container.workloadUser

/-- The plan for a droplet from buildpacks. -/
def buildpackPlan (settings : Settings) (request : RunRequest) (stack : String) (d : Droplet)
    (command : String) : Except Refusal Plan := do
  let p ← onDroplet settings d (buildpackLauncher request d command)
  p.withBundle settings (Staging.buildpackBundle stack)

/-- The launcher of a droplet from cloud native buildpacks. -/
def cnbLauncher (request : RunRequest) (command : String) : Run :=
  launcherRun request ["--", command] Container.rootUser

/-- The plan for a droplet from cloud native buildpacks. -/
def cnbPlan (settings : Settings) (request : RunRequest) (stack : String) (d : Droplet)
    (command : String) : Except Refusal Plan := do
  let p ← onDroplet settings d (cnbLauncher request command)
  p.withBundle settings (Staging.cnbBundle stack)

/-- The execution metadata, or an empty object if there are none. -/
def metadataText (d : Droplet) : String :=
  if d.executionMetadata.isEmpty then "\x7b\x7d" else d.executionMetadata

/-- The launcher of a droplet from an image. -/
def imageLauncher (request : RunRequest) (d : Droplet) (command : String) : Run :=
  launcherRun request ["app", command, metadataText d] Container.rootUser

/-- The plan for a droplet from an image, without the bundle; the credentials recorded for the
droplet go before those of the request. -/
def imageBase (request : RunRequest) (credentials : Option ImageCredentials) (d : Droplet)
    (command : String) : Plan where
  action := .run (imageLauncher request d command)
  imageCredentials := d.receiptCredentials <|> credentials

/-- The plan for a droplet from an image. -/
def imagePlan (settings : Settings) (request : RunRequest)
    (credentials : Option ImageCredentials) (d : Droplet) (command : String) :
    Except Refusal Plan :=
  (imageBase request credentials d command).withBundle settings
    (Staging.imageBundle Container.lifecycleDir)

/-! ## All lifecycles -/

/-- The plan by which a lifecycle runs a droplet with a command. -/
def plan (settings : Settings) (lifecycle : Lifecycle) (request : RunRequest) (d : Droplet)
    (command : String) : Except Refusal Plan :=
  match lifecycle with
  | .buildpack stack _ => buildpackPlan settings request stack d command
  | .docker _ credentials => imagePlan settings request credentials d command
  | .cnb stack _ _ => cnbPlan settings request stack d command

/-- The root filesystem of an image: the one recorded for the droplet goes before the one of the
request. -/
def imageRootFs (image : Option String) (d : Droplet) : Except Refusal String :=
  match d.receiptImage <|> image with
  | none => .error (.noImage d.guid)
  | some reference =>
    match ImageReference.parse reference with
    | .ok r => .ok r.text
    | .error fault => .error (.image fault)

/-- The root filesystem in which a lifecycle runs a droplet. -/
def rootFs (lifecycle : Lifecycle) (d : Droplet) : Except Refusal String :=
  match lifecycle with
  | .buildpack stack _ => .ok (Staging.preloaded stack)
  | .docker image _ => imageRootFs image d
  | .cnb stack _ _ => .ok (Staging.preloaded stack)

end CellRecipe.Launch
