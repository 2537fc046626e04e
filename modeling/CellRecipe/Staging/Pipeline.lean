import CellRecipe.Container
import CellRecipe.Digest.Md5
import CellRecipe.Plan
import CellRecipe.Staging.Message

/-!
# Staging pipelines

The plans by which packages are staged. For buildpacks of both kinds the inputs are fetched side by
side, then the builder runs, then the droplet and the cache are handed in side by side; a cache that
cannot be fetched does not matter. For an image nothing is fetched and the builder only inspects it.

## Main definitions

* `Staging.plan`: the plan of a request's lifecycle.
* `Staging.violations`: why a request gets no plan, if that is for its message.
-/

namespace CellRecipe.Staging

/-! ## Steps -/

/-- The package, as it is fetched. -/
def packageFetch (m : StagingMessage) : Download where
  artifact := "app package"
  source := m.packageDownload
  target := Container.appDir
  cacheKey := ""
  user := Container.workloadUser
  checksumAlgorithm := m.packageChecksum.value.map fun _ => m.packageChecksum.algorithm
  checksumValue := m.packageChecksum.value

/-- The directory of an installed buildpack. -/
def buildpackDir (key : String) : String :=
  Container.buildpacksDir ++ "/" ++ Md5.digits key.toUTF8.toList

/-- An installed buildpack, as it is fetched. -/
def buildpackFetch (e : BuildpackEntry) : Download where
  artifact := e.name
  source := e.url
  target := buildpackDir e.key
  cacheKey := e.key
  user := Container.workloadUser
  checksumAlgorithm := none
  checksumValue := none

/-- The cache of an earlier build, as it is fetched if there is one. -/
def cacheFetch? (m : StagingMessage) : Option Download :=
  m.cacheDownload.map fun source => {
    artifact := "build artifacts cache"
    source := source
    target := Container.cacheDir
    cacheKey := ""
    user := Container.workloadUser
    checksumAlgorithm := m.cacheChecksum.map fun _ => "sha256"
    checksumValue := m.cacheChecksum }

/-- Everything that is fetched: the package, buildpacks, and the cache, which may fail. -/
def downloads (m : StagingMessage) (buildpacks : List Download) : List Action :=
  .download (packageFetch m) :: buildpacks.map .download
    ++ (cacheFetch? m).toList.map fun d => .attempt (.download d)

/-- An action with the messages of the builder. -/
def announced (a : Action) : Action :=
  .progress a "Staging..." "Staging complete" "Staging failed"

/-- The droplet, as it is handed in. -/
def dropletUpload (m : StagingMessage) : Upload where
  artifact := "droplet"
  source := Container.outputDroplet
  target := m.dropletUpload
  user := Container.workloadUser

/-- The cache of this build, as it is handed in. -/
def cacheUpload (m : StagingMessage) : Upload where
  artifact := "build artifacts cache"
  source := Container.outputCacheDir
  target := m.cacheUpload
  user := Container.workloadUser

/-- Handing in the droplet and the cache. -/
def uploads (m : StagingMessage) : Action :=
  .progress (.parallel [.upload (dropletUpload m), .upload (cacheUpload m)])
    "Uploading droplet, build artifacts cache..." "Uploading complete" "Uploading failed"

/-- The run of a builder. -/
def builderRun (settings : Settings) (path : String) (args : List String)
    (env : List EnvironmentVariable) (user : String) : Run where
  path := path
  args := args
  env := env
  limits := ⟨settings.openFilesLimit⟩
  user := user
  logSource := Container.stagingLogSource

/-- Downloads, the builder and the uploads, one after the other. -/
def pipeline (m : StagingMessage) (downloads : List Action) (builder : Run) : Action :=
  .serial [.parallel downloads, announced (.run builder), uploads m]

/-- The environment of a container with a stack. -/
def stackEnvironment (stack : String) : List EnvironmentVariable := [⟨"CF_STACK", stack⟩]

/-! ## Buildpacks -/

/-- The order of the buildpacks, as the builder takes it. -/
def buildpackOrder (m : StagingMessage) : String :=
  String.intercalate "," (m.buildpacks.map BuildpackEntry.key)

/-- The arguments of the builder. -/
def buildpackArgs (settings : Settings) (m : StagingMessage) : List String := [
  "-buildpackOrder=" ++ buildpackOrder m,
  "-skipCertVerify=" ++ Settings.flagText settings.skipCertVerify,
  "-skipDetect=" ++ Settings.flagText (m.buildpacks.any BuildpackEntry.skipDetect),
  "-buildDir=" ++ Container.appDir,
  "-outputDroplet=" ++ Container.outputDroplet,
  "-outputMetadata=" ++ Container.resultFile,
  "-outputBuildArtifactsCache=" ++ Container.outputCacheDir,
  "-buildpacksDir=" ++ Container.buildpacksDir,
  "-buildArtifactsCacheDir=" ++ Container.cacheDir]

/-- The bundle for buildpacks of a stack. -/
def buildpackBundle (stack : String) : Bundle :=
  .ofStack "buildpack" stack Container.lifecycleDir

/-- What is fetched before the builder of buildpacks runs. -/
def buildpackDownloads (m : StagingMessage) : List Action :=
  downloads m ((m.buildpacks.filter fun e => !e.isCustom).map buildpackFetch)

/-- What the builder of buildpacks runs as. -/
def buildpackBuilder (settings : Settings) (request : StagingRequest) (m : StagingMessage) : Run :=
  builderRun settings Container.builderPath (buildpackArgs settings m) request.environment
    Container.workloadUser

/-- The plan for buildpacks, without the bundle. -/
def buildpackBase (settings : Settings) (request : StagingRequest) (stack : String)
    (m : StagingMessage) : Plan where
  action := pipeline m (buildpackDownloads m) (buildpackBuilder settings request m)
  environment := stackEnvironment stack

/-- The plan for buildpacks. -/
def buildpackPlan (settings : Settings) (request : StagingRequest) (stack : String)
    (asked : List Buildpack) : Except Refusal Plan := do
  let m ← StagingMessage.forBuildpacks request stack asked
  (buildpackBase settings request stack m).withBundle settings (buildpackBundle stack)

/-! ## Cloud native buildpacks -/

/-- The arguments of the builder. -/
def cnbArgs (m : StagingMessage) : List String :=
  m.buildpacks.flatMap (fun e => ["--buildpack", e.url])
    ++ if m.autoDetect then ["--auto-detect"] else []

/-- The variable that holds the credentials for registries. -/
def credentialsEnvironment (credentials : Option String) : List EnvironmentVariable :=
  match credentials with
  | some c => [⟨"CNB_REGISTRY_CREDS", c⟩]
  | none => []

/-- The bundle for cloud native buildpacks of a stack. -/
def cnbBundle (stack : String) : Bundle := .ofStack "cnb" stack Container.lifecycleDir

/-- What is fetched before the builder of cloud native buildpacks runs. -/
def cnbDownloads (m : StagingMessage) : List Action := downloads m []

/-- What the builder of cloud native buildpacks runs as. -/
def cnbBuilder (settings : Settings) (request : StagingRequest) (m : StagingMessage) : Run :=
  builderRun settings Container.builderPath (cnbArgs m)
    (request.environment ++ credentialsEnvironment m.credentials) Container.rootUser

/-- The plan for cloud native buildpacks, without the bundle. -/
def cnbBase (settings : Settings) (request : StagingRequest) (stack : String)
    (m : StagingMessage) : Plan where
  action := pipeline m (cnbDownloads m) (cnbBuilder settings request m)
  environment := stackEnvironment stack

/-- The plan for cloud native buildpacks. -/
def cnbPlan (settings : Settings) (request : StagingRequest) (stack : String)
    (asked : List Buildpack) (credentials : Option String) : Except Refusal Plan := do
  let m ← StagingMessage.forCnb request stack asked credentials
  (cnbBase settings request stack m).withBundle settings (cnbBundle stack)

/-! ## Images -/

/-- The message about an image, with `null` for all that is missing. -/
def imageMembers (image : Option String) (credentials : Option ImageCredentials) :
    Json.Members := [
  ("docker_image", (Document.orNull .text image).toJson),
  ("docker_user", (Document.orNull .text (credentials.map (·.username))).toJson),
  ("docker_password", (Document.orNull .text (credentials.map (·.password))).toJson)]

/-- The image, if the message about it satisfies its schema. -/
def checkedImage (image : Option String) (credentials : Option ImageCredentials) :
    Except Refusal String :=
  match Schema.docker.violations (imageMembers image credentials) with
  | [] => .ok (image.getD "")
  | found => .error (.violations found)

/-- The arguments that name registries without certificates. -/
def insecureArgs (registries : List String) : List String :=
  if registries.isEmpty then []
  else ["-insecureDockerRegistries", String.intercalate "," registries]

/-- The arguments that hold credentials. -/
def credentialArgs : Option ImageCredentials → List String
  | some c => ["-dockerUser", c.username, "-dockerPassword", c.password]
  | none => []

/-- The arguments of the builder. -/
def imageArgs (settings : Settings) (image : String) (credentials : Option ImageCredentials) :
    List String :=
  ["-outputMetadataJSONFilename", Container.resultFile, "-dockerRef", image]
    ++ insecureArgs settings.insecureRegistries ++ credentialArgs credentials

/-- The bundle for images, unpacked into a directory. -/
def imageBundle (target : String) : Bundle := ⟨"docker", "docker-lifecycle", target⟩

/-- What the builder of images runs as. -/
def imageBuilder (settings : Settings) (request : StagingRequest) (image : String)
    (credentials : Option ImageCredentials) : Run :=
  builderRun settings Container.imageBuilderPath (imageArgs settings image credentials)
    request.environment Container.workloadUser

/-- The plan for an image, without the bundle. -/
def imageBase (settings : Settings) (request : StagingRequest) (image : String)
    (credentials : Option ImageCredentials) : Plan where
  action := announced (.run (imageBuilder settings request image credentials))

/-- The plan for an image. -/
def imagePlan (settings : Settings) (request : StagingRequest) (image : Option String)
    (credentials : Option ImageCredentials) : Except Refusal Plan := do
  let image ← checkedImage image credentials
  (imageBase settings request image credentials).withBundle settings
    (imageBundle Container.imageLifecycleDir)

/-! ## All lifecycles -/

/-- The plan by which a lifecycle stages the package of a request. -/
def plan (settings : Settings) (lifecycle : Lifecycle) (request : StagingRequest) :
    Except Refusal Plan :=
  match lifecycle with
  | .buildpack stack asked => buildpackPlan settings request stack asked
  | .docker image credentials => imagePlan settings request image credentials
  | .cnb stack asked credentials => cnbPlan settings request stack asked credentials

/-- How the message about a request breaks its schema. -/
def violations (request : StagingRequest) : List Violation :=
  match request.lifecycle with
  | .buildpack stack asked =>
    Schema.buildpack.violations (StagingMessage.buildpackMembers request stack asked)
  | .docker image credentials => Schema.docker.violations (imageMembers image credentials)
  | .cnb stack asked credentials =>
    Schema.cnb.violations (StagingMessage.cnbMembers request stack asked credentials)

/-- A root filesystem that every cell has. -/
def preloaded (stack : String) : String := "preloaded:" ++ stack

/-- The root filesystem in which a lifecycle stages. -/
def rootFs (settings : Settings) : Lifecycle → String
  | .buildpack stack _ => preloaded stack
  | .docker _ _ => preloaded settings.dockerStagingStack
  | .cnb stack _ _ => preloaded stack

end CellRecipe.Staging
