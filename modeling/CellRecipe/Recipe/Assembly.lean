import CellRecipe.Launch
import CellRecipe.Recipe
import CellRecipe.Recipe.Identity
import CellRecipe.Staging.Pipeline

/-!
# Assembling recipes

A recipe is the plan of a lifecycle together with limits, egress rules, names and the files of the
service bindings. The first part that cannot be had refuses the whole: the plan, then the root
filesystem, then the egress rules, then the files.

A staging recipe runs its plan under the time limit of staging and reports to a location that names
the request. A recipe for a task reports likewise; a process does not end and reports to nobody.

## Main definitions

* `Recipe.ofStaging`: the recipe of a staging request.
* `Recipe.ofRun`: the recipe of a run request.
-/

namespace CellRecipe.Recipe

/-- The egress rules of security groups. -/
def egressRulesOf (groups : SecurityGroups) : Except Refusal (List EgressRule) :=
  (EgressRule.ofGroups groups).mapError .egress

/-- The files of a workload's bindings. -/
def mountedFilesOf (w : Workload) : Except Refusal (List MountedFile) :=
  w.mountedFiles.mapError .bindings

/-- Where the result of staging is reported. -/
def stagingCallback (settings : Settings) (request : StagingRequest) : String :=
  settings.internalUrl ("/internal/v3/staging/" ++ request.guid ++ "/build_completed?start="
    ++ Settings.flagText request.startAfterStaging)

/-- Where the end of a task is reported. -/
def taskCallback (settings : Settings) (guid : String) : String :=
  settings.internalUrl ("/internal/v4/tasks/" ++ guid ++ "/completed")

/-- The recipe of a staging request, once all that can be refused is there. -/
def staged (settings : Settings) (request : StagingRequest) (plan : Plan)
    (egressRules : List EgressRule) (mountedFiles : List MountedFile) : Recipe where
  guid := request.guid
  logGuid := request.workload.guid
  logSource := Container.stagingLogSource
  metricsGuid := ""
  rootFs := Staging.rootFs settings request.lifecycle
  memoryMb := request.memoryMb
  diskMb := request.diskMb
  logBytesPerSecond := request.logBytesPerSecond
  cpuWeight := Identity.stagingCpuWeight
  maxPids := settings.pidLimit
  privileged := settings.privilegedStaging
  action := .timeout plan.action settings.timeoutMs ""
  environment := plan.environment
  cachedDependencies := plan.cachedDependencies
  imageLayers := plan.imageLayers
  egressRules := egressRules
  placementTags := Identity.placementTags request.isolationSegment
  organizationalUnit := Identity.organizationalUnit request.workload
  checksum := none
  network := Identity.network request.workload [] .staging
  metricTags := Identity.metricTags request.workload
  volumeMounts := []
  mountedFiles := mountedFiles
  callbackUrl := some (stagingCallback settings request)
  trustedCertificatesPath := settings.trustedCertificatesPath
  resultFile := Container.resultFile
  downloadUser := Container.workloadUser
  imageUsername := plan.imageCredentials.map (·.username)
  imagePassword := plan.imageCredentials.map (·.password)
  ports := []
  instances := none

/-- The recipe of a staging request. -/
def ofStaging (settings : Settings) (request : StagingRequest) : Except Refusal Recipe := do
  let plan ← Staging.plan settings request.lifecycle request
  let egressRules ← egressRulesOf request.securityGroups
  let mountedFiles ← mountedFilesOf request.workload
  return staged settings request plan egressRules mountedFiles

/-- What a recipe owes to the unit that runs. -/
structure UnitPart where
  kind : Identity.ContainerKind
  callbackUrl : Option String
  ports : List UInt32
  instances : Option UInt32

/-- What a recipe owes to the unit of a request. -/
def unitPart (settings : Settings) (request : RunRequest) : UnitPart :=
  match request.unit with
  | .task _ => ⟨.task, some (taskCallback settings request.guid), [], none⟩
  | .process ports instances => ⟨.app, none, ports, some instances⟩

/-- The checksum of a droplet. -/
def dropletChecksum (d : Droplet) : Option Checksum := d.sha256.map fun value => ⟨"sha256", value⟩

/-- The recipe of a run request for a droplet, once all that can be refused is there. -/
def launched (settings : Settings) (request : RunRequest) (droplet : Droplet) (plan : Plan)
    (rootFs : String) (egressRules : List EgressRule) (mountedFiles : List MountedFile) : Recipe :=
  let unit := unitPart settings request
  { guid := request.guid
    logGuid := request.workload.guid
    logSource := request.logSource
    metricsGuid := ""
    rootFs := rootFs
    memoryMb := request.memoryMb
    diskMb := request.diskMb
    logBytesPerSecond := request.logBytesPerSecond
    cpuWeight := Identity.cpuWeight request.memoryMb
    maxPids := settings.pidLimit
    privileged := settings.privilegedRunning
    action := plan.action
    environment := request.environment ++ plan.environment
    cachedDependencies := plan.cachedDependencies
    imageLayers := plan.imageLayers
    egressRules := egressRules
    placementTags := Identity.placementTags request.isolationSegment
    organizationalUnit := Identity.organizationalUnit request.workload
    checksum := dropletChecksum droplet
    network := Identity.network request.workload unit.ports unit.kind
    metricTags := Identity.metricTags request.workload
    volumeMounts := VolumeMount.ofBindings request.workload.bindings
    mountedFiles := mountedFiles
    callbackUrl := unit.callbackUrl
    trustedCertificatesPath := settings.trustedCertificatesPath
    resultFile := ""
    downloadUser := Container.workloadUser
    imageUsername := plan.imageCredentials.map (·.username)
    imagePassword := plan.imageCredentials.map (·.password)
    ports := unit.ports
    instances := unit.instances }

/-- The recipe of a run request. -/
def ofRun (settings : Settings) (request : RunRequest) : Except Refusal Recipe := do
  let (droplet, command) := request.selected
  let plan ← Launch.plan settings request.lifecycle request droplet command
  let rootFs ← Launch.rootFs request.lifecycle droplet
  let egressRules ← egressRulesOf request.securityGroups
  let mountedFiles ← mountedFilesOf request.workload
  return launched settings request droplet plan rootFs egressRules mountedFiles

end CellRecipe.Recipe
