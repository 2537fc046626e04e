/-!
# Places inside a container

The users that programs run as, and the paths at which staging and running find their files. All
recipes agree on them.
-/

namespace CellRecipe.Container

/-- The user of a workload. -/
def workloadUser : String := "vcap"

/-- The user of programs that need more rights. -/
def rootUser : String := "root"

/-- Where the bundle of a lifecycle is unpacked. -/
def lifecycleDir : String := "/tmp/lifecycle"

/-- The program that starts a workload. -/
def launcherPath : String := "/tmp/lifecycle/launcher"

/-- The program that builds a workload. -/
def builderPath : String := "/tmp/lifecycle/builder"

/-- Where the bundle for staging images is unpacked. -/
def imageLifecycleDir : String := "/tmp/docker_app_lifecycle"

/-- The program that inspects an image. -/
def imageBuilderPath : String := "/tmp/docker_app_lifecycle/builder"

/-- Where the package is unpacked. -/
def appDir : String := "/tmp/app"

/-- Where the cache of an earlier build is unpacked. -/
def cacheDir : String := "/tmp/cache"

/-- Where the builder leaves its cache. -/
def outputCacheDir : String := "/tmp/output-cache"

/-- Where the builder leaves the droplet. -/
def outputDroplet : String := "/tmp/droplet"

/-- Where the builder leaves its result. -/
def resultFile : String := "/tmp/result.json"

/-- Where buildpacks are unpacked. -/
def buildpacksDir : String := "/tmp/buildpacks"

/-- Where the layer of a droplet is mounted. -/
def dropletTarget : String := "/home/vcap"

/-- The name under which staging logs. -/
def stagingLogSource : String := "STG"

end CellRecipe.Container
