import CellRecipe.Action
import CellRecipe.Asset
import CellRecipe.CommandLine.Arguments
import CellRecipe.CommandLine.FileStore
import CellRecipe.CommandLine.Journal
import CellRecipe.CommandLine.Program
import CellRecipe.CommandLine.Reader
import CellRecipe.Container
import CellRecipe.Decimal.Double
import CellRecipe.Decimal.Shortest
import CellRecipe.Digest.Md5
import CellRecipe.Document
import CellRecipe.Droplet
import CellRecipe.Egress
import CellRecipe.Failure
import CellRecipe.Image
import CellRecipe.Json.Printer
import CellRecipe.Json.Reader
import CellRecipe.Json.Record
import CellRecipe.Json.Source
import CellRecipe.Json.Token
import CellRecipe.Json.Value
import CellRecipe.Launch
import CellRecipe.Lifecycle
import CellRecipe.Logging
import CellRecipe.Logging.Directive
import CellRecipe.Logging.Level
import CellRecipe.Main
import CellRecipe.MountedFile
import CellRecipe.Plan
import CellRecipe.Proofs.Abridged
import CellRecipe.Proofs.ActionLeaves
import CellRecipe.Proofs.ActionQueries
import CellRecipe.Proofs.ActionRoundTrip
import CellRecipe.Proofs.Assembly
import CellRecipe.Proofs.AssetDelivery
import CellRecipe.Proofs.BindingDirectories
import CellRecipe.Proofs.BindingFiles
import CellRecipe.Proofs.BindingOrder
import CellRecipe.Proofs.BindingPaths
import CellRecipe.Proofs.BuilderArguments
import CellRecipe.Proofs.BuildpackDownloads
import CellRecipe.Proofs.BuildpackOrder
import CellRecipe.Proofs.Callbacks
import CellRecipe.Proofs.Checksums
import CellRecipe.Proofs.Conditions
import CellRecipe.Proofs.CredentialFlow
import CellRecipe.Proofs.Detection
import CellRecipe.Proofs.EgressForm
import CellRecipe.Proofs.EgressOrder
import CellRecipe.Proofs.EnvironmentOverrides
import CellRecipe.Proofs.FailureReasons
import CellRecipe.Proofs.FileIndex
import CellRecipe.Proofs.FileSet
import CellRecipe.Proofs.ImageCompleteness
import CellRecipe.Proofs.ImageCredentials
import CellRecipe.Proofs.ImageGrammar
import CellRecipe.Proofs.ImageRendering
import CellRecipe.Proofs.JsonNumbers
import CellRecipe.Proofs.JsonRecord
import CellRecipe.Proofs.JsonText
import CellRecipe.Proofs.LaunchRefusals
import CellRecipe.Proofs.MessageRoundTrip
import CellRecipe.Proofs.OptionalEntries
import CellRecipe.Proofs.Outcome
import CellRecipe.Proofs.OutputFile
import CellRecipe.Proofs.PortGrammar
import CellRecipe.Proofs.RecipeIdentity
import CellRecipe.Proofs.RecipeRoundTrip
import CellRecipe.Proofs.RenderedEnds
import CellRecipe.Proofs.RequestRoundTrip
import CellRecipe.Proofs.RunSelection
import CellRecipe.Proofs.SchemaViolations
import CellRecipe.Proofs.ServiceGroups
import CellRecipe.Proofs.ServicesByLabel
import CellRecipe.Proofs.StagingMessage
import CellRecipe.Proofs.StagingRefusals
import CellRecipe.Proofs.StagingWiring
import CellRecipe.Proofs.Terminal
import CellRecipe.Proofs.UnfinishedBindings
import CellRecipe.Proofs.ValidSettings
import CellRecipe.Proofs.VolumeMounts
import CellRecipe.Recipe
import CellRecipe.Recipe.Assembly
import CellRecipe.Recipe.Identity
import CellRecipe.Refusal
import CellRecipe.Request.Running
import CellRecipe.Request.Staging
import CellRecipe.SecurityGroup
import CellRecipe.ServiceBinding
import CellRecipe.ServiceBinding.Files
import CellRecipe.ServiceBinding.Presentation
import CellRecipe.Settings
import CellRecipe.Settings.Environment
import CellRecipe.Settings.File
import CellRecipe.Settings.Validation
import CellRecipe.Settings.Yaml
import CellRecipe.Staging.Message
import CellRecipe.Staging.Pipeline
import CellRecipe.Staging.Schema
import CellRecipe.Table
import CellRecipe.Text.Character
import CellRecipe.Text.LetterCase
import CellRecipe.Text.LetterCase.Table
import CellRecipe.Text.Numeral
import CellRecipe.Text.Split
import CellRecipe.VolumeMount
import CellRecipe.Workload
import CellRecipe.Yaml.Character
import CellRecipe.Yaml.Node
import CellRecipe.Yaml.Node.Composition
import CellRecipe.Yaml.Printer
import CellRecipe.Yaml.Record
import CellRecipe.Yaml.Scalar
import CellRecipe.Yaml.Token
import CellRecipe.Yaml.Token.Lexer
import CellRecipe.Yaml.Token.Scalar
import CellRecipe.Yaml.Token.Tag
