import ScrapeFleet.Cluster.Access
import ScrapeFleet.Cluster.Discovery
import ScrapeFleet.Cluster.Metadata
import ScrapeFleet.Cluster.Namespace
import ScrapeFleet.Cluster.Secret
import ScrapeFleet.Collect.Client
import ScrapeFleet.Collect.Failure
import ScrapeFleet.Collect.Targets
import ScrapeFleet.CommandLine.Arguments
import ScrapeFleet.CommandLine.Start
import ScrapeFleet.Credential.Lookup
import ScrapeFleet.Credential.Resolution
import ScrapeFleet.Credential.Shelf
import ScrapeFleet.Credential.Store
import ScrapeFleet.Dict
import ScrapeFleet.Digest.Sha256
import ScrapeFleet.Document.Doc
import ScrapeFleet.Document.Value
import ScrapeFleet.Duration
import ScrapeFleet.Files
import ScrapeFleet.Generate.Basic
import ScrapeFleet.Generate.Shared
import ScrapeFleet.Generate.Endpoints
import ScrapeFleet.Generate.Relabeling
import ScrapeFleet.Generate.Single
import ScrapeFleet.Generate.Warning
import ScrapeFleet.Http.Uri
import ScrapeFleet.Job.Basic
import ScrapeFleet.Job.Client
import ScrapeFleet.Job.Digest
import ScrapeFleet.Job.Discovery
import ScrapeFleet.Kind
import ScrapeFleet.Text.Quoted
import ScrapeFleet.Main
import ScrapeFleet.Monitor.Basic
import ScrapeFleet.Monitor.Endpoint
import ScrapeFleet.Monitor.Reference
import ScrapeFleet.Monitor.RelabelRule
import ScrapeFleet.Monitor.Spec
import ScrapeFleet.Proofs.Collect.HandOver
import ScrapeFleet.Proofs.Collect.InForce
import ScrapeFleet.Proofs.Collect.Shard
import ScrapeFleet.Proofs.Credential.Churn
import ScrapeFleet.Proofs.Credential.Coherence
import ScrapeFleet.Proofs.Credential.Registration
import ScrapeFleet.Proofs.Credential.Store
import ScrapeFleet.Proofs.Credential.Traffic
import ScrapeFleet.Proofs.Credential.Undisturbed
import ScrapeFleet.Proofs.Credential.Yields
import ScrapeFleet.Proofs.Dict
import ScrapeFleet.Proofs.Document.Fields
import ScrapeFleet.Proofs.Document.Parts
import ScrapeFleet.Proofs.Duration
import ScrapeFleet.Proofs.Duration.Bounded
import ScrapeFleet.Proofs.Generate.Dropped
import ScrapeFleet.Proofs.Generate.Loadable
import ScrapeFleet.Proofs.Generate.Names
import ScrapeFleet.Proofs.Generate.Parts
import ScrapeFleet.Proofs.Generate.Selection
import ScrapeFleet.Proofs.Generate.Told
import ScrapeFleet.Proofs.Job.Parts
import ScrapeFleet.Proofs.Job.Reading
import ScrapeFleet.Proofs.Job.Texts
import ScrapeFleet.Proofs.Regex.Literal
import ScrapeFleet.Proofs.Regex.Matching
import ScrapeFleet.Proofs.Regex.Usable
import ScrapeFleet.Proofs.Relabel.Filter
import ScrapeFleet.Proofs.Relabel.Passing
import ScrapeFleet.Proofs.Text.Digits
import ScrapeFleet.Proofs.Text.Substitute
import ScrapeFleet.Proofs.Watch.Admission
import ScrapeFleet.Proofs.Watch.Announcement
import ScrapeFleet.Proofs.Watch.Cache
import ScrapeFleet.Proofs.Watch.Freshness
import ScrapeFleet.Proofs.Watch.History
import ScrapeFleet.Proofs.Watch.Informers
import ScrapeFleet.Proofs.Watch.Lifetime
import ScrapeFleet.Proofs.Watch.Loading
import ScrapeFleet.Proofs.Watch.Mirror
import ScrapeFleet.Proofs.Watch.Scene
import ScrapeFleet.Proofs.Watch.Stopping
import ScrapeFleet.Proofs.Watch.Tasks
import ScrapeFleet.Proofs.Yaml.Alike
import ScrapeFleet.Proofs.Yaml.Filled
import ScrapeFleet.Proofs.Yaml.Form
import ScrapeFleet.Proofs.Yaml.Layout
import ScrapeFleet.Proofs.Yaml.Literal
import ScrapeFleet.Proofs.Yaml.Place
import ScrapeFleet.Proofs.Yaml.Plain
import ScrapeFleet.Proofs.Yaml.Quoted
import ScrapeFleet.Proofs.Yaml.Scalars
import ScrapeFleet.Proofs.Yaml.ShortKey
import ScrapeFleet.Proofs.Yaml.Shown
import ScrapeFleet.Proofs.Yaml.Spot
import ScrapeFleet.Proofs.Yaml.Stream
import ScrapeFleet.Proofs.Yaml.Tokens
import ScrapeFleet.Proofs.Yaml.Tree
import ScrapeFleet.Regex.Pattern
import ScrapeFleet.Regex.Property
import ScrapeFleet.Regex.Reader
import ScrapeFleet.Regex.Size
import ScrapeFleet.Relabel.Check
import ScrapeFleet.Relabel.Rule
import ScrapeFleet.Selector
import ScrapeFleet.Serve.Published
import ScrapeFleet.Settings
import ScrapeFleet.Text.Base64
import ScrapeFleet.Text.Digits
import ScrapeFleet.Text.CharMap
import ScrapeFleet.Text.Composed
import ScrapeFleet.Text.Percent
import ScrapeFleet.Text.Letter
import ScrapeFleet.Text.RangeTable
import ScrapeFleet.Text.Shown
import ScrapeFleet.Text.Substitute
import ScrapeFleet.Text.Word
import ScrapeFleet.Toml.Number
import ScrapeFleet.Toml.Reader
import ScrapeFleet.Toml.Table
import ScrapeFleet.Toml.Text
import ScrapeFleet.Url.Address
import ScrapeFleet.Url.Basic
import ScrapeFleet.Url.Direction
import ScrapeFleet.Url.Domain
import ScrapeFleet.Url.Host
import ScrapeFleet.Url.Mapping
import ScrapeFleet.Url.Punycode
import ScrapeFleet.Watch.Cache
import ScrapeFleet.Watch.Sender
import ScrapeFleet.Watch.Clock
import ScrapeFleet.Watch.Connection
import ScrapeFleet.Watch.Informer
import ScrapeFleet.Watch.Load
import ScrapeFleet.Watch.Watcher
import ScrapeFleet.Yaml.Token
import ScrapeFleet.Yaml.Cursor
import ScrapeFleet.Yaml.Lexer
import ScrapeFleet.Yaml.Node
import ScrapeFleet.Yaml.Reader
import ScrapeFleet.Yaml.Scalar
import ScrapeFleet.Yaml.Style
import ScrapeFleet.Yaml.Writer
import ScrapeFleet.Proofs.Job.RoundTrip
import ScrapeFleet.Proofs.Serve.Published
import ScrapeFleet.Proofs.Collect.Partition
import ScrapeFleet.Proofs.Credential.Tenants
import ScrapeFleet.Proofs.Generate.OwnSecrets
import ScrapeFleet.Proofs.Watch.Silence
import ScrapeFleet.Proofs.Watch.Survey
import ScrapeFleet.Proofs.Collect.Record
import ScrapeFleet.Proofs.Watch.Reproducible
import ScrapeFleet.Proofs.Generate.Acceptance
import ScrapeFleet.Proofs.Watch.Debounce
import ScrapeFleet.Proofs.Watch.Syncing
import ScrapeFleet.Proofs.Job.Digest
import ScrapeFleet.Proofs.Collect.Changed
import ScrapeFleet.Proofs.Relabel.TargetPattern
import ScrapeFleet.Proofs.Duration.Grammar
import ScrapeFleet.Proofs.Collect.Retarget
import ScrapeFleet.Proofs.Generate.Verbatim
import ScrapeFleet.Proofs.Job.Hidden
import ScrapeFleet.Proofs.Credential.Bookkeeping
