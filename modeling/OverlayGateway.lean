import OverlayGateway.Backoff
import OverlayGateway.Base64
import OverlayGateway.Certificate
import OverlayGateway.ClusterAccess
import OverlayGateway.ClusterAccess.Trust
import OverlayGateway.CommandLine
import OverlayGateway.Credential
import OverlayGateway.Decimal.Shortest
import OverlayGateway.Decimal.Unsigned
import OverlayGateway.Der
import OverlayGateway.Duration
import OverlayGateway.Environment
import OverlayGateway.Failure
import OverlayGateway.File
import OverlayGateway.FileTree
import OverlayGateway.Forwarding
import OverlayGateway.Gateway
import OverlayGateway.Http.Header
import OverlayGateway.Http.Headers
import OverlayGateway.Http.MediaType
import OverlayGateway.Http.Message
import OverlayGateway.Http.Uri
import OverlayGateway.Identity
import OverlayGateway.Impersonation
import OverlayGateway.Ip.Address
import OverlayGateway.Ip.Parse
import OverlayGateway.Json.Decode
import OverlayGateway.Json.Numeral
import OverlayGateway.Json.Reading
import OverlayGateway.Json.Value
import OverlayGateway.Kubeconfig
import OverlayGateway.Kubeconfig.Credential
import OverlayGateway.Kubeconfig.Document
import OverlayGateway.Lifecycle
import OverlayGateway.Listener
import OverlayGateway.Log
import OverlayGateway.Log.Filter
import OverlayGateway.Main
import OverlayGateway.Management
import OverlayGateway.MappingSync
import OverlayGateway.MappingTable
import OverlayGateway.Overlay
import OverlayGateway.Pem
import OverlayGateway.Pem.Lines
import OverlayGateway.Periodic
import OverlayGateway.Polling
import OverlayGateway.PrivateKey
import OverlayGateway.PrivateKey.Curve
import OverlayGateway.PrivateKey.Digest
import OverlayGateway.PrivateKey.Rsa
import OverlayGateway.Probe
import OverlayGateway.Program
import OverlayGateway.Proofs.Backoff
import OverlayGateway.Proofs.Backoff.Delay
import OverlayGateway.Proofs.Base64.Canonical
import OverlayGateway.Proofs.Base64.RoundTrip
import OverlayGateway.Proofs.Credential
import OverlayGateway.Proofs.Credential.Encoding
import OverlayGateway.Proofs.Decimal.Unsigned
import OverlayGateway.Proofs.Forwarding
import OverlayGateway.Proofs.Forwarding.HopByHop
import OverlayGateway.Proofs.Gateway.Answers
import OverlayGateway.Proofs.Gateway.Attachment
import OverlayGateway.Proofs.Gateway.Authorization
import OverlayGateway.Proofs.Gateway.CallerAddress
import OverlayGateway.Proofs.Gateway.Confinement
import OverlayGateway.Proofs.Gateway.Decision
import OverlayGateway.Proofs.Gateway.Disclosure
import OverlayGateway.Proofs.Gateway.Exchange
import OverlayGateway.Proofs.Gateway.Frame
import OverlayGateway.Proofs.Gateway.Isolation
import OverlayGateway.Proofs.Gateway.Presentation
import OverlayGateway.Proofs.Gateway.Relay
import OverlayGateway.Proofs.Http.Sendable
import OverlayGateway.Proofs.Http.Uri
import OverlayGateway.Proofs.Identity.Acceptance
import OverlayGateway.Proofs.Identity.Document
import OverlayGateway.Proofs.Impersonation.Groups
import OverlayGateway.Proofs.Impersonation.Identification
import OverlayGateway.Proofs.Impersonation.Refusal
import OverlayGateway.Proofs.Ip.Canonical
import OverlayGateway.Proofs.Ip.RoundTrip
import OverlayGateway.Proofs.Json.Decode
import OverlayGateway.Proofs.Json.Grammar
import OverlayGateway.Proofs.Json.Reader
import OverlayGateway.Proofs.Json.Record
import OverlayGateway.Proofs.Json.RoundTrip
import OverlayGateway.Proofs.Json.Strings
import OverlayGateway.Proofs.Kubeconfig.Credential
import OverlayGateway.Proofs.Lifecycle.Merging
import OverlayGateway.Proofs.Management.NewMapping
import OverlayGateway.Proofs.Management.Refinement
import OverlayGateway.Proofs.Management.Writes
import OverlayGateway.Proofs.MappingSync.Interleaving
import OverlayGateway.Proofs.MappingSync.MergeLaw
import OverlayGateway.Proofs.MappingTable.Concurrency
import OverlayGateway.Proofs.MappingTable.LastWrite
import OverlayGateway.Proofs.MappingTable.Listing
import OverlayGateway.Proofs.MappingTable.Operations
import OverlayGateway.Proofs.MappingTable.RoundTrip
import OverlayGateway.Proofs.MappingTable.Validity
import OverlayGateway.Proofs.Overlay
import OverlayGateway.Proofs.Periodic.Pacing
import OverlayGateway.Proofs.Polling
import OverlayGateway.Proofs.Polling.Exhaustion
import OverlayGateway.Proofs.Probe
import OverlayGateway.Proofs.Remote
import OverlayGateway.Proofs.Result
import OverlayGateway.Proofs.Settings
import OverlayGateway.Proofs.Settings.Numbers
import OverlayGateway.Proofs.Text.Blank
import OverlayGateway.Proofs.Text.Order
import OverlayGateway.Proofs.Text.Split
import OverlayGateway.Proofs.Text.Utf8
import OverlayGateway.Proofs.Text.Visible
import OverlayGateway.Proofs.Url.Below
import OverlayGateway.Proofs.Url.Decoding
import OverlayGateway.Proofs.Url.Percent
import OverlayGateway.Proofs.Url.Segments
import OverlayGateway.Proofs.Url.Target
import OverlayGateway.Proofs.Url.Trail
import OverlayGateway.Settings
import OverlayGateway.Text.Basic
import OverlayGateway.Text.Letter
import OverlayGateway.Text.Normal
import OverlayGateway.Text.Normal.Table
import OverlayGateway.Text.PointTable
import OverlayGateway.Text.Quoted
import OverlayGateway.Text.Similarity
import OverlayGateway.Text.Terminal
import OverlayGateway.Text.Utf8
import OverlayGateway.Url.Basic
import OverlayGateway.Url.Domain
import OverlayGateway.Url.Domain.Direction
import OverlayGateway.Url.Domain.Joining
import OverlayGateway.Url.Domain.Mapping
import OverlayGateway.Url.Host
import OverlayGateway.Url.Parse
import OverlayGateway.Url.Path
import OverlayGateway.Url.Percent
import OverlayGateway.Url.Punycode
import OverlayGateway.Yaml.Anchor
import OverlayGateway.Yaml.Decode
import OverlayGateway.Yaml.Node
import OverlayGateway.Yaml.Plain
import OverlayGateway.Yaml.Token
import OverlayGateway.Yaml.Token.Lexer
import OverlayGateway.Yaml.Token.Scalar
import OverlayGateway.Yaml.Tree
