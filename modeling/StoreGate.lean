import StoreGate.Action
import StoreGate.Availability
import StoreGate.Base32
import StoreGate.Base64Url
import StoreGate.Bits
import StoreGate.Cache
import StoreGate.Caller
import StoreGate.CommandLine.Command
import StoreGate.CommandLine.Grammar
import StoreGate.CommandLine.Run
import StoreGate.CommandLine.Trouble
import StoreGate.Crypto.Blake2b
import StoreGate.Crypto.ChaCha20
import StoreGate.Crypto.Poly1305
import StoreGate.Crypto.SealedBox
import StoreGate.Crypto.Sha256
import StoreGate.Crypto.Words
import StoreGate.Decimal
import StoreGate.Drive.Browser
import StoreGate.Drive.Item
import StoreGate.Duration
import StoreGate.Failure
import StoreGate.Flatten
import StoreGate.Gateway.Config
import StoreGate.Gateway.Redemption
import StoreGate.Gateway.Reply
import StoreGate.Gateway.Route
import StoreGate.Gateway.Server
import StoreGate.Hexadecimal
import StoreGate.Http.Client
import StoreGate.Http.Message
import StoreGate.Item
import StoreGate.Json.Basic
import StoreGate.Json.Parser
import StoreGate.Json.Printer
import StoreGate.Json.Reader
import StoreGate.Listing
import StoreGate.LockedLink
import StoreGate.Magnet
import StoreGate.Main
import StoreGate.PercentEncoding
import StoreGate.PikPak.Api
import StoreGate.PikPak.Client
import StoreGate.PikPak.File
import StoreGate.PikPak.Store
import StoreGate.Poll
import StoreGate.Provider
import StoreGate.Proxy.Credentials
import StoreGate.Proxy.Link
import StoreGate.Proxy.SignedToken
import StoreGate.Proxy.Token
import StoreGate.Registry
import StoreGate.Seedr.Api
import StoreGate.Seedr.Client
import StoreGate.Seedr.Store
import StoreGate.Store
import StoreGate.Text.Blank
import StoreGate.Text.CaseTable
import StoreGate.Text.Composition
import StoreGate.Text.CompositionTable
import StoreGate.Text.Direction
import StoreGate.Text.Hidden
import StoreGate.Text.Joining
import StoreGate.Text.LowerCase
import StoreGate.Text.MarkTable
import StoreGate.Text.Marks
import StoreGate.Text.Quoted
import StoreGate.Text.Ranges
import StoreGate.Text.Split
import StoreGate.Text.Utf8
import StoreGate.TextMap
import StoreGate.Timestamp
import StoreGate.Transport
import StoreGate.Tunnel
import StoreGate.Url.Basic
import StoreGate.Url.DomainName
import StoreGate.Url.DomainTable
import StoreGate.Url.Host
import StoreGate.Url.Parser
import StoreGate.Url.Punycode
import StoreGate.Url.Reference
import StoreGate.Proofs.Actions
import StoreGate.Proofs.Base64Canonical
import StoreGate.Proofs.Drive.FolderTrees
import StoreGate.Proofs.LockedLinkCodec
import StoreGate.Proofs.Json.Numbers
import StoreGate.Proofs.Json.RoundTrip
import StoreGate.Proofs.Proxy.LinkLines
import StoreGate.Proofs.SealedBoxOpening
import StoreGate.Proofs.Json.Records
import StoreGate.Proofs.Proxy.SignedTokenForm
import StoreGate.Proofs.Proxy.TokenDocuments
import StoreGate.Proofs.Proxy.Redeeming
import StoreGate.Proofs.Proxy.TokenRoundTrip
import StoreGate.Proofs.Proxy.TokenSoundness
import StoreGate.Proofs.CacheEntries
import StoreGate.Proofs.PikPak.CallSteps
import StoreGate.Proofs.PikPak.StepEffects
import StoreGate.Proofs.PikPak.Scenes
import StoreGate.Proofs.PikPak.ListingsAtLarge
import StoreGate.Proofs.PikPak.LaterListings
import StoreGate.Proofs.Drive.Tallies
import StoreGate.Proofs.Drive.FolderWalks
import StoreGate.Proofs.Drive.WalkMoves
import StoreGate.Proofs.Drive.Flattening
import StoreGate.Proofs.Drive.Browsing
import StoreGate.Proofs.PikPak.TreeWalks
import StoreGate.Proofs.RecordedCalls
import StoreGate.Proofs.NewestFirst
import StoreGate.Proofs.AccountShelves
import StoreGate.Proofs.SharedCache
import StoreGate.Proofs.PikPak.ServiceCalls
import StoreGate.Proofs.PikPak.ServedListings
import StoreGate.Proofs.CacheAccesses
import StoreGate.Proofs.Drive.Surveys
import StoreGate.Proofs.PikPak.ItemFiles
import StoreGate.Proofs.Seedr.ItemFiles
import StoreGate.Proofs.ListedFiles
import StoreGate.Proofs.PikPak.ReusedItems
import StoreGate.Proofs.PercentEncodings
import StoreGate.Proofs.Url.WebAddresses
import StoreGate.Proofs.Url.PathSegments
import StoreGate.Proofs.Proxy.LinkSegments
import StoreGate.Proofs.Proxy.LinkRoutes
import StoreGate.Proofs.TaskWaits
import StoreGate.Proofs.Drive.RecursiveListings
import StoreGate.Proofs.Drive.CutWalks
import StoreGate.Proofs.PikPak.NewDownloads
import StoreGate.Proofs.Drive.PageSearches
import StoreGate.Proofs.PikPak.PackFolders
import StoreGate.Proofs.PikPak.PagedListings
import StoreGate.Proofs.InfoHashes
import StoreGate.Proofs.MagnetLinks
import StoreGate.Proofs.AcceptedHashes
import StoreGate.Proofs.Seedr.ServiceRequests
import StoreGate.Proofs.Seedr.NumericIds
import StoreGate.Proofs.Drive.FolderVisits
import StoreGate.Proofs.Seedr.PrefetchedRoot
import StoreGate.Proofs.Proxy.SignatureSpelling
import StoreGate.Proofs.Proxy.Rejections
import StoreGate.Proofs.Proxy.TokenLifetimes
import StoreGate.Proofs.Proxy.ResolvedLinks
import StoreGate.Proofs.Http.Fetching
import StoreGate.Proofs.Proxy.ServedLinks
import StoreGate.Proofs.Drive.ContainerSizes
import StoreGate.Proofs.Drive.Tours
import StoreGate.Proofs.Drive.EntryPaths
import StoreGate.Proofs.Drive.TokenChains
import StoreGate.Proofs.Drive.LoopBudgets
import StoreGate.Proofs.Drive.PagingLoops
import StoreGate.Proofs.PikPak.FileAddresses
import StoreGate.Proofs.Drive.NameSearches
import StoreGate.Proofs.SealedBoxFraming
