import ChatPlatform.Foundation.Text
import ChatPlatform.Foundation.Trim
import ChatPlatform.Foundation.Numeral
import ChatPlatform.Foundation.Uuid
import ChatPlatform.Foundation.Value
import ChatPlatform.Conversation.History
import ChatPlatform.Conversation.Turns
import ChatPlatform.Conversation.Partition
import ChatPlatform.Prompt.Messages
import ChatPlatform.Prompt.Context
import ChatPlatform.Prompt.Packer
import ChatPlatform.Prompt.Budget
import ChatPlatform.Prompt.Cap
import ChatPlatform.Foundation.Channel
import ChatPlatform.Providers.Port
import ChatPlatform.Providers.Resilient
import ChatPlatform.Providers.SingleProvider
import ChatPlatform.Providers.Bedrock
import ChatPlatform.Providers.OpenAi
import ChatPlatform.Providers.Stub
import ChatPlatform.Providers.ChatService
import ChatPlatform.Providers.StreamText
import ChatPlatform.Foundation.EventStream
import ChatPlatform.Route.Sse
import ChatPlatform.Settings
import ChatPlatform.Store.Database
import ChatPlatform.Memory.Ranking
import ChatPlatform.Memory.Assembly
import ChatPlatform.Memory.Provenance
import ChatPlatform.Route.Prepare
import ChatPlatform.Route.Containment
import ChatPlatform.Foundation.Program
import ChatPlatform.Route.ResponseCache
import ChatPlatform.Store.Session
import ChatPlatform.Route.Chat
import ChatPlatform.Route.Atomicity
import ChatPlatform.Foundation.Dynamic
import ChatPlatform.Notion.Validator
import ChatPlatform.Notion.Service
import ChatPlatform.Notion.Allowlist
import ChatPlatform.Retrieval.Reranker
import ChatPlatform.Retrieval.AwsReranker
import ChatPlatform.Retrieval.GcpReranker
import ChatPlatform.Retrieval.Pipeline
import ChatPlatform.Retrieval.Fallback
import ChatPlatform.Foundation.Unwinding
import ChatPlatform.Memory.Renumbering
import ChatPlatform.Memory.RenumberedReport
import ChatPlatform.Tenancy.System
import ChatPlatform.Tenancy.Confinement
import ChatPlatform.Tenancy.Alike
import ChatPlatform.Tenancy.Noninterference
import ChatPlatform.Foundation.PrefixCode
import ChatPlatform.Foundation.JsonText
import ChatPlatform.Providers.Routing
import ChatPlatform.Route.CacheKey
import ChatPlatform.Cache.System
import ChatPlatform.Cache.Soundness
import ChatPlatform.Foundation.Invariant
import ChatPlatform.Route.Rows
import ChatPlatform.Trace.Service
import ChatPlatform.Trace.Reconstruction
import ChatPlatform.Foundation.Keyed
import ChatPlatform.Foundation.KeySort
import ChatPlatform.Experiment.Replay
import ChatPlatform.Experiment.Agreement
import ChatPlatform.Foundation.UrlParse
import ChatPlatform.Web.Read
import ChatPlatform.Web.Hosts
import ChatPlatform.Route.Commit
import ChatPlatform.Route.Telemetry
import ChatPlatform.Route.Metrics
import ChatPlatform.Foundation.Settling
import ChatPlatform.Ingest.Discovery
import ChatPlatform.Ingest.Store
import ChatPlatform.Ingest.Replacement
import ChatPlatform.Foundation.Traversal
import ChatPlatform.Ingest.Run
import ChatPlatform.Ingest.Steps
import ChatPlatform.Ingest.Corpus
import ChatPlatform.Ingest.CrashSafety
import ChatPlatform.Ingest.Manifest
import ChatPlatform.Foundation.Erasure
import ChatPlatform.Observability.Tracing
import ChatPlatform.Observability.Generation
import ChatPlatform.Route.UsageEvents
import ChatPlatform.Route.ErrorContent
import ChatPlatform.Providers.Pricing
import ChatPlatform.Foundation.Interleaving
import ChatPlatform.Heldout.Ledger
import ChatPlatform.Heldout.OneRun
import ChatPlatform.Heldout.Race
import ChatPlatform.Foundation.Growth
import ChatPlatform.LongContext.Guards
import ChatPlatform.LongContext.Budget
import ChatPlatform.LongContext.Accounting
import ChatPlatform.Foundation.JsonScan
import ChatPlatform.Foundation.JsonRead
import ChatPlatform.Foundation.JsonRoundTrip
import ChatPlatform.Foundation.JsonCanonical
import ChatPlatform.Foundation.JsonPrintable
import ChatPlatform.EventLog.Events
import ChatPlatform.EventLog.Chain
import ChatPlatform.Foundation.JsonReadings
import ChatPlatform.EventLog.Integrity
import ChatPlatform.Spend.Guard
import ChatPlatform.Spend.Books
import ChatPlatform.Spend.Ceiling
import ChatPlatform.Spend.Race
import ChatPlatform.Spend.Replay
import ChatPlatform.Heldout.Seals
import ChatPlatform.Facts.Store
import ChatPlatform.Facts.Links
import ChatPlatform.Facts.Lifecycle
import ChatPlatform.Spend.Client
import ChatPlatform.Spend.Billing
import ChatPlatform.Facts.Extraction
import ChatPlatform.Facts.Applied
import ChatPlatform.Facts.Causal
import ChatPlatform.Foundation.JsonWeight
import ChatPlatform.Facts.Sizes
import ChatPlatform.Prompt.Greedy
import ChatPlatform.Prompt.Truthful
import ChatPlatform.Route.MemoryTelemetry
import ChatPlatform.Foundation.Delimiters
import ChatPlatform.Prompt.Envelopes
import ChatPlatform.Foundation.Occurrences
import ChatPlatform.Foundation.JsonOccurrences
import ChatPlatform.Prompt.EnvelopeClosing
import ChatPlatform.Memory.RankingLaws
import ChatPlatform.Retrieval.Generation
import ChatPlatform.Retrieval.Rankings
import ChatPlatform.Retrieval.Healthy
import ChatPlatform.Providers.BedrockSessions
import ChatPlatform.Foundation.Lines
import ChatPlatform.Foundation.JsonLexing
import ChatPlatform.Providers.OpenAiStream
import ChatPlatform.Spend.Wire
import ChatPlatform.Notion.Payload
import ChatPlatform.Notion.Options
import ChatPlatform.Notion.Refusals
import ChatPlatform.Trace.Pairs
import ChatPlatform.Foundation.Spans
import ChatPlatform.Ingest.Chunking
import ChatPlatform.Ingest.Windows
import ChatPlatform.Ingest.Coverage
import ChatPlatform.Ingest.Attribution
import ChatPlatform.Foundation.Pattern
import ChatPlatform.Foundation.Scanning
import ChatPlatform.Foundation.Decoding
import ChatPlatform.PayloadScan.Patterns
import ChatPlatform.PayloadScan.Scan
import ChatPlatform.PayloadScan.Surroundings
import ChatPlatform.Foundation.Taking
import ChatPlatform.PayloadScan.Secrets
import ChatPlatform.PayloadScan.Neighbours
import ChatPlatform.PayloadScan.Nested
import ChatPlatform.PayloadScan.Quotations
import ChatPlatform.Spend.Privacy
import ChatPlatform.Foundation.Cuts
import ChatPlatform.Ingest.Fingerprint
import ChatPlatform.Foundation.Queries
import ChatPlatform.Retrieval.HybridSearch
import ChatPlatform.Providers.Retry
import ChatPlatform.Foundation.Alignment
import ChatPlatform.Providers.Embedding
import ChatPlatform.Foundation.Words
import ChatPlatform.Web.Extraction
import ChatPlatform.Foundation.Greedy
import ChatPlatform.Recall.Search
import ChatPlatform.Recall.Compose
import ChatPlatform.DualMemory.Compose
import ChatPlatform.Foundation.JsonSpaced
import ChatPlatform.DualMemory.CallLedger
import ChatPlatform.DualMemory.CallRecords
import ChatPlatform.DualMemory.CallRuns
import ChatPlatform.Foundation.Placement
import ChatPlatform.SemanticMemory.Retrieval
import ChatPlatform.SemanticMemory.Delivered
import ChatPlatform.SemanticMemory.Dataset
import ChatPlatform.Evaluation.Metrics
import ChatPlatform.Foundation.Ranking
import ChatPlatform.Benchmark.Quality
import ChatPlatform.Recall.Chunking
import ChatPlatform.DualMemory.Chunking
import ChatPlatform.DualMemory.Query
import ChatPlatform.Foundation.DecimalArithmetic
import ChatPlatform.SemanticMemory.CostBound
import ChatPlatform.Benchmark.ResultStore
import ChatPlatform.Foundation.Blanking
import ChatPlatform.Honesty.Sweep
import ChatPlatform.LongContext.Determinism
import ChatPlatform.LongContext.Scoring
import ChatPlatform.LongContext.Development
import ChatPlatform.LongContext.OneShot
import ChatPlatform.LongContext.RegisteredRun
