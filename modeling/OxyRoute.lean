import OxyRoute.ApiRouter.Options
import OxyRoute.ApiRouter.Nesting
import OxyRoute.Lib.ExclusiveTable
import OxyRoute.Routing.Matchit
import OxyRoute.Routing.Segments
import OxyRoute.Routing.Tables
import OxyRoute.Lib.Text
import OxyRoute.Lib.EventStream
import OxyRoute.Lib.Boundaries
import OxyRoute.Lib.Rounding
import OxyRoute.Lib.F64
import OxyRoute.Lib.Decimal
import OxyRoute.Lib.Routine
import OxyRoute.Lib.Tries
import OxyRoute.Lib.Guards
import OxyRoute.Lib.Json
import OxyRoute.Lib.JsonText
import OxyRoute.Native.Python
import OxyRoute.Native.Values
import OxyRoute.Native.Token
import OxyRoute.Native.Cors
import OxyRoute.Native.Dependency
import OxyRoute.Lib.Kahn
import OxyRoute.Native.TopologicalSort
import OxyRoute.Native.RateLimit
import OxyRoute.Native.RateStrings
import OxyRoute.Native.Params
import OxyRoute.Native.State
import OxyRoute.Native.Runtime
import OxyRoute.Native.Response
import OxyRoute.Native.HandlerMap
import OxyRoute.Native.Errors
import OxyRoute.Native.Serve
import OxyRoute.Native.Dispatch
import OxyRoute.Native.Answers
import OxyRoute.Native.Middleware
import OxyRoute.Native.ShortCircuit
import OxyRoute.Native.Registered
import OxyRoute.Native.Guards
import OxyRoute.Native.Guarded
import OxyRoute.Native.TokenRoutes
import OxyRoute.Native.Kwargs
import OxyRoute.Native.Resolution
import OxyRoute.Native.DependencyValues
import OxyRoute.Native.DeclaredOrder
import OxyRoute.Native.Buckets
import OxyRoute.Lib.IdealBucket
import OxyRoute.Native.IdealLimiter
import OxyRoute.Lib.BoundedTable
import OxyRoute.Native.Limiter
import OxyRoute.Native.Isolation
import OxyRoute.Native.RateContract
import OxyRoute.Native.PeerAddress
import OxyRoute.Native.Truncation
import OxyRoute.Native.CorsOrigins
import OxyRoute.Native.Concurrency
import OxyRoute.Native.Websocket
import OxyRoute.Native.WebsocketRegistry
import OxyRoute.Native.ErrorPaths
import OxyRoute.Native.ErrorAnswers
import OxyRoute.Native.OpenApi
import OxyRoute.Native.TemplateNames
import OxyRoute.Native.Registration
import OxyRoute.Native.Rejection
import OxyRoute.Native.Accepted
import OxyRoute.Native.Cycles
import OxyRoute.Native.Compile
import OxyRoute.Native.Allow
import OxyRoute.Lib.Transition
import OxyRoute.Native.Interleaving
import OxyRoute.Native.Indices
import OxyRoute.Lib.LockOrder
import OxyRoute.Native.Locks
import OxyRoute.Lib.Cached
import OxyRoute.Native.Document
import OxyRoute.Native.Operations
import OxyRoute.Native.Publication
import OxyRoute.Native.Freezing
import OxyRoute.Lib.Stops
import OxyRoute.Native.Stops
import OxyRoute.Native.HeaderSafety
import OxyRoute.Native.LineBreaks
import OxyRoute.Native.Head
import OxyRoute.Lib.Tally
import OxyRoute.Native.Identity
import OxyRoute.Lib.FieldList
import OxyRoute.Native.SecurityHeaders
import OxyRoute.Native.MergedHeaders
import OxyRoute.Native.KeptHeaders
import OxyRoute.Native.PathValues
import OxyRoute.Native.Gathering
import OxyRoute.Native.DeclaredKwargs
import OxyRoute.Native.DictReturns
import OxyRoute.Native.JsonWriter
import OxyRoute.Native.JsonReader
import OxyRoute.Native.JsonFallback
import OxyRoute.Native.CorsObject
import OxyRoute.Native.CorsParity
import OxyRoute.Native.Cookies
import OxyRoute.Native.Csrf
import OxyRoute.Streaming.Sse
import OxyRoute.Streaming.Helpers
import OxyRoute.Streaming.SseEvents
import OxyRoute.Streaming.Jsonl
import OxyRoute.Lib.FileTree
import OxyRoute.Streaming.Static
import OxyRoute.Native.OneResponse
import OxyRoute.Lib.Batches
import OxyRoute.Native.DbQuery
import OxyRoute.Resilience.AdaptiveLimiter
import OxyRoute.Resilience.ClosedLoop
import OxyRoute.Native.WebsocketSends
import OxyRoute.Streaming.StaticTree
import OxyRoute.Native.DbPools
import OxyRoute.Native.Connected
