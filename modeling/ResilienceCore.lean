import ResilienceCore.Python
import ResilienceCore.PyString
import ResilienceCore.Breaker.Metrics
import ResilienceCore.Breaker.Machine
import ResilienceCore.Breaker.Invariant
import ResilienceCore.Breaker.Refinement
import ResilienceCore.Breaker.Call
import ResilienceCore.Breaker.Threads
import ResilienceCore.Breaker.Admission
import ResilienceCore.Breaker.Reset
import ResilienceCore.Breaker.Locks
import ResilienceCore.Consumer.Message
import ResilienceCore.Consumer.Process
import ResilienceCore.Consumer.Batching
import ResilienceCore.Consumer.Delivery
import ResilienceCore.Consumer.Signal
import ResilienceCore.Consumer.Replay
import ResilienceCore.Consumer.Counters
import ResilienceCore.Consumer.PollLoop
import ResilienceCore.Clients.LruCache
import ResilienceCore.Clients.FeatureFlags
import ResilienceCore.Clients.Discovery
import ResilienceCore.Clients.VaultRead
import ResilienceCore.Clients.RateLimit
import ResilienceCore.Clients.RateLimitDecorator
import ResilienceCore.Clients.GrandCentral
import ResilienceCore.Clients.Connections
import ResilienceCore.Access.DateTime
import ResilienceCore.Access.Okta
import ResilienceCore.Processor.Schema
import ResilienceCore.Processor.Service
import ResilienceCore.Alerts.Suppression
import ResilienceCore.Scripts.JsonSchema
import ResilienceCore.Scripts.ValidateGrandCentral
import ResilienceCore.Scripts.PlatformRules
