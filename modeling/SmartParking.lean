import SmartParking.Lib.Sha256
import SmartParking.Lib.Sql
import SmartParking.Lib.Decimal
import SmartParking.Lib.Hex
import SmartParking.Lib.Runs
import SmartParking.Lib.Lists
import SmartParking.Lib.Faults
import SmartParking.Downlink.Command
import SmartParking.Downlink.Queue
import SmartParking.Downlink.Serial
import SmartParking.Downlink.Machine
import SmartParking.Downlink.Steps
import SmartParking.Downlink.Genuine
import SmartParking.Downlink.Custody
import SmartParking.Downlink.Durable
import SmartParking.Downlink.Coalescing
import SmartParking.Downlink.LastWriter
import SmartParking.Downlink.Refinement
import SmartParking.Downlink.Retries
import SmartParking.Downlink.Duplicates
import SmartParking.Lib.Fifo
import SmartParking.Downlink.FirstAttempts
import SmartParking.Reservations.Table
import SmartParking.Reservations.Machine
import SmartParking.Reservations.Guarantees
import SmartParking.Reservations.Statuses
import SmartParking.Reservations.Availability
import SmartParking.Spaces.State
import SmartParking.Spaces.StateManager
import SmartParking.Spaces.Lock
import SmartParking.Spaces.Updates
import SmartParking.Spaces.Failures
import SmartParking.Spaces.Audit
import SmartParking.Uplink.Webhook
import SmartParking.Uplink.Payloads
import SmartParking.Uplink.Process
import SmartParking.Uplink.Replay
import SmartParking.Uplink.Losses
import SmartParking.Background.Manager
import SmartParking.Background.Release
import SmartParking.Background.Tasks
import SmartParking.Background.BackToBack
import SmartParking.Background.Holding
import SmartParking.Background.Justified
import SmartParking.Background.Schedule
import SmartParking.Background.Reconciliation
import SmartParking.Display.Debounce
import SmartParking.Display.Priority
import SmartParking.Display.PolicyCache
import SmartParking.Display.LivePath
import SmartParking.Display.Held
import SmartParking.Display.PolicyCreation
import SmartParking.Auth.RefreshTokens
import SmartParking.Auth.Rotation
import SmartParking.Auth.Registration
import SmartParking.Auth.RegistrationProgress
import SmartParking.Auth.Login
import SmartParking.Auth.Sessions
import SmartParking.Auth.Reuse
import SmartParking.Auth.ApiKeys
import SmartParking.Auth.Refresh
import SmartParking.Uplink.Spool
import SmartParking.Spaces.Catalog
import SmartParking.Spaces.Tenancy
import SmartParking.Lib.Md5
import SmartParking.Lib.Glob
import SmartParking.Spaces.ListCache
import SmartParking.Spaces.Devices
import SmartParking.Reservations.Deletion
import SmartParking.Reservations.Isolation
import SmartParking.Uplink.Secrets
import SmartParking.Lib.Settings
import SmartParking.Database.Connections
import SmartParking.Lib.Datetimes
import SmartParking.Database.Clocks
import SmartParking.Lib.Dict
import SmartParking.Gateways.Monitor
import SmartParking.Auth.CurrentTenant
import SmartParking.Auth.Deactivation
import SmartParking.Auth.KeyLifecycle
import SmartParking.Uplink.SpoolRetries
import SmartParking.Uplink.SpoolCrashes
import SmartParking.Lib.TokenBucket
import SmartParking.Lib.Transactions
import SmartParking.Lib.RoundRobin
import SmartParking.Lib.Noninterference
import SmartParking.Spaces.Isolation
import SmartParking.Spaces.Queries
import SmartParking.Downlink.Drain
import SmartParking.Lib.Rounding
import SmartParking.Downlink.RateLimiter
import SmartParking.Downlink.RateLimited
import SmartParking.Downlink.Metrics
import SmartParking.Lib.Json
import SmartParking.Downlink.RoundTrip
import SmartParking.Downlink.Faulted
import SmartParking.Lib.SlidingWindow
import SmartParking.Api.RateLimiter
import SmartParking.Api.Calls
import SmartParking.Api.Advertised
import SmartParking.Api.Quotas
import SmartParking.Api.Interleaved
import SmartParking.Api.Alone
import SmartParking.Uplink.Occupancy
import SmartParking.Uplink.Eui
import SmartParking.Uplink.Discovery
import SmartParking.Uplink.Handlers
import SmartParking.Auth.Scopes
import SmartParking.Lib.Retry
import SmartParking.ChirpStack.Client
import SmartParking.Reservations.Intervals
import SmartParking.Spaces.Displays
import SmartParking.Spaces.Restoration
