import Sofon.Foundations.Program
import Sofon.Foundations.Pool
import Sofon.Config
import Sofon.Domain
import Sofon.Foundations.SortedSet
import Sofon.Foundations.Text
import Sofon.Store.Redis
import Sofon.Store.Postgres
import Sofon.Store.World
import Sofon.Store.Directory
import Sofon.Store.RedisClient
import Sofon.AppError
import Sofon.Monitor.Service
import Sofon.Result.Handlers
import Sofon.Result.Outage
import Sofon.Result.Outcomes
import Sofon.Foundations.Run
import Sofon.Result.History
import Sofon.Result.PartialFailure
import Sofon.Result.AlertTrace
import Sofon.Result.RetryBudget
import Sofon.Result.NextRun
import Sofon.Result.View
import Sofon.Result.Independence
import Sofon.Monitor.Toggle
import Sofon.Monitor.Delete
import Sofon.Result.Race
import Sofon.Result.OnceEachWay
import Sofon.Foundations.Channel
import Sofon.Foundations.Processes
import Sofon.Executor
import Sofon.Result.Recordable
import Sofon.Pipeline.System
import Sofon.Pipeline.Custody
import Sofon.Pipeline.Writeback
import Sofon.Pipeline.Tick
import Sofon.Monitor.Requests
import Sofon.Monitor.Cached
import Sofon.Pipeline.Loop
import Sofon.Pipeline.Progress
import Sofon.Pipeline.Signal
import Sofon.Pipeline.Account
import Sofon.Pipeline.Shutdown
import Sofon.Pipeline.Alarm
import Sofon.Pipeline.Silence
import Sofon.Pipeline.Leftovers
import Sofon.Pipeline.Load
import Sofon.Pipeline.Overlap
import Sofon.Quota.Exact
import Sofon.User.Registration
import Sofon.Team.Service
import Sofon.Team.Managers
import Sofon.Team.Invitations
import Sofon.Plugin.Config
import Sofon.Plugin.Service
import Sofon.Plugin.Delivery
import Sofon.Foundations.Utf8
import Sofon.Plugin.Handler
import Sofon.Plugin.Settings
import Sofon.Foundations.Base64
import Sofon.Foundations.Calendar
import Sofon.Foundations.Json
import Sofon.Foundations.Paging
import Sofon.Foundations.Rfc3339
import Sofon.Cursor
import Sofon.Incident.Service
import Sofon.Pages
import Sofon.Foundations.Lockstep
import Sofon.Isolation.Monitors
import Sofon.Isolation.Lists
import Sofon.Isolation.Settings
import Sofon.Isolation.Teams
import Sofon.Foundations.Alone
import Sofon.Result.RetryCount
import Sofon.Incident.Reason
import Sofon.Plugin.Channels
import Sofon.Web.MonitorStore
import Sofon.Web.Tab
import Sofon.Team.Access
import Sofon.Team.Migration
import Sofon.Plugin.Crypto
import Sofon.Plugin.Saved
import Sofon.Foundations.Embedding
import Sofon.Foundations.Provenance
import Sofon.Foundations.Visible
import Sofon.Store.Registry
import Sofon.Api.Server
import Sofon.Api.Handlers
import Sofon.Api.Routes
import Sofon.Api.Guarded
import Sofon.Api.Outsiders
import Sofon.Api.Vouched
import Sofon.Api.Accounts
import Sofon.Api.Assets
import Sofon.Api.Session
import Sofon.Api.Founded
import Sofon.Api.Passwords
import Sofon.Api.Lockout
import Sofon.Api.Saved
import Sofon.Plugin.Notices
import Sofon.Web.Redirects
import Sofon.Web.SignedIn
