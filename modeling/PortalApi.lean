import PortalApi.Library.Program
import PortalApi.Library.Machine
import PortalApi.Library.Changes
import PortalApi.Library.Table
import PortalApi.Library.Selection
import PortalApi.Text
import PortalApi.TextProperties
import PortalApi.Numerals
import PortalApi.Validation
import PortalApi.EmailGrammar
import PortalApi.Json
import PortalApi.JsonProperties
import PortalApi.Database.Schema
import PortalApi.Database.Statements
import PortalApi.Database.StatementProperties
import PortalApi.Http.Effects
import PortalApi.Http.Response
import PortalApi.Config
import PortalApi.ConfigProperties
import PortalApi.Database.Access
import PortalApi.Database.AccessProperties
import PortalApi.Http.Request
import PortalApi.Http.Authentication
import PortalApi.Http.AuthenticationProperties
import PortalApi.Http.Routes.Auth
import PortalApi.Http.Routes.AuthProperties
import PortalApi.Http.Routes.Favorites
import PortalApi.Http.Routes.FavoritesProperties
import PortalApi.Http.Actor
import PortalApi.Http.Routes.ActivityProperties
import PortalApi.Http.Routes.Activity
import PortalApi.Http.Routes.Analytics
import PortalApi.Http.Routes.AnalyticsProperties
import PortalApi.Http.Dispatch
import PortalApi.Http.DispatchProperties
import PortalApi.Http.Routing
import PortalApi.Http.Attempts
import PortalApi.Http.Upload
import PortalApi.Http.Accumulator
import PortalApi.Http.UploadProperties
import PortalApi.Service
import PortalApi.ServiceProperties
import PortalApi.ServiceEffects
import PortalApi.ServiceRuns
import PortalApi.StatementTotality
import PortalApi.Reference
import PortalApi.ErrorResponses
import PortalApi.Accounts
import PortalApi.Actions
import PortalApi.Comments
import PortalApi.Favorites
import PortalApi.Identities
import PortalApi.AccountRemoval
import PortalApi.Emails
import PortalApi.Buffers
import PortalApi.Confirmation
import PortalApi.Sessions
import PortalApi.Passwords
import PortalApi.InternalErrors
import PortalApi.Recovery
import PortalApi.Http.Sending
import PortalApi.Outages
import PortalApi.Health
import PortalApi.Database.Redraws
import PortalApi.Http.Discretion
import PortalApi.Disclosure
import PortalApi.Daemon
import PortalApi.Uploads
import PortalApi.Oversized
import PortalApi.Likes
import PortalApi.Attribution
import PortalApi.Portals
import PortalApi.RouteTable
import PortalApi.Accumulation
import PortalApi.AnalyticsArguments
import PortalApi.Library.Ranking
import PortalApi.TopContent
import PortalApi.OptionalColumns
import PortalApi.CharacterLimits
import PortalApi.Library.Refinement
import PortalApi.Linearization
import PortalApi.Library.Ownership
import PortalApi.Memory.Response
import PortalApi.Memory.Database
import PortalApi.Memory.Request
import PortalApi.Memory.Routes.Auth
import PortalApi.Memory.Routes.Favorites
import PortalApi.Memory.Routes.Analytics
import PortalApi.Memory.Routes.Activity
import PortalApi.Memory.Dispatch
import PortalApi.Memory.Server
import PortalApi.Library.Execution
import PortalApi.Memory.Process
import PortalApi.Memory.Lifecycle
import PortalApi.Library.Protocol
import PortalApi.Http.Dialogue
import PortalApi.Http.DialogueProperties
import PortalApi.Http.Mediation
import PortalApi.Library.Interruption
import PortalApi.Atomicity
import PortalApi.Crashes
import PortalApi.Library.Growth
import PortalApi.History
import PortalApi.Chronicle
import PortalApi.Database.Outline
import PortalApi.Http.Wording
import PortalApi.Retries
import PortalApi.Unread
