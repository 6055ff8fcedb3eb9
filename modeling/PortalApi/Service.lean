import PortalApi.Http.Dispatch

/-! The service over one database: requests are handled one after the other, on
one thread and over one connection. -/

set_option autoImplicit false

namespace PortalApi

open Library

/-- The configuration and the libraries the service is linked with. -/
structure Service where
  config : PortalConfig
  jsonC : JsonC
  postgres : Postgres

/-- One complete request and all it depends on from outside. The body may be of any length
here, although `http_access_handler` dispatches none of more than 1 MiB. -/
structure Call where
  request : Request
  environment : Environment

def World.exchange (world : World) : Exchange where
  world := world
  statements := 0
  attempts := []

namespace Service

variable (service : Service)

def context : PortalHttpContext := { config := service.config }

def dispatch (call : Call) (world : World) : MhdResult × Exchange :=
  (httpDispatch service.context service.jsonC call.request).run
    (interpret service.postgres call.environment) world.exchange

/-- The queued response, if any, and the world after the request. -/
def serve (call : Call) (world : World) : Option Response × World :=
  ((service.dispatch call world).2.reply, (service.dispatch call world).2.world)

/-- `portal_http_authenticate` for a request that arrives in this world. -/
def authenticate (call : Call) (world : World) : PortalAuthStatus × PortalAuthenticatedUser :=
  ((portalHttpAuthenticate call.request).run (interpret service.postgres call.environment)
    world.exchange).1

/-- The service from its first request on, over the schema of `db/init.sql`. -/
def machine (admits : Environment → Prop) : Machine Call (Option Response) World where
  initial world := world.database = Database.empty ∧ world.connection = .connectionOk
  admits call := admits call.environment
  step := service.serve

/-- One request of a run, with its reply and the worlds around it. -/
abbrev Entry := Event Call (Option Response) World

abbrev Run (admits : Environment → Prop) : List Entry → World → Prop :=
  (service.machine admits).Run

end Service

end PortalApi
