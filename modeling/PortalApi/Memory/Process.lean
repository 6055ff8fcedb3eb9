import PortalApi.Config
import PortalApi.Library.Execution
import PortalApi.Memory.Server

/-! The process: `main.c`, `app.c` and what sets up and takes down the configuration,
the connection and the server, with the memory and the signal mask they handle.
While the server runs its thread makes callbacks. -/

set_option autoImplicit false

namespace PortalApi.Memory

open Library

inductive SignalNumber where
  | sigint
  | sigterm
  | other (number : Nat)
  deriving DecidableEq

/-- The object of `config.c` and its copy of the URL, unless that is NULL. -/
structure ConfigBlocks where
  block : Block Resource
  databaseUrl : Option (Block Resource)

structure LoadedConfig where
  block : Block Resource
  databaseUrl : Block Resource
  values : PortalConfig

def LoadedConfig.blocks (config : LoadedConfig) : ConfigBlocks where
  block := config.block
  databaseUrl := some config.databaseUrl

/-- The object of `database.c` and its connection, unless that is NULL. -/
structure DatabaseBlocks where
  block : Block Resource
  connection : Option (Block Resource)

structure PortalDatabase where
  block : Block Resource
  connection : Block Resource

def PortalDatabase.blocks (database : PortalDatabase) : DatabaseBlocks where
  block := database.block
  connection := some database.connection

/-- The context of the callbacks: the two pointers are those of the application. -/
structure PortalHttpServer where
  block : Block Resource
  config : LoadedConfig
  database : PortalDatabase
  daemon : Option (Block Resource)

def PortalHttpServer.context (server : PortalHttpServer) : ContextBlocks where
  server := server.block
  config := server.config.block
  database := server.database.block
  pgConn := server.database.connection

structure PortalApp where
  block : Block Resource
  config : Option LoadedConfig
  database : Option PortalDatabase
  httpServer : Option PortalHttpServer

/-- What the process asks for outside the callbacks. -/
inductive ProcessOperation where
  | allocate (kind : Resource)
  | access (block : Block Resource)
  | free (kind : Resource) (block : Block Resource)
  | pqConnectdb (connectionString : Bytes)
  | pqStatus (connection : Block Resource)
  | pqFinish (connection : Block Resource)
  | mhdStartDaemon (port : UInt16) (config : PortalConfig) (context : ContextBlocks)
  | mhdStopDaemon (daemon : Block Resource)
  | sigemptyset
  | sigaddset (number : SignalNumber)
  | sigBlock (numbers : Finset SignalNumber)
  | sigSetmask (numbers : Finset SignalNumber)
  | sigwait (numbers : Finset SignalNumber)

/-- The calls that may fail tell by NULL or by a flag; a blocking one gives the mask
there was before. -/
@[reducible] def ProcessOperation.Answer : ProcessOperation → Type
  | .allocate _ | .pqConnectdb _ | .mhdStartDaemon _ _ _ => Option (Block Resource)
  | .access _ | .free _ _ | .pqFinish _ | .mhdStopDaemon _ => Unit
  | .pqStatus _ => ConnStatusType
  | .sigemptyset | .sigaddset _ | .sigSetmask _ | .sigwait _ => Bool
  | .sigBlock _ => Option (Finset SignalNumber)

abbrev System (α : Type) := Program ProcessOperation.Answer α

namespace System

def calloc (kind : Resource) : System (Option (Block Resource)) :=
  Program.perform (ProcessOperation.allocate kind)

def access (block : Block Resource) : System Unit :=
  Program.perform (ProcessOperation.access block)

def free (kind : Resource) (block : Block Resource) : System Unit :=
  Program.perform (ProcessOperation.free kind block)

end System

section Configuration

variable (getenv : String → Option Bytes)

def configCopyString (source : Option Bytes) : System (Option (Block Resource)) :=
  match source with
  | none => return none
  | some _ => System.calloc .databaseUrl

/-- The caller's pointer is set to NULL. -/
def portalConfigDestroy (config : Option ConfigBlocks) : System Unit :=
  match config with
  | none => return ()
  | some config => do
    System.access config.block
    match config.databaseUrl with
    | none => System.free .config config.block
    | some databaseUrl => do
      System.free .databaseUrl databaseUrl
      System.free .config config.block

/-- The values are those of the environment when both allocations succeed. -/
def portalConfigCreateFromEnvironment : System (Option LoadedConfig) :=
  match getenv "DATABASE_URL" with
  | none => return none
  | some databaseUrl =>
    if databaseUrl = [] then return none
    else do
      match ← System.calloc .config with
      | none => return none
      | some block => do
        let copy ← configCopyString (some databaseUrl)
        System.access block
        match copy with
        | none => do
          portalConfigDestroy (some { block, databaseUrl := none })
          return none
        | some databaseUrl =>
          return (PortalApi.portalConfigCreateFromEnvironment getenv true true).map
            fun values => { block, databaseUrl, values }

end Configuration

/-- The URL is read where it was copied to. -/
def portalConfigDatabaseUrl (config : Option LoadedConfig) : System (Option Bytes) :=
  match config with
  | none => return none
  | some config => do
    System.access config.block
    System.access config.databaseUrl
    return some config.values.databaseUrl

def portalConfigPort (config : Option LoadedConfig) : System UInt16 :=
  match config with
  | none => return 0
  | some config => do
    System.access config.block
    return config.values.port

def portalDatabaseDestroy (database : Option DatabaseBlocks) : System Unit :=
  match database with
  | none => return ()
  | some database => do
    System.access database.block
    match database.connection with
    | none => System.free .database database.block
    | some connection => do
      Program.perform (ProcessOperation.pqFinish connection)
      System.free .database database.block

def portalDatabaseCreate (connectionString : Option Bytes) : System (Option PortalDatabase) :=
  match connectionString with
  | none => return none
  | some connectionString => do
    match ← System.calloc .database with
    | none => return none
    | some block => do
      let connection ← Program.perform (ProcessOperation.pqConnectdb connectionString)
      System.access block
      match connection with
      | none => do
        portalDatabaseDestroy (some { block, connection := none })
        return none
      | some connection => do
        if (← Program.perform (ProcessOperation.pqStatus connection)) ≠ .connectionOk then
          portalDatabaseDestroy (some { block, connection := some connection })
          return none
        else return some { block, connection }

def portalHttpServerCreate (config : Option LoadedConfig) (database : Option PortalDatabase) :
    System (Option PortalHttpServer) :=
  match config, database with
  | some config, some database => do
    match ← System.calloc .httpServer with
    | none => return none
    | some block => do
      System.access block
      return some { block, config, database, daemon := none }
  | _, _ => return none

/-- The server is given by reference. -/
def portalHttpServerStart (server : Option PortalHttpServer) :
    System (Bool × Option PortalHttpServer) :=
  match server with
  | none => return (false, none)
  | some server => do
    System.access server.block
    match server.daemon with
    | some _ => return (false, some server)
    | none => do
      let port ← portalConfigPort (some server.config)
      let daemon ← Program.perform
        (ProcessOperation.mhdStartDaemon port server.config.values server.context)
      System.access server.block
      return (daemon.isSome, some { server with daemon })

def portalHttpServerStop (server : Option PortalHttpServer) : System (Option PortalHttpServer) :=
  match server with
  | none => return none
  | some server => do
    System.access server.block
    match server.daemon with
    | none => return some server
    | some daemon => do
      Program.perform (ProcessOperation.mhdStopDaemon daemon)
      System.access server.block
      return some { server with daemon := none }

def portalHttpServerDestroy (server : Option PortalHttpServer) : System Unit :=
  match server with
  | none => return ()
  | some server => do
    let _stopped ← portalHttpServerStop (some server)
    System.free .httpServer server.block

def portalAppDestroy (app : Option PortalApp) : System Unit :=
  match app with
  | none => return ()
  | some app => do
    System.access app.block
    portalHttpServerDestroy app.httpServer
    portalDatabaseDestroy (app.database.map (·.blocks))
    portalConfigDestroy (app.config.map (·.blocks))
    System.free .app app.block

def portalAppCreate (getenv : String → Option Bytes) : System (Option PortalApp) := do
  match ← System.calloc .app with
  | none => return none
  | some block => do
    let config ← portalConfigCreateFromEnvironment getenv
    System.access block
    if config.isNone then
      portalAppDestroy (some { block, config, database := none, httpServer := none })
      return none
    else
      let database ← portalDatabaseCreate (← portalConfigDatabaseUrl config)
      System.access block
      if database.isNone then
        portalAppDestroy (some { block, config, database, httpServer := none })
        return none
      else
        let httpServer ← portalHttpServerCreate config database
        System.access block
        if httpServer.isNone then
          portalAppDestroy (some { block, config, database, httpServer })
          return none
        else return some { block, config, database, httpServer }

def shutdownSignals : Finset SignalNumber := {.sigint, .sigterm}

/-- The signals to wait for and the mask there was, or a failure. -/
def appBlockShutdownSignals : System (Option (Finset SignalNumber × Finset SignalNumber)) := do
  if !(← Program.perform ProcessOperation.sigemptyset) then return none
  else if !(← Program.perform (ProcessOperation.sigaddset .sigint)) then return none
  else if !(← Program.perform (ProcessOperation.sigaddset .sigterm)) then return none
  else
    let previous ← Program.perform (ProcessOperation.sigBlock shutdownSignals)
    return previous.map fun mask => (shutdownSignals, mask)

/-- What waits for the shutdown, when the server could be started. -/
def appServe (app : PortalApp) (signals : Finset SignalNumber) (started : Bool) : System Nat :=
  if !started then return 1
  else do
    System.access app.block
    let _port ← portalConfigPort app.config
    if ← Program.perform (ProcessOperation.sigwait signals) then return 0 else return 1

/-- The application is given by reference. -/
def portalAppRun (app : Option PortalApp) : System (Nat × Option PortalApp) :=
  match app with
  | none => return (1, none)
  | some app => do
    System.access app.block
    if app.httpServer.isNone then return (1, some app)
    else
      match ← appBlockShutdownSignals with
      | none => return (1, some app)
      | some (signals, previous) => do
        System.access app.block
        let (started, server) ← portalHttpServerStart app.httpServer
        let result ← appServe app signals started
        System.access app.block
        let stopped ← portalHttpServerStop server
        let restored ← Program.perform (ProcessOperation.sigSetmask previous)
        return (if restored then result else 1, some { app with httpServer := stopped })

def exitSuccess : Nat := 0

def exitFailure : Nat := 1

/-- The exit code, when the application was created. -/
def mainRun (app : Option PortalApp) : System (Nat × Option PortalApp) :=
  match app with
  | none => return (exitFailure, none)
  | some app => do
    let (result, app) ← portalAppRun (some app)
    return (if result = 0 then exitSuccess else exitFailure, app)

def main (getenv : String → Option Bytes) : System Nat := do
  let app ← portalAppCreate getenv
  let (result, app) ← mainRun app
  portalAppDestroy app
  return result

/-- A server that runs: its handle, and what its callbacks are given. -/
structure Running where
  handle : Block Resource
  config : PortalConfig
  context : ContextBlocks

/-- The process: its server, whose memory is all the memory there is, the one that
runs, and the signals that are blocked. -/
structure Process (κ : Type) where
  server : Daemon κ
  running : Option Running
  mask : Finset SignalNumber

def Process.withHeap {κ : Type} (process : Process κ) (heap : Heap Resource) : Process κ :=
  { process with server := { process.server with heap } }

section Steps

variable {κ : Type} [DecidableEq κ] (jsonC : JsonC) (postgres : Postgres)

def Running.service (running : Running) : Service where
  config := running.config
  jsonC := jsonC
  postgres := postgres

/-- The thread of a server that runs makes any number of callbacks. -/
inductive Works : Process κ → Process κ → Prop where
  | rests {process : Process κ} : Works process process
  | callback {process middle : Process κ} {running : Running} (input : Signal κ) :
      Works process middle → middle.running = some running → input.callback.Admitted →
      Works process { middle with
        server := signal (running.service jsonC postgres) running.context input middle.server }

/-- What an operation does, when its turn comes. A connection that is there may be
bad; the server is stopped after the last request was completed. -/
inductive Performs : (operation : ProcessOperation) → Process κ → operation.Answer → Process κ → Prop where
  | refused {process : Process κ} (kind : Resource) : Performs (.allocate kind) process none process
  | allocated {process : Process κ} (kind : Resource) :
      Performs (.allocate kind) process (some (process.server.heap.acquire kind).1)
        (process.withHeap (process.server.heap.acquire kind).2)
  | accessed {process : Process κ} (block : Block Resource) :
      Performs (.access block) process () (process.withHeap (process.server.heap.access block))
  | freed {process : Process κ} (kind : Resource) (block : Block Resource) :
      Performs (.free kind block) process ()
        (process.withHeap (process.server.heap.release kind block))
  | unconnected {process : Process κ} (connectionString : Bytes) :
      Performs (.pqConnectdb connectionString) process none process
  | connected {process : Process κ} (connectionString : Bytes) (connection : ConnStatusType) :
      Performs (.pqConnectdb connectionString) process
        (some (process.server.heap.acquire .pgConn).1)
        { process with
          server := { process.server with
            world := { process.server.world with connection }
            heap := (process.server.heap.acquire .pgConn).2 } }
  | status {process : Process κ} (connection : Block Resource) :
      Performs (.pqStatus connection) process process.server.world.connection
        (process.withHeap (process.server.heap.access connection))
  | finished {process : Process κ} (connection : Block Resource) :
      Performs (.pqFinish connection) process ()
        (process.withHeap (process.server.heap.release .pgConn connection))
  | unstarted {process : Process κ} (port : UInt16) (config : PortalConfig)
      (context : ContextBlocks) : Performs (.mhdStartDaemon port config context) process none process
  | started {process : Process κ} (port : UInt16) (config : PortalConfig) (context : ContextBlocks) :
      Performs (.mhdStartDaemon port config context) process
        (some (process.server.heap.acquire .mhdDaemon).1)
        { process with
          server := {
            world := process.server.world
            heap := (process.server.heap.acquire .mhdDaemon).2
            slots := fun _ => .idle
            completed := [] }
          running := some {
            handle := (process.server.heap.acquire .mhdDaemon).1
            config
            context } }
  | stopped {process : Process κ} (daemon : Block Resource) :
      (∀ connection, (process.server.slots connection).upload = none) →
      Performs (.mhdStopDaemon daemon) process ()
        { process.withHeap (process.server.heap.release .mhdDaemon daemon) with running := none }
  | emptied {process : Process κ} (success : Bool) : Performs .sigemptyset process success process
  | added {process : Process κ} (number : SignalNumber) (success : Bool) :
      Performs (.sigaddset number) process success process
  | unblocked {process : Process κ} (numbers : Finset SignalNumber) :
      Performs (.sigBlock numbers) process none process
  | blocked {process : Process κ} (numbers : Finset SignalNumber) :
      Performs (.sigBlock numbers) process (some process.mask)
        { process with mask := process.mask ∪ numbers }
  | unrestored {process : Process κ} (numbers : Finset SignalNumber) :
      Performs (.sigSetmask numbers) process false process
  | restored {process : Process κ} (numbers : Finset SignalNumber) :
      Performs (.sigSetmask numbers) process true { process with mask := numbers }
  | waited {process : Process κ} (numbers : Finset SignalNumber) (success : Bool) :
      Performs (.sigwait numbers) process success process

/-- The thread of the server works until the turn of the operation. -/
def processSteps : Steps ProcessOperation.Answer (Process κ) :=
  fun operation before answer after =>
    ∃ middle, Works jsonC postgres before middle ∧ Performs operation middle answer after

end Steps

end PortalApi.Memory
