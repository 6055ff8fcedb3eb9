import PortalApi.Http.UploadProperties
import PortalApi.Service
import Mathlib.Logic.Function.Basic

/-! libmicrohttpd at work: it calls the access handler for the requests of any
number of connections, one call after the other on one thread, in any order that
keeps to its contract for every single request. -/

set_option autoImplicit false

namespace PortalApi

open Library

/-- How far a request is: more of its body may come, its last call was made, or a
call of it returned `MHD_NO` and the connection is closed. A call that does not
return leaves it hanging. -/
inductive Phase where
  | receiving
  | received
  | closing
  | hanging
  deriving DecidableEq

/-- A request, with the chunks that came and all that was done for it. -/
structure Upload where
  head : RequestHead
  phase : Phase
  chunks : List Bytes
  entered : List Bytes
  statements : Nat
  attempts : List (Response × MhdResult)

def Upload.begin (head : RequestHead) : Upload where
  head := head
  phase := .receiving
  chunks := []
  entered := []
  statements := 0
  attempts := []

def Upload.extend (upload : Upload) (data : Bytes) : Upload :=
  { upload with chunks := upload.chunks ++ [data] }

/-- A connection: the request it carries, if any, and its `con_cls`. -/
structure Slot where
  conCls : Option PortalHttpRequestBody
  upload : Option Upload

def Slot.idle : Slot := { conCls := none, upload := none }

/-- The connections and the one database they share, and the requests that are over. -/
structure Daemon (κ : Type) where
  world : World
  slots : κ → Slot
  completed : List Upload

inductive Callback where
  | start (head : RequestHead)
  | upload (data : Bytes)
  | finish
  | completed

/-- A callback for a connection, and the surroundings it runs in. -/
structure Signal (κ : Type) where
  connection : κ
  callback : Callback
  environment : Environment

/-- A chunk is not empty, and its size is a `size_t`. -/
def Callback.Admitted : Callback → Prop
  | .upload data => data ≠ [] ∧ data.length < 2 ^ 64
  | _ => True

/-- Where a returned call leaves its request. -/
def phaseAfter (next : Phase) : Option Access → Phase
  | none => .hanging
  | some access => if access.result = .no then .closing else next

namespace Service

variable {κ : Type} [DecidableEq κ] (service : Service)

/-- One call of the access handler for a request. -/
def access (environment : Environment) (data : Option Bytes) (size : UInt64) (next : Phase)
    (conCls : Option PortalHttpRequestBody) (upload : Upload) (world : World) : Slot × World :=
  let ran := (httpAccessHandler service.context service.jsonC upload.head data size conCls).run
    (interpret service.postgres environment)
    { world, statements := upload.statements, attempts := upload.attempts }
  ({ conCls := (ran.1.map (·.conCls)).getD conCls
     upload := some { upload with
       phase := phaseAfter next ran.1
       entered := upload.entered ++ (accessBranch conCls size).entered
       statements := ran.2.statements
       attempts := ran.2.attempts } },
    ran.2.world)

def answerCall (connection : κ) (daemon : Daemon κ) (called : Slot × World) : Daemon κ :=
  { daemon with
    world := called.2
    slots := Function.update daemon.slots connection called.1 }

/-- What a callback does. One that is not due for its connection is none that
libmicrohttpd makes. -/
def signal (signal : Signal κ) (daemon : Daemon κ) : Daemon κ :=
  let slot := daemon.slots signal.connection
  match signal.callback, slot.upload with
  | .start head, none =>
    answerCall signal.connection daemon
      (service.access signal.environment none 0 .receiving slot.conCls (.begin head) daemon.world)
  | .upload data, some upload =>
    if upload.phase = .receiving then
      answerCall signal.connection daemon
        (service.access signal.environment (some data) (UInt64.ofNat data.length) .receiving
          slot.conCls (upload.extend data) daemon.world)
    else daemon
  | .finish, some upload =>
    if upload.phase = .receiving then
      answerCall signal.connection daemon
        (service.access signal.environment none 0 .received slot.conCls upload daemon.world)
    else daemon
  | .completed, some upload =>
    if upload.phase = .hanging then daemon
    else
      { daemon with
        slots := Function.update daemon.slots signal.connection
          { conCls := httpRequestCompleted slot.conCls, upload := none }
        completed := daemon.completed ++ [upload] }
  | _, _ => daemon

/-- The server from its start on, before the first connection. -/
def daemon (κ : Type) [DecidableEq κ] : Machine (Signal κ) Unit (Daemon κ) where
  initial daemon := daemon.slots = (fun _ => .idle) ∧ daemon.completed = []
  admits signal := signal.callback.Admitted
  step signal daemon := ((), service.signal signal daemon)

end Service

end PortalApi
