import PortalApi.Library.Refinement
import PortalApi.Memory.Dispatch
import PortalApi.Uploads
import Mathlib.Data.Finset.Lattice.Lemmas

/-! The server with the memory it handles: in every schedule of the callbacks a
block is live exactly while the process or a request in progress owns it. -/

set_option autoImplicit false

namespace PortalApi.Memory

open Library Owning

/-- The blocks that a callback reaches through `cls`: the context is a part of the
server and points to the others. -/
structure ContextBlocks where
  server : Block Resource
  config : Block Resource
  database : Block Resource
  pgConn : Block Resource

def ContextBlocks.all (context : ContextBlocks) : List (Block Resource) :=
  [context.server, context.config, context.database, context.pgConn]

/-- A connection: the request it carries, if any, and its `con_cls`. -/
structure Slot where
  conCls : Option PortalHttpRequestBody
  upload : Option Upload

def Slot.idle : Slot := { conCls := none, upload := none }

def Slot.erased (slot : Slot) : PortalApi.Slot where
  conCls := slot.conCls.map (·.fields)
  upload := slot.upload

/-- The blocks of a body: its own, and that of its data unless they are NULL. -/
def PortalHttpRequestBody.blocks (body : PortalHttpRequestBody) : Finset (Block Resource) :=
  match body.data with
  | none => {body.block}
  | some data => {data, body.block}

def Slot.blocks (slot : Slot) : Finset (Block Resource) :=
  match slot.conCls with
  | none => ∅
  | some body => body.blocks

structure Daemon (κ : Type) where
  world : World
  heap : Heap Resource
  slots : κ → Slot
  completed : List Upload

/-- The server without its memory. -/
def Daemon.erased {κ : Type} (daemon : Daemon κ) : PortalApi.Daemon κ where
  world := daemon.world
  slots connection := (daemon.slots connection).erased
  completed := daemon.completed

section Server

variable {κ : Type} [DecidableEq κ] (service : Service) (context : ContextBlocks)

/-- One call of the access handler for a request. -/
def access (environment : Environment) (data : Option Bytes) (size : UInt64) (next : Phase)
    (conCls : Option PortalHttpRequestBody) (upload : Upload) (world : World)
    (heap : Heap Resource) : Slot × World × Heap Resource :=
  let handler : Managed (Option Access) := do
    context.all.forM Owning.access
    httpAccessHandler service.context service.jsonC upload.head data size conCls
  let ran := (handler heap).run (interpret service.postgres environment)
    { world, statements := upload.statements, attempts := upload.attempts }
  ({ conCls := (ran.1.1.map (·.conCls)).getD conCls
     upload := some { upload with
       phase := phaseAfter next (ran.1.1.map (·.erased))
       entered := upload.entered ++ (accessBranch (conCls.map (·.fields)) size).entered
       statements := ran.2.statements
       attempts := ran.2.attempts } },
    ran.2.world, ran.1.2)

def answerCall (connection : κ) (daemon : Daemon κ) (called : Slot × World × Heap Resource) :
    Daemon κ :=
  { daemon with
    world := called.2.1
    heap := called.2.2
    slots := Function.update daemon.slots connection called.1 }

def signal (signal : Signal κ) (daemon : Daemon κ) : Daemon κ :=
  let slot := daemon.slots signal.connection
  match signal.callback, slot.upload with
  | .start head, none =>
    answerCall signal.connection daemon
      (access service context signal.environment none 0 .receiving slot.conCls (.begin head)
        daemon.world daemon.heap)
  | .upload data, some upload =>
    if upload.phase = .receiving then
      answerCall signal.connection daemon
        (access service context signal.environment (some data) (UInt64.ofNat data.length)
          .receiving slot.conCls (upload.extend data) daemon.world daemon.heap)
    else daemon
  | .finish, some upload =>
    if upload.phase = .receiving then
      answerCall signal.connection daemon
        (access service context signal.environment none 0 .received slot.conCls upload
          daemon.world daemon.heap)
    else daemon
  | .completed, some upload =>
    if upload.phase = .hanging then daemon
    else
      let ran := (httpRequestCompleted slot.conCls daemon.heap).run
        (interpret service.postgres signal.environment) daemon.world.exchange
      { daemon with
        heap := ran.1.2
        slots := Function.update daemon.slots signal.connection
          { conCls := ran.1.1, upload := none }
        completed := daemon.completed ++ [upload] }
  | _, _ => daemon

/-- The server of a process that owns these blocks at its start. -/
def server (base : Finset (Block Resource)) (κ : Type) [DecidableEq κ] :
    Machine (Signal κ) Unit (Daemon κ) where
  initial daemon :=
    (service.daemon κ).initial daemon.erased ∧ daemon.heap.Sound ∧ daemon.heap.faults = [] ∧
      daemon.heap.live = base
  admits := (service.daemon κ).admits
  step input daemon := ((), signal service context input daemon)

end Server

section Calls

variable {rest live : Finset (Block Resource)} {body : PortalHttpRequestBody}
  {conCls : Option PortalHttpRequestBody}

theorem Holds.live_eq (holds : Holds rest body live) :
    live = body.blocks ∪ rest ∧ Disjoint body.blocks rest := by
  cases holds with
  | bare fresh _ _ _ => simpa [PortalHttpRequestBody.blocks, ← Finset.insert_eq] using fresh
  | filled fresh _ other _ =>
      simp only [Finset.mem_insert, not_or] at other
      simp [PortalHttpRequestBody.blocks, fresh, other.2, Finset.insert_union]

/-- The live blocks are those of the connection and the other ones. -/
theorem HoldsRequest.live_eq {slot : Slot} (holds : HoldsRequest rest slot.conCls live) :
    live = slot.blocks ∪ rest ∧ Disjoint slot.blocks rest := by
  obtain ⟨conCls, upload⟩ := slot
  cases holds with
  | unbegun => simp [Slot.blocks]
  | begun holds => exact holds.live_eq

theorem Reads.accessAll {blocks : List (Block Resource)} (held : ∀ block ∈ blocks, block ∈ live) :
    Reads live (blocks.forM Owning.access : Managed PUnit) () := by
  induction blocks with
  | nil => exact .pure _
  | cons block blocks ih =>
      exact .bind (.access (held block List.mem_cons_self))
        (ih fun other member => held other (List.mem_cons_of_mem block member))

/-- What one call leaves: the memory of its request, the rest as before, and all
else as without the memory. -/
structure AccessKept (rest : Finset (Block Resource)) (heap : Heap Resource)
    (called : Slot × World × Heap Resource) (plain : PortalApi.Slot × World) : Prop where
  slot : called.1.erased = plain.1
  world : called.2.1 = plain.2
  sound : called.2.2.Sound
  faults : called.2.2.faults = heap.faults
  holds : HoldsRequest rest called.1.conCls called.2.2.live

/-- A call that is run with the memory it handles. -/
theorem Tracks.interpreted {α β : Type} {program : Managed α} {plain : Handler β} {heap : Heap Resource}
    {ends : α → β → Finset (Block Resource) → Prop} (sound : heap.Sound)
    (tracks : Tracks Shapes heap.live program plain ends) (postgres : Postgres)
    (environment : Environment) (exchange : Exchange) :
    (((program heap).run (interpret postgres environment) exchange).1.2.Sound ∧
      ((program heap).run (interpret postgres environment) exchange).1.2.faults = heap.faults ∧
      ends ((program heap).run (interpret postgres environment) exchange).1.1
        (plain.run (interpret postgres environment) exchange).1
        ((program heap).run (interpret postgres environment) exchange).1.2.live) ∧
      ((program heap).run (interpret postgres environment) exchange).2 =
        (plain.run (interpret postgres environment) exchange).2 :=
  (tracks heap sound rfl).run interpret_shapes exchange

theorem access_called {service : Service} {context : ContextBlocks} {heap : Heap Resource}
    (sound : heap.Sound) (given : ∀ block ∈ context.all, block ∈ heap.live)
    (holds : HoldsRequest rest conCls heap.live) (environment : Environment) (data : Option Bytes)
    (size : UInt64) (next : Phase) (upload : Upload) (world : World) :
    AccessKept rest heap (access service context environment data size next conCls upload world heap)
      (service.access environment data size next (conCls.map (·.fields)) upload world) := by
  have tracks : Tracks Shapes heap.live
      (context.all.forM Owning.access >>= fun _ =>
        httpAccessHandler service.context service.jsonC upload.head data size conCls) _ _ :=
    .reads (Reads.accessAll given)
      (httpAccessHandler_tracks holds service.context service.jsonC upload.head data size)
  obtain ⟨⟨kept, faultless, accessed⟩, same⟩ := Tracks.interpreted sound tracks service.postgres
    environment { world, statements := upload.statements, attempts := upload.attempts }
  unfold access Service.access
  dsimp only
  generalize Program.run _ _ _ = ran at kept faultless accessed same ⊢
  generalize Program.run _ _ _ = plain at accessed same ⊢
  obtain ⟨⟨access, after⟩, exchange⟩ := ran
  obtain ⟨result, exchange⟩ := plain
  obtain rfl : _ = exchange := same
  dsimp only at accessed
  generalize remaining : after.live = final at accessed
  cases accessed with
  | hangs => exact ⟨rfl, rfl, kept, faultless, remaining.symm ▸ holds⟩
  | returns held => exact ⟨rfl, rfl, kept, faultless, remaining.symm ▸ held⟩

theorem HoldsRequest.kinds {slot : Slot} (holds : HoldsRequest rest slot.conCls live) :
    ∀ block ∈ slot.blocks, block.kind = .requestBody ∨ block.kind = .bodyBuffer := by
  obtain ⟨conCls, upload⟩ := slot
  cases holds with
  | unbegun => simp [Slot.blocks]
  | begun holds =>
      cases holds with
      | bare _ kind _ _ => simp [Slot.blocks, PortalHttpRequestBody.blocks, kind]
      | filled _ kind _ dataKind =>
          simp [Slot.blocks, PortalHttpRequestBody.blocks, kind, dataKind]

/-- A request holds its memory beside any other blocks. -/
theorem HoldsRequest.reframe {slot : Slot} (holds : HoldsRequest rest slot.conCls live)
    {other : Finset (Block Resource)} (apart : Disjoint slot.blocks other) :
    HoldsRequest other slot.conCls (slot.blocks ∪ other) := by
  obtain ⟨conCls, upload⟩ := slot
  cases holds with
  | unbegun => simpa [Slot.blocks] using .unbegun
  | begun holds =>
      refine .begun ?_
      cases holds with
      | bare _ kind capacity length =>
          have fresh := Finset.disjoint_singleton_left.mp apart
          simpa [Slot.blocks, PortalHttpRequestBody.blocks, ← Finset.insert_eq] using
            Holds.bare fresh kind capacity length
      | filled _ kind different dataKind =>
          simp only [Finset.mem_insert, not_or] at different
          obtain ⟨data, block⟩ := Finset.disjoint_insert_left.mp apart
          have fresh := Finset.disjoint_singleton_left.mp block
          simpa [Slot.blocks, PortalHttpRequestBody.blocks, Finset.insert_union,
            ← Finset.insert_eq] using Holds.filled fresh kind (by simp [different.1, data]) dataKind

end Calls

section Owned

variable {κ : Type} [DecidableEq κ] {service : Service} {context : ContextBlocks}
  {base : Finset (Block Resource)} {daemon : Daemon κ}

/-- No misuse so far, and every block is the process's or of one request in progress. -/
structure Daemon.Owned (base : Finset (Block Resource)) (daemon : Daemon κ) : Prop where
  sound : daemon.heap.Sound
  faults : daemon.heap.faults = []
  divided : Divided base (fun connection => (daemon.slots connection).blocks) daemon.heap.live
  holds : ∀ connection,
    HoldsRequest (daemon.heap.live \ (daemon.slots connection).blocks)
      (daemon.slots connection).conCls daemon.heap.live

/-- One connection has other memory, and all else is as it was. -/
theorem Daemon.Owned.update (owned : daemon.Owned base) (connection : κ) {slot : Slot}
    {heap : Heap Resource} (sound : heap.Sound) (faults : heap.faults = daemon.heap.faults)
    (holds : HoldsRequest (daemon.heap.live \ (daemon.slots connection).blocks) slot.conCls heap.live)
    (world : World) (completed : List Upload) :
    Daemon.Owned base
      { world, heap, slots := Function.update daemon.slots connection slot, completed } := by
  obtain ⟨live, apart⟩ := holds.live_eq
  have blocks : (fun place => (Function.update daemon.slots connection slot place).blocks) =
      Function.update (fun place => (daemon.slots place).blocks) connection slot.blocks :=
    funext fun place => Function.apply_update (fun _ => Slot.blocks) daemon.slots connection slot place
  have divided := owned.divided.update connection apart
  rw [← live, ← blocks] at divided
  refine ⟨sound, faults.trans owned.faults, divided, fun place => ?_⟩
  have within : (Function.update daemon.slots connection slot place).blocks ⊆ heap.live :=
    fun block taken => (divided.mem block).mpr (.inr ⟨place, taken⟩)
  have shaped : ∃ rest live, HoldsRequest rest
      (Function.update daemon.slots connection slot place).conCls live := by
    by_cases same : place = connection
    · subst same
      rw [Function.update_self]
      exact ⟨_, _, holds⟩
    · rw [Function.update_of_ne same]
      exact ⟨_, _, owned.holds place⟩
  obtain ⟨_, _, held⟩ := shaped
  have whole := held.reframe (Finset.disjoint_sdiff (t := heap.live))
  rwa [Finset.union_sdiff_of_subset within] at whole

/-- What a callback leaves: the memory owned as before, and all else as without it. -/
structure CallbackKept (base : Finset (Block Resource)) (after : Daemon κ) (plain : PortalApi.Daemon κ) :
    Prop where
  owned : after.Owned base
  erased : after.erased = plain

theorem Daemon.erased_update (connection : κ) (slot : Slot) (world : World) (heap : Heap Resource)
    (completed : List Upload) :
    Daemon.erased { world, heap, slots := Function.update daemon.slots connection slot, completed } =
      { world
        slots := Function.update daemon.erased.slots connection slot.erased
        completed } := by
  have slots : (fun place => (Function.update daemon.slots connection slot place).erased) =
      Function.update (fun place => (daemon.slots place).erased) connection slot.erased :=
    funext fun place => Function.apply_update (fun _ => Slot.erased) daemon.slots connection slot place
  simp only [Daemon.erased, slots]

theorem Daemon.Owned.answerCall (owned : daemon.Owned base) (connection : κ)
    {called : Slot × World × Heap Resource} {plain : PortalApi.Slot × World}
    (returned : AccessKept (daemon.heap.live \ (daemon.slots connection).blocks) daemon.heap called plain) :
    CallbackKept base (answerCall connection daemon called)
      (Service.answerCall connection daemon.erased plain) where
  owned := owned.update connection returned.sound returned.faults returned.holds _ _
  erased := by
    rw [Memory.answerCall, Daemon.erased_update, returned.slot, returned.world]
    rfl

theorem Daemon.Owned.completed (owned : daemon.Owned base) (connection : κ)
    (environment : Environment) (upload : Upload) :
    CallbackKept base
      { daemon with
        heap := ((httpRequestCompleted (daemon.slots connection).conCls daemon.heap).run
          (interpret service.postgres environment) daemon.world.exchange).1.2
        slots := Function.update daemon.slots connection
          { conCls := ((httpRequestCompleted (daemon.slots connection).conCls daemon.heap).run
              (interpret service.postgres environment) daemon.world.exchange).1.1
            upload := none }
        completed := daemon.completed ++ [upload] }
      { daemon.erased with
        slots := Function.update daemon.erased.slots connection .idle
        completed := daemon.completed ++ [upload] } := by
  obtain ⟨⟨sound, faults, left, live⟩, _⟩ := Tracks.interpreted owned.sound
    (httpRequestCompleted_tracks (owned.holds connection)) service.postgres environment
    daemon.world.exchange
  generalize Program.run _ _ _ = ran at sound faults left live
  obtain ⟨⟨conCls, heap⟩, exchange⟩ := ran
  dsimp only at sound faults left live ⊢
  subst left
  refine ⟨owned.update connection sound faults ?_ _ _, Daemon.erased_update _ _ _ _ _⟩
  rw [live]
  exact .unbegun

/-- One callback keeps the memory in order. -/
theorem Daemon.Owned.signal (given : ∀ block ∈ context.all, block ∈ base)
    (owned : daemon.Owned base) (input : Signal κ) :
    CallbackKept base (signal service context input daemon) (service.signal input daemon.erased) := by
  have reachable : ∀ block ∈ context.all, block ∈ daemon.heap.live :=
    fun block shared => (owned.divided.mem block).mpr (.inl (given block shared))
  obtain ⟨connection, callback, environment⟩ := input
  have ignored : CallbackKept base daemon daemon.erased := ⟨owned, rfl⟩
  have holds := owned.holds connection
  have erased : (daemon.erased.slots connection).upload = (daemon.slots connection).upload := rfl
  cases started : (daemon.slots connection).upload with
  | none =>
      cases callback with
      | start head =>
          simp only [Memory.signal, Service.signal, erased, started]
          exact owned.answerCall connection
            (access_called owned.sound reachable holds environment none 0 .receiving _ _)
      | upload data =>
          simpa only [Memory.signal, Service.signal, erased, started] using ignored
      | finish => simpa only [Memory.signal, Service.signal, erased, started] using ignored
      | completed => simpa only [Memory.signal, Service.signal, erased, started] using ignored
  | some upload =>
      cases callback with
      | start head => simpa only [Memory.signal, Service.signal, erased, started] using ignored
      | upload data =>
          simp only [Memory.signal, Service.signal, erased, started]
          by_cases receiving : upload.phase = .receiving
          · rw [if_pos receiving, if_pos receiving]
            exact owned.answerCall connection
              (access_called owned.sound reachable holds environment (some data) _ .receiving _ _)
          · rw [if_neg receiving, if_neg receiving]
            exact ignored
      | finish =>
          simp only [Memory.signal, Service.signal, erased, started]
          by_cases receiving : upload.phase = .receiving
          · rw [if_pos receiving, if_pos receiving]
            exact owned.answerCall connection
              (access_called owned.sound reachable holds environment none 0 .received _ _)
          · rw [if_neg receiving, if_neg receiving]
            exact ignored
      | completed =>
          simp only [Memory.signal, Service.signal, erased, started]
          by_cases hanging : upload.phase = .hanging
          · rw [if_pos hanging, if_pos hanging]
            exact ignored
          · rw [if_neg hanging, if_neg hanging]
            exact owned.completed connection environment upload

omit [DecidableEq κ] in
/-- A connection without a request has no memory. -/
theorem blocks_idle (sound : daemon.erased.Sound) {connection : κ}
    (unused : (daemon.slots connection).upload = none) : (daemon.slots connection).blocks = ∅ := by
  have unbegun : (daemon.slots connection).conCls = none :=
    Option.map_eq_none_iff.mp ((sound.slots connection).idle unused)
  rw [Slot.blocks, unbegun]

omit [DecidableEq κ] in
/-- When no request is in progress only the process's own blocks are live. -/
theorem Daemon.Owned.idle (owned : daemon.Owned base) (sound : daemon.erased.Sound)
    (idle : ∀ connection, (daemon.slots connection).upload = none) : daemon.heap.live = base := by
  ext block
  simp [owned.divided.mem block, fun connection => blocks_idle sound (idle connection)]

omit [DecidableEq κ] in
/-- Before the first request only the process has memory. -/
theorem Daemon.Owned.unbegun (sound : daemon.heap.Sound) (faults : daemon.heap.faults = [])
    (live : daemon.heap.live = base)
    (unbegun : ∀ connection, (daemon.slots connection).conCls = none) : daemon.Owned base := by
  have empty : ∀ connection, (daemon.slots connection).blocks = ∅ := by
    intro connection
    rw [Slot.blocks, unbegun]
  refine ⟨sound, faults, ⟨?_, ?_, ?_⟩, fun connection => ?_⟩
  · simp [live, empty]
  · simp [empty]
  · simp [empty]
  · rw [unbegun, empty, Finset.sdiff_empty]
    exact .unbegun

/-- The server without its memory gets the same callbacks. -/
def view (κ : Type) : View (Signal κ) (Daemon κ) (Signal κ) (PortalApi.Daemon κ) where
  state := Daemon.erased
  input signal _ := some signal

theorem server_refines (given : ∀ block ∈ context.all, block ∈ base) :
    Refines (server service context base κ) (service.daemon κ) (view κ) (Daemon.Owned base) where
  initial daemon initial := by
    obtain ⟨plain, sound, faults, live⟩ := initial
    have unbegun : ∀ connection, (daemon.slots connection).conCls = none := fun connection =>
      Option.map_eq_none_iff.mp (congrArg PortalApi.Slot.conCls (congrFun plain.1 connection))
    exact ⟨.unbegun sound faults live unbegun, plain⟩
  kept input _ _ owned := (owned.signal given input).owned
  silent _ _ _ _ ignored := nomatch ignored
  active input daemon served admitted owned same := by
    obtain rfl := Option.some.inj same
    exact ⟨admitted, (owned.signal given input).erased⟩

end Owned

namespace Reference

open PortalApi.Reference

def context : ContextBlocks where
  server := { name := 5, kind := .httpServer }
  config := { name := 1, kind := .config }
  database := { name := 3, kind := .database }
  pgConn := { name := 4, kind := .pgConn }

/-- The blocks of a process whose server was started. -/
def base : Finset (Block Resource) :=
  {{ name := 0, kind := .app }, context.config, { name := 2, kind := .databaseUrl },
    context.database, context.pgConn, context.server, { name := 6, kind := .mhdDaemon }}

def quietStart : Daemon Nat where
  world := start
  heap := { next := 7, live := base, faults := [] }
  slots _ := .idle
  completed := []

/-- The first callbacks of two connections, and the server after them. -/
def server : List (Event (Signal Nat) Unit (Daemon Nat)) × Daemon Nat :=
  (Memory.server (service []) context base Nat).play quietStart ((signals interleaved).take 5)

theorem server_run : (Memory.server (service []) context base Nat).Run server.1 server.2 := by
  have begins : (Memory.server (service []) context base Nat).Run [] quietStart := by
    refine .start ⟨⟨rfl, rfl⟩, ?_, rfl, rfl⟩
    intro block member
    revert block
    decide
  have admitted : ∀ signal ∈ (signals interleaved).take 5, signal.callback.Admitted :=
    fun signal member => interleaved_admitted signal (List.mem_of_mem_take member)
  exact begins.play admitted

end Reference

end PortalApi.Memory
