import PortalApi.Linearization
import PortalApi.Memory.Process

/-! A whole life of the process: whatever fails on the way, it gives back all it took. -/

set_option autoImplicit false

namespace PortalApi.Memory

open Library

/-- Whether a call did what it was asked for. -/
def ProcessOperation.succeeded : (operation : ProcessOperation) → operation.Answer → Bool
  | .allocate _, block | .pqConnectdb _, block | .mhdStartDaemon _ _ _, block => block.isSome
  | .access _, _ | .free _ _, _ | .pqFinish _, _ | .mhdStopDaemon _, _ => true
  | .pqStatus _, status => status = .connectionOk
  | .sigemptyset, success | .sigaddset _, success => success
  | .sigSetmask _, success | .sigwait _, success => success
  | .sigBlock _, previous => previous.isSome

variable {κ : Type}

abbrev SystemCall (κ : Type) := Called ProcessOperation.Answer (Process κ)

/-- While the server runs no signal that shuts it down can strike, and only signals
that are blocked are waited for. -/
structure Guarded (call : SystemCall κ) : Prop where
  running : call.before.running ≠ none → shutdownSignals ⊆ call.before.mask
  waiting : ∀ numbers, call.op = .sigwait numbers → numbers ⊆ call.before.mask

/-- The process with another state of its connection. -/
def Process.connects (process : Process κ) (connection : ConnStatusType) : Process κ :=
  { process with
    server := { process.server with world := { process.server.world with connection } } }

/-- No server runs, the memory is in order with these blocks live, and outside the
memory all is as it was. -/
structure Left (start : Process κ) (live : Finset (Block Resource)) (process : Process κ) : Prop where
  running : process.running = none
  sound : process.server.heap.Sound
  faults : process.server.heap.faults = []
  live : process.server.heap.live = live
  mask : process.mask = start.mask
  erased : process.server.erased = start.server.erased

section Quiet

variable {jsonC : JsonC} {postgres : Postgres} {start process : Process κ}
  {live rest : Finset (Block Resource)} {block : Block Resource} {α : Type}
  {post : Bool → α → Process κ → Prop}

theorem Left.guarded (left : Left start live process) {operation : ProcessOperation}
    {answer : operation.Answer} {after : Process κ}
    (other : ∀ numbers, operation ≠ .sigwait numbers) :
    Guarded { op := operation, answer, before := process, after } where
  running running := absurd left.running running
  waiting numbers same := absurd same (other numbers)

/-- What a release of the last block leaves. -/
theorem Left.released (left : Left start (insert block live) process) (fresh : block ∉ live)
    {kind : Resource} (released : block.kind = kind) :
    Left start live (process.withHeap (process.server.heap.release kind block)) := by
  have held : block ∈ process.server.heap.live := left.live ▸ Finset.mem_insert_self _ _
  have heap : process.server.heap.release kind block =
      { process.server.heap with live := live } := by
    rw [← released, Heap.release_live held, left.live, Finset.erase_insert fresh]
  refine ⟨left.running, ?_, ?_, ?_, left.mask, left.erased⟩
  · simp only [Process.withHeap, heap]
    exact fun other member => left.sound other (left.live ▸ Finset.mem_insert_of_mem member)
  · simp only [Process.withHeap, heap]
    exact left.faults
  · simp only [Process.withHeap, heap]

variable [DecidableEq κ]

abbrev ProcessFlows (jsonC : JsonC) (postgres : Postgres) (program : System α)
    (process : Process κ) (post : Bool → α → Process κ → Prop) : Prop :=
  Flows (processSteps jsonC postgres) Guarded ProcessOperation.succeeded program process post

/-- Without a server an operation is all that happens. -/
theorem Left.performs (left : Left start live process) {operation : ProcessOperation}
    {answer : operation.Answer} {after : Process κ}
    (steps : processSteps jsonC postgres operation process answer after) :
    Performs operation process answer after := by
  obtain ⟨middle, works, performs⟩ := steps
  have same : ∀ final, Works jsonC postgres process final → final = process := by
    intro final works
    induction works with
    | rests => rfl
    | callback input _ running _ ih =>
        rw [ih, left.running] at running
        cases running
  exact same middle works ▸ performs

theorem Left.calloc (left : Left start live process) {kind : Resource}
    {next : Option (Block Resource) → System α}
    (refused : ProcessFlows jsonC postgres (next none) process fun _ => post false)
    (allocated : ∀ block after, block ∉ live → block.kind = kind → Left start (insert block live) after →
      ProcessFlows jsonC postgres (next (some block)) after post) :
    ProcessFlows jsonC postgres (System.calloc kind >>= next) process post := by
  refine .call fun answer after steps => ⟨left.guarded (fun _ same => nomatch same), ?_⟩
  cases left.performs steps with
  | refused => exact refused
  | allocated =>
      refine allocated _ _ ?_ rfl ⟨left.running, left.sound.acquire kind, left.faults, ?_, left.mask,
        left.erased⟩
      · rw [← left.live]
        exact left.sound.fresh kind
      · simp only [Process.withHeap, Heap.acquire, left.live]

theorem Left.access (left : Left start live process) {next : Unit → System α} (held : block ∈ live)
    (rest : ProcessFlows jsonC postgres (next ()) process post) :
    ProcessFlows jsonC postgres (System.access block >>= next) process post := by
  refine .call fun answer after steps => ⟨left.guarded (fun _ same => nomatch same), ?_⟩
  cases left.performs steps with
  | accessed =>
      rw [Heap.access_live (left.live ▸ held)]
      exact rest

theorem Left.free (left : Left start (insert block live) process) (fresh : block ∉ live)
    {kind : Resource} (released : block.kind = kind) {next : Unit → System α}
    (rest : ∀ after, Left start live after → ProcessFlows jsonC postgres (next ()) after post) :
    ProcessFlows jsonC postgres (System.free kind block >>= next) process post := by
  refine .call fun answer after steps => ⟨left.guarded (fun _ same => nomatch same), ?_⟩
  cases left.performs steps with
  | freed => exact rest _ (left.released fresh released)

theorem Left.pqFinish (left : Left start (insert block live) process) (fresh : block ∉ live)
    (released : block.kind = .pgConn) {next : Unit → System α}
    (rest : ∀ after, Left start live after → ProcessFlows jsonC postgres (next ()) after post) :
    ProcessFlows jsonC postgres
      ((Program.perform (ProcessOperation.pqFinish block) : System _) >>= next) process post := by
  refine .call fun answer after steps => ⟨left.guarded (fun _ same => nomatch same), ?_⟩
  cases left.performs steps with
  | finished => exact rest _ (left.released fresh released)

theorem Left.pqConnectdb (left : Left start live process) {connectionString : Bytes}
    {next : Option (Block Resource) → System α}
    (refused : ProcessFlows jsonC postgres (next none) process fun _ => post false)
    (connected : ∀ block connection after, block ∉ live → block.kind = .pgConn →
      Left (start.connects connection) (insert block live) after →
      ProcessFlows jsonC postgres (next (some block)) after post) :
    ProcessFlows jsonC postgres
      ((Program.perform (ProcessOperation.pqConnectdb connectionString) : System _) >>= next)
      process post := by
  refine .call fun answer after steps => ⟨left.guarded (fun _ same => nomatch same), ?_⟩
  cases left.performs steps with
  | unconnected => exact refused
  | connected _ connection =>
      refine connected _ connection _ ?_ rfl ⟨left.running, left.sound.acquire .pgConn, left.faults,
        ?_, left.mask, ?_⟩
      · rw [← left.live]
        exact left.sound.fresh .pgConn
      · simp only [Heap.acquire, left.live]
      · exact congrArg (fun server => { server with world := { server.world with connection } })
          left.erased

theorem Left.pqStatus (left : Left start live process) (held : block ∈ live)
    {next : ConnStatusType → System α}
    (rest : ProcessFlows jsonC postgres (next start.server.world.connection) process
      fun later => post (decide (start.server.world.connection = .connectionOk) && later)) :
    ProcessFlows jsonC postgres
      ((Program.perform (ProcessOperation.pqStatus block) : System _) >>= next) process post := by
  refine .call fun answer after steps => ⟨left.guarded (fun _ same => nomatch same), ?_⟩
  cases left.performs steps with
  | status =>
      have same : process.server.world = start.server.world :=
        congrArg PortalApi.Daemon.world left.erased
      rw [Heap.access_live (left.live ▸ held), same]
      exact rest

/-- A part that cannot fail, and leaves these blocks live. -/
abbrev Leads (jsonC : JsonC) (postgres : Postgres) (start : Process κ) (program : System Unit)
    (process : Process κ) (live : Finset (Block Resource)) : Prop :=
  ProcessFlows jsonC postgres program process fun clean _ final => clean = true ∧ Left start live final

theorem Leads.before {program : System Unit} {next : Unit → System α}
    (leads : Leads jsonC postgres start program process live)
    (rest : ∀ after, Left start live after → ProcessFlows jsonC postgres (next ()) after post) :
    ProcessFlows jsonC postgres (program >>= next) process post := by
  refine .bind leads fun clean _ after ended => ?_
  obtain ⟨rfl, left⟩ := ended
  exact rest after left

end Quiet

section Holds

/-- What a configuration adds to the live blocks. -/
inductive HoldsConfig (rest : Finset (Block Resource)) :
    Option ConfigBlocks → Finset (Block Resource) → Prop where
  | null : HoldsConfig rest none rest
  | bare {block : Block Resource} : block ∉ rest → block.kind = .config →
      HoldsConfig rest (some { block, databaseUrl := none }) (insert block rest)
  | loaded {block databaseUrl : Block Resource} : block ∉ rest → block.kind = .config →
      databaseUrl ∉ insert block rest → databaseUrl.kind = .databaseUrl →
      HoldsConfig rest (some { block, databaseUrl := some databaseUrl })
        (insert databaseUrl (insert block rest))

/-- What a database adds to the live blocks. -/
inductive HoldsDatabase (rest : Finset (Block Resource)) :
    Option DatabaseBlocks → Finset (Block Resource) → Prop where
  | null : HoldsDatabase rest none rest
  | bare {block : Block Resource} : block ∉ rest → block.kind = .database →
      HoldsDatabase rest (some { block, connection := none }) (insert block rest)
  | connected {block connection : Block Resource} : block ∉ rest → block.kind = .database →
      connection ∉ insert block rest → connection.kind = .pgConn →
      HoldsDatabase rest (some { block, connection := some connection })
        (insert connection (insert block rest))

/-- What a server that does not run adds to the live blocks. -/
inductive HoldsServer (rest : Finset (Block Resource)) :
    Option PortalHttpServer → Finset (Block Resource) → Prop where
  | null : HoldsServer rest none rest
  | idle {server : PortalHttpServer} : server.block ∉ rest → server.block.kind = .httpServer →
      server.daemon = none → HoldsServer rest (some server) (insert server.block rest)

theorem HoldsConfig.within {rest live : Finset (Block Resource)} {config : Option ConfigBlocks}
    (holds : HoldsConfig rest config live) : rest ⊆ live := by
  cases holds with
  | null => exact Finset.Subset.refl _
  | bare _ _ => exact Finset.subset_insert _ _
  | loaded _ _ _ _ => exact (Finset.subset_insert _ _).trans (Finset.subset_insert _ _)

theorem HoldsDatabase.within {rest live : Finset (Block Resource)}
    {database : Option DatabaseBlocks} (holds : HoldsDatabase rest database live) : rest ⊆ live := by
  cases holds with
  | null => exact Finset.Subset.refl _
  | bare _ _ => exact Finset.subset_insert _ _
  | connected _ _ _ _ => exact (Finset.subset_insert _ _).trans (Finset.subset_insert _ _)

theorem HoldsServer.within {rest live : Finset (Block Resource)} {server : Option PortalHttpServer}
    (holds : HoldsServer rest server live) : rest ⊆ live := by
  cases holds with
  | null => exact Finset.Subset.refl _
  | idle _ _ _ => exact Finset.subset_insert _ _

/-- What an application adds to the live blocks, as far as it was created. -/
structure HoldsApp (rest : Finset (Block Resource)) (app : PortalApp)
    (live : Finset (Block Resource)) : Prop where
  fresh : app.block ∉ rest
  kind : app.block.kind = .app
  parts : ∃ configured connected,
    HoldsConfig (insert app.block rest) (app.config.map (·.blocks)) configured ∧
      HoldsDatabase configured (app.database.map (·.blocks)) connected ∧
      HoldsServer connected app.httpServer live

end Holds

section Destroy

variable {κ : Type} [DecidableEq κ] {jsonC : JsonC} {postgres : Postgres} {start process : Process κ}
  {live rest : Finset (Block Resource)}

end Destroy

/-- A configuration that was loaded, with its values those of the environment. -/
def HoldsLoaded (getenv : String → Option Bytes) (rest : Finset (Block Resource))
    (config : LoadedConfig) (live : Finset (Block Resource)) (_ : ConnStatusType) : Prop :=
  HoldsConfig rest (some config.blocks) live ∧
    PortalApi.portalConfigCreateFromEnvironment getenv true true = some config.values

/-- An application that was created whole. -/
structure HoldsWhole (getenv : String → Option Bytes) (rest : Finset (Block Resource))
    (app : PortalApp) (live : Finset (Block Resource)) (connection : ConnStatusType) : Prop where
  holds : HoldsApp rest app live
  connection : connection = .connectionOk
  parts : ∃ config database server, app.config = some config ∧ app.database = some database ∧
    app.httpServer = some server ∧ server.config = config ∧ server.database = database ∧
    PortalApi.portalConfigCreateFromEnvironment getenv true true = some config.values

section Create

variable {getenv : String → Option Bytes} {live rest : Finset (Block Resource)}

theorem HoldsLoaded.mem {config : LoadedConfig} {connection : ConnStatusType}
    (holds : HoldsLoaded getenv rest config live connection) :
    config.block ∈ live ∧ config.databaseUrl ∈ live := by
  obtain ⟨holds, _⟩ := holds
  cases holds with
  | loaded _ _ _ _ => simp

variable {κ : Type} [DecidableEq κ] {jsonC : JsonC} {postgres : Postgres} {start process : Process κ}

theorem Left.databaseUrl (left : Left start live process) {config : LoadedConfig}
    (held : config.block ∈ live ∧ config.databaseUrl ∈ live) {α : Type}
    {next : Option Bytes → System α} {post : Bool → α → Process κ → Prop}
    (after : ProcessFlows jsonC postgres (next (some config.values.databaseUrl)) process post) :
    ProcessFlows jsonC postgres (portalConfigDatabaseUrl (some config) >>= next) process post :=
  left.access held.1 (left.access held.2 after)

end Create

/-- The server over the database that is there when it is started. -/
def startedOn (service : Service) (world : World) (κ : Type) [DecidableEq κ] :
    Machine (Signal κ) Unit (PortalApi.Daemon κ) where
  initial daemon := daemon.world = world ∧ (service.daemon κ).initial daemon
  admits := (service.daemon κ).admits
  step := (service.daemon κ).step

section Serving

variable {κ : Type} [DecidableEq κ] {jsonC : JsonC} {postgres : Postgres} {start process : Process κ}
  {live : Finset (Block Resource)} {block : Block Resource} {running : Running} {α : Type}
  {post : Bool → α → Process κ → Prop}

/-- A server runs: beside what it was started with only its handle and the requests
in progress have memory, and all it did is what the server without memory does. -/
structure Serving (jsonC : JsonC) (postgres : Postgres) (start : Process κ)
    (live : Finset (Block Resource)) (running : Running) (process : Process κ) : Prop where
  current : process.running = some running
  owned : process.server.Owned (insert running.handle live)
  fresh : running.handle ∉ live
  kind : running.handle.kind = .mhdDaemon
  given : ∀ block ∈ running.context.all, block ∈ live
  mask : process.mask = start.mask
  run : ∃ entries, (startedOn (running.service jsonC postgres) start.server.world κ).Run entries
    process.server.erased

/-- A server that was just started. -/
theorem Serving.begin (left : Left start live process) {config : PortalConfig}
    {context : ContextBlocks} (given : ∀ block ∈ context.all, block ∈ live) :
    Serving jsonC postgres start live
      { handle := (process.server.heap.acquire .mhdDaemon).1, config, context }
      { process with
        server := {
          world := process.server.world
          heap := (process.server.heap.acquire .mhdDaemon).2
          slots := fun _ => .idle
          completed := [] }
        running := some { handle := (process.server.heap.acquire .mhdDaemon).1, config, context } }
    where
  current := rfl
  owned := by
    refine .unbegun (left.sound.acquire .mhdDaemon) left.faults ?_ fun _ => rfl
    simp only [Heap.acquire, left.live]
  fresh := left.live ▸ left.sound.fresh .mhdDaemon
  kind := rfl
  given := given
  mask := left.mask
  run := ⟨[], .start ⟨congrArg PortalApi.Daemon.world left.erased, rfl, rfl⟩⟩

theorem Serving.works (serving : Serving jsonC postgres start live running process)
    {after : Process κ} (works : Works jsonC postgres process after) :
    Serving jsonC postgres start live running after := by
  induction works with
  | rests => exact serving
  | @callback middle other input _ same admitted ih =>
      obtain rfl := Option.some.inj (same.symm.trans ih.current)
      have given : ∀ block ∈ other.context.all, block ∈ insert other.handle live :=
        fun block member => Finset.mem_insert_of_mem (serving.given block member)
      have kept : CallbackKept (insert other.handle live)
          (signal (other.service jsonC postgres) other.context input middle.server) _ :=
        ih.owned.signal given input
      obtain ⟨entries, run⟩ := ih.run
      have next := run.next input admitted
      refine ⟨ih.current, kept.owned, serving.fresh, serving.kind, serving.given, ih.mask, ?_⟩
      rw [kept.erased]
      exact ⟨_, next⟩

theorem Serving.held (serving : Serving jsonC postgres start live running process)
    (held : block ∈ live) : block ∈ process.server.heap.live :=
  (serving.owned.divided.mem block).mpr (.inl (Finset.mem_insert_of_mem held))

theorem Serving.access (serving : Serving jsonC postgres start live running process)
    (blocked : shutdownSignals ⊆ start.mask) (held : block ∈ live) {next : Unit → System α}
    (rest : ∀ after, Serving jsonC postgres start live running after →
      ProcessFlows jsonC postgres (next ()) after post) :
    ProcessFlows jsonC postgres (System.access block >>= next) process post := by
  refine .call fun answer after steps => ⟨⟨fun _ => serving.mask ▸ blocked, nofun⟩, ?_⟩
  obtain ⟨middle, works, performs⟩ := steps
  have later := serving.works works
  cases performs with
  | accessed =>
      rw [Heap.access_live (later.held held)]
      exact rest _ later

theorem Serving.sigwait (serving : Serving jsonC postgres start live running process)
    (blocked : shutdownSignals ⊆ start.mask) {next : Bool → System α}
    (rest : ∀ success after, Serving jsonC postgres start live running after →
      ProcessFlows jsonC postgres (next success) after fun later => post (success && later)) :
    ProcessFlows jsonC postgres
      ((Program.perform (ProcessOperation.sigwait shutdownSignals) : System _) >>= next) process
      post := by
  refine .call fun answer after steps => ⟨⟨fun _ => serving.mask ▸ blocked, ?_⟩, ?_⟩
  · intro numbers same
    cases same
    exact serving.mask ▸ blocked
  · obtain ⟨middle, works, performs⟩ := steps
    have later := serving.works works
    cases performs with
    | waited => exact rest answer _ later

end Serving

/-- The process with the signals that shut it down blocked. -/
def Process.guarded {κ : Type} (process : Process κ) : Process κ :=
  { process with mask := process.mask ∪ shutdownSignals }

section Run

variable {κ : Type} [DecidableEq κ] {jsonC : JsonC} {postgres : Postgres} {start process : Process κ}
  {live rest : Finset (Block Resource)} {server : PortalHttpServer} {α : Type}
  {post : Bool → α → Process κ → Prop}

/-- A call that changes nothing. -/
theorem Left.asks (left : Left start live process) {operation : ProcessOperation}
    {next : operation.Answer → System α} (other : ∀ numbers, operation ≠ .sigwait numbers)
    (still : ∀ answer after, Performs operation process answer after → after = process)
    (rest : ∀ answer, ProcessFlows jsonC postgres (next answer) process
      fun later => post (operation.succeeded answer && later)) :
    ProcessFlows jsonC postgres (Program.perform operation >>= next) process post := by
  refine .call fun answer after steps => ⟨left.guarded other, ?_⟩
  rw [still answer after (left.performs steps)]
  exact rest answer

theorem Left.sigSetmask (left : Left start live process) {numbers : Finset SignalNumber}
    {next : Bool → System α}
    (refused : ProcessFlows jsonC postgres (next false) process fun _ => post false)
    (restored : ProcessFlows jsonC postgres (next true) { process with mask := numbers } post) :
    ProcessFlows jsonC postgres
      ((Program.perform (ProcessOperation.sigSetmask numbers) : System _) >>= next) process post := by
  refine .call fun answer after steps => ⟨left.guarded (fun _ same => nomatch same), ?_⟩
  cases left.performs steps with
  | unrestored => exact refused
  | restored => exact restored

/-- What the database and the replies are after the run of the server, if it ran. -/
def Served (jsonC : JsonC) (postgres : Postgres) (getenv : String → Option Bytes)
    (start final : Process κ) : Prop :=
  final.server.erased = start.server.erased ∨ ∃ config entries,
    PortalApi.portalConfigCreateFromEnvironment getenv true true = some config ∧
      (startedOn { config, jsonC, postgres } start.server.world κ).Run entries final.server.erased

variable {getenv : String → Option Bytes} {app : PortalApp} {connection : ConnStatusType}

theorem HoldsWhole.given (whole : HoldsWhole getenv rest app live connection)
    (given : app.httpServer = some server) :
    app.block ∈ live ∧ server.daemon = none ∧ (∀ block ∈ server.context.all, block ∈ live) ∧
      app.config = some server.config ∧
      PortalApi.portalConfigCreateFromEnvironment getenv true true = some server.config.values := by
  obtain ⟨⟨fresh, kind, configured, connected, holdsConfig, holdsDatabase, holdsServer⟩, _, parts⟩ :=
    whole
  obtain ⟨config, database, other, hasConfig, hasDatabase, hasServer, rfl, rfl, loaded⟩ := parts
  obtain rfl := Option.some.inj (hasServer.symm.trans given)
  rw [hasConfig] at holdsConfig
  rw [hasDatabase] at holdsDatabase
  rw [hasServer] at holdsServer
  have first := holdsConfig.within
  have second := holdsDatabase.within
  have third := holdsServer.within
  have own : app.block ∈ live := third (second (first (Finset.mem_insert_self _ _)))
  have config : other.config.block ∈ configured := by
    cases holdsConfig with
    | loaded _ _ _ _ => simp
  have database : other.database.block ∈ connected ∧ other.database.connection ∈ connected := by
    cases holdsDatabase with
    | connected _ _ _ _ => simp
  cases holdsServer with
  | idle _ _ stopped =>
      refine ⟨own, stopped, ?_, hasConfig, loaded⟩
      simp only [PortalHttpServer.context, ContextBlocks.all, List.forall_mem_cons]
      exact ⟨Finset.mem_insert_self _ _, third (second config), third database.1,
        third database.2, by simp⟩

end Run

section Main

variable {κ : Type} [DecidableEq κ] {jsonC : JsonC} {postgres : Postgres} {start process : Process κ}
  {getenv : String → Option Bytes}

end Main

namespace Reference

open PortalApi.Reference

def platform : Service := service []

/-- The callbacks for one request of a server that runs. -/
def visit : List (Signal Nat) :=
  signals [(0, .start (head "OPTIONS" "/")), (0, .finish), (0, .completed)]

def visited (process : Process Nat) : Process Nat :=
  match process.running with
  | none => process
  | some running =>
    { process with
      server := visit.foldl
        (fun server input =>
          signal (running.service platform.jsonC platform.postgres) running.context input server)
        process.server }

/-- Nothing fails, and one request is made while the process waits. -/
def smooth : Semantics ProcessOperation.Answer (Process Nat)
  | .allocate kind, process =>
    (some (process.server.heap.acquire kind).1, process.withHeap (process.server.heap.acquire kind).2)
  | .access block, process => ((), process.withHeap (process.server.heap.access block))
  | .free kind block, process => ((), process.withHeap (process.server.heap.release kind block))
  | .pqConnectdb _, process =>
    (some (process.server.heap.acquire .pgConn).1,
      { process with
        server := { process.server with
          world := { process.server.world with connection := .connectionOk }
          heap := (process.server.heap.acquire .pgConn).2 } })
  | .pqStatus connection, process =>
    (process.server.world.connection, process.withHeap (process.server.heap.access connection))
  | .pqFinish connection, process =>
    ((), process.withHeap (process.server.heap.release .pgConn connection))
  | .mhdStartDaemon _ config context, process =>
    (some (process.server.heap.acquire .mhdDaemon).1,
      { process with
        server := {
          world := process.server.world
          heap := (process.server.heap.acquire .mhdDaemon).2
          slots := fun _ => .idle
          completed := [] }
        running := some {
          handle := (process.server.heap.acquire .mhdDaemon).1
          config
          context } })
  | .mhdStopDaemon daemon, process =>
    ((), { process.withHeap (process.server.heap.release .mhdDaemon daemon) with running := none })
  | .sigemptyset, process => (true, process)
  | .sigaddset _, process => (true, process)
  | .sigBlock numbers, process =>
    (some process.mask, { process with mask := process.mask ∪ numbers })
  | .sigSetmask numbers, process => (true, { process with mask := numbers })
  | .sigwait _, process => (true, visited process)

/-- No request is in progress. -/
def Idle (process : Process Nat) : Prop := process.server.slots = fun _ => .idle

theorem Works.plays {jsonC : JsonC} {postgres : Postgres} {process : Process Nat} {running : Running}
    (current : process.running = some running) {inputs : List (Signal Nat)}
    (admitted : ∀ input ∈ inputs, input.callback.Admitted) {server : Daemon Nat}
    (works : Works jsonC postgres process { process with server }) :
    Works jsonC postgres process { process with
      server := inputs.foldl (fun server input =>
        signal (running.service jsonC postgres) running.context input server) server } := by
  induction inputs generalizing server with
  | nil => exact works
  | cons input inputs ih =>
      exact ih (fun other member => admitted other (List.mem_cons_of_mem _ member))
        (.callback input works current (admitted input List.mem_cons_self))

/-- A callback only concerns its own connection. -/
theorem signal_other {service : Service} {context : ContextBlocks} {daemon : Daemon Nat}
    {input : Signal Nat} {connection : Nat} (other : connection ≠ input.connection) :
    (signal service context input daemon).slots connection = daemon.slots connection := by
  unfold signal
  dsimp only
  split
  · exact Function.update_of_ne other _ _
  · split
    · exact Function.update_of_ne other _ _
    · rfl
  · split
    · exact Function.update_of_ne other _ _
    · rfl
  · split
    · rfl
    · exact Function.update_of_ne other _ _
  · rfl

theorem visited_works {process : Process Nat} (idle : Idle process) :
    Works platform.jsonC platform.postgres process (visited process) ∧ Idle (visited process) := by
  obtain ⟨⟨world, heap, slots, completed⟩, running, mask⟩ := process
  obtain rfl : slots = fun _ => .idle := idle
  cases running with
  | none => exact ⟨.rests, rfl⟩
  | some running =>
      refine ⟨Works.plays rfl (by simp [visit, signals, Callback.Admitted]) .rests, ?_⟩
      funext connection
      by_cases first : connection = 0
      · subst first
        rfl
      · have kept : ∀ daemon : Daemon Nat, (visit.foldl (fun server input =>
            signal (running.service platform.jsonC platform.postgres) running.context input server)
            daemon).slots connection = daemon.slots connection := by
          intro daemon
          simp only [visit, signals, List.map_cons, List.map_nil, List.foldl_cons, List.foldl_nil]
          rw [signal_other first, signal_other first, signal_other first]
        exact kept { world, heap, slots := fun _ => .idle, completed }

/-- What goes smoothly is among what can happen. -/
theorem smooth_steps (operation : ProcessOperation) (process : Process Nat) (idle : Idle process) :
    processSteps platform.jsonC platform.postgres operation process (smooth operation process).1
        (smooth operation process).2 ∧ Idle (smooth operation process).2 := by
  cases operation with
  | sigwait numbers =>
      obtain ⟨works, still⟩ := visited_works idle
      exact ⟨⟨_, works, .waited numbers true⟩, still⟩
  | mhdStopDaemon daemon =>
      exact ⟨⟨_, .rests, .stopped daemon fun connection => congrArg Slot.upload (congrFun idle connection)⟩, idle⟩
  | mhdStartDaemon port config context => exact ⟨⟨_, .rests, .started port config context⟩, rfl⟩
  | allocate kind => exact ⟨⟨_, .rests, .allocated kind⟩, idle⟩
  | access block => exact ⟨⟨_, .rests, .accessed block⟩, idle⟩
  | free kind block => exact ⟨⟨_, .rests, .freed kind block⟩, idle⟩
  | pqConnectdb connectionString => exact ⟨⟨_, .rests, .connected connectionString .connectionOk⟩, idle⟩
  | pqStatus connection => exact ⟨⟨_, .rests, .status connection⟩, idle⟩
  | pqFinish connection => exact ⟨⟨_, .rests, .finished connection⟩, idle⟩
  | sigemptyset => exact ⟨⟨_, .rests, .emptied true⟩, idle⟩
  | sigaddset number => exact ⟨⟨_, .rests, .added number true⟩, idle⟩
  | sigBlock numbers => exact ⟨⟨_, .rests, .blocked numbers⟩, idle⟩
  | sigSetmask numbers => exact ⟨⟨_, .rests, .restored numbers⟩, idle⟩

/-- A process that begins. -/
def begun : Process Nat where
  server := {
    world := start
    heap := { next := 0, live := ∅, faults := [] }
    slots := fun _ => .idle
    completed := [] }
  running := none
  mask := ∅

def getenv (name : String) : Option Bytes :=
  if name = "DATABASE_URL" then some (bytes "postgresql://portal") else none

theorem life : Execution (processSteps platform.jsonC platform.postgres) (main getenv) begun
    ((main getenv).trace smooth begun) ((main getenv).run smooth begun).1
    ((main getenv).run smooth begun).2 :=
  .of_semantics smooth_steps (main getenv) rfl

end Reference

end PortalApi.Memory
