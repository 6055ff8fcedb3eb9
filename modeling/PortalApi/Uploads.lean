import PortalApi.Daemon
import PortalApi.Reference

/-! Whatever the schedule, every request is dispatched at most once, as a whole,
with its own body, and answered at most once. -/

set_option autoImplicit false

namespace PortalApi

open Library

/-- A request is handled as it should be: once, after its last chunk, with its
own bytes and within the limit, or not at all. -/
structure Upload.Proper (upload : Upload) : Prop where
  returned : upload.phase ≠ .hanging
  entered : upload.entered = [] ∨ upload.phase ≠ .receiving ∧
    upload.entered = [upload.chunks.flatten] ∧ upload.chunks.flatten.length ≤ maxBody
  unsent : upload.entered = [] → upload.statements = 0
  attempts : upload.attempts.length ≤ 1

/-- What the body of a request holds that is still received. -/
structure Upload.Gathered (upload : Upload) (body : PortalHttpRequestBody) : Prop where
  wellFormed : body.WellFormed
  entered : upload.entered = []
  content : body.responseQueued = false →
    body.content = upload.chunks.flatten ∧ upload.attempts = []

/-- Before its last call nothing was sent or answered for a request that is not refused. -/
theorem Upload.Gathered.fresh {upload : Upload} {body : PortalHttpRequestBody}
    (gathered : upload.Gathered body) (proper : upload.Proper) (queued : body.responseQueued = false)
    {world : World} :
    ({ world, statements := upload.statements, attempts := upload.attempts } : Exchange) =
      world.exchange := by
  obtain ⟨_, unanswered⟩ := gathered.content queued
  rw [World.exchange, proper.unsent gathered.entered, unanswered]

structure Slot.Sound (slot : Slot) : Prop where
  idle : slot.upload = none → slot.conCls = none
  proper : ∀ upload, slot.upload = some upload → upload.Proper
  gathered : ∀ upload, slot.upload = some upload → upload.phase = .receiving →
    ∃ body, slot.conCls = some body ∧ upload.Gathered body

section Access

variable {service : Service} {environment : Environment} {world : World} {upload : Upload}
  {body : PortalHttpRequestBody}

theorem Slot.Sound.of_upload {conCls : Option PortalHttpRequestBody} (proper : upload.Proper)
    (gathered : upload.phase = .receiving → ∃ body, conCls = some body ∧ upload.Gathered body) :
    Slot.Sound { conCls, upload := some upload } where
  idle none := by cases none
  proper := by
    intro other same
    obtain rfl := Option.some.inj same
    exact proper
  gathered := by
    intro other same
    obtain rfl := Option.some.inj same
    exact gathered

/-- A call leaves what the run of the handler gives. -/
theorem Service.access_eq (upload : Upload) {data : Option Bytes} {size : UInt64} {next : Phase}
    {conCls : Option PortalHttpRequestBody} {access : Access} {exchange : Exchange}
    (ran : (httpAccessHandler service.context service.jsonC upload.head data size conCls).run
      (interpret service.postgres environment)
      { world, statements := upload.statements, attempts := upload.attempts } =
        (some access, exchange)) :
    service.access environment data size next conCls upload world =
      ({ conCls := access.conCls
         upload := some { upload with
           phase := if access.result = .no then .closing else next
           entered := upload.entered ++ (accessBranch conCls size).entered
           statements := exchange.statements
           attempts := exchange.attempts } },
        exchange.world) := by
  unfold Service.access
  rw [ran]
  rfl

theorem Service.access_start (head : RequestHead) :
    (service.access environment none 0 .receiving none (.begin head) world).1.Sound ∧
      (service.access environment none 0 .receiving none (.begin head) world).2 = world := by
  rw [access_eq _ (run_httpAccessHandler_first service.postgres environment _ service.context
    service.jsonC head none 0)]
  refine ⟨.of_upload ?_ ?_, rfl⟩
  · constructor
    case returned => simp only; split <;> simp
    case entered => exact .inl rfl
    case unsent => exact fun _ => rfl
    case attempts => exact Nat.zero_le 1
  · cases environment.grants .requestBody with
    | false => simp
    | true =>
        exact fun _ => ⟨_, rfl, PortalHttpRequestBody.zeroed_wellFormed, rfl, fun _ => ⟨rfl, rfl⟩⟩

theorem Exchange.answer_attempts_le (exchange : Exchange) (built : Bool) (response : Response) :
    (exchange.answer environment built response).2.attempts.length ≤
      exchange.attempts.length + 1 := by
  cases built with
  | false => exact Nat.le_succ _
  | true => simp [Exchange.answer]

theorem Exchange.answer_statements (exchange : Exchange) (built : Bool) (response : Response) :
    (exchange.answer environment built response).2.statements = exchange.statements := by
  cases built <;> rfl

/-- A call with a chunk does not enter the dispatcher. -/
theorem accessBranch_unentered {data : Bytes} (admitted : (Callback.upload data).Admitted)
    (conCls : Option PortalHttpRequestBody) :
    (accessBranch conCls (UInt64.ofNat data.length)).entered = [] := by
  have size : UInt64.ofNat data.length ≠ 0 := chunk_size_ne_zero admitted.1 admitted.2
  cases conCls with
  | none => rfl
  | some body =>
      simp only [accessBranch, ne_eq, size, not_false_eq_true, ↓reduceIte]
      split
      · rfl
      · rfl

/-- A chunk goes to the end of the body, or the request is refused from then on. -/
theorem Service.access_upload {data : Bytes} (proper : upload.Proper)
    (gathered : upload.Gathered body) (admitted : (Callback.upload data).Admitted) :
    (service.access environment (some data) (UInt64.ofNat data.length) .receiving (some body)
        (upload.extend data) world).1.Sound ∧
      (service.access environment (some data) (UInt64.ofNat data.length) .receiving (some body)
        (upload.extend data) world).2 = world := by
  have entered : upload.entered ++ (accessBranch (some body) (UInt64.ofNat data.length)).entered =
      [] := by
    rw [accessBranch_unentered admitted, gathered.entered, List.append_nil]
  cases queued : body.responseQueued with
  | true =>
      rw [access_eq (upload.extend data) (run_httpAccessHandler_drain service.postgres environment _
        service.context service.jsonC upload.head body (some data) (UInt64.ofNat data.length)
        queued)]
      refine ⟨.of_upload ?_ ?_, rfl⟩
      · constructor
        case returned => simp
        case entered => exact .inl entered
        case unsent => exact fun _ => proper.unsent gathered.entered
        case attempts => exact proper.attempts
      · exact fun _ => ⟨body, rfl, gathered.wellFormed, entered, by simp [queued]⟩
  | false =>
      obtain ⟨content, unanswered⟩ := gathered.content queued
      rcases run_httpAccessHandler_append service.postgres environment
        { world, statements := upload.statements, attempts := upload.attempts } service.context
        service.jsonC upload.head body gathered.wellFormed queued admitted.1 admitted.2 with
        ⟨appended, wellFormed, extended, unqueued, limited, ran⟩ | ran
      · rw [access_eq (upload.extend data) ran]
        refine ⟨.of_upload ?_ ?_, rfl⟩
        · constructor
          case returned => simp
          case entered => exact .inl entered
          case unsent => exact fun _ => proper.unsent gathered.entered
          case attempts => exact proper.attempts
        · refine fun _ => ⟨appended, rfl, wellFormed, entered, fun _ => ⟨?_, unanswered⟩⟩
          simp [Upload.extend, extended, content]
      · rw [access_eq (upload.extend data) ran]
        refine ⟨.of_upload ?_ ?_, Exchange.answer_world _ _ _ _⟩
        · constructor
          case returned => simp only; split <;> simp
          case entered => exact .inl entered
          case unsent =>
            intro _
            rw [Exchange.answer_statements]
            exact proper.unsent gathered.entered
          case attempts =>
            refine (Exchange.answer_attempts_le _ _ _).trans ?_
            simp [unanswered]
        · have kept := gathered.wellFormed
          exact fun _ => ⟨_, rfl, ⟨kept.allocated, kept.length_le, kept.capacity_le, kept.room⟩,
            entered, by simp⟩

/-- The last call of a request within the limit: the dispatcher runs on all of its bytes,
and nothing was sent or answered for it before. -/
structure Dispatched (service : Service) (environment : Environment) (upload : Upload)
    (world : World) (called : Slot × World) : Prop where
  limited : upload.chunks.flatten.length ≤ maxBody
  unentered : upload.entered = []
  ran : ∃ after, called.1.upload = some after ∧ after.entered = [upload.chunks.flatten] ∧
    (service.dispatch { request := upload.head.request upload.chunks.flatten, environment }
      world).2 = { world := called.2, statements := after.statements, attempts := after.attempts }

/-- The last call dispatches what was gathered, unless the request was refused. -/
theorem Service.access_finish (proper : upload.Proper) (gathered : upload.Gathered body) :
    (service.access environment none 0 .received (some body) upload world).1.Sound ∧
      (((service.access environment none 0 .received (some body) upload world).2 = world ∧
          (accessBranch (some body) 0).entered = []) ∨
        Dispatched service environment upload world
          (service.access environment none 0 .received (some body) upload world)) := by
  cases queued : body.responseQueued with
  | true =>
      have drained : (accessBranch (some body) 0).entered = [] := by
        simp [accessBranch, queued, AccessBranch.entered]
      have unentered : upload.entered ++ (accessBranch (some body) 0).entered = [] := by
        rw [drained, gathered.entered, List.append_nil]
      rw [access_eq upload (run_httpAccessHandler_drain service.postgres environment _
        service.context service.jsonC upload.head body none 0 queued)]
      refine ⟨.of_upload ?_ ?_, .inl ⟨rfl, drained⟩⟩
      · constructor
        case returned => simp
        case entered => exact .inl unentered
        case unsent => exact fun _ => proper.unsent gathered.entered
        case attempts => exact proper.attempts
      · simp
  | false =>
      obtain ⟨content, unanswered⟩ := gathered.content queued
      have entered : upload.entered ++ (accessBranch (some body) 0).entered =
          [upload.chunks.flatten] := by
        simp [gathered.entered, accessBranch, queued, AccessBranch.entered, content]
      have limited : upload.chunks.flatten.length ≤ maxBody := by
        rw [← content, gathered.wellFormed.length_content]
        exact gathered.wellFormed.length_le
      rw [access_eq upload (run_httpAccessHandler_dispatch service.postgres environment _
        service.context service.jsonC upload.head body none queued)]
      refine ⟨.of_upload ?_ ?_, .inr ⟨limited, gathered.entered, _, rfl, entered, ?_⟩⟩
      · constructor
        case returned => simp only; split <;> simp
        case entered =>
          refine .inr ⟨?_, entered, limited⟩
          simp only
          split <;> simp
        case unsent =>
          intro none
          exact absurd (entered.symm.trans none) (by simp)
        case attempts =>
          refine (httpDispatch_attempts_le _ _ _ _ _ _).trans ?_
          simp [unanswered]
      · simp only
        split <;> simp
      · rw [gathered.fresh proper queued, content]
        rfl

end Access

section Signals

variable {κ : Type} [DecidableEq κ] {service : Service}

structure Daemon.Sound (daemon : Daemon κ) : Prop where
  slots : ∀ connection, (daemon.slots connection).Sound
  completed : ∀ upload ∈ daemon.completed, upload.Proper

/-- A callback leaves the database alone and enters nothing, or it is the last call of a
request, which is dispatched. -/
def Quiet (service : Service) (entry : Event (Signal κ) Unit (Daemon κ)) : Prop :=
  (entry.after.world = entry.before.world ∧
    ∀ upload, (entry.before.slots entry.input.connection).upload = some upload →
      ∀ after, (entry.after.slots entry.input.connection).upload = some after →
        after.entered = upload.entered) ∨
    ∃ upload, (entry.before.slots entry.input.connection).upload = some upload ∧
      entry.input.callback = .finish ∧
      Dispatched service entry.input.environment upload entry.before.world
        (entry.after.slots entry.input.connection, entry.after.world)

/-- A call that enters nothing and leaves the database alone. -/
theorem Service.access_quiet {connection : κ} {callback : Callback} {environment : Environment}
    {daemon : Daemon κ} {upload : Upload} {data : Option Bytes} {size : UInt64} {next : Phase}
    {conCls : Option PortalHttpRequestBody} (started : ∀ current,
      (daemon.slots connection).upload = some current → current.entered = upload.entered)
    (same : (service.access environment data size next conCls upload daemon.world).2 = daemon.world)
    (unentered : (accessBranch conCls size).entered = []) :
    Quiet service {
      input := { connection, callback, environment }
      before := daemon
      output := ()
      after := Service.answerCall connection daemon
        (service.access environment data size next conCls upload daemon.world) } := by
  refine .inl ⟨same, fun current held after left => ?_⟩
  simp only [Service.answerCall, Function.update_self, Service.access, Option.some.injEq] at left
  rw [← left, started current held, unentered, List.append_nil]

theorem Daemon.Sound.answerCall {daemon : Daemon κ} (sound : daemon.Sound) {connection : κ}
    {called : Slot × World} (slot : called.1.Sound) :
    (Service.answerCall connection daemon called).Sound where
  slots := by
    intro other
    by_cases same : other = connection
    · subst same
      simpa [Service.answerCall] using slot
    · simpa [Service.answerCall, Function.update_of_ne same] using sound.slots other
  completed := sound.completed

/-- The connection is free again, and nothing of the request is left in it. -/
theorem Daemon.Sound.release {daemon : Daemon κ} (sound : daemon.Sound) {connection : κ}
    {conCls : Option PortalHttpRequestBody} {upload : Upload} (proper : upload.Proper) :
    Daemon.Sound { daemon with
      slots := Function.update daemon.slots connection
        { conCls := httpRequestCompleted conCls, upload := none }
      completed := daemon.completed ++ [upload] } where
  slots := by
    intro other
    by_cases same : other = connection
    · subst same
      simp only [Function.update_self]
      exact ⟨fun _ => rfl, by simp, by simp⟩
    · simpa only [Function.update_of_ne same, ne_eq] using sound.slots other
  completed := by
    intro other member
    rcases List.mem_append.mp member with old | new
    · exact sound.completed other old
    · exact List.mem_singleton.mp new ▸ proper

/-- Every callback keeps every request as it should be. -/
theorem Daemon.Sound.signal {daemon : Daemon κ} (sound : daemon.Sound) (signal : Signal κ)
    (admitted : signal.callback.Admitted) :
    (service.signal signal daemon).Sound ∧
      Quiet service ((service.daemon κ).event signal daemon) := by
  obtain ⟨connection, callback, environment⟩ := signal
  have slot := sound.slots connection
  simp only [Machine.event, Service.daemon]
  have unmoved {after : Daemon κ} (same : after = daemon) : after.Sound ∧ Quiet service {
      input := { connection, callback, environment }, before := daemon, output := (), after } := by
    subst same
    refine ⟨sound, .inl ⟨rfl, fun upload held after left => ?_⟩⟩
    rw [Option.some.inj (held.symm.trans left)]
  cases started : (daemon.slots connection).upload with
  | none =>
      cases callback with
      | start head =>
          obtain ⟨after, same⟩ : Slot.Sound (service.access environment none 0 .receiving none
              (.begin head) daemon.world).1 ∧ _ := service.access_start head
          simp only [Service.signal, started, slot.idle started]
          exact ⟨sound.answerCall after, Service.access_quiet (by simp [started]) same rfl⟩
      | upload data => exact unmoved (by simp only [Service.signal, started])
      | finish => exact unmoved (by simp only [Service.signal, started])
      | completed => exact unmoved (by simp only [Service.signal, started])
  | some upload =>
      have proper := slot.proper upload started
      have current : ∀ other, (daemon.slots connection).upload = some other →
          other.entered = upload.entered :=
        fun other held => congrArg Upload.entered (Option.some.inj (held.symm.trans started))
      by_cases receiving : upload.phase = .receiving
      · obtain ⟨body, held, gathered⟩ := slot.gathered upload started receiving
        cases callback with
        | start head => exact unmoved (by simp only [Service.signal, started])
        | upload data =>
            obtain ⟨after, same⟩ : Slot.Sound (service.access environment (some data)
                (UInt64.ofNat data.length) .receiving (some body) (upload.extend data)
                daemon.world).1 ∧ _ := service.access_upload proper gathered admitted
            simp only [Service.signal, started, receiving, held, ↓reduceIte]
            exact ⟨sound.answerCall after,
              Service.access_quiet current same (accessBranch_unentered admitted _)⟩
        | finish =>
            obtain ⟨after, kept⟩ : Slot.Sound (service.access environment none 0 .received
                (some body) upload daemon.world).1 ∧ _ := service.access_finish proper gathered
            simp only [Service.signal, started, receiving, held, ↓reduceIte]
            refine ⟨sound.answerCall after, ?_⟩
            rcases kept with ⟨same, unentered⟩ | dispatched
            · exact Service.access_quiet current same unentered
            · exact .inr ⟨upload, started, rfl, by simpa [Service.answerCall] using dispatched⟩
        | completed =>
            simp only [Service.signal, started, proper.returned, ↓reduceIte]
            exact ⟨sound.release proper, .inl ⟨rfl, by simp⟩⟩
      · cases callback with
        | start head => exact unmoved (by simp only [Service.signal, started])
        | upload data =>
            exact unmoved (by simp only [Service.signal, started, receiving, ↓reduceIte])
        | finish =>
            exact unmoved (by simp only [Service.signal, started, receiving, ↓reduceIte])
        | completed =>
            simp only [Service.signal, started, proper.returned, ↓reduceIte]
            exact ⟨sound.release proper, .inl ⟨rfl, by simp⟩⟩

/-- The requests of a daemon: those in progress and those that are over. -/
def Daemon.Handles (daemon : Daemon κ) (upload : Upload) : Prop :=
  (∃ connection, (daemon.slots connection).upload = some upload) ∨ upload ∈ daemon.completed

/-- What holds of the requests of a server in every state it reaches, and of
every callback on the way there. -/
structure UploadsProper (service : Service) (entries : List (Event (Signal κ) Unit (Daemon κ)))
    (daemon : Daemon κ) : Prop where
  proper : ∀ upload, daemon.Handles upload → upload.Proper
  oversized : ∀ upload, daemon.Handles upload → maxBody < upload.chunks.flatten.length →
    upload.entered = [] ∧ upload.statements = 0
  quiet : ∀ entry ∈ entries, Quiet service entry

omit [DecidableEq κ] in
theorem Daemon.Sound.handled {daemon : Daemon κ} (sound : daemon.Sound) {upload : Upload}
    (handled : daemon.Handles upload) : upload.Proper := by
  rcases handled with ⟨connection, current⟩ | ended
  · exact (sound.slots connection).proper upload current
  · exact sound.completed upload ended

theorem Upload.Proper.oversized {upload : Upload} (proper : upload.Proper)
    (large : maxBody < upload.chunks.flatten.length) :
    upload.entered = [] ∧ upload.statements = 0 := by
  rcases proper.entered with unentered | ⟨_, _, limited⟩
  · exact ⟨unentered, proper.unsent unentered⟩
  · omega

theorem Daemon.Run.sound {entries : List (Event (Signal κ) Unit (Daemon κ))} {daemon : Daemon κ}
    (run : (service.daemon κ).Run entries daemon) : daemon.Sound := by
  have initially : ∀ daemon, (service.daemon κ).initial daemon → daemon.Sound := by
    intro daemon ⟨slots, completed⟩
    constructor
    · intro connection
      rw [slots]
      exact ⟨fun _ => rfl, by simp [Slot.idle], by simp [Slot.idle]⟩
    · simp [completed]
  have kept : ∀ signal daemon, (service.daemon κ).admits signal → daemon.Sound →
      ((service.daemon κ).step signal daemon).2.Sound :=
    fun signal daemon admitted sound => (sound.signal signal admitted).1
  exact run.invariant initially kept

end Signals

/-- In every schedule of callbacks every request is handled as it should be. -/
theorem uploads_proper {κ : Type} [DecidableEq κ] {service : Service}
    {entries : List (Event (Signal κ) Unit (Daemon κ))} {daemon : Daemon κ}
    (run : (service.daemon κ).Run entries daemon) : UploadsProper service entries daemon where
  proper upload handled := (Daemon.Run.sound run).handled handled
  oversized upload handled large := ((Daemon.Run.sound run).handled handled).oversized large
  quiet entry member := by
    obtain ⟨earlier, before, admitted, same⟩ := run.event_step entry member
    rw [same]
    exact ((Daemon.Run.sound before).signal entry.input admitted).2

namespace Reference

def quietStart : Daemon Nat where
  world := start
  slots _ := .idle
  completed := []

def head (method url : String) : RequestHead where
  method := bytes method
  url := bytes url
  lookup _ _ := none

def signals (callbacks : List (Nat × Callback)) : List (Signal Nat) :=
  callbacks.map fun callback =>
    { connection := callback.1, callback := callback.2, environment := environment 0 0 }

/-- The body of one connection comes in two parts, between them the one of another
that is given up; then the first connection is used again. -/
def interleaved : List (Nat × Callback) :=
  [(0, .start (head "POST" "/activity")), (1, .start (head "PUT" "/content/a/like")),
    (0, .upload (bytes "\x7b")), (1, .upload (bytes "[]")), (0, .upload (bytes "\x7d")),
    (1, .completed), (0, .finish), (0, .completed), (0, .start (head "GET" "/health")),
    (0, .finish), (0, .completed)]

theorem interleaved_admitted :
    ∀ signal ∈ signals interleaved, signal.callback.Admitted := by
  have opening : (Callback.upload (bytes "\x7b")).Admitted := ⟨by decide, by decide⟩
  have whole : (Callback.upload (bytes "[]")).Admitted := ⟨by decide, by decide⟩
  have closing : (Callback.upload (bytes "\x7d")).Admitted := ⟨by decide, by decide⟩
  simp only [signals, interleaved, List.map_cons, List.map_nil, List.forall_mem_cons]
  exact ⟨trivial, trivial, opening, whole, closing, trivial, trivial, trivial, trivial, trivial,
    trivial, by simp⟩

/-- The entries of those callbacks, and the daemon after them. -/
def server : List (Event (Signal Nat) Unit (Daemon Nat)) × Daemon Nat :=
  ((service []).daemon Nat).play quietStart (signals interleaved)

theorem server_run : ((service []).daemon Nat).Run server.1 server.2 := by
  have begins : ((service []).daemon Nat).Run [] quietStart := .start ⟨rfl, rfl⟩
  exact begins.play interleaved_admitted

end Reference

theorem uploads_proper_interleaved :
    UploadsProper (Reference.service []) Reference.server.1 Reference.server.2 ∧
      Reference.server.2.completed.map (·.entered) = [[], [bytes "\x7b\x7d"], [[]]] :=
  ⟨uploads_proper Reference.server_run, by decide +kernel⟩

end PortalApi
