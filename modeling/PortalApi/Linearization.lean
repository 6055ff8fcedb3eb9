import PortalApi.Library.Refinement
import PortalApi.Oversized

/-! The server refines the service: whatever the schedule of the callbacks, the
database and every reply are those of serving the dispatched requests one after
the other, each at its last callback. -/

set_option autoImplicit false

namespace PortalApi

open Library

section Server

variable {κ : Type} [DecidableEq κ] (service : Service)

/-- The server from the first start of the service on. -/
def Service.server (admits : Environment → Prop) (κ : Type) [DecidableEq κ] :
    Machine (Signal κ) Unit (Daemon κ) where
  initial daemon :=
    (service.machine admits).initial daemon.world ∧ (service.daemon κ).initial daemon
  admits signal := (service.daemon κ).admits signal ∧ admits signal.environment
  step := (service.daemon κ).step

/-- The request that a callback dispatches, with its surroundings. -/
def Service.dispatched (signal : Signal κ) (daemon : Daemon κ) : Option Call :=
  let slot := daemon.slots signal.connection
  match signal.callback, slot.upload with
  | .finish, some upload =>
    if upload.phase = .receiving then
      match accessBranch slot.conCls 0 with
      | .dispatch body =>
        some { request := upload.head.request body.content, environment := signal.environment }
      | _ => none
    else none
  | _, _ => none

/-- The service sees the database of the server and the requests it dispatches. -/
def Service.view (κ : Type) : View (Signal κ) (Daemon κ) Call World where
  state daemon := daemon.world
  input := Service.dispatched

/-- The entries of the service during the callbacks of a run of the server. -/
abbrev Service.served (admits : Environment → Prop)
    (entries : List (Event (Signal κ) Unit (Daemon κ))) : List Service.Entry :=
  (Service.view κ).events (service.machine admits) entries

end Server

/-- A request that was dispatched, as its client sent it and was answered. -/
def Upload.outcome (upload : Upload) : Option (Request × Option Response) :=
  if upload.entered = [] then none
  else some (upload.head.request upload.chunks.flatten, upload.reply)

def Slot.outcome (slot : Slot) : Option (Request × Option Response) := slot.upload.bind Upload.outcome

/-- A request that was not dispatched: it was at most told that it is too large. -/
structure Upload.Refused (upload : Upload) : Prop where
  entered : upload.entered = []
  attempts : ∀ attempt ∈ upload.attempts, attempt.1 = payloadTooLarge

theorem Upload.Refused.outcome {upload : Upload} (refused : upload.Refused) :
    upload.outcome = none := by
  simp [Upload.outcome, refused.entered]

theorem Upload.Refused.reply {upload : Upload} (refused : upload.Refused) :
    upload.reply = none ∨ upload.reply = some payloadTooLarge := by
  unfold Upload.reply
  cases found : upload.attempts.find? fun attempt => attempt.2 = .yes with
  | none => exact .inl rfl
  | some attempt =>
      have told := refused.attempts attempt (List.mem_of_find?_eq_some found)
      exact .inr (congrArg some told)

section Access

variable {service : Service} {environment : Environment} {world : World} {upload : Upload}
  {body : PortalHttpRequestBody}

/-- What one call of the access handler leaves of its request, when nothing is dispatched. -/
structure Gathers (called : Slot × World) (world : World) : Prop where
  refused : ∃ upload, called.1.upload = some upload ∧ upload.Refused
  world : called.2 = world

theorem Gathers.first (head : RequestHead) :
    Gathers (service.access environment none 0 .receiving none (.begin head) world) world := by
  rw [Service.access_eq _ (run_httpAccessHandler_first service.postgres environment _
    service.context service.jsonC head none 0)]
  exact ⟨⟨_, rfl, rfl, by simp [Upload.begin]⟩, rfl⟩

theorem Exchange.answer_attempts_mem {exchange : Exchange} {built : Bool} {response : Response}
    (only : ∀ attempt ∈ exchange.attempts, attempt.1 = response) :
    ∀ attempt ∈ (exchange.answer environment built response).2.attempts, attempt.1 = response := by
  intro attempt member
  cases built with
  | false => exact only attempt member
  | true =>
      rcases List.mem_append.mp member with earlier | added
      · exact only attempt earlier
      · rw [List.mem_singleton.mp added]

theorem Gathers.drain {data : Option Bytes} {size : UInt64} {next : Phase}
    (refused : upload.Refused) (queued : body.responseQueued = true) :
    Gathers (service.access environment data size next (some body) upload world) world := by
  have unentered : (accessBranch (some body) size).entered = [] := by
    simp [accessBranch, queued, AccessBranch.entered]
  rw [Service.access_eq upload (run_httpAccessHandler_drain service.postgres environment _
    service.context service.jsonC upload.head body data size queued)]
  refine ⟨⟨_, rfl, ?_, refused.attempts⟩, rfl⟩
  simp [refused.entered, unentered]

theorem Gathers.append {data : Bytes} (refused : upload.Refused) (gathered : upload.Gathered body)
    (queued : body.responseQueued = false) (admitted : (Callback.upload data).Admitted) :
    Gathers (service.access environment (some data) (UInt64.ofNat data.length) .receiving
      (some body) (upload.extend data) world) world := by
  have unentered : upload.entered ++ (accessBranch (some body) (UInt64.ofNat data.length)).entered =
      [] := by
    rw [accessBranch_unentered admitted, refused.entered, List.append_nil]
  rcases run_httpAccessHandler_append service.postgres environment
    { world, statements := upload.statements, attempts := upload.attempts } service.context
    service.jsonC upload.head body gathered.wellFormed queued admitted.1 admitted.2 with
    ⟨appended, _, _, _, _, ran⟩ | ran
  · rw [Service.access_eq (upload.extend data) ran]
    exact ⟨⟨_, rfl, unentered, refused.attempts⟩, rfl⟩
  · rw [Service.access_eq (upload.extend data) ran]
    exact ⟨⟨_, rfl, unentered, Exchange.answer_attempts_mem refused.attempts⟩,
      Exchange.answer_world _ _ _ _⟩

/-- What the last call leaves: the request was served as by the service alone. -/
structure Serves (service : Service) (call : Call) (world : World) (called : Slot × World) :
    Prop where
  outcome : called.1.outcome = some (call.request, (service.serve call world).1)
  world : called.2 = (service.serve call world).2

theorem Serves.finish (proper : upload.Proper) (gathered : upload.Gathered body)
    (queued : body.responseQueued = false) :
    Serves service { request := upload.head.request body.content, environment } world
      (service.access environment none 0 .received (some body) upload world) := by
  obtain ⟨content, _⟩ := gathered.content queued
  have entered : upload.entered ++ (accessBranch (some body) 0).entered ≠ [] := by
    simp [gathered.entered, accessBranch, queued, AccessBranch.entered]
  rw [Service.access_eq upload (run_httpAccessHandler_dispatch service.postgres environment _
    service.context service.jsonC upload.head body none queued), gathered.fresh proper queued]
  constructor
  · simp only [Slot.outcome, Option.bind_some, Upload.outcome, entered, ↓reduceIte, content]
    rfl
  · rfl

end Access

section Steps

variable {κ : Type} [DecidableEq κ] {service : Service} {daemon : Daemon κ} {signal : Signal κ}

/-- Every request of the server is as it should be, and tells the truth. -/
structure Daemon.Faithful (daemon : Daemon κ) : Prop where
  sound : daemon.Sound
  refused : ∀ upload, daemon.Handles upload → upload.entered = [] → upload.Refused

/-- All that a callback can do, with the request it dispatches, if any. -/
inductive Moves (service : Service) (signal : Signal κ) (daemon : Daemon κ) :
    Option Call → Daemon κ → Prop where
  | ignored : Moves service signal daemon none daemon
  | began {called : Slot × World} : (daemon.slots signal.connection).upload = none →
      Gathers called daemon.world →
      Moves service signal daemon none (Service.answerCall signal.connection daemon called)
  | gathered {upload : Upload} {called : Slot × World} :
      (daemon.slots signal.connection).upload = some upload → upload.Refused →
      Gathers called daemon.world →
      Moves service signal daemon none (Service.answerCall signal.connection daemon called)
  | served {upload : Upload} {call : Call} {called : Slot × World} :
      (daemon.slots signal.connection).upload = some upload → upload.Refused →
      call.environment = signal.environment → Serves service call daemon.world called →
      Moves service signal daemon (some call)
        (Service.answerCall signal.connection daemon called)
  | released {upload : Upload} : (daemon.slots signal.connection).upload = some upload →
      Moves service signal daemon none { daemon with
        slots := Function.update daemon.slots signal.connection .idle
        completed := daemon.completed ++ [upload] }

theorem Daemon.Faithful.moves (faithful : daemon.Faithful) (service : Service) (signal : Signal κ)
    (admitted : signal.callback.Admitted) :
    Moves service signal daemon (Service.dispatched signal daemon)
      (service.signal signal daemon) := by
  obtain ⟨connection, callback, environment⟩ := signal
  have slot := faithful.sound.slots connection
  cases started : (daemon.slots connection).upload with
  | none =>
      cases callback with
      | start head =>
          simp only [Service.signal, Service.dispatched, started, slot.idle started]
          exact .began started (.first head)
      | upload data =>
          simp only [Service.signal, Service.dispatched, started]
          exact .ignored
      | finish =>
          simp only [Service.signal, Service.dispatched, started]
          exact .ignored
      | completed =>
          simp only [Service.signal, Service.dispatched, started]
          exact .ignored
  | some upload =>
      have proper := slot.proper upload started
      cases callback with
      | start head =>
          simp only [Service.signal, Service.dispatched, started]
          exact .ignored
      | completed =>
          simp only [Service.signal, Service.dispatched, started, proper.returned, ↓reduceIte]
          exact .released started
      | upload data =>
          by_cases receiving : upload.phase = .receiving
          · obtain ⟨body, held, gathered⟩ := slot.gathered upload started receiving
            have refused := faithful.refused upload (.inl ⟨connection, started⟩) gathered.entered
            simp only [Service.signal, Service.dispatched, started, receiving, held, ↓reduceIte]
            cases queued : body.responseQueued with
            | true =>
                have extended : (upload.extend data).Refused := ⟨refused.entered, refused.attempts⟩
                exact .gathered started refused (.drain extended queued)
            | false => exact .gathered started refused (.append refused gathered queued admitted)
          · simp only [Service.signal, Service.dispatched, started, receiving, ↓reduceIte]
            exact .ignored
      | finish =>
          by_cases receiving : upload.phase = .receiving
          · obtain ⟨body, held, gathered⟩ := slot.gathered upload started receiving
            have refused := faithful.refused upload (.inl ⟨connection, started⟩) gathered.entered
            cases queued : body.responseQueued with
            | true =>
                have branch : accessBranch (some body) 0 = .drain body := by
                  simp [accessBranch, queued]
                simp only [Service.signal, Service.dispatched, started, receiving, held, branch,
                  ↓reduceIte]
                exact .gathered started refused (.drain refused queued)
            | false =>
                have branch : accessBranch (some body) 0 = .dispatch body := by
                  simp [accessBranch, queued]
                simp only [Service.signal, Service.dispatched, started, receiving, held, branch,
                  ↓reduceIte]
                exact .served started refused rfl (.finish proper gathered queued)
          · simp only [Service.signal, Service.dispatched, started, receiving, ↓reduceIte]
            exact .ignored

/-- After a call of the access handler only its own connection is another. -/
theorem Daemon.handles_answerCall {connection : κ} {called : Slot × World} {upload : Upload}
    (handled : (Service.answerCall connection daemon called).Handles upload) :
    called.1.upload = some upload ∨ daemon.Handles upload := by
  rcases handled with ⟨place, current⟩ | ended
  · by_cases same : place = connection
    · subst same
      exact .inl (by simpa [Service.answerCall] using current)
    · exact .inr (.inl ⟨place, by simpa [Service.answerCall, same] using current⟩)
  · exact .inr (.inr ended)

theorem Gathers.refused_of {called : Slot × World} {world : World} {upload : Upload}
    (gathers : Gathers called world) (current : called.1.upload = some upload) :
    upload.Refused := by
  obtain ⟨other, held, refused⟩ := gathers.refused
  exact Option.some.inj (held.symm.trans current) ▸ refused

/-- Every callback keeps every request as it should be. -/
theorem Daemon.Faithful.kept (faithful : daemon.Faithful) (admitted : signal.callback.Admitted) :
    (service.signal signal daemon).Faithful := by
  refine ⟨(faithful.sound.signal signal admitted).1, ?_⟩
  have moves := faithful.moves service signal admitted
  generalize service.signal signal daemon = after at moves
  generalize Service.dispatched signal daemon = call at moves
  intro upload handled unentered
  cases moves with
  | ignored => exact faithful.refused upload handled unentered
  | began _ gathers =>
      rcases Daemon.handles_answerCall handled with current | before
      · exact gathers.refused_of current
      · exact faithful.refused upload before unentered
  | gathered _ _ gathers =>
      rcases Daemon.handles_answerCall handled with current | before
      · exact gathers.refused_of current
      · exact faithful.refused upload before unentered
  | served _ _ _ serves =>
      rcases Daemon.handles_answerCall handled with current | before
      · have outcome := serves.outcome
        simp [Slot.outcome, current, Upload.outcome, unentered] at outcome
      · exact faithful.refused upload before unentered
  | released started =>
      rcases handled with ⟨place, current⟩ | ended
      · by_cases same : place = signal.connection
        · subst same
          simp [Slot.idle] at current
        · exact faithful.refused upload (.inl ⟨place, by simpa [same] using current⟩) unentered
      · rcases List.mem_append.mp ended with earlier | added
        · exact faithful.refused upload (.inr earlier) unentered
        · obtain rfl := List.mem_singleton.mp added
          exact faithful.refused upload (.inl ⟨_, started⟩) unentered

theorem Service.initial_faithful (initial : (service.daemon κ).initial daemon) :
    daemon.Faithful := by
  have sound : daemon.Sound := Daemon.Run.sound (.start initial)
  obtain ⟨slots, completed⟩ := initial
  refine ⟨sound, ?_⟩
  rintro upload (⟨place, current⟩ | ended) _
  · simp [slots, Slot.idle] at current
  · simp [completed] at ended

/-- The server refines the service. -/
theorem Service.server_refines {admits : Environment → Prop} :
    Refines (service.server admits κ) (service.machine admits) (Service.view κ)
      Daemon.Faithful where
  initial daemon initial := ⟨Service.initial_faithful initial.2, initial.1⟩
  kept signal daemon admitted faithful := faithful.kept admitted.1
  silent signal daemon admitted faithful none := by
    have moves := faithful.moves service signal admitted.1
    simp only [Service.view] at none
    rw [none] at moves
    simp only [Service.view, Service.server, Service.daemon]
    generalize service.signal signal daemon = after at moves
    cases moves with
    | ignored => rfl
    | began _ gathers => exact gathers.world
    | gathered _ _ gathers => exact gathers.world
    | released _ => rfl
  active signal daemon call admitted faithful some := by
    have moves := faithful.moves service signal admitted.1
    simp only [Service.view] at some
    rw [some] at moves
    simp only [Service.view, Service.server, Service.daemon]
    generalize service.signal signal daemon = after at moves
    cases moves with
    | served _ _ environment serves =>
        refine ⟨?_, serves.world⟩
        show admits call.environment
        exact environment ▸ admitted.2

end Steps

section Outcomes

variable {κ : Type} [DecidableEq κ] {service : Service} {daemon : Daemon κ} {signal : Signal κ}

/-- The connections that carry a request. -/
structure Daemon.Busy (daemon : Daemon κ) (connections : List κ) : Prop where
  nodup : connections.Nodup
  mem_iff : ∀ connection, connection ∈ connections ↔ (daemon.slots connection).upload ≠ none

/-- The dispatched requests of a daemon, those over and those in progress. -/
def Daemon.outcomes (daemon : Daemon κ) (connections : List κ) :
    List (Request × Option Response) :=
  daemon.completed.filterMap Upload.outcome ++
    connections.filterMap fun connection => (daemon.slots connection).outcome

omit [DecidableEq κ] in
theorem filterMap_slots {α : Type} {connections : List κ} {before after : κ → Option α}
    (same : ∀ connection ∈ connections, after connection = before connection) :
    connections.filterMap after = connections.filterMap before :=
  List.filterMap_congr same

/-- The outcomes with those of one connection put first. -/
theorem Daemon.outcomes_perm (daemon : Daemon κ) {connections : List κ} {connection : κ}
    (present : connection ∈ connections) :
    (daemon.outcomes connections).Perm
      (daemon.outcomes (connections.erase connection) ++
        (daemon.slots connection).outcome.toList) := by
  have moved := (List.perm_cons_erase present).filterMap
    fun connection => (daemon.slots connection).outcome
  unfold Daemon.outcomes
  rw [List.append_assoc]
  refine List.Perm.append_left _ (moved.trans ?_)
  cases held : (daemon.slots connection).outcome with
  | none => simp [held]
  | some outcome =>
      simp only [List.filterMap_cons, held, Option.toList_some]
      exact List.perm_append_singleton outcome _ |>.symm

/-- A call of the access handler leaves the outcomes of the other connections. -/
theorem Daemon.outcomes_others {connections : List κ} {connection : κ} {called : Slot × World}
    (apart : connection ∉ connections) :
    (Service.answerCall connection daemon called).outcomes connections =
      daemon.outcomes connections := by
  unfold Daemon.outcomes
  congr 1
  refine filterMap_slots fun other member => ?_
  have different : other ≠ connection := fun same => apart (same ▸ member)
  simp [Service.answerCall, different]

/-- A call for a connection whose request was not dispatched adds what it serves. -/
theorem Daemon.outcomes_call {connections : List κ} {connection : κ} (called : Slot × World)
    (nodup : connections.Nodup) (present : connection ∈ connections)
    (undispatched : (daemon.slots connection).outcome = none) :
    ((Service.answerCall connection daemon called).outcomes connections).Perm
      (daemon.outcomes connections ++ called.1.outcome.toList) := by
  have after := (Service.answerCall connection daemon called).outcomes_perm present
  have before := daemon.outcomes_perm present
  rw [undispatched, Option.toList_none, List.append_nil] at before
  have current : ((Service.answerCall connection daemon called).slots connection).outcome =
      called.1.outcome := by simp [Service.answerCall]
  rw [Daemon.outcomes_others nodup.not_mem_erase, current] at after
  exact after.trans (before.symm.append_right _)

theorem Daemon.Busy.call {connections : List κ} {connection : κ} {called : Slot × World}
    {upload : Upload} (busy : daemon.Busy connections) (present : connection ∈ connections)
    (current : called.1.upload = some upload) :
    (Service.answerCall connection daemon called).Busy connections where
  nodup := busy.nodup
  mem_iff := by
    intro other
    by_cases same : other = connection
    · subst same
      simp [Service.answerCall, current, present]
    · simp [Service.answerCall, same, busy.mem_iff]

/-- The outcome that a callback adds: that of the request it dispatches. -/
def Service.added (service : Service) (call : Option Call) (world : World) :
    List (Request × Option Response) :=
  (call.map fun call => (call.request, (service.serve call world).1)).toList

theorem Moves.outcomes {call : Option Call} {after : Daemon κ} {connections : List κ}
    (moves : Moves service signal daemon call after) (busy : daemon.Busy connections) :
    ∃ others, after.Busy others ∧
      (after.outcomes others).Perm
        (daemon.outcomes connections ++ service.added call daemon.world) := by
  cases moves with
  | ignored => exact ⟨connections, busy, by simp [Service.added]⟩
  | @began called free gathers =>
      obtain ⟨upload, current, refused⟩ := gathers.refused
      have absent : signal.connection ∉ connections := by simp [busy.mem_iff, free]
      have unserved : called.1.outcome = none := by
        simp [Slot.outcome, current, refused.outcome]
      refine ⟨signal.connection :: connections, ⟨?_, ?_⟩, ?_⟩
      · exact List.nodup_cons.mpr ⟨absent, busy.nodup⟩
      · intro other
        by_cases same : other = signal.connection
        · subst same
          simp [Service.answerCall, current]
        · simp [Service.answerCall, same, busy.mem_iff]
      · have others : (Service.answerCall signal.connection daemon called).outcomes
            (signal.connection :: connections) =
              (Service.answerCall signal.connection daemon called).outcomes connections := by
          unfold Daemon.outcomes
          simp [Service.answerCall, unserved]
        rw [others, Daemon.outcomes_others absent]
        simp [Service.added]
  | @gathered before called started refused gathers =>
      obtain ⟨upload, current, later⟩ := gathers.refused
      have present : signal.connection ∈ connections := by simp [busy.mem_iff, started]
      have undispatched : (daemon.slots signal.connection).outcome = none := by
        simp [Slot.outcome, started, refused.outcome]
      have added := Daemon.outcomes_call called busy.nodup present undispatched
      have unserved : called.1.outcome = none := by
        simp [Slot.outcome, current, later.outcome]
      refine ⟨connections, busy.call present current, ?_⟩
      simpa [Service.added, unserved] using added
  | @served before call called started refused _ serves =>
      have present : signal.connection ∈ connections := by simp [busy.mem_iff, started]
      have undispatched : (daemon.slots signal.connection).outcome = none := by
        simp [Slot.outcome, started, refused.outcome]
      have added := Daemon.outcomes_call called busy.nodup present undispatched
      obtain ⟨upload, current, _⟩ := Option.bind_eq_some_iff.mp serves.outcome
      refine ⟨connections, busy.call present current, ?_⟩
      simpa [Service.added, serves.outcome] using added
  | @released upload started =>
      have present : signal.connection ∈ connections := by simp [busy.mem_iff, started]
      have before := daemon.outcomes_perm present
      have held : (daemon.slots signal.connection).outcome = upload.outcome := by
        simp [Slot.outcome, started]
      refine ⟨connections.erase signal.connection, ⟨busy.nodup.erase _, ?_⟩, ?_⟩
      · intro other
        rw [busy.nodup.mem_erase_iff]
        by_cases same : other = signal.connection
        · subst same
          simp [Slot.idle]
        · simp [same, busy.mem_iff]
      · have others : (connections.erase signal.connection).filterMap (fun connection =>
            (Function.update daemon.slots signal.connection .idle connection).outcome) =
              (connections.erase signal.connection).filterMap
                fun connection => (daemon.slots connection).outcome := by
          refine filterMap_slots fun other member => ?_
          have different : other ≠ signal.connection :=
            (busy.nodup.mem_erase_iff.mp member).1
          simp [different]
        have ended : (daemon.completed ++ [upload]).filterMap Upload.outcome =
            daemon.completed.filterMap Upload.outcome ++ upload.outcome.toList := by
          cases outcome : upload.outcome <;> simp [outcome]
        simp only [Daemon.outcomes, Service.added, Option.map_none, Option.toList_none,
          List.append_nil, others, ended]
        rw [held] at before
        refine List.Perm.trans ?_ before.symm
        rw [Daemon.outcomes, List.append_assoc, List.append_assoc]
        exact List.Perm.append_left _ List.perm_append_comm

end Outcomes

/-- What the clients and the database see of a run of the server is a run of the
service that serves every dispatched request once. -/
structure Linearized {κ : Type} [DecidableEq κ] (service : Service) (admits : Environment → Prop)
    (entries : List (Event (Signal κ) Unit (Daemon κ))) (daemon : Daemon κ) : Prop where
  run : service.Run admits (service.served admits entries) daemon.world
  outcomes : ∃ connections, daemon.Busy connections ∧ (daemon.outcomes connections).Perm
    ((service.served admits entries).map fun entry => (entry.input.request, entry.output))
  undispatched : ∀ upload, daemon.Handles upload → upload.outcome = none →
    upload.reply = none ∨ upload.reply = some payloadTooLarge

section Server

variable {κ : Type} [DecidableEq κ] {service : Service} {admits : Environment → Prop}
  {entries : List (Event (Signal κ) Unit (Daemon κ))} {daemon : Daemon κ}

theorem Service.served_outcome (signal : Signal κ) (daemon : Daemon κ) :
    ((Service.view κ).event (service.machine admits)
        ((service.server admits κ).event signal daemon)).toList.map
          (fun entry => (entry.input.request, entry.output)) =
      service.added (Service.dispatched signal daemon) daemon.world := by
  simp only [View.event, Service.view, Machine.event, Service.added]
  cases Service.dispatched signal daemon <;> rfl

theorem Service.server_outcomes (run : (service.server admits κ).Run entries daemon) :
    ∃ connections, daemon.Busy connections ∧ (daemon.outcomes connections).Perm
      ((service.served admits entries).map fun entry => (entry.input.request, entry.output)) := by
  induction run with
  | @start daemon initial =>
      obtain ⟨_, slots, completed⟩ := initial
      refine ⟨[], ⟨List.nodup_nil, ?_⟩, ?_⟩
      · simp [slots, Slot.idle]
      · simp [Daemon.outcomes, completed, View.events]
  | @next events daemon signal before admitted ih =>
      obtain ⟨connections, busy, outcomes⟩ := ih
      have faithful : daemon.Faithful := Service.server_refines.invariant_run before
      obtain ⟨others, still, moved⟩ :=
        (faithful.moves service signal admitted.1).outcomes busy
      refine ⟨others, still, moved.trans ?_⟩
      rw [Service.served, View.events_concat, List.map_append, Service.served_outcome]
      exact outcomes.append_right _

end Server

/-- Callbacks of any number of connections in any order come to the same as
serving the dispatched requests one after the other. -/
theorem server_linearized {κ : Type} [DecidableEq κ] {service : Service}
    {admits : Environment → Prop} {entries : List (Event (Signal κ) Unit (Daemon κ))}
    {daemon : Daemon κ} (run : (service.server admits κ).Run entries daemon) :
    Linearized service admits entries daemon where
  run := Service.server_refines.run run
  outcomes := Service.server_outcomes run
  undispatched := by
    intro upload handled none
    have faithful : daemon.Faithful := Service.server_refines.invariant_run run
    have unentered : upload.entered = [] := by
      by_contra entered
      simp [Upload.outcome, entered] at none
    exact (faithful.refused upload handled unentered).reply

namespace Reference

/-- The server over those callbacks, from the first start of the service on. -/
def fresh : List (Event (Signal Nat) Unit (Daemon Nat)) × Daemon Nat :=
  ((service []).server Environment.Healthy Nat).play quietStart (signals interleaved)

theorem fresh_run : ((service []).server Environment.Healthy Nat).Run fresh.1 fresh.2 := by
  have begins : ((service []).server Environment.Healthy Nat).Run [] quietStart :=
    .start ⟨⟨rfl, rfl⟩, rfl, rfl⟩
  refine begins.play fun signal member => ⟨interleaved_admitted signal member, ?_⟩
  obtain ⟨callback, _, rfl⟩ := List.mem_map.mp member
  exact environment_healthy 0 0

end Reference

theorem server_linearized_interleaved :
    Linearized (Reference.service []) Environment.Healthy Reference.fresh.1 Reference.fresh.2 ∧
      ((Reference.service []).served Environment.Healthy Reference.fresh.1).map
        (·.input.request.body) = [bytes "\x7b\x7d", []] :=
  ⟨server_linearized Reference.fresh_run, by decide +kernel⟩

end PortalApi
