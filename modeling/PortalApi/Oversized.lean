import PortalApi.Uploads
import PortalApi.Accounts

/-! Requests above the limit: the refusal is queued in a call that carries upload
data, where libmicrohttpd queues nothing. -/

set_option autoImplicit false

namespace PortalApi

open Library

/-- The response the client of a request gets. -/
def Upload.reply (upload : Upload) : Option Response :=
  (upload.attempts.find? fun attempt => attempt.2 = .yes).map (·.1)

def Daemon.reply {κ : Type} (daemon : Daemon κ) (connection : κ) : Option Response :=
  (daemon.slots connection).upload.bind Upload.reply

/-- A call that carries upload data cannot queue a response. -/
def Signal.Refuses {κ : Type} (signal : Signal κ) : Prop :=
  ∀ data, signal.callback = .upload data → signal.environment.queues = false

/-- The callbacks for one connection, in their order. -/
def callbacksOf {κ : Type} [DecidableEq κ] (connection : κ) (signals : List (Signal κ)) :
    List Callback :=
  (signals.filter fun signal => signal.connection = connection).map (·.callback)

/-- The callbacks of a request until its body is complete. -/
def requestCallbacks (head : RequestHead) (chunks : List Bytes) : List Callback :=
  .start head :: (chunks.map .upload ++ [.finish])

/-- A schedule that handles a request on a free connection, among any others. -/
structure Uploading {κ : Type} [DecidableEq κ] (daemon : Daemon κ) (connection : κ)
    (head : RequestHead) (chunks : List Bytes) (signals : List (Signal κ)) : Prop where
  free : (daemon.slots connection).upload = none
  callbacks : callbacksOf connection signals = requestCallbacks head chunks
  admitted : ∀ signal ∈ signals, signal.callback.Admitted
  refuses : ∀ signal ∈ signals, signal.Refuses

/-- A request that was not answered: it was given up, or its body holds what was sent. -/
structure Pending (slot : Slot) (sent : List Bytes) (upload : Upload) : Prop where
  current : slot.upload = some upload
  unanswered : upload.reply = none
  held : upload.phase = .closing ∨ upload.phase = .receiving ∧ ∃ body, slot.conCls = some body ∧
    body.WellFormed ∧ body.responseQueued = false ∧ body.content = sent.flatten

section Signals

variable {κ : Type} [DecidableEq κ] {service : Service} {daemon : Daemon κ} {connection : κ}

/-- A callback only concerns its own connection. -/
theorem Service.signal_other {signal : Signal κ} (other : signal.connection ≠ connection) :
    (service.signal signal daemon).slots connection = daemon.slots connection := by
  have apart : connection ≠ signal.connection := fun same => other same.symm
  unfold Service.signal
  simp only
  split
  · exact Function.update_of_ne apart _ _
  · split
    · exact Function.update_of_ne apart _ _
    · rfl
  · split
    · exact Function.update_of_ne apart _ _
    · rfl
  · split
    · rfl
    · exact Function.update_of_ne apart _ _
  · rfl

/-- Where nothing can be queued an attempt to answer fails and changes no reply. -/
theorem Exchange.answer_refused {environment : Environment} (refuses : environment.queues = false)
    (exchange : Exchange) (built : Bool) (response : Response) :
    (exchange.answer environment built response).1 = .no ∧
      (exchange.answer environment built response).2.reply = exchange.reply := by
  have result : environment.queueResult = .no := by simp [Environment.queueResult, refuses]
  cases built with
  | false => exact ⟨rfl, rfl⟩
  | true => simp [Exchange.answer, Exchange.reply, result]

theorem Slot.Sound.eq_idle {slot : Slot} (sound : slot.Sound) (free : slot.upload = none) :
    slot = .idle := by
  have released := sound.idle free
  obtain ⟨conCls, upload⟩ := slot
  simp only at free released
  rw [free, released]
  rfl

theorem Pending.start (head : RequestHead) (environment : Environment)
    (free : daemon.slots connection = .idle) :
    ∃ upload, Pending ((service.signal ⟨connection, .start head, environment⟩ daemon).slots
      connection) [] upload := by
  have ran := run_httpAccessHandler_first service.postgres environment
    { world := daemon.world, statements := 0, attempts := [] } service.context service.jsonC
    head none 0
  simp only [Service.signal, free, Slot.idle, Service.answerCall, Function.update_self]
  rw [Service.access_eq (.begin head) ran]
  refine ⟨_, rfl, rfl, ?_⟩
  cases environment.grants .requestBody with
  | false => exact .inl rfl
  | true =>
      exact .inr ⟨rfl, _, rfl, PortalHttpRequestBody.zeroed_wellFormed, rfl, rfl⟩

/-- A chunk is taken in, or the request is given up without a response. -/
theorem Pending.upload {sent : List Bytes} {upload : Upload} {data : Bytes}
    {environment : Environment} (pending : Pending (daemon.slots connection) sent upload)
    (admitted : (Callback.upload data).Admitted) (refuses : environment.queues = false) :
    ∃ after, Pending ((service.signal ⟨connection, .upload data, environment⟩ daemon).slots
      connection) (sent ++ [data]) after := by
  rcases pending.held with closing | ⟨receiving, body, held, wellFormed, unqueued, content⟩
  · refine ⟨upload, ?_, pending.unanswered, .inl closing⟩
    simp only [Service.signal, pending.current, closing, reduceCtorEq, ↓reduceIte]
  · simp only [Service.signal, pending.current, receiving, held, ↓reduceIte, Service.answerCall,
      Function.update_self]
    rcases run_httpAccessHandler_append service.postgres environment
      { world := daemon.world, statements := upload.statements, attempts := upload.attempts }
      service.context service.jsonC upload.head body wellFormed unqueued admitted.1 admitted.2 with
      ⟨appended, whole, extended, still, _, ran⟩ | ran
    · rw [Service.access_eq (upload.extend data) ran]
      refine ⟨_, rfl, pending.unanswered, .inr ⟨?_, appended, rfl, whole, still, ?_⟩⟩
      · simp
      · simp [extended, content]
    · rw [Service.access_eq (upload.extend data) ran]
      obtain ⟨failed, same⟩ := Exchange.answer_refused refuses
        { world := daemon.world, statements := upload.statements, attempts := upload.attempts }
        environment.reports payloadTooLarge
      exact ⟨_, rfl, same.trans pending.unanswered, .inl (by simp [failed])⟩

/-- The last call of a request above the limit is not made. -/
theorem Pending.finish {sent : List Bytes} {upload : Upload} {environment : Environment}
    (pending : Pending (daemon.slots connection) sent upload)
    (large : maxBody < sent.flatten.length) :
    service.signal ⟨connection, .finish, environment⟩ daemon = daemon := by
  rcases pending.held with closing | ⟨_, body, _, wellFormed, _, content⟩
  · simp only [Service.signal, pending.current, closing, reduceCtorEq, ↓reduceIte]
  · have limited := wellFormed.length_le
    rw [← wellFormed.length_content, content] at limited
    omega

theorem callbacksOf_cons_same {signal : Signal κ} {signals : List (Signal κ)}
    (same : signal.connection = connection) :
    callbacksOf connection (signal :: signals) =
      signal.callback :: callbacksOf connection signals := by
  simp [callbacksOf, same]

theorem callbacksOf_cons_other {signal : Signal κ} {signals : List (Signal κ)}
    (other : signal.connection ≠ connection) :
    callbacksOf connection (signal :: signals) = callbacksOf connection signals := by
  simp [callbacksOf, other]

theorem Service.play_others {signals : List (Signal κ)}
    (none : callbacksOf connection signals = []) :
    ((service.daemon κ).play daemon signals).2.slots connection = daemon.slots connection := by
  induction signals generalizing daemon with
  | nil => rfl
  | cons signal signals ih =>
      by_cases same : signal.connection = connection
      · simp [callbacksOf_cons_same same] at none
      · rw [callbacksOf_cons_other same] at none
        exact (ih none).trans (service.signal_other same)

/-- The rest of the callbacks for a request above the limit leave it unanswered. -/
theorem Pending.play {sent rest : List Bytes} {upload : Upload} {signals : List (Signal κ)}
    (pending : Pending (daemon.slots connection) sent upload)
    (callbacks : callbacksOf connection signals = rest.map .upload ++ [.finish])
    (large : maxBody < (sent ++ rest).flatten.length)
    (admitted : ∀ signal ∈ signals, signal.callback.Admitted)
    (refuses : ∀ signal ∈ signals, signal.Refuses) :
    ((service.daemon κ).play daemon signals).2.reply connection = none := by
  induction signals generalizing daemon sent rest upload with
  | nil => simp [callbacksOf] at callbacks
  | cons signal signals ih =>
      have later := fun other member => admitted other (List.mem_cons_of_mem signal member)
      have laterRefuses := fun other member => refuses other (List.mem_cons_of_mem signal member)
      by_cases same : signal.connection = connection
      · rw [callbacksOf_cons_same same] at callbacks
        obtain ⟨place, callback, environment⟩ := signal
        obtain rfl : place = connection := same
        cases rest with
        | nil =>
            obtain ⟨rfl, others⟩ := List.cons.inj callbacks
            have unmade : service.signal ⟨place, .finish, environment⟩ daemon = daemon :=
              pending.finish (by simpa using large)
            have kept : ((service.daemon κ).play
                (service.signal ⟨place, .finish, environment⟩ daemon) signals).2.slots place =
                  (service.signal ⟨place, .finish, environment⟩ daemon).slots place :=
              service.play_others others
            show ((((service.daemon κ).play
              (service.signal ⟨place, .finish, environment⟩ daemon) signals).2.slots
                place).upload).bind Upload.reply = none
            rw [kept, unmade, pending.current]
            exact pending.unanswered
        | cons data rest =>
            obtain ⟨rfl, following⟩ := List.cons.inj callbacks
            obtain ⟨after, next⟩ : ∃ after, Pending
                ((service.signal ⟨place, .upload data, environment⟩ daemon).slots place)
                (sent ++ [data]) after :=
              pending.upload (admitted _ List.mem_cons_self)
                (refuses _ List.mem_cons_self data rfl)
            exact ih next following (by simpa using large) later laterRefuses
      · rw [callbacksOf_cons_other same] at callbacks
        have unmoved : (service.signal signal daemon).slots connection = daemon.slots connection :=
          service.signal_other same
        exact ih (unmoved.symm ▸ pending) callbacks large later laterRefuses

theorem Uploading.unanswered {head : RequestHead} {chunks : List Bytes}
    {signals : List (Signal κ)} (sound : daemon.Sound)
    (uploading : Uploading daemon connection head chunks signals)
    (large : maxBody < chunks.flatten.length) :
    ((service.daemon κ).play daemon signals).2.reply connection = none := by
  obtain ⟨free, callbacks, admitted, refuses⟩ := uploading
  induction signals generalizing daemon with
  | nil => simp [callbacksOf, requestCallbacks] at callbacks
  | cons signal signals ih =>
      have next : (service.signal signal daemon).Sound :=
        (sound.signal signal (admitted _ List.mem_cons_self)).1
      have later := fun other member => admitted other (List.mem_cons_of_mem signal member)
      have laterRefuses := fun other member => refuses other (List.mem_cons_of_mem signal member)
      by_cases same : signal.connection = connection
      · rw [callbacksOf_cons_same same] at callbacks
        obtain ⟨place, callback, environment⟩ := signal
        obtain rfl : place = connection := same
        obtain ⟨rfl, following⟩ := List.cons.inj callbacks
        obtain ⟨upload, pending⟩ : ∃ upload, Pending
            ((service.signal ⟨place, .start head, environment⟩ daemon).slots place) [] upload :=
          Pending.start head environment ((sound.slots place).eq_idle free)
        exact pending.play following (by simpa using large) later laterRefuses
      · rw [callbacksOf_cons_other same] at callbacks
        have unmoved : (service.signal signal daemon).slots connection = daemon.slots connection :=
          service.signal_other same
        exact ih next (unmoved.symm ▸ free) callbacks later laterRefuses

end Signals

/-- The client of this connection was told that its body is too large. -/
def AnsweredTooLarge {κ : Type} (daemon : Daemon κ) (connection : κ) : Prop :=
  statusOf (daemon.reply connection) = some 413

/-- Every request above the limit is told so, however it is split into chunks. -/
def OversizedAnswered (service : Service) : Prop :=
  ∀ (κ : Type) [DecidableEq κ] (entries : List (Event (Signal κ) Unit (Daemon κ)))
    (daemon : Daemon κ) (connection : κ) (head : RequestHead) (chunks : List Bytes)
    (signals : List (Signal κ)), (service.daemon κ).Run entries daemon →
      Uploading daemon connection head chunks signals → maxBody < chunks.flatten.length →
      AnsweredTooLarge ((service.daemon κ).play daemon signals).2 connection

/-- No request above the limit gets its `413`: it gets no response. -/
theorem oversized_unanswered {κ : Type} [DecidableEq κ] {service : Service}
    {entries : List (Event (Signal κ) Unit (Daemon κ))} {daemon : Daemon κ} {connection : κ}
    {head : RequestHead} {chunks : List Bytes} {signals : List (Signal κ)}
    (run : (service.daemon κ).Run entries daemon)
    (uploading : Uploading daemon connection head chunks signals)
    (large : maxBody < chunks.flatten.length) :
    ((service.daemon κ).play daemon signals).2.reply connection = none ∧
      ¬ AnsweredTooLarge ((service.daemon κ).play daemon signals).2 connection := by
  have silent : ((service.daemon κ).play daemon signals).2.reply connection = none :=
    uploading.unanswered (Daemon.Run.sound run) large
  refine ⟨silent, ?_⟩
  intro answered
  rw [AnsweredTooLarge, silent] at answered
  cases answered

namespace Reference

/-- A body of the greatest size that is accepted, and one byte more. -/
def excess : List Bytes := [List.replicate maxBody 32, [32]]

def refusing : Environment := { environment 0 0 with queues := false }

/-- The callbacks of one connection with that body, when its chunks come. -/
def sending : List (Signal Nat) :=
  [{ connection := 0, callback := .start (head "POST" "/activity"), environment := environment 0 0 },
    { connection := 0, callback := .upload (List.replicate maxBody 32), environment := refusing },
    { connection := 0, callback := .upload [32], environment := refusing },
    { connection := 0, callback := .finish, environment := environment 0 0 }]

theorem blanks_admitted : (Callback.upload (List.replicate maxBody 32)).Admitted := by
  have size : (List.replicate maxBody (32 : UInt8)).length = maxBody := List.length_replicate
  constructor
  · intro empty
    rw [empty] at size
    cases size
  · rw [size]
    decide

theorem sending_uploading : Uploading quietStart 0 (head "POST" "/activity") excess sending where
  free := rfl
  callbacks := rfl
  admitted := by
    have blank : (Callback.upload [32]).Admitted := ⟨by simp, by decide⟩
    simp only [sending, List.forall_mem_cons]
    exact ⟨trivial, blanks_admitted, blank, trivial, by simp⟩
  refuses := by
    simp only [sending, List.forall_mem_cons]
    exact ⟨nofun, fun _ _ => rfl, fun _ _ => rfl, nofun, by simp⟩

theorem excess_large : maxBody < excess.flatten.length := by simp [excess]

theorem quietStart_run : ((service []).daemon Nat).Run [] quietStart := .start ⟨rfl, rfl⟩

end Reference

theorem oversized_unanswered_sending :
    (((Reference.service []).daemon Nat).play Reference.quietStart Reference.sending).2.reply 0 =
        none ∧
      ¬ AnsweredTooLarge
        (((Reference.service []).daemon Nat).play Reference.quietStart Reference.sending).2 0 :=
  oversized_unanswered Reference.quietStart_run Reference.sending_uploading Reference.excess_large

/-- One byte above the limit the connection is closed without a word. -/
theorem oversized_refused : ¬ OversizedAnswered (Reference.service []) := by
  intro answered
  have told := answered Nat [] Reference.quietStart 0 _ _ Reference.sending
    Reference.quietStart_run Reference.sending_uploading Reference.excess_large
  have silent : (((Reference.service []).daemon Nat).play Reference.quietStart
      Reference.sending).2.reply 0 = none :=
    Reference.sending_uploading.unanswered (Daemon.Run.sound Reference.quietStart_run)
      Reference.excess_large
  rw [AnsweredTooLarge, silent] at told
  cases told

end PortalApi
