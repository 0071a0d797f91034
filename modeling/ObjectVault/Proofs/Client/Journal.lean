import ObjectVault.Proofs.Client.Replies

/-!
# The journal of a request

A backend may report events of its own. `Backend.silenced` is the same backend without them, so that
what is reported over it is what the client and its session report themselves.

`Reception.journal` is that report for an order, by how the order is received, and
`run_execute_silenced` says that no run of an order reports anything else. `journal_accounts` reads
the reply off it: which events there are, in which order, and which of them are warnings.
-/

namespace ObjectVault

/-! ### Silenced backends -/

namespace Action

variable {σ α : Type}

def silenced (action : Action σ α) : Action σ α := fun state =>
  ⟨(action.run state).value, (action.run state).state, []⟩

/-- An action that is silenced gives the same value and state, and no events. -/
theorem run_silenced {action : Action σ α} {value : α} {s s₁ : σ} {e : List Event}
    (runs : action.run s = ⟨value, s₁, e⟩) : action.silenced.run s = ⟨value, s₁, []⟩ := by
  simp only [silenced, run] at runs ⊢
  rw [runs]

end Action

/-- The backend that answers as `backend` does, and reports nothing. -/
def Backend.silenced {σ κ ς : Type} (backend : Backend σ κ ς) : Backend σ κ ς where
  connect := backend.connect.silenced
  openSession context service login := (backend.openSession context service login).silenced
  invoke session number op := (backend.invoke session number op).silenced
  closeSession context session := (backend.closeSession context session).silenced
  finalize context := (backend.finalize context).silenced

namespace Event

/-- Whether an event marks how far a session has come: that it is open, that it is closed, or that
its command is over. -/
def marksSession : Event → Bool
  | .sessionOpened .. | .sessionClosed | .commandCompleted .. => true
  | _ => false

def warningsAmong (events : List Event) : List Event := events.filter fun event => event.level = .warn

end Event

namespace Client

open Event (warningsAmong)

/-! ### What is reported over an open session -/

namespace Response

/-- Whether a read is answered with a buffer that is too short. -/
def RunsShort (response : Response) (order : Order) : Prop :=
  order.command = .readRaw ∧ ∃ failure, response.answer = .error failure ∧
    failure.status = .shortBuffer

/-- What a client warns of when an order gets this response: a buffer that is too short for a read,
and any failure that is not an answer to the order. -/
def warnings (response : Response) (order : Order) : List Event :=
  match response.answer with
  | .ok () => []
  | .error failure =>
      if order.command ≠ .writeRaw ∧ failure.status = .itemNotFound then []
      else if order.command = .readRaw ∧ failure.status = .shortBuffer then
        [.objectTooLarge order.key response.size]
      else [.commandFailed order.command order.key failure]

/-- What is reported while the session of an order is open. -/
def report (response : Response) (order : Order) : List Event :=
  [order.encoded, .invoking order.command order.operation.kinds] ++ response.warnings order

/-- The warnings of a client are those that the response as a whole calls for. -/
theorem warnings_eq (order : Order) (answer : Service.Answer) (returned : Operation) :
    Client.warnings (order.operation.updated returned) order answer
      = (ofAnswered (answer, returned)).warnings order := by
  cases answer with
  | ok done => cases order <;> rfl
  | error failure =>
      cases order with
      | read key =>
          have size := sizeOf_seen key (.error failure) returned
          simp [Client.warnings, warnings, Order.operation, Order.command, Order.key, size, ofAnswered]
      | write key payload => simp [Client.warnings, warnings, Order.command, Order.key, ofAnswered]
      | delete key => simp [Client.warnings, warnings, Order.command, Order.key, ofAnswered]

/-- Every event in the warnings about a response has the level of a warning. -/
theorem level_of_mem_warnings {response : Response} {order : Order} {event : Event}
    (told : event ∈ response.warnings order) : event.level = .warn := by
  grind [warnings, Event.level]

/-- No report on a response can be taken for the start or the end of a session. -/
theorem not_marksSession_of_mem_report {response : Response} {order : Order} {event : Event}
    (told : event ∈ response.report order) : event.marksSession = false := by
  have encoded : order.encoded.marksSession = false := by cases order <;> rfl
  grind [report, warnings, Event.marksSession]

theorem warningsAmong_report (response : Response) (order : Order) :
    warningsAmong (response.report order) = response.warnings order := by
  have encoded : order.encoded.level ≠ .warn := by cases order <;> simp [Order.encoded, Event.level]
  have invoking : (Event.invoking order.command order.operation.kinds).level ≠ .warn := by
    simp [Event.level]
  have warnings : warningsAmong (response.warnings order) = response.warnings order :=
    List.filter_eq_self.mpr fun event told => decide_eq_true (level_of_mem_warnings told)
  rw [report, warningsAmong, List.filter_append, ← warningsAmong, ← warningsAmong, warnings]
  simp [warningsAmong, encoded, invoking]

theorem short_ne_missing : Status.shortBuffer ≠ .itemNotFound := by decide

/-- The error in a reply follows the warnings, except that a short buffer is an error under one
policy only. -/
theorem error?_reply (policy : ShortReadPolicy) (response : Response) (order : Order) :
    (response.reply policy order).error? =
      match response.answer with
      | .ok () => none
      | .error failure =>
          if order.command ≠ .writeRaw ∧ failure.status = .itemNotFound then none
          else if order.command = .readRaw ∧ failure.status = .shortBuffer then
            if policy = .fatal then some (.truncated order.key response.size) else none
          else some (.backend order.command order.key failure) := by
  obtain ⟨⟨failure⟩ | ⟨done⟩, written, size⟩ := response
  case ok => cases order <;> rfl
  cases order with
  | read key =>
      by_cases missing : failure.status = .itemNotFound
      · simp [reply, readReply, Order.command, missing, Reply.error?]
      by_cases short : failure.status = .shortBuffer
      · cases policy <;>
          simp [reply, readReply, Order.command, Order.key, short, short_ne_missing, Reply.error?]
      · simp [reply, readReply, Order.command, Order.key, missing, short, Reply.error?]
  | write key payload => simp [reply, writeReply, Order.command, Order.key, Reply.error?]
  | delete key =>
      by_cases missing : failure.status = .itemNotFound <;>
        simp [reply, deletionReply, Order.command, Order.key, missing, Reply.error?]

/-- An error that the backend gave is warned of with all that it names. -/
theorem warnings_of_backend_error {policy : ShortReadPolicy} {response : Response} {order : Order}
    {command : Command} {key : ObjectKey} {failure : Failure}
    (fails : (response.reply policy order).error? = some (.backend command key failure)) :
    response.warnings order = [.commandFailed command key failure] := by
  rw [error?_reply] at fails
  grind [warnings]

/-- A buffer that is too short is warned of once, with the size that is needed. -/
theorem warnings_of_runsShort {response : Response} {order : Order}
    (short : response.RunsShort order) :
    response.warnings order = [.objectTooLarge order.key response.size] := by
  obtain ⟨reads, failure, answered, status⟩ := short
  simp [warnings, answered, reads, status, short_ne_missing]

/-- What is neither an error of the backend nor a short buffer is not warned of. -/
theorem warnings_eq_nil {policy : ShortReadPolicy} {response : Response} {order : Order}
    (unfailed : ∀ command key failure,
      (response.reply policy order).error? ≠ some (.backend command key failure))
    (roomy : ¬ response.RunsShort order) : response.warnings order = [] := by
  simp only [error?_reply] at unfailed
  grind [warnings, RunsShort]

/-- A response never comes to a failure of the session. -/
theorem reply_ne_session {policy : ShortReadPolicy} {response : Response} {order : Order}
    {failure : SessionFailure} :
    (response.reply policy order).error? ≠ some (.session failure) := by
  rw [error?_reply]
  grind

end Response

/-! ### What is reported about an order -/

/-- What a client and its session report about an order that is received so. -/
def Reception.journal (client : Client) (order : Order) : Reception → List Event
  | .noContext failure => [.sessionUnavailable order.command order.key ⟨.context, failure⟩]
  | .noSession failure => [.sessionUnavailable order.command order.key ⟨.openSession, failure⟩]
  | .answered response =>
      [.sessionOpened client.service client.login] ++ response.report order
        ++ [.sessionClosed, .commandCompleted order.command order.key
          (response.reply client.policy order).isOk]

/-- Where no session comes about, the one event is the warning that says so. -/
theorem Reception.journal_of_session_error (client : Client) {order : Order} {reception : Reception}
    {failure : SessionFailure}
    (fails : (reception.reply client.policy order).error? = some (.session failure)) :
    reception.journal client order = [.sessionUnavailable order.command order.key failure] := by
  cases reception with
  | noContext cause | noSession cause =>
      rw [reply, Reply.error?_failed] at fails
      cases fails
      rfl
  | answered response => exact absurd fails Response.reply_ne_session

variable {σ κ ς : Type}

/-- What a client reports stays in order when the events of the backend are dropped from in between.
-/
theorem sublist_between (e₁ e₂ opened e₃ warned e₄ e₅ closed : List Event) :
    (opened ++ warned ++ closed).Sublist
      (e₁ ++ e₂ ++ opened ++ e₃ ++ warned ++ e₄ ++ e₅ ++ closed) := by
  have first : opened.Sublist (e₁ ++ e₂ ++ opened ++ e₃) :=
    (List.sublist_append_right ..).trans (List.sublist_append_left ..)
  have second : (opened ++ warned).Sublist (e₁ ++ e₂ ++ opened ++ e₃ ++ warned ++ e₄ ++ e₅) :=
    (first.append (List.Sublist.refl warned)).trans
      ((List.sublist_append_left ..).trans (List.sublist_append_left ..))
  exact second.append (List.Sublist.refl closed)

/-- Over a silenced backend an order goes on as it would, and the journal is all that is reported.
Over the backend itself the same is reported, between what the backend reports. -/
theorem run_execute_silenced (client : Client) (backend : Backend σ κ ς) (order : Order) (s : σ) :
    let plain := (client.execute backend order).run s
    let journal := (client.reception backend order s).journal client order
    (client.execute backend.silenced order).run s = ⟨plain.value, plain.state, journal⟩ ∧
      journal.Sublist plain.events := by
  intro plain journal
  have course : Course client backend order s plain := course_execute client backend order s
  clear_value plain
  cases course with
  | noContext connects =>
      have silent : (client.execute backend.silenced order).run s = _ :=
        run_execute_of_no_context (Action.run_silenced connects)
      simp only [journal, reception, connects, Reception.journal]
      exact ⟨silent, List.sublist_append_right ..⟩
  | noSession connects opens finalizes =>
      have silent : (client.execute backend.silenced order).run s = _ :=
        run_execute_of_no_session (Action.run_silenced connects) (Action.run_silenced opens)
          (Action.run_silenced finalizes)
      simp only [journal, reception, connects, opens, Reception.journal]
      exact ⟨silent, List.sublist_append_right ..⟩
  | answered connects opens invokes closes finalizes =>
      have silent : (client.execute backend.silenced order).run s = _ :=
        run_execute_of_opened (Action.run_silenced connects) (Action.run_silenced opens)
          (Action.run_silenced invokes) (Action.run_silenced closes) (Action.run_silenced finalizes)
      simp only [journal, reception, connects, opens, invokes, Reception.journal, Response.report,
        ← Response.warnings_eq, ← Response.verdict_eq]
      constructor
      · rw [silent]
        simp
      · rw [← List.append_assoc]
        exact sublist_between ..

/-- A request that passes its check gets the reply of its reception, and the journal of its reception
is what is reported about it. -/
theorem run_perform_silenced (client : Client) (backend : Backend σ κ ς) {request : Request}
    {order : Order} (passes : request.checked = .ok order) (s : σ) :
    let plain := (client.perform backend request).run s
    let reception := client.reception backend order s
    plain.value = reception.reply client.policy order ∧
      (client.perform backend.silenced request).run s
        = ⟨plain.value, plain.state, reception.journal client order⟩ ∧
      (reception.journal client order).Sublist plain.events := by
  intro plain reception
  have plainly : plain = (client.execute backend order).run s := by
    simp only [plain, perform_of_checked passes]
  rw [perform_of_checked passes, plainly]
  exact ⟨execute_reception client backend order s, run_execute_silenced client backend order s⟩

/-! ### The journal and the reply -/

theorem Request.level_refusal (request : Request) (cause : ValueError) :
    (request.refusal cause).level = .warn := by
  cases request with
  | put text data =>
      simp only [refusal]
      split <;> rfl
  | get text | delete text | direct order => rfl

theorem Request.error_mem_fields (request : Request) (cause : ValueError) :
    ("error", cause.message) ∈ (request.refusal cause).fields := by
  cases request with
  | put text data =>
      simp only [refusal]
      split <;> simp [Event.fields]
  | get text | delete text | direct order => simp [refusal, Event.fields]

/-- How the warnings over an open session go with the reply: there is one where the backend gives an
error, one where a read runs short, whatever comes of it, and no other. -/
structure Warned (order : Order) (response : Response) (reply : Reply) (warnings : List Event) :
    Prop where
  refused : ∀ command key failure, reply.error? = some (.backend command key failure) →
    warnings = [.commandFailed command key failure]
  short : response.RunsShort order → warnings = [.objectTooLarge order.key response.size]
  quiet : (∀ command key failure, reply.error? ≠ some (.backend command key failure)) →
    ¬ response.RunsShort order → warnings = []

/-- The reply to a response and the warnings about it fit each other. -/
theorem Response.warned_reply (policy : ShortReadPolicy) (response : Response) (order : Order) :
    Warned order response (response.reply policy order) (response.warnings order) where
  refused _ _ _ fails := warnings_of_backend_error fails
  short runsShort := warnings_of_runsShort runsShort
  quiet unfailed roomy := warnings_eq_nil unfailed roomy

/-- What a client and its session report themselves accounts for the reply. A request that is refused
leaves one warning, with the cause; a session that does not come about leaves one, with all that the
error names. Any other call has a session that is opened once, then closed once, and a completion
that comes last and says whether the call succeeded, with the warnings in between. -/
theorem journal_accounts (client : Client) (backend : Backend σ κ ς) (request : Request) (s : σ) :
    let plain := (client.perform backend request).run s
    let own := (client.perform backend.silenced request).run s
    let reply := plain.value
    (own.value = plain.value ∧ own.state = plain.state ∧ own.events.Sublist plain.events) ∧
      (∀ cause, reply.error? = some (.precondition cause) →
        own.events = [request.refusal cause] ∧ warningsAmong own.events = own.events ∧
          ("error", cause.message) ∈ (request.refusal cause).fields) ∧
      (∀ failure, reply.error? = some (.session failure) →
        ∃ key, key.text = request.keyText ∧
          own.events = [.sessionUnavailable request.command key failure] ∧
          warningsAmong own.events = own.events) ∧
      (∀ order response, request.checked = .ok order →
        client.reception backend order s = .answered response →
        ∃ middle,
          own.events = [.sessionOpened client.service client.login] ++ middle
            ++ [.sessionClosed, .commandCompleted order.command order.key reply.isOk] ∧
          (∀ event ∈ middle, event.marksSession = false) ∧
          Warned order response reply (warningsAmong middle)) ∧
      ((∃ cause, reply.error? = some (.precondition cause)) ∨
        (∃ failure, reply.error? = some (.session failure)) ∨
        ∃ order response, request.checked = .ok order ∧
          client.reception backend order s = .answered response) := by
  intro plain own reply
  cases checked : request.checked with
  | error cause =>
      have plainly : plain = _ := run_perform_of_refused checked s
      have alone : own = _ := run_perform_of_refused checked s
      have blames : reply.error? = some (.precondition cause) := by simp [reply, plainly]
      simp [blames, alone, plainly, warningsAmong, Request.level_refusal, Request.error_mem_fields]
  | ok order =>
      obtain ⟨replies, alone, told⟩ := run_perform_silenced client backend checked s
      change reply = _ at replies
      change own = _ at alone
      have unblamed (cause : ValueError) : reply.error? ≠ some (.precondition cause) := by
        simp only [reply, plain, perform_of_checked checked]
        exact execute_ne_precondition client backend order s cause
      refine ⟨⟨by rw [alone], by rw [alone], by rw [alone]; exact told⟩,
        fun cause fails => absurd fails (unblamed cause), ?_, ?_, ?_⟩
      · intro failure fails
        rw [replies] at fails
        rw [alone, Reception.journal_of_session_error client fails,
          ← Request.command_of_checked checked]
        exact ⟨order.key, Request.keyText_of_checked checked, rfl, rfl⟩
      · rintro _ response ⟨⟩ answered
        rw [answered] at alone replies
        refine ⟨response.report order, ?_, fun _ => Response.not_marksSession_of_mem_report, ?_⟩
        · rw [alone, replies]
          rfl
        · rw [Response.warningsAmong_report, replies]
          exact response.warned_reply client.policy order
      · right
        rw [replies]
        cases received : client.reception backend order s with
        | noContext failure => exact .inl ⟨_, Reply.error?_failed ..⟩
        | noSession failure => exact .inl ⟨_, Reply.error?_failed ..⟩
        | answered response => exact .inr ⟨order, response, rfl, received⟩

/-- A read that runs short is warned of also under the policy for which it is a success. -/
example :
    let client : Client := ⟨.secureStorage, .anyone, .legacy⟩
    let script : Script := ⟨none, none, some ⟨.shortBuffer, .tee⟩, [1, 2], some 5⟩
    (((client.perform Script.backend.silenced (.get "k")).run script).events).map Event.level
      = [.debug, .trace, .trace, .warn, .debug, .debug] := by
  decide

end Client

end ObjectVault
