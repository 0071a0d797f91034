import ObjectVault.Client

/-!
# Requests to a client

A client can be asked six things. Three of them, the orders, take keys and payloads, which are valid
by their types; the other three take texts and bytes, and are checked first. `perform` is any of the
six over any backend.

* `run_perform_of_refused`: a request that fails its check never reaches the backend.
* `perform_of_checked`: a request that passes is the order that it stands for.
* `run_execute_of_no_context`, `run_execute_of_no_session`, `run_execute_of_opened`: what an order
  comes to, by how far the backend lets it get. The last one holds for every answer to the command;
  `verdict` is the reply and `warnings` are the events that the answer leads to.
-/

namespace ObjectVault

/-! ### Runs over an open guard -/

namespace Guard

variable {σ κ ς : Type} {backend : Backend σ κ ς} {command : Command} {op : Operation} {context : κ}
  {session : ς}
  {answer : Service.Answer} {returned : Operation} {s s₁ s₂ s₃ : σ} {e e₁ e₂ : List Event}

/-- A guard that gets no connection opens no session. -/
theorem run_acquire_of_no_context {service : ServiceId} {login : Login} {failure : Failure}
    (connects : backend.connect.run s = ⟨.error failure, s₁, e₁⟩) :
    (acquire backend service login).run s = ⟨.error ⟨.context, failure⟩, s₁, e₁⟩ := by
  simp [acquire, Action.run_bind, connects]

/-- A connection without a session is given back. -/
theorem run_acquire_of_no_session {service : ServiceId} {login : Login} {failure : Failure}
    (connects : backend.connect.run s = ⟨.ok context, s₁, e₁⟩)
    (opens : (backend.openSession context service login).run s₁ = ⟨.error failure, s₂, e₂⟩)
    (finalizes : (backend.finalize context).run s₂ = ⟨(), s₃, e⟩) :
    (acquire backend service login).run s
      = ⟨.error ⟨.openSession, failure⟩, s₃, e₁ ++ e₂ ++ e⟩ := by
  simp [acquire, Action.run_bind, Action.run_map, connects, opens, finalizes]

/-- A guard holds the connection and the session, once both are there. -/
theorem run_acquire {service : ServiceId} {login : Login}
    (connects : backend.connect.run s = ⟨.ok context, s₁, e₁⟩)
    (opens : (backend.openSession context service login).run s₁ = ⟨.ok session, s₂, e₂⟩) :
    (acquire backend service login).run s
      = ⟨.ok ⟨some context, some session⟩, s₂, e₁ ++ e₂ ++ [.sessionOpened service login]⟩ := by
  simp [acquire, Action.run_bind, Action.run_map, connects, opens]

/-- An invocation is reported, and what comes back is put into the slots that were sent. -/
theorem run_invoke (context : Option κ)
    (invokes : (backend.invoke session command.id op).run s = ⟨(answer, returned), s₁, e⟩) :
    (invoke backend ⟨context, some session⟩ command op).run s
      = ⟨(answer, op.updated returned), s₁, .invoking command op.kinds :: e⟩ := by
  simp [invoke, Action.run_bind, Action.run_map, invokes]

/-- The session is closed before the connection. -/
theorem run_close
    (closes : (backend.closeSession context session).run s = ⟨(), s₁, e₁⟩)
    (finalizes : (backend.finalize context).run s₁ = ⟨(), s₂, e₂⟩) :
    (close backend ⟨some context, some session⟩).run s
      = ⟨(), s₂, e₁ ++ e₂ ++ [.sessionClosed]⟩ := by
  simp [close_eq_drop, drop, release, closeSession, finalize,
    Action.run_bind, closes, finalizes]

end Guard

namespace Client

/-! ### Orders, requests and replies -/

/-- A request whose arguments are valid by their types. -/
inductive Order where
  | read (key : ObjectKey)
  | write (key : ObjectKey) (payload : Payload)
  | delete (key : ObjectKey)
  deriving DecidableEq

namespace Order

def command : Order → Command
  | .read _ => .readRaw
  | .write _ _ => .writeRaw
  | .delete _ => .delete

def key : Order → ObjectKey
  | .read key | .write key _ | .delete key => key

def operation : Order → Operation
  | .read key => readOperation key
  | .write key payload => writeOperation key payload
  | .delete key => deleteOperation key

/-- What is reported when the slots are ready. -/
def encoded : Order → Event
  | .read key => .readEncoded key
  | .write key payload => .writeEncoded key payload.length
  | .delete key => .deleteEncoded key

end Order

/-- What a client can be asked. -/
inductive Request where
  | get (key : String)
  | put (key : String) (data : Bytes)
  | delete (key : String)
  | direct (order : Order)
  deriving DecidableEq

/-- What a client gives back, by the command that it is about. -/
inductive Reply where
  | read (result : Except ClientError ReadOutcome)
  | write (result : Except ClientError Unit)
  | deletion (result : Except ClientError DeleteOutcome)

namespace Reply

def failed : Command → ClientError → Reply
  | .readRaw, error => .read (.error error)
  | .writeRaw, error => .write (.error error)
  | .delete, error => .deletion (.error error)

def error? : Reply → Option ClientError
  | .read (.error error) | .write (.error error) | .deletion (.error error) => some error
  | _ => none

def isOk (reply : Reply) : Bool := reply.error?.isNone

@[simp] theorem error?_failed (command : Command) (error : ClientError) :
    (failed command error).error? = some error := by
  cases command <;> rfl

@[simp] theorem isOk_read (result : Except ClientError ReadOutcome) :
    (read result).isOk = result.toBool := by
  cases result <;> rfl

@[simp] theorem isOk_write (result : Except ClientError Unit) :
    (write result).isOk = result.toBool := by
  cases result <;> rfl

@[simp] theorem isOk_deletion (result : Except ClientError DeleteOutcome) :
    (deletion result).isOk = result.toBool := by
  cases result <;> rfl

end Reply

namespace Request

def command : Request → Command
  | .get _ => .readRaw
  | .put _ _ => .writeRaw
  | .delete _ => .delete
  | .direct order => order.command

def keyText : Request → String
  | .get text | .put text _ | .delete text => text
  | .direct order => order.key.text

/-- The order that a request stands for, or the first thing that is wrong with it: the key comes
before the contents. -/
def checked : Request → Except ValueError Order
  | .get text => (ObjectKey.ofText text).map .read
  | .put text data =>
      match ObjectKey.ofText text, Payload.ofBytes data with
      | .ok key, .ok payload => .ok (.write key payload)
      | .ok _, .error cause => .error cause
      | .error cause, _ => .error cause
  | .delete text => (ObjectKey.ofText text).map .delete
  | .direct order => .ok order

/-- What is reported about a request that fails its check. -/
def refusal : Request → ValueError → Event
  | .put text _, cause =>
      match ObjectKey.ofText text with
      | .ok key => .payloadRejected key cause
      | .error _ => .keyRejected cause
  | _, cause => .keyRejected cause

/-- The checks of a request do not change its command. -/
theorem command_of_checked {request : Request} {order : Order}
    (passes : request.checked = .ok order) : order.command = request.command := by
  cases request with
  | get text | delete text =>
      simp only [checked] at passes
      cases made : ObjectKey.ofText text with
      | error cause => simp [made, Except.map] at passes
      | ok key =>
          simp only [made, Except.map, Except.ok.injEq] at passes
          subst passes
          rfl
  | put text data =>
      simp only [checked] at passes
      split at passes
      · cases passes
        rfl
      · cases passes
      · cases passes
  | direct given =>
      cases passes
      rfl

theorem keyText_of_checked {request : Request} {order : Order}
    (passes : request.checked = .ok order) : order.key.text = request.keyText := by
  cases request with
  | get text | delete text =>
      simp only [checked] at passes
      cases made : ObjectKey.ofText text with
      | error cause => simp [made, Except.map] at passes
      | ok key =>
          simp only [made, Except.map, Except.ok.injEq] at passes
          subst passes
          exact ObjectKey.text_of_ofText made
  | put text data =>
      simp only [checked] at passes
      split at passes
      · next key payload made _ =>
          cases passes
          exact ObjectKey.text_of_ofText made
      · cases passes
      · cases passes
  | direct given =>
      cases passes
      rfl

theorem refusal_ne_sessionOpened (request : Request) (cause : ValueError) (service : ServiceId)
    (login : Login) : request.refusal cause ≠ .sessionOpened service login := by
  cases request with
  | put text data =>
      simp only [refusal]
      split <;> simp
  | get text | delete text | direct order => simp [refusal]

end Request

variable {σ κ ς : Type}

def execute (client : Client) (backend : Backend σ κ ς) : Order → Action σ Reply
  | .read key => Reply.read <$> client.getObject backend key
  | .write key payload => Reply.write <$> client.putObject backend key payload
  | .delete key => Reply.deletion <$> client.deleteObject backend key

def perform (client : Client) (backend : Backend σ κ ς) : Request → Action σ Reply
  | .get key => Reply.read <$> client.get backend key
  | .put key data => Reply.write <$> client.put backend key data
  | .delete key => Reply.deletion <$> client.delete backend key
  | .direct order => client.execute backend order

/-! ### Checking comes first -/

/-- A request that fails its checks never gets to the backend. -/
theorem run_perform_of_refused {client : Client} {backend : Backend σ κ ς} {request : Request}
    {cause : ValueError} (refused : request.checked = .error cause) (state : σ) :
    (client.perform backend request).run state
      = ⟨.failed request.command (.precondition cause), state, [request.refusal cause]⟩ := by
  cases request with
  | get text =>
      cases made : ObjectKey.ofText text with
      | ok key => simp [Request.checked, made, Except.map] at refused
      | error first =>
          obtain rfl : first = cause := by simpa [Request.checked, made, Except.map] using refused
          simp only [perform, get, withKey, made]
          rfl
  | put text data =>
      cases made : ObjectKey.ofText text with
      | error first =>
          obtain rfl : first = cause := by simpa [Request.checked, made] using refused
          simp only [perform, put, withKey, made, Request.refusal]
          rfl
      | ok key =>
          cases filled : Payload.ofBytes data with
          | ok payload =>
              simp [Request.checked, made, filled] at refused
          | error second =>
              obtain rfl : second = cause := by
                simpa [Request.checked, made, filled] using refused
              simp only [perform, put, withKey, made, filled, Request.refusal]
              rfl
  | delete text =>
      cases made : ObjectKey.ofText text with
      | ok key => simp [Request.checked, made, Except.map] at refused
      | error first =>
          obtain rfl : first = cause := by simpa [Request.checked, made, Except.map] using refused
          simp only [perform, delete, withKey, made]
          rfl
  | direct order => simp [Request.checked] at refused

/-- A request that passes its checks is carried out as the order it stands for. -/
theorem perform_of_checked {client : Client} {backend : Backend σ κ ς} {request : Request}
    {order : Order} (passes : request.checked = .ok order) :
    client.perform backend request = client.execute backend order := by
  cases request with
  | get text =>
      cases made : ObjectKey.ofText text with
      | error cause => simp [Request.checked, made, Except.map] at passes
      | ok key =>
          obtain rfl : Order.read key = order := by
            simpa [Request.checked, made, Except.map] using passes
          simp only [perform, get, withKey, made, execute]
  | put text data =>
      cases made : ObjectKey.ofText text with
      | error cause => simp [Request.checked, made] at passes
      | ok key =>
          cases filled : Payload.ofBytes data with
          | error cause => simp [Request.checked, made, filled] at passes
          | ok payload =>
              obtain rfl : Order.write key payload = order := by
                simpa [Request.checked, made, filled] using passes
              simp only [perform, put, withKey, made, filled, execute]
  | delete text =>
      cases made : ObjectKey.ofText text with
      | error cause => simp [Request.checked, made, Except.map] at passes
      | ok key =>
          obtain rfl : Order.delete key = order := by
            simpa [Request.checked, made, Except.map] using passes
          simp only [perform, delete, withKey, made, execute]
  | direct given =>
      obtain rfl : given = order := by simpa [Request.checked] using passes
      rfl

/-! ### What an answer leads to -/

theorem mapError_ok {ε ε' α : Type} (f : ε → ε') (value : α) :
    (Except.ok value).mapError f = .ok value := rfl

theorem mapError_error {ε ε' α : Type} (f : ε → ε') (error : ε) :
    (Except.error error : Except ε α).mapError f = .error (f error) := rfl

/-- What a policy makes of a read for which the backend needs `required` bytes. -/
def shortVerdict (policy : ShortReadPolicy) (key : ObjectKey) (buffer : Bytes) (required : Nat) :
    Except ClientError ReadOutcome :=
  match policy with
  | .report => received buffer fun part => .truncated part required
  | .legacy => received buffer .found
  | .fatal => .error (.truncated key required)

/-- The read buffer among the slots that come back. -/
def bufferOf (returned : Operation) : Bytes := returned.second.buffer?.getD []

def sizeOf (returned : Operation) : Nat := returned.second.size?.getD objectCapacity

/-- What a read comes to that the backend has answered. -/
def readVerdict (client : Client) (returned : Operation) (key : ObjectKey) :
    Service.Answer → Except ClientError ReadOutcome
  | .ok () => received ((bufferOf returned).take (sizeOf returned)) .found
  | .error failure =>
      if failure.status = .itemNotFound then .ok .notFound
      else if failure.status = .shortBuffer then
        shortVerdict client.policy key (bufferOf returned) (sizeOf returned)
      else .error (.backend .readRaw key failure)

/-- What a deletion comes to that the backend has answered. -/
def deletionVerdict (key : ObjectKey) : Service.Answer → Except ClientError DeleteOutcome
  | .ok () => .ok .success
  | .error failure =>
      if failure.status = .itemNotFound then .ok .notFound
      else .error (.backend .delete key failure)

/-- The reply to an order that the backend has answered. -/
def verdict (client : Client) (returned : Operation) : Order → Service.Answer → Reply
  | .read key, answer => .read (client.readVerdict returned key answer)
  | .write key _, answer => .write (answer.mapError (.backend .writeRaw key))
  | .delete key, answer => .deletion (deletionVerdict key answer)

/-- What is reported about the answer to an order. -/
def warnings (returned : Operation) : Order → Service.Answer → List Event
  | .read key, .error failure =>
      if failure.status = .itemNotFound then []
      else if failure.status = .shortBuffer then [.objectTooLarge key (sizeOf returned)]
      else [.commandFailed .readRaw key failure]
  | .write key _, .error failure => [.commandFailed .writeRaw key failure]
  | .delete key, .error failure =>
      if failure.status = .itemNotFound then [] else [.commandFailed .delete key failure]
  | _, .ok () => []

/-! ### What an order does over its session -/

def readCall (client : Client) (backend : Backend σ κ ς) (key : ObjectKey) (guard : Guard κ ς) :
    Action σ (Except ClientError ReadOutcome) := do
  Action.report (.readEncoded key)
  let (answer, op) ← guard.invoke backend .readRaw (readOperation key)
  client.readResult key answer (bufferOf op) (sizeOf op)

def writeCall (backend : Backend σ κ ς) (key : ObjectKey) (payload : Payload) (guard : Guard κ ς) :
    Action σ (Except ClientError Unit) := do
  Action.report (.writeEncoded key payload.length)
  let (answer, _) ← guard.invoke backend .writeRaw (writeOperation key payload)
  match answer with
  | .ok () => return .ok ()
  | .error failure => refused .writeRaw key failure

def deleteCall (backend : Backend σ κ ς) (key : ObjectKey) (guard : Guard κ ς) :
    Action σ (Except ClientError DeleteOutcome) := do
  Action.report (.deleteEncoded key)
  let (answer, _) ← guard.invoke backend .delete (deleteOperation key)
  match answer with
  | .ok () => return .ok .success
  | .error failure =>
      if failure.status = .itemNotFound then return .ok .notFound
      else refused .delete key failure

theorem getObject_eq (client : Client) (backend : Backend σ κ ς) (key : ObjectKey) :
    client.getObject backend key = client.run backend .readRaw key (client.readCall backend key) :=
  rfl

theorem putObject_eq (client : Client) (backend : Backend σ κ ς) (key : ObjectKey)
    (payload : Payload) :
    client.putObject backend key payload
      = client.run backend .writeRaw key (writeCall backend key payload) :=
  rfl

theorem deleteObject_eq (client : Client) (backend : Backend σ κ ς) (key : ObjectKey) :
    client.deleteObject backend key = client.run backend .delete key (deleteCall backend key) :=
  rfl

/-! ### Runs of orders -/

section Runs

variable {client : Client} {backend : Backend σ κ ς} {order : Order} {failure : Failure}
  {context : κ} {session : ς} {answer : Service.Answer} {returned : Operation}
  {s s₁ s₂ s₃ s₄ s₅ : σ} {e₁ e₂ e₃ e₄ e₅ : List Event}

/-- The outcome of a read is its verdict, and the warnings are all that is reported. -/
theorem run_readResult (client : Client) (key : ObjectKey) (answer : Service.Answer)
    (returned : Operation) (s : σ) :
    (client.readResult key answer (bufferOf returned) (sizeOf returned)).run s
      = ⟨client.readVerdict returned key answer, s, warnings returned (.read key) answer⟩ := by
  cases answer with
  | ok => rfl
  | error failure =>
      simp only [readResult, readVerdict, warnings]
      split
      · rfl
      · split
        · simp only [shortRead, shortVerdict]
          cases client.policy <;> rfl
        · rfl

/-- In a session, a read is reported, invoked and judged, in this order. -/
theorem run_readCall (client : Client) {key : ObjectKey}
    (invokes : (backend.invoke session Command.readRaw.id (readOperation key)).run s
      = ⟨(answer, returned), s₁, e₁⟩) :
    let seen := (readOperation key).updated returned
    (client.readCall backend key ⟨some context, some session⟩).run s
      = ⟨client.readVerdict seen key answer, s₁,
          [.readEncoded key, .invoking .readRaw (readOperation key).kinds] ++ e₁
            ++ warnings seen (.read key) answer⟩ := by
  intro seen
  have sends := Guard.run_invoke (some context) invokes
  have reads := run_readResult client key answer seen s₁
  simp [readCall, Action.run_bind, sends, seen, reads]

theorem run_writeCall {key : ObjectKey} {payload : Payload}
    (invokes : (backend.invoke session Command.writeRaw.id (writeOperation key payload)).run s
      = ⟨(answer, returned), s₁, e₁⟩) (seen : Operation) :
    (writeCall backend key payload ⟨some context, some session⟩).run s
      = ⟨answer.mapError (.backend .writeRaw key), s₁,
          [.writeEncoded key payload.length,
              .invoking .writeRaw (writeOperation key payload).kinds] ++ e₁
            ++ warnings seen (.write key payload) answer⟩ := by
  have sends := Guard.run_invoke (some context) invokes
  cases answer with
  | ok => simp [writeCall, Action.run_bind, sends, warnings, mapError_ok]
  | error failure =>
      simp [writeCall, refused, Action.run_bind, Action.run_map, sends, warnings, mapError_error]

theorem run_deleteCall {key : ObjectKey}
    (invokes : (backend.invoke session Command.delete.id (deleteOperation key)).run s
      = ⟨(answer, returned), s₁, e₁⟩) (seen : Operation) :
    (deleteCall backend key ⟨some context, some session⟩).run s
      = ⟨deletionVerdict key answer, s₁,
          [.deleteEncoded key, .invoking .delete (deleteOperation key).kinds] ++ e₁
            ++ warnings seen (.delete key) answer⟩ := by
  have sends := Guard.run_invoke (some context) invokes
  cases answer with
  | ok => simp [deleteCall, Action.run_bind, sends, warnings, deletionVerdict]
  | error failure =>
      by_cases missing : failure.status = .itemNotFound
      · simp [deleteCall, Action.run_bind, sends, warnings, deletionVerdict, missing]
      · simp [deleteCall, refused, Action.run_bind, Action.run_map, sends, warnings, deletionVerdict,
          missing]

/-- Whatever is called over an open session, session and connection are released after it. -/
theorem run_run_of_opened {α : Type} {command : Command} {key : ObjectKey}
    {call : Guard κ ς → Action σ (Except ClientError α)} {result : Except ClientError α}
    (connects : backend.connect.run s = ⟨.ok context, s₁, e₁⟩)
    (opens : (backend.openSession context client.service client.login).run s₁
      = ⟨.ok session, s₂, e₂⟩)
    (calls : (call ⟨some context, some session⟩).run s₂ = ⟨result, s₃, e₃⟩)
    (closes : (backend.closeSession context session).run s₃ = ⟨(), s₄, e₄⟩)
    (finalizes : (backend.finalize context).run s₄ = ⟨(), s₅, e₅⟩) :
    (client.run backend command key call).run s
      = ⟨result, s₅,
          e₁ ++ e₂ ++ [.sessionOpened client.service client.login] ++ e₃ ++ e₄ ++ e₅
            ++ [.sessionClosed, .commandCompleted command key result.toBool]⟩ := by
  have releases := Guard.run_close closes finalizes
  simp [Client.run, Guard.acquire, Action.run_map, Action.run_bind, connects, opens, calls, releases]

/-- Where no connection comes about, the backend hears of nothing else. -/
theorem run_execute_of_no_context
    (connects : backend.connect.run s = ⟨.error failure, s₁, e₁⟩) :
    (client.execute backend order).run s
      = ⟨.failed order.command (.session ⟨.context, failure⟩), s₁,
          e₁ ++ [.sessionUnavailable order.command order.key ⟨.context, failure⟩]⟩ := by
  cases order <;>
    simp [execute, getObject, putObject, deleteObject, Client.run, Guard.acquire, Action.run_map,
      Action.run_bind, connects, Order.command, Order.key, Reply.failed]

/-- Where no session comes about, the connection is given back. -/
theorem run_execute_of_no_session
    (connects : backend.connect.run s = ⟨.ok context, s₁, e₁⟩)
    (opens : (backend.openSession context client.service client.login).run s₁
      = ⟨.error failure, s₂, e₂⟩)
    (finalizes : (backend.finalize context).run s₂ = ⟨(), s₃, e₃⟩) :
    (client.execute backend order).run s
      = ⟨.failed order.command (.session ⟨.openSession, failure⟩), s₃,
          e₁ ++ e₂ ++ e₃
            ++ [.sessionUnavailable order.command order.key ⟨.openSession, failure⟩]⟩ := by
  cases order <;>
    simp [execute, getObject, putObject, deleteObject, Client.run, Guard.acquire, Action.run_map,
      Action.run_bind, connects, opens, finalizes, Order.command, Order.key, Reply.failed]

/-- Once a session is open, the command is sent, and session and connection are released whatever
the answer is. -/
theorem run_execute_of_opened
    (connects : backend.connect.run s = ⟨.ok context, s₁, e₁⟩)
    (opens : (backend.openSession context client.service client.login).run s₁
      = ⟨.ok session, s₂, e₂⟩)
    (invokes : (backend.invoke session order.command.id order.operation).run s₂
      = ⟨(answer, returned), s₃, e₃⟩)
    (closes : (backend.closeSession context session).run s₃ = ⟨(), s₄, e₄⟩)
    (finalizes : (backend.finalize context).run s₄ = ⟨(), s₅, e₅⟩) :
    let seen := order.operation.updated returned
    let reply := client.verdict seen order answer
    (client.execute backend order).run s
      = ⟨reply, s₅,
          e₁ ++ e₂ ++ [.sessionOpened client.service client.login, order.encoded,
              .invoking order.command order.operation.kinds]
            ++ e₃ ++ warnings seen order answer ++ e₄ ++ e₅
            ++ [.sessionClosed, .commandCompleted order.command order.key reply.isOk]⟩ := by
  intro seen reply
  cases order with
  | read key =>
      rw [execute, Action.run_map, getObject_eq,
        run_run_of_opened connects opens (run_readCall client invokes) closes finalizes]
      simp [reply, seen, verdict, Order.command, Order.key, Order.operation, Order.encoded]
  | write key payload =>
      rw [execute, Action.run_map, putObject_eq,
        run_run_of_opened connects opens (run_writeCall invokes seen) closes finalizes]
      simp [reply, seen, verdict, Order.command, Order.key, Order.operation, Order.encoded]
  | delete key =>
      rw [execute, Action.run_map, deleteObject_eq,
        run_run_of_opened connects opens (run_deleteCall invokes seen) closes finalizes]
      simp [reply, seen, verdict, Order.command, Order.key, Order.operation, Order.encoded]

end Runs

/-- How far a backend lets an order get, and what the order comes to there. -/
inductive Course (client : Client) (backend : Backend σ κ ς) (order : Order) (s : σ) :
    Outcome σ Reply → Prop where
  | noContext {failure : Failure} {s₁ : σ} {e₁ : List Event}
      (connects : backend.connect.run s = ⟨.error failure, s₁, e₁⟩) :
      Course client backend order s ⟨.failed order.command (.session ⟨.context, failure⟩), s₁,
        e₁ ++ [.sessionUnavailable order.command order.key ⟨.context, failure⟩]⟩
  | noSession {context : κ} {failure : Failure} {s₁ s₂ s₃ : σ} {e₁ e₂ e₃ : List Event}
      (connects : backend.connect.run s = ⟨.ok context, s₁, e₁⟩)
      (opens : (backend.openSession context client.service client.login).run s₁
        = ⟨.error failure, s₂, e₂⟩)
      (finalizes : (backend.finalize context).run s₂ = ⟨(), s₃, e₃⟩) :
      Course client backend order s ⟨.failed order.command (.session ⟨.openSession, failure⟩), s₃,
        e₁ ++ e₂ ++ e₃ ++ [.sessionUnavailable order.command order.key ⟨.openSession, failure⟩]⟩
  | answered {context : κ} {session : ς} {answer : Service.Answer} {returned : Operation}
      {s₁ s₂ s₃ s₄ s₅ : σ} {e₁ e₂ e₃ e₄ e₅ : List Event}
      (connects : backend.connect.run s = ⟨.ok context, s₁, e₁⟩)
      (opens : (backend.openSession context client.service client.login).run s₁
        = ⟨.ok session, s₂, e₂⟩)
      (invokes : (backend.invoke session order.command.id order.operation).run s₂
        = ⟨(answer, returned), s₃, e₃⟩)
      (closes : (backend.closeSession context session).run s₃ = ⟨(), s₄, e₄⟩)
      (finalizes : (backend.finalize context).run s₄ = ⟨(), s₅, e₅⟩) :
      Course client backend order s ⟨client.verdict (order.operation.updated returned) order answer,
        s₅,
        e₁ ++ e₂ ++ [.sessionOpened client.service client.login, order.encoded,
            .invoking order.command order.operation.kinds]
          ++ e₃ ++ warnings (order.operation.updated returned) order answer ++ e₄ ++ e₅
          ++ [.sessionClosed, .commandCompleted order.command order.key
            (client.verdict (order.operation.updated returned) order answer).isOk]⟩

/-- Every run of an order takes one of the three courses. -/
theorem course_execute (client : Client) (backend : Backend σ κ ς) (order : Order) (s : σ) :
    Course client backend order s ((client.execute backend order).run s) := by
  rcases connects : backend.connect.run s with ⟨⟨failure⟩ | ⟨context⟩, s₁, e₁⟩
  · rw [run_execute_of_no_context connects]
    exact .noContext connects
  rcases opens : (backend.openSession context client.service client.login).run s₁
    with ⟨⟨failure⟩ | ⟨session⟩, s₂, e₂⟩
  · rcases finalizes : (backend.finalize context).run s₂ with ⟨⟨⟩, s₃, e₃⟩
    rw [run_execute_of_no_session connects opens finalizes]
    exact .noSession connects opens finalizes
  · rcases invokes : (backend.invoke session order.command.id order.operation).run s₂
      with ⟨⟨answer, returned⟩, s₃, e₃⟩
    rcases closes : (backend.closeSession context session).run s₃ with ⟨⟨⟩, s₄, e₄⟩
    rcases finalizes : (backend.finalize context).run s₄ with ⟨⟨⟩, s₅, e₅⟩
    rw [run_execute_of_opened connects opens invokes closes finalizes]
    exact .answered connects opens invokes closes finalizes

end Client

end ObjectVault
