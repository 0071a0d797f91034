import ObjectVault.Backend.Scripted
import ObjectVault.Proofs.Client.Bracket

/-!
# Replies

What a client makes of a backend, whatever the backend does. A backend can refuse the connection or
the session, or it answers the command: then it may have written any bytes over the start of the
read buffer and may report any size for it, whether it answers with success or with a failure.
`Reception` holds as much of this as a client can tell, and `Reception.reply` is the reply that it
leads to.

* `perform_reception`: a valid request gets the reply of its reception, and an error in the reply
  carries the status with which the backend refused.
* Absence of an object is an answer to a command only: a backend that refuses the connection or the
  session with the same status is not understood so.
-/

namespace ObjectVault

namespace Client

/-! ### Responses to a command -/

/-- What a backend does with a command: how it answers, what it writes over the start of the read
buffer, and the size that it reports for the buffer. -/
structure Response where
  answer : Service.Answer
  written : Bytes
  size : Nat

namespace Response

/-- The response in what a backend hands back. Where no buffer comes back, nothing has been written
and the size is as it was sent. -/
def ofAnswered (answered : Service.Answer × Operation) : Response where
  answer := answered.1
  written := answered.2.second.buffer?.getD []
  size := answered.2.second.size?.getD 2000

/-- The read buffer as the response leaves it: 2000 bytes, with zeros where nothing has been
written. -/
def buffer (response : Response) : Payload where
  bytes := Bytes.padded 2000 (response.written.take 2000)
  fits := Nat.le_of_eq (Bytes.length_padded (List.length_take_le 2000 response.written))

/-- As much of the read buffer as the response reports, which is all of it where it reports more. -/
def content (response : Response) : Payload where
  bytes := response.buffer.bytes.take (min response.size 2000)
  fits := Nat.le_trans (List.length_take_le' _ _) response.buffer.fits

def readReply (policy : ShortReadPolicy) (key : ObjectKey) (response : Response) :
    Except ClientError ReadOutcome :=
  match response.answer with
  | .ok () => .ok (.found response.content)
  | .error failure =>
      if failure.status = .itemNotFound then .ok .notFound
      else if failure.status = .shortBuffer then
        match policy with
        | .report => .ok (.truncated response.buffer response.size)
        | .legacy => .ok (.found response.buffer)
        | .fatal => .error (.truncated key response.size)
      else .error (.backend .readRaw key failure)

/-- The reply to a write, for which no failure is an expected answer. -/
def writeReply (key : ObjectKey) (response : Response) : Except ClientError Unit :=
  match response.answer with
  | .ok () => .ok ()
  | .error failure => .error (.backend .writeRaw key failure)

def deletionReply (key : ObjectKey) (response : Response) : Except ClientError DeleteOutcome :=
  match response.answer with
  | .ok () => .ok .success
  | .error failure =>
      if failure.status = .itemNotFound then .ok .notFound
      else .error (.backend .delete key failure)

/-- The reply to an order that got this response. -/
def reply (policy : ShortReadPolicy) (response : Response) : Order → Reply
  | .read key => .read (response.readReply policy key)
  | .write key _ => .write (response.writeReply key)
  | .delete key => .deletion (response.deletionReply key)

/-- A buffer of zeros, written over. -/
theorem overwrite_zeros (written : Bytes) (length : Nat) :
    Bytes.overwrite (List.replicate length 0) written
      = Bytes.padded length (written.take length) := by
  have rest : length - written.length = length - (written.take length).length := by
    rw [List.length_take]
    omega
  rw [Bytes.overwrite, Bytes.padded, List.length_replicate, List.drop_replicate, rest]

/-- The host sees the buffer of the response. -/
theorem bufferOf_seen (key : ObjectKey) (answer : Service.Answer) (returned : Operation) :
    bufferOf ((readOperation key).updated returned)
      = (ofAnswered (answer, returned)).buffer.bytes := by
  have untouched : List.replicate objectCapacity 0 = Bytes.padded 2000 [] := rfl
  obtain ⟨first, second, third, fourth⟩ := returned
  cases second with
  | absent => exact untouched
  | input data => exact untouched
  | output written size => exact overwrite_zeros written objectCapacity

/-- The host sees the size of the response. -/
theorem sizeOf_seen (key : ObjectKey) (answer : Service.Answer) (returned : Operation) :
    sizeOf ((readOperation key).updated returned) = (ofAnswered (answer, returned)).size := by
  have sent : (List.replicate objectCapacity (0 : UInt8)).length = objectCapacity :=
    List.length_replicate
  obtain ⟨first, second, third, fourth⟩ := returned
  cases second with
  | absent => exact sent
  | input data => exact sent
  | output written size => rfl

/-- A reported size past the end of the buffer cuts nothing off. -/
theorem take_size (response : Response) :
    response.buffer.bytes.take response.size = response.content.bytes := by
  have full : response.buffer.bytes.length = 2000 :=
    Bytes.length_padded (List.length_take_le 2000 response.written)
  rw [content, List.take_eq_take_min, full]

/-- The verdict on a read depends only on the response as a whole, not on the slots one by one. -/
theorem readVerdict_eq (client : Client) (key : ObjectKey) (answer : Service.Answer)
    (returned : Operation) :
    client.readVerdict ((readOperation key).updated returned) key answer
      = (ofAnswered (answer, returned)).readReply client.policy key := by
  generalize made : ofAnswered (answer, returned) = response
  have answered : response.answer = answer := by rw [← made, ofAnswered]
  have buffer : bufferOf ((readOperation key).updated returned) = response.buffer.bytes := by
    rw [← made]
    exact bufferOf_seen key answer returned
  have size : sizeOf ((readOperation key).updated returned) = response.size := by
    rw [← made]
    exact sizeOf_seen key answer returned
  have whole {α : Type} (result : Payload → α) :
      received response.buffer.bytes result = .ok (result response.buffer) :=
    received_of_fits result response.buffer.fits
  cases answer with
  | ok done =>
      simp only [readVerdict, readReply, answered, buffer, size, take_size]
      exact received_of_fits ReadOutcome.found response.content.fits
  | error failure =>
      simp only [readVerdict, readReply, answered, buffer, size]
      split
      · rfl
      · split
        · cases client.policy with
          | report => exact whole fun part => ReadOutcome.truncated part response.size
          | legacy => exact whole ReadOutcome.found
          | fatal => rfl
        · rfl

/-- The verdict on an order that has been answered is the reply of the response. -/
theorem verdict_eq (client : Client) (order : Order) (answer : Service.Answer)
    (returned : Operation) :
    client.verdict (order.operation.updated returned) order answer
      = (ofAnswered (answer, returned)).reply client.policy order := by
  cases order with
  | read key => exact congrArg Reply.read (readVerdict_eq client key answer returned)
  | write key payload => cases answer <;> rfl
  | delete key => cases answer <;> rfl

/-- An error in the reply carries the status of the failure that the response is. -/
theorem status?_of_reply {policy : ShortReadPolicy} {response : Response} {order : Order}
    {error : ClientError} (fails : (response.reply policy order).error? = some error) :
    ∃ failure, response.answer = .error failure ∧ error.status? = some failure.status := by
  obtain ⟨⟨failure⟩ | ⟨done⟩, written, size⟩ := response
  case ok => cases order <;> cases fails
  refine ⟨failure, rfl, ?_⟩
  cases order with
  | read key =>
      simp only [reply, readReply] at fails
      split at fails
      · cases fails
      split at fails
      · next short =>
          cases policy with
          | report | legacy => cases fails
          | fatal =>
              cases fails
              rw [short]
              rfl
      · cases fails
        rfl
  | write key payload =>
      cases fails
      rfl
  | delete key =>
      simp only [reply, deletionReply] at fails
      split at fails
      · cases fails
      · cases fails
        rfl

end Response

/-! ### Receptions of an order -/

/-- How an order is received: it meets no connection, no session, or a response to its command. -/
inductive Reception where
  | noContext (failure : Failure)
  | noSession (failure : Failure)
  | answered (response : Response)

namespace Reception

/-- The reply to an order that is received so. -/
def reply (policy : ShortReadPolicy) (order : Order) : Reception → Reply
  | .noContext failure => .failed order.command (.session ⟨.context, failure⟩)
  | .noSession failure => .failed order.command (.session ⟨.openSession, failure⟩)
  | .answered response => response.reply policy order

def refusal? : Reception → Option Failure
  | .noContext failure | .noSession failure => some failure
  | .answered ⟨.error failure, _, _⟩ => some failure
  | .answered ⟨.ok (), _, _⟩ => none

/-- An error carries the status of the refusal behind it, wherever the order was refused. -/
theorem status?_of_reply {policy : ShortReadPolicy} {order : Order} {reception : Reception}
    {error : ClientError} (fails : (reception.reply policy order).error? = some error) :
    ∃ failure, reception.refusal? = some failure ∧ error.status? = some failure.status := by
  cases reception with
  | noContext failure | noSession failure =>
      rw [reply, Reply.error?_failed] at fails
      cases fails
      exact ⟨failure, rfl, rfl⟩
  | answered response =>
      obtain ⟨failure, answer, status⟩ := Response.status?_of_reply fails
      obtain ⟨_, written, size⟩ := response
      cases answer
      exact ⟨failure, rfl, status⟩

end Reception

variable {σ κ ς : Type}

/-- How a backend in state `s` receives an order. -/
def reception (client : Client) (backend : Backend σ κ ς) (order : Order) (s : σ) : Reception :=
  match backend.connect.run s with
  | ⟨.error failure, _, _⟩ => .noContext failure
  | ⟨.ok context, s₁, _⟩ =>
      match (backend.openSession context client.service client.login).run s₁ with
      | ⟨.error failure, _, _⟩ => .noSession failure
      | ⟨.ok session, s₂, _⟩ =>
          .answered (.ofAnswered
            ((backend.invoke session order.command.id order.operation).run s₂).value)

/-- The reply to an order is decided by how the backend receives it. -/
theorem execute_reception (client : Client) (backend : Backend σ κ ς) (order : Order) (s : σ) :
    ((client.execute backend order).run s).value
      = (client.reception backend order s).reply client.policy order := by
  have course := course_execute client backend order s
  generalize (client.execute backend order).run s = outcome at course
  cases course with
  | noContext connects =>
      rw [reception, connects]
      rfl
  | noSession connects opens finalizes =>
      simp only [reception, connects, opens]
      rfl
  | answered connects opens invokes closes finalizes =>
      simp only [reception, connects, opens, invokes]
      exact Response.verdict_eq client order _ _

/-- A valid request is an order, and gets the reply that its reception leads to; an error in the
reply carries the status with which the backend refused. -/
theorem perform_reception (client : Client) (backend : Backend σ κ ς) {request : Request}
    (valid : request.Valid) (s : σ) :
    ∃ order, request.checked = .ok order ∧
      let reply := ((client.perform backend request).run s).value
      let reception := client.reception backend order s
      reply = reception.reply client.policy order ∧
        ∀ error, reply.error? = some error →
          ∃ failure, reception.refusal? = some failure ∧ error.status? = some failure.status := by
  obtain ⟨order, checked⟩ := Request.checked_isOk_iff.mpr valid
  have replies : ((client.perform backend request).run s).value
      = (client.reception backend order s).reply client.policy order := by
    rw [perform_of_checked checked]
    exact execute_reception client backend order s
  refine ⟨order, checked, replies, ?_⟩
  intro error fails
  rw [replies] at fails
  exact Reception.status?_of_reply fails

/-- A backend that wants a larger buffer and yet reports a small size, under the policy for which a
short buffer is an error. -/
theorem perform_reception_short_buffer :
    let client : Client := ⟨.secureStorage, .anyone, .fatal⟩
    let script : Script := ⟨none, none, some ⟨.shortBuffer, .unknown 9⟩, [1, 2], some 5⟩
    let request : Request := .get "k"
    request.Valid ∧ ∃ order, request.checked = .ok order ∧
      ((client.perform Script.backend request).run script).value
        = .read (.error (.truncated order.key 5)) ∧
      (ClientError.truncated order.key 5).status? = some .shortBuffer := by
  intro client script request
  have valid : request.Valid := by decide
  obtain ⟨order, checked, replies, statuses⟩ := perform_reception client Script.backend valid script
  refine ⟨valid, order, checked, ?_⟩
  have reads : order.command = .readRaw := Request.command_of_checked checked
  cases order with
  | read key =>
      have fails : ((client.perform Script.backend request).run script).value
          = .read (.error (.truncated key 5)) := replies
      obtain ⟨failure, refuses, status⟩ := statuses (.truncated key 5) (by rw [fails]; rfl)
      cases refuses
      exact ⟨fails, status⟩
  | write key payload => cases reads
  | delete key => cases reads

end Client

end ObjectVault
