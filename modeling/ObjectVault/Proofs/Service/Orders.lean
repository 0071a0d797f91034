import ObjectVault.Proofs.Client.Requests
import ObjectVault.Service

/-!
# Orders at the service

What the trusted service does with the orders of a client, over any object table. Keys meet all that
the service asks of an object id, and the slots of an order are of the kinds that its command expects,
so that every order gets through to the table: `dispatch_order`.

* `readVerdict_deliver`: an object is found in full if it fits the read buffer; of one that does not
  fit, nothing is read.
-/

namespace ObjectVault

/-! ### Buffers written over in full -/

namespace Bytes

theorem overwrite_of_length_eq {buffer data : Bytes} (same : data.length = buffer.length) :
    buffer.overwrite data = data := by
  simp [overwrite, ← same]

theorem take_overwrite {buffer data : Bytes} (fits : data.length ≤ buffer.length) :
    (buffer.overwrite data).take data.length = data := by
  simp [overwrite, List.take_of_length_le fits]

end Bytes

namespace Service

/-- An object that fits is copied to the start of the buffer. -/
theorem deliver_of_fits {data buffer : Bytes} {size : Nat} {op : Operation}
    (second : op.second = .output buffer size) (fits : data.length ≤ buffer.length) :
    deliver data op = (.ok (), { op with second := .output (buffer.overwrite data) data.length }) := by
  simp [deliver, second, fits]

/-- Of an object that does not fit, only the size is given. -/
theorem deliver_of_large {data buffer : Bytes} {size : Nat} {op : Operation}
    (second : op.second = .output buffer size) (large : buffer.length < data.length) :
    deliver data op
      = (.error (.trustedApp .shortBuffer), { op with second := .output buffer data.length }) := by
  simp [deliver, second, large]

end Service

namespace ObjectTable

variable (objects : Table Bytes Bytes) (id data : Bytes)

theorem run_load_inMemory :
    (inMemory.load id).run objects = ⟨.ok (objects.lookup id), objects, []⟩ := rfl

theorem run_store_inMemory :
    (inMemory.store id data).run objects = ⟨.ok (), objects.insert id data, []⟩ := rfl

theorem run_remove_inMemory :
    (inMemory.remove id).run objects
      = ⟨.ok (objects.lookup id).isSome, objects.erase id, []⟩ := rfl

end ObjectTable

/-! ### Getting through to the table -/

namespace Service

variable {σ : Type} (table : ObjectTable σ)

/-- What a command does about the object with the given id. -/
def act (id : Bytes) (op : Operation) : Command → Action σ (Answer × Operation)
  | .readRaw => read table id op
  | .writeRaw => write table id op
  | .delete => delete table id op

/-- A command with the slots it expects and an id that the service takes is acted on. -/
theorem dispatch_of_taken {command : Command} {op : Operation} {id : Bytes}
    (kinds : op.kinds = expectedKinds command) (taken : objectId? op = some id) :
    dispatch table command.id op = act table id op command := by
  simp only [dispatch, Command.ofId?_id, perform, if_pos kinds, taken]
  rfl

end Service

namespace Client

variable {σ : Type}

/-- The slots of an order are of the kinds that its command expects. -/
theorem kinds_operation (order : Order) :
    order.operation.kinds = Service.expectedKinds order.command := by
  cases order <;> rfl

/-- The service takes the id of every key. -/
theorem objectId?_operation (order : Order) :
    Service.objectId? order.operation = some order.key.bytes := by
  have taken (key : ObjectKey) :
      (some key.bytes).filter (fun id => !id.isEmpty && id.length ≤ maxKeyLength)
        = some key.bytes := by
    simp [ObjectKey.bytes, key.nonempty, key.fits]
  cases order with
  | read key | write key payload | delete key => exact taken key

/-- What the service does with the slots of an order. -/
def serve (table : ObjectTable σ) : Order → Action σ (Service.Answer × Operation)
  | .read key => Service.read table key.bytes (readOperation key)
  | .write key payload => Service.write table key.bytes (writeOperation key payload)
  | .delete key => Service.delete table key.bytes (deleteOperation key)

/-- No order is turned away before the table is asked. -/
theorem dispatch_order (table : ObjectTable σ) (order : Order) :
    Service.dispatch table order.command.id order.operation = serve table order := by
  rw [Service.dispatch_of_taken table (kinds_operation order) (objectId?_operation order)]
  cases order <;> rfl

/-! ### The reply to an order that got through -/

/-- The read buffer as it goes out. -/
def blank : Payload := ⟨List.replicate objectCapacity 0, Nat.le_of_eq List.length_replicate⟩

/-- What a policy makes of an object that needs `required` bytes, of which none have been read. -/
def oversizeReply (policy : ShortReadPolicy) (key : ObjectKey) (required : Nat) :
    Except ClientError ReadOutcome :=
  match policy with
  | .report => .ok (.truncated blank required)
  | .legacy => .ok (.found blank)
  | .fatal => .error (.truncated key required)

theorem shortVerdict_blank (policy : ShortReadPolicy) (key : ObjectKey) (required : Nat) :
    shortVerdict policy key blank.bytes required = oversizeReply policy key required := by
  cases policy with
  | report | legacy => simp only [shortVerdict, oversizeReply, received, Payload.ofBytes_bytes]
  | fatal => rfl

/-- What a read comes to that finds `data` in the table. -/
def foundReply (policy : ShortReadPolicy) (key : ObjectKey) (data : Bytes) :
    Except ClientError ReadOutcome :=
  if fits : data.length ≤ objectCapacity then .ok (.found ⟨data, fits⟩)
  else oversizeReply policy key data.length

theorem second_readOperation (key : ObjectKey) :
    (readOperation key).second = .output blank.bytes objectCapacity := by
  rw [readOperation, Slot.ofBuffer, List.length_replicate]
  rfl

/-- The read buffer afterwards, where the backend hands a full one back. -/
theorem bufferOf_updated {key : ObjectKey} {returned : Operation} {written : Bytes} {size : Nat}
    (second : returned.second = .output written size) (full : written.length = objectCapacity) :
    bufferOf ((readOperation key).updated returned) = written := by
  rw [bufferOf, Operation.updated, second_readOperation, second]
  exact Bytes.overwrite_of_length_eq (full.trans List.length_replicate.symm)

theorem sizeOf_updated {key : ObjectKey} {returned : Operation} {written : Bytes} {size : Nat}
    (second : returned.second = .output written size) :
    sizeOf ((readOperation key).updated returned) = size := by
  rw [sizeOf, Operation.updated, second_readOperation, second]
  rfl

/-- An object that fits the read buffer is found as it is; of a larger one nothing is read. -/
theorem readVerdict_deliver (client : Client) (key : ObjectKey) (data : Bytes) :
    let delivered := Service.deliver data (readOperation key)
    client.readVerdict ((readOperation key).updated delivered.2) key delivered.1
      = foundReply client.policy key data := by
  intro delivered
  have sent := second_readOperation key
  have length_blank : blank.bytes.length = objectCapacity := List.length_replicate
  by_cases fits : data.length ≤ objectCapacity
  · have delivers : delivered = _ := Service.deliver_of_fits sent (length_blank ▸ fits)
    have buffer : bufferOf ((readOperation key).updated delivered.2)
        = blank.bytes.overwrite data := by
      rw [delivers]
      exact bufferOf_updated rfl ((Bytes.length_overwrite _ _).trans length_blank)
    have size : sizeOf ((readOperation key).updated delivered.2) = data.length := by
      rw [delivers]
      exact sizeOf_updated rfl
    have answer : delivered.1 = .ok () := by rw [delivers]
    rw [foundReply, dif_pos fits, answer, readVerdict, buffer, size,
      Bytes.take_overwrite (length_blank ▸ fits)]
    simp [received, Payload.ofBytes, fits]
  · have large : blank.bytes.length < data.length := by omega
    have delivers : delivered = _ := Service.deliver_of_large sent large
    have buffer : bufferOf ((readOperation key).updated delivered.2) = blank.bytes := by
      rw [delivers]
      exact bufferOf_updated rfl length_blank
    have size : sizeOf ((readOperation key).updated delivered.2) = data.length := by
      rw [delivers]
      exact sizeOf_updated rfl
    have answer : delivered.1 = .error (.trustedApp .shortBuffer) := by rw [delivers]
    have notMissing : (Status.shortBuffer : Status) ≠ .itemNotFound := by decide
    rw [foundReply, dif_neg fits, answer, readVerdict, buffer, size]
    simp [Failure.trustedApp, notMissing, shortVerdict_blank]

/-! ### Replies from the answers of a table -/

/-- The reply to an order, from the answer and the slots that the backend gives back. -/
def reply (client : Client) (order : Order) (answered : Service.Answer × Operation) : Reply :=
  client.verdict (order.operation.updated answered.2) order answered.1

/-- The reply to an order that fails with its slots as they were sent. -/
def refusedReply (policy : ShortReadPolicy) (failure : Failure) : Order → Reply
  | .read key =>
      if failure.status = .itemNotFound then .read (.ok .notFound)
      else if failure.status = .shortBuffer then .read (oversizeReply policy key objectCapacity)
      else .read (.error (.backend .readRaw key failure))
  | .write key _ => .write (.error (.backend .writeRaw key failure))
  | .delete key =>
      if failure.status = .itemNotFound then .deletion (.ok .notFound)
      else .deletion (.error (.backend .delete key failure))

/-- What a refusal comes to depends on its status, as no slot has changed. -/
theorem reply_of_refused (client : Client) (order : Order) (failure : Failure) :
    client.reply order (.error failure, order.operation)
      = refusedReply client.policy failure order := by
  cases order with
  | read key =>
      have sent := second_readOperation key
      have buffer : bufferOf ((readOperation key).updated (readOperation key)) = blank.bytes :=
        bufferOf_updated sent List.length_replicate
      have size : sizeOf ((readOperation key).updated (readOperation key)) = objectCapacity :=
        sizeOf_updated sent
      simp only [reply, verdict, Order.operation, readVerdict, buffer, size, shortVerdict_blank,
        refusedReply]
      split
      · rfl
      · split <;> rfl
  | write key payload => rfl
  | delete key =>
      simp only [reply, verdict, deletionVerdict, refusedReply]
      split <;> rfl

/-- The reply to a read, from what the table gives for the key. -/
def loadedReply (policy : ShortReadPolicy) (key : ObjectKey) :
    Except Failure (Option Bytes) → Reply
  | .ok (some data) => .read (foundReply policy key data)
  | .ok none => .read (.ok .notFound)
  | .error failure => refusedReply policy failure (.read key)

/-- The reply to a deletion, from what the table says about the key. -/
def removedReply (policy : ShortReadPolicy) (key : ObjectKey) : Except Failure Bool → Reply
  | .ok true => .deletion (.ok .success)
  | .ok false => .deletion (.ok .notFound)
  | .error failure => refusedReply policy failure (.delete key)

section Runs

variable (client : Client) (table : ObjectTable σ) {key : ObjectKey} {s s₁ : σ} {e : List Event}

/-- A read is answered from what the table gives for the key. -/
theorem run_serve_read {loaded : Except Failure (Option Bytes)}
    (loads : (table.load key.bytes).run s = ⟨loaded, s₁, e⟩) :
    let served := (serve table (.read key)).run s
    client.reply (.read key) served.value = loadedReply client.policy key loaded ∧
      served.state = s₁ ∧ served.events = e := by
  match loaded with
  | .ok (some data) =>
      have served : (serve table (.read key)).run s
          = ⟨Service.deliver data (readOperation key), s₁, e⟩ := by
        simp [serve, Service.read, Action.run_bind, loads]
      rw [served]
      exact ⟨congrArg Reply.read (readVerdict_deliver client key data), rfl, rfl⟩
  | .ok none =>
      have served : (serve table (.read key)).run s
          = ⟨(.error Service.notFound, readOperation key), s₁, e⟩ := by
        simp [serve, Service.read, Action.run_bind, loads]
      rw [served]
      exact ⟨reply_of_refused client (.read key) Service.notFound, rfl, rfl⟩
  | .error failure =>
      have served : (serve table (.read key)).run s
          = ⟨(.error failure, readOperation key), s₁, e⟩ := by
        simp [serve, Service.read, Action.run_bind, loads]
      rw [served]
      exact ⟨reply_of_refused client (.read key) failure, rfl, rfl⟩

/-- A write is answered by what the table says to it. -/
theorem run_serve_write {payload : Payload} {stored : Except Failure Unit}
    (stores : (table.store key.bytes payload.padded).run s = ⟨stored, s₁, e⟩) :
    let served := (serve table (.write key payload)).run s
    client.reply (.write key payload) served.value
        = .write (stored.mapError (.backend .writeRaw key)) ∧
      served.state = s₁ ∧ served.events = e := by
  have served : (serve table (.write key payload)).run s
      = ⟨(stored, writeOperation key payload), s₁, e⟩ := by
    simp [serve, Service.write, writeOperation, Slot.input?, Action.run_map, stores]
  rw [served]
  exact ⟨rfl, rfl, rfl⟩

theorem run_serve_delete {removed : Except Failure Bool}
    (removes : (table.remove key.bytes).run s = ⟨removed, s₁, e⟩) :
    let served := (serve table (.delete key)).run s
    client.reply (.delete key) served.value = removedReply client.policy key removed ∧
      served.state = s₁ ∧ served.events = e := by
  match removed with
  | .ok true =>
      have served : (serve table (.delete key)).run s = ⟨(.ok (), deleteOperation key), s₁, e⟩ := by
        simp [serve, Service.delete, Action.run_bind, removes]
      rw [served]
      exact ⟨rfl, rfl, rfl⟩
  | .ok false =>
      have served : (serve table (.delete key)).run s
          = ⟨(.error Service.notFound, deleteOperation key), s₁, e⟩ := by
        simp [serve, Service.delete, Action.run_bind, removes]
      rw [served]
      exact ⟨reply_of_refused client (.delete key) Service.notFound, rfl, rfl⟩
  | .error failure =>
      have served : (serve table (.delete key)).run s
          = ⟨(.error failure, deleteOperation key), s₁, e⟩ := by
        simp [serve, Service.delete, Action.run_bind, removes]
      rw [served]
      exact ⟨reply_of_refused client (.delete key) failure, rfl, rfl⟩

end Runs

end Client

end ObjectVault
