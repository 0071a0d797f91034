import ObjectVault.Proofs.Careful.Access
import ObjectVault.Proofs.Service.Contract

/-!
# Calls that cannot break

The service and the client, done carefully: they take parts and copy as in `Access`, and break where the
library has an answer ready for what should not happen. `nothing_breaks` says that they do exactly what
the library does, over every table, every backend and every guard that has been acquired, so that
nothing of this ever happens.

* `Service.dispatchCarefully_eq`: the check of the kinds leaves no slot of another kind.
* `Guard.exists_of_acquire`: an acquired guard holds a session.
* `Client.ofBytes_bufferOf`: the read buffer makes a payload, whatever size is reported.
-/

namespace ObjectVault

/-- An action that may break, after which nothing more is done. -/
abbrev Fallible (σ α : Type) : Type := ExceptT Breach (Action σ) α

namespace Fallible

variable {σ α β : Type}

def report (event : Event) : Fallible σ Unit := liftM (Action.report event : Action σ Unit)

/-- An action that is only taken over does not break. -/
theorem run_liftM (action : Action σ α) :
    (liftM action : Fallible σ α).run = Except.ok <$> action := rfl

/-- What follows on an action need only be the same for the values that the action can yield. -/
theorem bind_congr {action : Action σ α} {next : α → Action σ β} {careful : α → Fallible σ β}
    (same : ∀ s, careful (action.run s).value = liftM (next (action.run s).value)) :
    (liftM action >>= careful) = (liftM (action >>= next) : Fallible σ β) := by
  have lifted (rest : α → Fallible σ β) :
      (liftM action >>= rest).run = action >>= fun value => (rest value).run :=
    ExceptT.run_bind_lift action rest
  have runs (s : σ) : (action >>= fun value => (careful value).run).run s
      = (action >>= fun value => (liftM (next value) : Fallible σ β).run).run s := by
    rw [Action.run_bind, Action.run_bind, same s]
  have careful_eq : (liftM action >>= careful : Fallible σ β).run
      = (liftM action >>= fun value => liftM (next value) : Fallible σ β).run := by
    rw [lifted, lifted]
    exact funext runs
  rw [liftM_bind]
  exact careful_eq

end Fallible

/-! ### The service -/

namespace Service

/-- The id in the first slot, which has been checked to be an input. -/
def objectIdCarefully (op : Operation) : Except Breach (Option Bytes) :=
  match op.first.input? with
  | some id => return if !id.isEmpty && id.length ≤ maxKeyLength then some id else none
  | none => throw (.unexpectedSlot 0)

/-- Copies stored bytes into the read buffer, or says how large a buffer they need. -/
def deliverCarefully (data : Bytes) (op : Operation) : Except Breach (Answer × Operation) :=
  match op.second with
  | .output buffer _ => do
      if buffer.length < data.length then
        return (.error (.trustedApp .shortBuffer), { op with second := .output buffer data.length })
      let filled ← Bytes.copyToFront buffer data
      return (.ok (), { op with second := .output filled data.length })
  | _ => throw (.unexpectedSlot 1)

variable {σ : Type} (table : ObjectTable σ)

def readCarefully (id : Bytes) (op : Operation) : Fallible σ (Answer × Operation) := do
  match ← table.load id with
  | .error failure => return (.error failure, op)
  | .ok none => return (.error notFound, op)
  | .ok (some data) => deliverCarefully data op

def writeCarefully (id : Bytes) (op : Operation) : Fallible σ (Answer × Operation) :=
  match op.second.input? with
  | none => throw (.unexpectedSlot 1)
  | some data => do return (← table.store id data, op)

def performCarefully (command : Command) (op : Operation) : Fallible σ (Answer × Operation) := do
  if op.kinds = expectedKinds command then
    match ← objectIdCarefully op with
    | none => return (.error badParameters, op)
    | some id =>
        match command with
        | .readRaw => readCarefully table id op
        | .writeRaw => writeCarefully table id op
        | .delete => delete table id op
  else return (.error badParameters, op)

def dispatchCarefully (number : UInt32) (op : Operation) : Fallible σ (Answer × Operation) :=
  match Command.ofId? number with
  | none => return (.error badParameters, op)
  | some command => performCarefully table command op

section Kinds

variable {op : Operation}

/-- Every command expects an input in the first slot. -/
theorem first_of_kinds {command : Command} (kinds : op.kinds = expectedKinds command) :
    ∃ id, op.first = .input id := by
  have first : op.first.kind = .input := by
    cases command <;> exact (List.cons.inj kinds).1
  exact Slot.kind_eq_input.mp first

/-- The slots of a read have a buffer in second place. -/
theorem second_of_kinds_read (kinds : op.kinds = expectedKinds .readRaw) :
    ∃ buffer size, op.second = .output buffer size :=
  Slot.kind_eq_output.mp (List.cons.inj (List.cons.inj kinds).2).1

theorem second_of_kinds_write (kinds : op.kinds = expectedKinds .writeRaw) :
    ∃ data, op.second = .input data :=
  Slot.kind_eq_input.mp (List.cons.inj (List.cons.inj kinds).2).1

end Kinds

theorem objectIdCarefully_eq {op : Operation} {id : Bytes} (first : op.first = .input id) :
    objectIdCarefully op = .ok (objectId? op) := by
  rw [objectIdCarefully, objectId?, first]
  rfl

/-- A delivery never reaches beyond the buffer, since a longer object is not copied. -/
theorem deliverCarefully_eq {op : Operation} {buffer : Bytes} {size : Nat}
    (second : op.second = .output buffer size) (data : Bytes) :
    deliverCarefully data op = .ok (deliver data op) := by
  rw [deliverCarefully, deliver, second]
  simp only
  split
  · rfl
  · next fits =>
      rw [Bytes.copyToFront_of_le (Nat.le_of_not_lt fits)]
      rfl

/-- A read that is given a buffer does not break. -/
theorem readCarefully_eq {op : Operation} {buffer : Bytes} {size : Nat}
    (second : op.second = .output buffer size) (id : Bytes) :
    readCarefully table id op = liftM (read table id op) := by
  rw [readCarefully, read, liftM_bind]
  refine congrArg _ (funext fun loaded => ?_)
  split
  · rw [liftM_pure]
  · rw [liftM_pure]
  · rw [deliverCarefully_eq second, liftM_pure]
    rfl

theorem writeCarefully_eq {op : Operation} {data : Bytes} (second : op.second = .input data)
    (id : Bytes) : writeCarefully table id op = liftM (write table id op) := by
  have input : op.second.input? = some data := by rw [second, Slot.input?]
  simp only [writeCarefully, write, input, liftM_bind, liftM_pure]

/-- No command breaks, because the kinds of the slots are checked first. -/
theorem performCarefully_eq (command : Command) (op : Operation) :
    performCarefully table command op = liftM (perform table command op) := by
  rw [performCarefully, perform]
  by_cases kinds : op.kinds = expectedKinds command
  · obtain ⟨first, input⟩ := first_of_kinds kinds
    have known : (liftM (objectIdCarefully op) : Fallible σ (Option Bytes)) = pure (objectId? op) := by
      rw [objectIdCarefully_eq input]
      rfl
    rw [if_pos kinds, if_pos kinds, known, pure_bind]
    cases objectId? op with
    | none => rw [liftM_pure]
    | some id =>
        cases command with
        | readRaw =>
            obtain ⟨buffer, size, output⟩ := second_of_kinds_read kinds
            exact readCarefully_eq table output id
        | writeRaw =>
            obtain ⟨data, input⟩ := second_of_kinds_write kinds
            exact writeCarefully_eq table input id
        | delete => rfl
  · rw [if_neg kinds, if_neg kinds, liftM_pure]

/-- Whatever number and slots are sent, the service does not break. -/
theorem dispatchCarefully_eq (number : UInt32) (op : Operation) :
    dispatchCarefully table number op = liftM (dispatch table number op) := by
  cases known : Command.ofId? number with
  | none => simp only [dispatchCarefully, dispatch, known, liftM_pure]
  | some command =>
      simp only [dispatchCarefully, dispatch, known]
      exact performCarefully_eq table command op

end Service

/-! ### Guards -/

namespace Guard

variable {σ κ ς : Type}

/-- Sends a command over the session that a guard is taken to hold. -/
def invokeCarefully (backend : Backend σ κ ς) (guard : Guard κ ς) (command : Command)
    (op : Operation) : Fallible σ (Service.Answer × Operation) :=
  match guard.session with
  | none => throw .noSession
  | some session => do
      Fallible.report (.invoking command op.kinds)
      let (answer, returned) ← backend.invoke session command.id op
      return (answer, op.updated returned)

variable {backend : Backend σ κ ς} {guard : Guard κ ς}

/-- A guard that has been acquired holds a connection and a session, whatever the backend is. -/
theorem exists_of_acquire {service : ServiceId} {login : Login} {s : σ}
    (acquired : ((acquire backend service login).run s).value = .ok guard) :
    ∃ context session, guard = ⟨some context, some session⟩ := by
  rcases connects : backend.connect.run s with ⟨failure | context, s₁, e₁⟩
  · rw [run_acquire_of_no_context connects] at acquired
    cases acquired
  rcases opens : (backend.openSession context service login).run s₁ with ⟨failure | session, s₂, e₂⟩
  · rw [run_acquire_of_no_session connects opens rfl] at acquired
    cases acquired
  · rw [run_acquire connects opens] at acquired
    cases acquired
    exact ⟨context, session, rfl⟩

/-- A guard that holds a session always sends its commands. -/
theorem invokeCarefully_eq (backend : Backend σ κ ς) (context : Option κ) (session : ς)
    (command : Command) (op : Operation) :
    invokeCarefully backend ⟨context, some session⟩ command op
      = liftM (invoke backend ⟨context, some session⟩ command op) := by
  simp only [invokeCarefully, invoke, Fallible.report, liftM_bind, liftM_pure]

/-- The host sees its own slots, as far as they have not been written over. -/
theorem exists_updated (backend : Backend σ κ ς) (context : Option κ) (session : ς)
    (command : Command) (op : Operation) (s : σ) :
    ∃ answer returned, ((invoke backend ⟨context, some session⟩ command op).run s).value
      = (answer, op.updated returned) :=
  ⟨_, _, rfl⟩

/-- A guard that has been released sends nothing. -/
example (backend : Backend σ κ ς) (command : Command) (op : Operation) :
    released.invokeCarefully backend command op = throw .noSession := rfl

end Guard

/-! ### The client -/

namespace Client

variable {σ κ ς α : Type}

/-- A payload that comes from a read buffer, which has been made to hold no more than a payload can. -/
def receivedCarefully (bytes : Bytes) (result : Payload → α) :
    Except Breach (Except ClientError α) :=
  match Payload.ofBytes bytes with
  | .ok payload => return .ok (result payload)
  | .error cause => throw (.noPayload cause)

def shortReadCarefully (client : Client) (key : ObjectKey) (buffer : Bytes) (required : Nat) :
    Fallible σ (Except ClientError ReadOutcome) := do
  Fallible.report (.objectTooLarge key required)
  match client.policy with
  | .report => receivedCarefully buffer fun part => .truncated part required
  | .legacy => receivedCarefully buffer .found
  | .fatal => return .error (.truncated key required)

def readResultCarefully (client : Client) (key : ObjectKey) (answer : Service.Answer)
    (buffer : Bytes) (reported : Nat) : Fallible σ (Except ClientError ReadOutcome) :=
  match answer with
  | .ok () => receivedCarefully (buffer.take reported) .found
  | .error failure =>
      if failure.status = .itemNotFound then return .ok .notFound
      else if failure.status = .shortBuffer then client.shortReadCarefully key buffer reported
      else (refused .readRaw key failure : Action σ (Except ClientError ReadOutcome))

def runCarefully (client : Client) (backend : Backend σ κ ς) (command : Command) (key : ObjectKey)
    (call : Guard κ ς → Fallible σ (Except ClientError α)) : Fallible σ (Except ClientError α) := do
  match ← Guard.acquire backend client.service client.login with
  | .error failure =>
      Fallible.report (.sessionUnavailable command key failure)
      return .error (.session failure)
  | .ok guard =>
      let result ← call guard
      guard.close backend
      Fallible.report (.commandCompleted command key result.toBool)
      return result

def readCallCarefully (client : Client) (backend : Backend σ κ ς) (key : ObjectKey)
    (guard : Guard κ ς) : Fallible σ (Except ClientError ReadOutcome) := do
  Fallible.report (.readEncoded key)
  let (answer, op) ← guard.invokeCarefully backend .readRaw (readOperation key)
  client.readResultCarefully key answer (bufferOf op) (sizeOf op)

/-- Sends bytes that have been padded before. -/
def writeCallCarefully (backend : Backend σ κ ς) (key : ObjectKey) (length : Nat) (padding : Bytes)
    (guard : Guard κ ς) : Fallible σ (Except ClientError Unit) := do
  Fallible.report (.writeEncoded key length)
  let (answer, _) ← guard.invokeCarefully backend .writeRaw
    ⟨.input key.bytes, .input padding, .absent, .absent⟩
  match answer with
  | .ok () => return .ok ()
  | .error failure => (refused .writeRaw key failure : Action σ (Except ClientError Unit))

def deleteCallCarefully (backend : Backend σ κ ς) (key : ObjectKey) (guard : Guard κ ς) :
    Fallible σ (Except ClientError DeleteOutcome) := do
  Fallible.report (.deleteEncoded key)
  let (answer, _) ← guard.invokeCarefully backend .delete (deleteOperation key)
  match answer with
  | .ok () => return .ok .success
  | .error failure =>
      if failure.status = .itemNotFound then return .ok .notFound
      else (refused .delete key failure : Action σ (Except ClientError DeleteOutcome))

def executeCarefully (client : Client) (backend : Backend σ κ ς) : Order → Fallible σ Reply
  | .read key => Reply.read <$> client.runCarefully backend .readRaw key
      (client.readCallCarefully backend key)
  | .write key payload => do
      let padding ← Payload.padCarefully payload.bytes
      Reply.write <$> client.runCarefully backend .writeRaw key
        (writeCallCarefully backend key payload.length padding)
  | .delete key => Reply.deletion <$> client.runCarefully backend .delete key
      (deleteCallCarefully backend key)

def performCarefully (client : Client) (backend : Backend σ κ ς) (request : Request) :
    Fallible σ Reply :=
  match request.checked with
  | .ok order => client.executeCarefully backend order
  | .error cause => do
      Fallible.report (request.refusal cause)
      return .failed request.command (.precondition cause)

/-! ### Read buffers -/

theorem receivedCarefully_eq {bytes : Bytes} (fits : bytes.length ≤ objectCapacity)
    (result : Payload → α) : receivedCarefully bytes result = .ok (received bytes result) := by
  rw [receivedCarefully, received, Payload.ofBytes, dif_pos fits]
  rfl

/-- The read buffer makes a payload, whatever the backend has written into it and whatever size it
reports, and the payload is as long as the size that is reported or as the buffer. -/
theorem ofBytes_bufferOf (key : ObjectKey) (returned : Operation) (size : Nat) :
    ∃ payload, Payload.ofBytes ((bufferOf ((readOperation key).updated returned)).take size)
      = .ok payload ∧ payload.length = min size 2000 := by
  have full := length_bufferOf key returned
  have length : ((bufferOf ((readOperation key).updated returned)).take size).length
      = min size 2000 := by rw [List.length_take, full, objectCapacity]
  have fits := length.trans_le (Nat.min_le_right size 2000)
  exact ⟨⟨_, fits⟩, Payload.ofBytes_bytes ⟨_, fits⟩, length⟩

/-- The result of a read does not break, however large the reported size is. -/
theorem readResultCarefully_eq (client : Client) (key : ObjectKey) (answer : Service.Answer)
    {buffer : Bytes} (fits : buffer.length ≤ objectCapacity) (reported : Nat) :
    (client.readResultCarefully key answer buffer reported : Fallible σ _)
      = liftM (client.readResult key answer buffer reported : Action σ _) := by
  have cut := (List.length_take_le' reported buffer).trans fits
  cases answer with
  | ok =>
      simp only [readResultCarefully, readResult, receivedCarefully_eq cut, liftM_pure]
      rfl
  | error failure =>
      simp only [readResultCarefully, readResult]
      split
      · rw [liftM_pure]
      split
      · simp only [shortReadCarefully, shortRead, receivedCarefully_eq fits, Fallible.report,
          liftM_bind]
        refine congrArg _ (funext fun _ => ?_)
        cases client.policy <;> rfl
      · rfl

/-! ### Calls over a session -/

/-- A call that does not break on a full guard does not break when the client runs it. -/
theorem runCarefully_eq (client : Client) (backend : Backend σ κ ς) (command : Command)
    (key : ObjectKey) {call : Guard κ ς → Action σ (Except ClientError α)}
    {careful : Guard κ ς → Fallible σ (Except ClientError α)}
    (same : ∀ context session, careful ⟨some context, some session⟩
      = liftM (call ⟨some context, some session⟩)) :
    client.runCarefully backend command key careful = liftM (client.run backend command key call) := by
  -- `careful` is known for open guards only, and no other guard can be acquired
  apply Fallible.bind_congr
  intro s
  cases acquired : ((Guard.acquire backend client.service client.login).run s).value with
  | error failure => simp only [Fallible.report, liftM_bind, liftM_pure]
  | ok guard =>
      obtain ⟨context, session, rfl⟩ := Guard.exists_of_acquire acquired
      simp only [same, Fallible.report, liftM_bind, liftM_pure]

theorem readCallCarefully_eq (client : Client) (backend : Backend σ κ ς) (key : ObjectKey)
    (context : κ) (session : ς) :
    client.readCallCarefully backend key ⟨some context, some session⟩
      = liftM (client.readCall backend key ⟨some context, some session⟩) := by
  simp only [readCallCarefully, readCall, Fallible.report, Guard.invokeCarefully_eq, liftM_bind]
  refine congrArg _ (funext fun _ => ?_)
  rw [← liftM_bind]
  -- what comes back are the slots that were sent, so that the buffer still has its length
  apply Fallible.bind_congr
  intro s
  obtain ⟨answer, returned, sees⟩ := Guard.exists_updated backend (some context) session .readRaw
    (readOperation key) s
  rw [sees]
  exact client.readResultCarefully_eq key answer (Nat.le_of_eq (length_bufferOf key returned)) _

theorem writeCallCarefully_eq (backend : Backend σ κ ς) (key : ObjectKey) (payload : Payload)
    (context : κ) (session : ς) :
    writeCallCarefully backend key payload.length payload.padded ⟨some context, some session⟩
      = liftM (writeCall backend key payload ⟨some context, some session⟩) := by
  simp only [writeCallCarefully, writeCall, Fallible.report, Guard.invokeCarefully_eq, liftM_bind]
  refine congrArg _ (funext fun _ => congrArg _ (funext fun answered => ?_))
  obtain ⟨answer, returned⟩ := answered
  cases answer <;> rfl

theorem deleteCallCarefully_eq (backend : Backend σ κ ς) (key : ObjectKey) (context : κ)
    (session : ς) :
    deleteCallCarefully backend key ⟨some context, some session⟩
      = liftM (deleteCall backend key ⟨some context, some session⟩) := by
  simp only [deleteCallCarefully, deleteCall, Fallible.report, Guard.invokeCarefully_eq, liftM_bind]
  refine congrArg _ (funext fun _ => congrArg _ (funext fun answered => ?_))
  obtain ⟨answer, returned⟩ := answered
  cases answer with
  | ok => rfl
  | error failure =>
      simp only
      split <;> rfl

/-- No order breaks, over any backend. -/
theorem executeCarefully_eq (client : Client) (backend : Backend σ κ ς) (order : Order) :
    client.executeCarefully backend order = liftM (client.execute backend order) := by
  cases order with
  | read key =>
      rw [executeCarefully, execute, getObject_eq, liftM_map,
        client.runCarefully_eq backend .readRaw key (client.readCallCarefully_eq backend key)]
  | write key payload =>
      rw [executeCarefully, execute, putObject_eq, liftM_map, Payload.padCarefully_bytes,
        ← client.runCarefully_eq backend .writeRaw key (writeCallCarefully_eq backend key payload)]
      rfl
  | delete key =>
      rw [executeCarefully, execute, deleteObject_eq, liftM_map,
        client.runCarefully_eq backend .delete key (deleteCallCarefully_eq backend key)]

theorem performCarefully_eq (client : Client) (backend : Backend σ κ ς) (request : Request) :
    client.performCarefully backend request = liftM (client.perform backend request) := by
  cases checked : request.checked with
  | ok order =>
      rw [performCarefully, checked, perform_of_checked checked]
      exact client.executeCarefully_eq backend order
  | error cause =>
      have refuses : client.perform backend request = do
          Action.report (request.refusal cause)
          return .failed request.command (.precondition cause) :=
        funext fun s => run_perform_of_refused checked s
      rw [performCarefully, checked, refuses, liftM_bind]
      rfl

end Client

/-! ### Payloads that can be come by -/

/-- The bytes of the payloads that a host can come by: made of bytes, without bytes, or got from any
backend in any state. -/
inductive Payload.Obtained : Bytes → Prop where
  | made {bytes : Bytes} {payload : Payload} (makes : Payload.ofBytes bytes = .ok payload) :
      Obtained bytes
  | empty : Obtained []
  | found {σ κ ς : Type} {client : Client} {backend : Backend σ κ ς} {request : Client.Request} {s : σ}
      {payload : Payload}
      (reads : ((client.perform backend request).run s).value = .read (.ok (.found payload))) :
      Obtained payload.bytes
  | truncated {σ κ ς : Type} {client : Client} {backend : Backend σ κ ς} {request : Client.Request}
      {s : σ} {part : Payload} {required : Nat}
      (reads : ((client.perform backend request).run s).value = .read (.ok (.truncated part required))) :
      Obtained part.bytes

/-- Every payload that can be obtained is within the capacity. -/
theorem Payload.Obtained.fits {bytes : Bytes} (obtained : Obtained bytes) :
    bytes.length ≤ objectCapacity := by
  cases obtained with
  | made makes => exact ofBytes_isOk_iff.mp ⟨_, makes⟩
  | empty => exact Nat.zero_le _
  | @found _ _ _ _ _ _ _ payload reads => exact payload.fits
  | @truncated _ _ _ _ _ _ _ part _ reads => exact part.fits

/-! ### Nothing breaks -/

/-- Nothing of this ever breaks. Whatever the digest is, its cut is inside; the bytes that can be
copied into the padding are those that make a payload, which is all that a host can come by; and the
service over any table, the client over any backend and a guard that has been acquired do carefully
what they do anyway, the read buffer making a payload whatever size is reported for it. -/
theorem nothing_breaks :
    (∀ (digest : Bytes → Digest) (space : String),
      (∀ names, ObjectKey.namespacedAllCarefully digest space names
        = .ok (ObjectKey.namespacedAllWith digest space names)) ∧
      ∀ name, ObjectKey.namespacedCarefully digest space name
        = .ok (ObjectKey.namespacedWith digest space name)) ∧
    (∀ bytes, ((∃ padding, Payload.padCarefully bytes = .ok padding) ↔
        ∃ payload, Payload.ofBytes bytes = .ok payload) ∧
      (Payload.Obtained bytes → Payload.padCarefully bytes = .ok (bytes.padded objectCapacity)) ∧
      Payload.textCarefully bytes = .ok bytes.text) ∧
    (∀ {σ : Type} (table : ObjectTable σ) (number : UInt32) (op : Operation),
      (Service.dispatchCarefully table number op).run
        = Except.ok <$> Service.dispatch table number op) ∧
    (∀ (key : ObjectKey) (returned : Operation) (size : Nat),
      let buffer := Client.bufferOf ((Client.readOperation key).updated returned)
      ∃ payload, Payload.ofBytes (buffer.take size) = .ok payload ∧
        payload.length = min size 2000) ∧
    (∀ {σ κ ς : Type} (backend : Backend σ κ ς) (service : ServiceId) (login : Login) (s : σ)
        (guard : Guard κ ς), ((Guard.acquire backend service login).run s).value = .ok guard →
      ∀ command op, (guard.invokeCarefully backend command op).run
        = Except.ok <$> guard.invoke backend command op) ∧
    ∀ {σ κ ς : Type} (backend : Backend σ κ ς) (client : Client) (request : Client.Request),
      (client.performCarefully backend request).run
        = Except.ok <$> client.perform backend request := by
  refine ⟨fun digest space => ⟨ObjectKey.namespacedAllCarefully_eq digest space,
    ObjectKey.namespacedCarefully_eq digest space⟩, fun bytes => ⟨?_, ?_,
    Payload.textCarefully_eq bytes⟩, ?_, Client.ofBytes_bufferOf, ?_, ?_⟩
  · rw [Payload.ofBytes_isOk_iff]
    constructor
    · rintro ⟨padding, pads⟩
      exact (Payload.padCarefully_eq_ok_iff.mp pads).1
    · intro fits
      exact ⟨_, Payload.padCarefully_eq_ok_iff.mpr ⟨fits, rfl⟩⟩
  · intro obtained
    exact Payload.padCarefully_eq_ok_iff.mpr ⟨obtained.fits, rfl⟩
  · intro σ table number op
    rw [Service.dispatchCarefully_eq, Fallible.run_liftM]
  · intro σ κ ς backend service login s guard acquired command op
    obtain ⟨context, session, rfl⟩ := Guard.exists_of_acquire acquired
    rw [Guard.invokeCarefully_eq, Fallible.run_liftM]
  · intro σ κ ς backend client request
    rw [Client.performCarefully_eq, Fallible.run_liftM]

end ObjectVault
