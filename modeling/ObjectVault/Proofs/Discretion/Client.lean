import ObjectVault.Proofs.Client.Requests
import ObjectVault.Proofs.Discretion.Agreement

/-!
# Clients and services that are discreet

Contents are alike where they have the same length. Everything that carries contents has a relation
of its own that lets the contents differ and nothing else: slots, operations, orders, requests and
replies.

* `agree_dispatch`: over a table that is discreet, the service answers alike operations alike.
* `agree_perform`: over a backend that is discreet, a client makes alike replies to alike requests,
  and reports the same events.
-/

namespace ObjectVault

/-! ### Alike contents -/

def Bytes.Alike (first second : Bytes) : Prop := first.length = second.length

namespace Bytes.Alike

variable {first second other another : Bytes}

protected theorem refl (bytes : Bytes) : bytes.Alike bytes := rfl

/-- Padding to the same size keeps lengths equal. -/
theorem padded (alike : first.Alike second) (size : Nat) :
    (first.padded size).Alike (second.padded size) := by
  simp only [Alike] at alike
  simp only [Alike, Bytes.padded, List.length_append, List.length_replicate, alike]

theorem take (alike : first.Alike second) (size : Nat) :
    Alike (first.take size) (second.take size) := by
  simp only [Alike] at alike
  simp only [Alike, List.length_take, alike]

/-- A buffer keeps its length whatever is written over it. -/
theorem overwrite (alike : first.Alike second) :
    (first.overwrite other).Alike (second.overwrite another) := by
  simp only [Alike, Bytes.length_overwrite]
  exact alike

end Bytes.Alike

def Payload.Alike (first second : Payload) : Prop := first.bytes.Alike second.bytes

/-- Whether bytes make a payload is a matter of their length alone. -/
theorem Payload.sameResult_ofBytes {first second : Bytes} (alike : first.Alike second) :
    SameResult Payload.Alike (Payload.ofBytes first) (Payload.ofBytes second) := by
  by_cases fits : first.length ≤ objectCapacity
  · have fits' : second.length ≤ objectCapacity := alike ▸ fits
    simp only [ofBytes, dif_pos fits, dif_pos fits']
    exact .ok alike
  · have large : ¬ second.length ≤ objectCapacity := alike ▸ fits
    rw [ofBytes, ofBytes, dif_neg fits, dif_neg large, show first.length = second.length from alike]
    exact .error _

/-- Slots that differ in the bytes they hold at most. -/
inductive Slot.Alike : Slot → Slot → Prop where
  | absent : Alike .absent .absent
  | input {first second : Bytes} (alike : first.Alike second) : Alike (.input first) (.input second)
  | output {first second : Bytes} (alike : first.Alike second) (size : Nat) :
      Alike (.output first size) (.output second size)

namespace Slot.Alike

variable {first second sent sent' returned returned' : Slot}

protected theorem refl (slot : Slot) : slot.Alike slot := by
  cases slot with
  | absent => exact .absent
  | input data => exact .input (.refl data)
  | output buffer size => exact .output (.refl buffer) size

/-- The kind of a slot does not depend on what is in it. -/
theorem kind (alike : first.Alike second) : first.kind = second.kind := by
  cases alike <;> rfl

theorem size? (alike : first.Alike second) : first.size? = second.size? := by
  cases alike <;> rfl

theorem input? (alike : first.Alike second) :
    Option.Rel Bytes.Alike first.input? second.input? := by
  cases alike with
  | input same => exact .some same
  | absent | output => exact .none

theorem getD_buffer? (alike : first.Alike second) :
    (first.buffer?.getD []).Alike (second.buffer?.getD []) := by
  cases alike with
  | output same size => exact same
  | absent | input => exact .refl []

/-- What comes back in a slot is alike if what was sent and what was returned are. -/
theorem updated (sends : sent.Alike sent') (returns : returned.Alike returned') :
    (sent.updated returned).Alike (sent'.updated returned') := by
  cases sends with
  | absent => exact .absent
  | input same => exact .input same
  | output same size =>
      cases returns with
      | output written written' => exact .output same.overwrite written'
      | absent | input => exact .output same size

end Slot.Alike

/-- Operations that differ in the contents they carry at most; these are in the second slot. -/
structure Operation.Alike (op op' : Operation) : Prop where
  first : op.first = op'.first
  second : op.second.Alike op'.second
  third : op.third = op'.third
  fourth : op.fourth = op'.fourth

namespace Operation.Alike

variable {op op' sent sent' returned returned' : Operation}

protected theorem refl (op : Operation) : op.Alike op := ⟨rfl, .refl _, rfl, rfl⟩

theorem kinds (alike : op.Alike op') : op.kinds = op'.kinds := by
  simp only [Operation.kinds, Operation.slots, List.map_cons, alike.first, alike.second.kind,
    alike.third, alike.fourth]

theorem updated (sends : sent.Alike sent') (returns : returned.Alike returned') :
    (sent.updated returned).Alike (sent'.updated returned') where
  first := by simp only [Operation.updated, sends.first, returns.first]
  second := sends.second.updated returns.second
  third := by simp only [Operation.updated, sends.third, returns.third]
  fourth := by simp only [Operation.updated, sends.fourth, returns.fourth]

end Operation.Alike

/-- The same answer, with alike slots. -/
def Service.Alike (first second : Service.Answer × Operation) : Prop :=
  first.1 = second.1 ∧ first.2.Alike second.2

/-! ### The service -/

section Service

variable {σ : Type} {states : σ → σ → Prop} {table : ObjectTable σ}

/-- A table is discreet where related states are told apart neither by what it says, but for the
contents that it loads, nor by what it reports. -/
structure ObjectTable.Discreet (states : σ → σ → Prop) (table : ObjectTable σ) : Prop where
  load : ∀ id,
    Action.Agree states (SameResult (Option.Rel Bytes.Alike)) (table.load id) (table.load id)
  store : ∀ id first second, Bytes.Alike first second →
    Action.Agree states Eq (table.store id first) (table.store id second)
  remove : ∀ id, Action.Agree states Eq (table.remove id) (table.remove id)

namespace Service

/-- The answer to a read and the size it reports depend on the length of the object only. -/
theorem alike_deliver {data data' : Bytes} {op op' : Operation} (same : data.Alike data')
    (alike : op.Alike op') : Alike (deliver data op) (deliver data' op') := by
  obtain ⟨slot, second, third, fourth⟩ := op
  obtain ⟨slot', second', third', fourth'⟩ := op'
  obtain ⟨firsts, seconds, thirds, fourths⟩ := alike
  cases seconds with
  | absent => exact ⟨rfl, firsts, .absent, thirds, fourths⟩
  | input within => exact ⟨rfl, firsts, .input within, thirds, fourths⟩
  | output within size =>
      simp only [deliver, show data.length = data'.length from same]
      rw [within]
      split
      · exact ⟨rfl, firsts, .output within _, thirds, fourths⟩
      · exact ⟨rfl, firsts, .output within.overwrite _, thirds, fourths⟩

variable {op op' : Operation} (discreet : table.Discreet states) (alike : op.Alike op')

include discreet alike

/-- Over a discreet table, reads of alike operations answer alike. -/
theorem agree_read (id : Bytes) :
    Action.Agree states Alike (read table id op) (read table id op') := by
  refine (discreet.load id).bind ?_
  intro loaded loaded' same
  cases same with
  | error failure => exact .pure ⟨rfl, alike⟩
  | ok found =>
      cases found with
      | none => exact .pure ⟨rfl, alike⟩
      | some data => exact .pure (alike_deliver data alike)

theorem agree_write (id : Bytes) :
    Action.Agree states Alike (write table id op) (write table id op') := by
  have inputs := alike.second.input?
  simp only [write]
  cases h : op.second.input? <;> cases h' : op'.second.input? <;> rw [h, h'] at inputs
  · exact .pure ⟨rfl, alike⟩
  · cases inputs
  · cases inputs
  · cases inputs with
    | some same =>
        refine (discreet.store id _ _ same).bind ?_
        intro stored stored' answered
        exact .pure ⟨answered, alike⟩

theorem agree_delete (id : Bytes) :
    Action.Agree states Alike (delete table id op) (delete table id op') := by
  refine (discreet.remove id).bind ?_
  intro removed removed' same
  subst same
  rcases removed with failure | _ | _
  · exact .pure ⟨rfl, alike⟩
  · exact .pure ⟨rfl, alike⟩
  · exact .pure ⟨rfl, alike⟩

/-- Of the contents in the slots, the service only lets their length be seen. -/
theorem agree_dispatch (number : UInt32) :
    Action.Agree states Alike (dispatch table number op) (dispatch table number op') := by
  rw [dispatch, dispatch]
  split
  · exact .pure ⟨rfl, alike⟩
  · next command _ =>
      have ids : objectId? op = objectId? op' := by rw [objectId?, objectId?, alike.first]
      simp only [perform, alike.kinds, ids]
      split
      · split
        · exact .pure ⟨rfl, alike⟩
        · next id _ =>
            cases command with
            | readRaw => exact agree_read discreet alike id
            | writeRaw => exact agree_write discreet alike id
            | delete => exact agree_delete discreet alike id
      · exact .pure ⟨rfl, alike⟩

end Service

end Service

/-! ### Guards -/

section Guards

variable {σ κ ς : Type} {states : σ → σ → Prop} {backend : Backend σ κ ς}

/-- A backend is discreet where related states are told apart neither by what it answers, but for the
contents in the slots, nor by what it reports. -/
structure Backend.Discreet (states : σ → σ → Prop) (backend : Backend σ κ ς) : Prop where
  connect : Action.Agree states Eq backend.connect backend.connect
  openSession : ∀ context service login, Action.Agree states Eq
    (backend.openSession context service login) (backend.openSession context service login)
  invoke : ∀ session number op op', Operation.Alike op op' → Action.Agree states Service.Alike
    (backend.invoke session number op) (backend.invoke session number op')
  closeSession : ∀ context session, Action.Agree states Eq
    (backend.closeSession context session) (backend.closeSession context session)
  finalize : ∀ context, Action.Agree states Eq (backend.finalize context) (backend.finalize context)

namespace Guard

variable (discreet : backend.Discreet states)

include discreet

/-- In related states, a session is opened, or fails, alike. -/
theorem agree_acquire (service : ServiceId) (login : Login) :
    Action.Agree states Eq (acquire backend service login) (acquire backend service login) := by
  refine discreet.connect.bind ?_
  intro connected _ same
  subst same
  cases connected with
  | error failure => exact .pure rfl
  | ok context =>
      refine (discreet.openSession context service login).bind ?_
      intro opened _ same
      subst same
      cases opened with
      | error failure => exact (discreet.finalize context).andThen (.pure rfl)
      | ok session => exact (Action.Agree.report _).andThen (.pure rfl)

/-- An invocation through a guard answers alike on alike operations. -/
theorem agree_invoke {op op' : Operation} (guard : Guard κ ς) (command : Command)
    (alike : op.Alike op') :
    Action.Agree states Service.Alike (guard.invoke backend command op)
      (guard.invoke backend command op') := by
  rw [invoke, invoke, alike.kinds]
  split
  · exact .pure ⟨rfl, alike⟩
  · next session _ =>
      refine (Action.Agree.report _).andThen ?_
      refine (discreet.invoke session command.id op op' alike).bind ?_
      rintro ⟨answer, returned⟩ ⟨answer', returned'⟩ ⟨answers, returns⟩
      exact .pure ⟨answers, alike.updated returns⟩

theorem agree_close (guard : Guard κ ς) :
    Action.Agree states Eq (guard.close backend) (guard.close backend) := by
  rw [close_eq_drop, drop]
  have closes : Action.Agree states Eq (guard.closeSession backend) (guard.closeSession backend) := by
    rw [closeSession]
    split
    · exact discreet.closeSession _ _
    · exact .pure rfl
  have finalizes : Action.Agree states Eq (guard.finalize backend) (guard.finalize backend) := by
    rw [finalize]
    split
    · exact (discreet.finalize _).andThen (.report _)
    · exact .pure rfl
  have releases : Action.Agree states Eq (guard.release backend) (guard.release backend) :=
    closes.andThen (finalizes.andThen (.pure rfl))
  exact releases.andThen (.pure rfl)

end Guard

end Guards

/-! ### Requests and replies -/

/-- Answers to a read that differ in the contents found at most. -/
inductive ReadOutcome.Alike : ReadOutcome → ReadOutcome → Prop where
  | found {first second : Payload} (alike : first.Alike second) : Alike (.found first) (.found second)
  | notFound : Alike .notFound .notFound
  | truncated {first second : Payload} (alike : first.Alike second) (required : Nat) :
      Alike (.truncated first required) (.truncated second required)

namespace Client

/-- Orders that differ in the payload to be written at most. -/
inductive Order.Alike : Order → Order → Prop where
  | read (key : ObjectKey) : Alike (.read key) (.read key)
  | write (key : ObjectKey) {first second : Payload} (alike : first.Alike second) :
      Alike (.write key first) (.write key second)
  | delete (key : ObjectKey) : Alike (.delete key) (.delete key)

/-- Requests that differ in the contents to be stored at most. -/
inductive Request.Alike : Request → Request → Prop where
  | get (key : String) : Alike (.get key) (.get key)
  | put (key : String) {first second : Bytes} (alike : first.Alike second) :
      Alike (.put key first) (.put key second)
  | delete (key : String) : Alike (.delete key) (.delete key)
  | direct {first second : Order} (alike : first.Alike second) :
      Alike (.direct first) (.direct second)

/-- Replies that differ in the contents read at most: an error is the same on both sides. -/
inductive Reply.Alike : Reply → Reply → Prop where
  | read {first second : Except ClientError ReadOutcome}
      (same : SameResult ReadOutcome.Alike first second) : Alike (.read first) (.read second)
  | write (result : Except ClientError Unit) : Alike (.write result) (.write result)
  | deletion (result : Except ClientError DeleteOutcome) : Alike (.deletion result) (.deletion result)

theorem alike_write {first second : Except ClientError Unit} (same : SameResult Eq first second) :
    (Reply.write first).Alike (.write second) := by
  cases same with
  | ok equal => exact equal ▸ .write _
  | error cause => exact .write _

theorem alike_deletion {first second : Except ClientError DeleteOutcome}
    (same : SameResult Eq first second) : (Reply.deletion first).Alike (.deletion second) := by
  cases same with
  | ok equal => exact equal ▸ .deletion _
  | error cause => exact .deletion _

section Calls

variable {σ κ ς : Type} {states : σ → σ → Prop} {backend : Backend σ κ ς} (client : Client)

theorem sameResult_received {α : Type} {values : α → α → Prop} {first second : Bytes}
    {result : Payload → α} (alike : first.Alike second)
    (results : ∀ p q, Payload.Alike p q → values (result p) (result q)) :
    SameResult values (received first result) (received second result) := by
  rw [received, received]
  obtain ⟨cause, h, h'⟩ | ⟨payload, payload', h, h', same⟩ :=
    (Payload.sameResult_ofBytes alike).outcomes
  · rw [h, h']
    exact .error _
  · rw [h, h']
    exact .ok (results _ _ same)

theorem agree_refused {α : Type} {values : α → α → Prop} (command : Command) (key : ObjectKey)
    (failure : Failure) :
    Action.Agree states (SameResult values) (refused command key failure)
      (refused command key failure) :=
  (Action.Agree.report _).andThen (.pure (.error _))

/-- The outcome of a read, its events and its errors tell of the length of the buffer at most. -/
theorem agree_readResult (key : ObjectKey) (answer : Service.Answer) {buffer buffer' : Bytes}
    (alike : buffer.Alike buffer') (reported : Nat) :
    Action.Agree states (SameResult ReadOutcome.Alike) (client.readResult key answer buffer reported)
      (client.readResult key answer buffer' reported) := by
  cases answer with
  | ok => exact .pure (sameResult_received (alike.take reported) fun _ _ => .found)
  | error failure =>
      simp only [readResult]
      split
      · exact .pure (.ok .notFound)
      split
      · refine (Action.Agree.report _).andThen ?_
        cases client.policy with
        | report => exact .pure (sameResult_received alike fun _ _ same => .truncated same reported)
        | legacy => exact .pure (sameResult_received alike fun _ _ => .found)
        | fatal => exact .pure (.error _)
      · exact agree_refused _ key failure

/-- A text that is no key is refused on both sides with the same error. -/
theorem agree_withKey {α : Type} {values : α → α → Prop} (text : String)
    {call call' : ObjectKey → Action σ (Except ClientError α)}
    (calls : ∀ key, Action.Agree states (SameResult values) (call key) (call' key)) :
    Action.Agree states (SameResult values) (withKey text call) (withKey text call') := by
  simp only [withKey]
  split
  · exact calls _
  · exact (Action.Agree.report _).andThen (.pure (.error _))

variable (discreet : backend.Discreet states)

include discreet

/-- A call over a session agrees where what is done over the session does. -/
theorem agree_run {α : Type} {values : α → α → Prop} (command : Command) (key : ObjectKey)
    {call call' : Guard κ ς → Action σ (Except ClientError α)}
    (calls : ∀ guard, Action.Agree states (SameResult values) (call guard) (call' guard)) :
    Action.Agree states (SameResult values) (client.run backend command key call)
      (client.run backend command key call') := by
  refine (Guard.agree_acquire discreet client.service client.login).bind ?_
  intro acquired _ same
  subst same
  cases acquired with
  | error failure => exact (Action.Agree.report _).andThen (.pure (.error _))
  | ok guard =>
      refine (calls guard).bind ?_
      intro result result' same
      refine (Guard.agree_close discreet guard).andThen ?_
      rw [same.toBool]
      exact (Action.Agree.report _).andThen (.pure same)

/-- Two reads of one key give outcomes that differ in contents of equal length at most. -/
theorem agree_getObject (key : ObjectKey) :
    Action.Agree states (SameResult ReadOutcome.Alike) (client.getObject backend key)
      (client.getObject backend key) := by
  refine agree_run client discreet .readRaw key ?_
  intro guard
  refine (Action.Agree.report _).andThen ?_
  refine (Guard.agree_invoke discreet guard .readRaw (.refl (readOperation key))).bind ?_
  rintro ⟨answer, op⟩ ⟨_, op'⟩ ⟨rfl, alike⟩
  dsimp only
  rw [alike.second.size?]
  exact agree_readResult client key answer alike.second.getD_buffer? _

/-- Two puts under one key of payloads of equal length give the same result. -/
theorem agree_putObject (key : ObjectKey) {payload payload' : Payload}
    (alike : payload.Alike payload') :
    Action.Agree states (SameResult Eq) (client.putObject backend key payload)
      (client.putObject backend key payload') := by
  have operations : (writeOperation key payload).Alike (writeOperation key payload') :=
    ⟨rfl, .input (alike.padded objectCapacity), rfl, rfl⟩
  have lengths : payload.length = payload'.length := alike
  refine agree_run client discreet .writeRaw key ?_
  intro guard
  rw [lengths]
  refine (Action.Agree.report _).andThen ?_
  refine (Guard.agree_invoke discreet guard .writeRaw operations).bind ?_
  rintro ⟨answer, op⟩ ⟨_, op'⟩ ⟨rfl, -⟩
  cases answer with
  | ok => exact .pure (.ok rfl)
  | error failure => exact agree_refused _ key failure

theorem agree_deleteObject (key : ObjectKey) :
    Action.Agree states (SameResult Eq) (client.deleteObject backend key)
      (client.deleteObject backend key) := by
  refine agree_run client discreet .delete key ?_
  intro guard
  refine (Action.Agree.report _).andThen ?_
  refine (Guard.agree_invoke discreet guard .delete (.refl (deleteOperation key))).bind ?_
  rintro ⟨answer, op⟩ ⟨_, op'⟩ ⟨rfl, -⟩
  cases answer with
  | ok => exact .pure (.ok rfl)
  | error failure =>
      dsimp only
      split
      · exact .pure (.ok rfl)
      · exact agree_refused _ key failure

/-- A put of bytes of equal length is refused alike before the backend hears of it, or gives the same
result. -/
theorem agree_put (text : String) {data data' : Bytes} (alike : data.Alike data') :
    Action.Agree states (SameResult Eq) (client.put backend text data)
      (client.put backend text data') := by
  refine agree_withKey text ?_
  intro key
  obtain ⟨cause, h, h'⟩ | ⟨payload, payload', h, h', same⟩ :=
    (Payload.sameResult_ofBytes alike).outcomes
  · rw [h, h']
    exact (Action.Agree.report _).andThen (.pure (.error _))
  · rw [h, h']
    exact agree_putObject client discreet key same

/-- Alike orders are carried out with alike replies. -/
theorem agree_execute {order order' : Order} (alike : order.Alike order') :
    Action.Agree states Reply.Alike (client.execute backend order)
      (client.execute backend order') := by
  cases alike with
  | read key => exact (agree_getObject client discreet key).map fun _ _ => .read
  | write key same => exact (agree_putObject client discreet key same).map fun _ _ => alike_write
  | delete key => exact (agree_deleteObject client discreet key).map fun _ _ => alike_deletion

/-- Of the contents in a request, a client and its backend only let the length be seen. -/
theorem agree_perform {request request' : Request} (alike : request.Alike request') :
    Action.Agree states Reply.Alike (client.perform backend request)
      (client.perform backend request') := by
  cases alike with
  | get text =>
      refine Action.Agree.map (agree_withKey text fun key => ?_) fun _ _ => .read
      exact agree_getObject client discreet key
  | put text same => exact (agree_put client discreet text same).map fun _ _ => alike_write
  | delete text =>
      refine Action.Agree.map (agree_withKey text fun key => ?_) fun _ _ => alike_deletion
      exact agree_deleteObject client discreet key
  | direct same => exact agree_execute client discreet same

end Calls

end Client

end ObjectVault
