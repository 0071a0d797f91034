import ObjectVault.Backend.Recorded
import ObjectVault.Proofs.Client.Requests

/-!
# The calls behind a request

A recorded backend notes every call that it gets. `run_perform_recorded` says which calls a request
makes, whatever the backend answers: none at all for a request that fails its check, and otherwise a
bracket of a connection and a session around one command, cut short where the backend refuses the
connection or the session. What is opened is released, once, in the reverse order.

A reply can only blame the request itself where the backend has heard of nothing. Behind that lies
`length_bufferOf`: whatever a backend writes into the read buffer, the buffer keeps its length, so
that its contents make a payload.
-/

namespace ObjectVault

/-! ### Recorded runs -/

namespace Recording

variable {σ α : Type}

/-- A noted action does what it did, and adds its call to the list. -/
theorem run_noting (call : Call) {action : Action σ α} {value : α} {s s₁ : σ} {e : List Event}
    (runs : action.run s = ⟨value, s₁, e⟩) (calls : List Call) :
    (noting call action).run ⟨s, calls⟩ = ⟨value, ⟨s₁, calls ++ [call]⟩, e⟩ := by
  simp [noting, Action.run_bind, Action.run_onPart, runs]

end Recording

namespace Payload

theorem bytes_of_ofBytes {bytes : Bytes} {payload : Payload} (made : ofBytes bytes = .ok payload) :
    payload.bytes = bytes := by
  grind [ofBytes]

end Payload

namespace Client

variable {σ κ ς : Type}

/-! ### What a request has to meet -/

/-- The texts that are object keys. -/
def KeyText (text : String) : Prop :=
  let bytes := Utf8.ofText text
  1 ≤ bytes.length ∧ bytes.length ≤ 64 ∧ 0 ∉ bytes

/-- The requests whose key is one and whose contents fit an object. -/
def Request.Valid : Request → Prop
  | .get text | .delete text => KeyText text
  | .put text data => KeyText text ∧ data.length ≤ 2000
  | .direct _ => True

instance (text : String) : Decidable (KeyText text) := by
  unfold KeyText; infer_instance

instance : (request : Request) → Decidable request.Valid
  | .get text | .delete text => inferInstanceAs (Decidable (KeyText text))
  | .put text data => inferInstanceAs (Decidable (KeyText text ∧ data.length ≤ 2000))
  | .direct _ => inferInstanceAs (Decidable True)

/-- A text makes a key exactly if it is one, by the definition that mentions no function. -/
theorem ofText_isOk_iff {text : String} : (∃ key, ObjectKey.ofText text = .ok key) ↔ KeyText text := by
  constructor
  · rintro ⟨key, made⟩
    have same := ObjectKey.text_of_ofText made
    subst same
    exact ⟨List.length_pos_iff.mpr key.nonempty, key.fits, key.noNul⟩
  · rintro ⟨nonempty, fits, noNul⟩
    exact ⟨⟨text, List.length_pos_iff.mp nonempty, fits, noNul⟩, by
      simp [ObjectKey.ofText, List.length_pos_iff.mp nonempty, fits, noNul, maxKeyLength]⟩

/-- A request passes its checks exactly if it is valid. -/
theorem Request.checked_isOk_iff {request : Request} :
    (∃ order, request.checked = .ok order) ↔ request.Valid := by
  cases request with
  | get text | delete text =>
      rw [Valid, ← ofText_isOk_iff]
      cases made : ObjectKey.ofText text <;> simp [checked, made, Except.map]
  | put text data =>
      rw [Valid, ← ofText_isOk_iff]
      cases made : ObjectKey.ofText text with
      | error cause => simp [checked, made]
      | ok key =>
          by_cases fits : data.length ≤ objectCapacity
          · have small : data.length ≤ 2000 := fits
            simp [checked, made, Payload.ofBytes, fits, small]
          · have large : ¬ data.length ≤ 2000 := fits
            simp [checked, made, Payload.ofBytes, fits, large]
  | direct order => simp [checked, Valid]

/-! ### The slots -/

def readSlots (id : Bytes) : Operation :=
  ⟨.input id, .output (List.replicate 2000 0) 2000, .absent, .absent⟩

def writeSlots (id data : Bytes) : Operation :=
  ⟨.input id, .input (data ++ List.replicate (2000 - data.length) 0), .absent, .absent⟩

def deleteSlots (id : Bytes) : Operation := ⟨.input id, .absent, .absent, .absent⟩

/-- The slots for a request, from the texts and bytes in it. -/
def Request.slots : Request → Operation
  | .get text => readSlots (Utf8.ofText text)
  | .put text data => writeSlots (Utf8.ofText text) data
  | .delete text => deleteSlots (Utf8.ofText text)
  | .direct (.read key) => readSlots key.bytes
  | .direct (.write key payload) => writeSlots key.bytes payload.bytes
  | .direct (.delete key) => deleteSlots key.bytes

theorem readOperation_eq (key : ObjectKey) : readOperation key = readSlots key.bytes := by
  rw [readOperation, Slot.ofBuffer, List.length_replicate]
  rfl

theorem writeOperation_eq (key : ObjectKey) (payload : Payload) :
    writeOperation key payload = writeSlots key.bytes payload.bytes := rfl

/-- A request that passes its check sends its own texts and bytes. -/
theorem Request.sends_of_checked {request : Request} {order : Order}
    (passes : request.checked = .ok order) :
    order.command = request.command ∧ order.operation = request.slots := by
  cases request with
  | get text =>
      cases made : ObjectKey.ofText text with
      | error cause => simp [checked, made, Except.map] at passes
      | ok key =>
          obtain rfl : Order.read key = order := by simpa [checked, made, Except.map] using passes
          refine ⟨rfl, ?_⟩
          rw [Order.operation, readOperation_eq, slots, ObjectKey.bytes, ObjectKey.text_of_ofText made]
  | put text data =>
      cases made : ObjectKey.ofText text with
      | error cause => simp [checked, made] at passes
      | ok key =>
          cases filled : Payload.ofBytes data with
          | error cause => simp [checked, made, filled] at passes
          | ok payload =>
              obtain rfl : Order.write key payload = order := by
                simpa [checked, made, filled] using passes
              refine ⟨rfl, ?_⟩
              rw [Order.operation, writeOperation_eq, slots, ObjectKey.bytes,
                ObjectKey.text_of_ofText made, Payload.bytes_of_ofBytes filled]
  | delete text =>
      cases made : ObjectKey.ofText text with
      | error cause => simp [checked, made, Except.map] at passes
      | ok key =>
          obtain rfl : Order.delete key = order := by simpa [checked, made, Except.map] using passes
          refine ⟨rfl, ?_⟩
          rw [Order.operation, deleteOperation, slots, ObjectKey.bytes, ObjectKey.text_of_ofText made]
          rfl
  | direct given =>
      obtain rfl : given = order := by simpa [checked] using passes
      refine ⟨rfl, ?_⟩
      cases given with
      | read key => exact readOperation_eq key
      | write key payload => rfl
      | delete key => rfl

/-- The read buffer that a host sees has the length that it was sent with. -/
theorem length_bufferOf (key : ObjectKey) (returned : Operation) :
    (bufferOf ((readOperation key).updated returned)).length = objectCapacity := by
  obtain ⟨first, second, third, fourth⟩ := returned
  cases second <;>
    simp [bufferOf, readOperation, Operation.updated, Slot.ofBuffer, Slot.updated, Slot.buffer?,
      Bytes.length_overwrite]

/-! ### Replies to answered orders -/

theorem received_of_fits {α : Type} {bytes : Bytes} (result : Payload → α)
    (fits : bytes.length ≤ objectCapacity) :
    received bytes result = .ok (result ⟨bytes, fits⟩) := by
  simp [received, Payload.ofBytes, fits]

/-- No reply to an order that the backend has answered blames the request. -/
theorem verdict_ne_precondition (client : Client) (order : Order) (answer : Service.Answer)
    (returned : Operation) (cause : ValueError) :
    (client.verdict (order.operation.updated returned) order answer).error?
      ≠ some (.precondition cause) := by
  cases order with
  | read key =>
      have full := Nat.le_of_eq (length_bufferOf key returned)
      have cut (size : Nat) := Nat.le_trans (List.length_take_le' size _) full
      cases answer with
      | ok => simp [verdict, readVerdict, Order.operation, received_of_fits _ (cut _), Reply.error?]
      | error failure =>
          simp only [verdict, readVerdict, Order.operation]
          split
          · simp [Reply.error?]
          · split
            · cases client.policy <;> simp [shortVerdict, received_of_fits _ full, Reply.error?]
            · simp [Reply.error?]
  | write key payload => cases answer <;> simp [verdict, mapError_ok, mapError_error, Reply.error?]
  | delete key =>
      cases answer with
      | ok => simp [verdict, deletionVerdict, Reply.error?]
      | error failure =>
          simp only [verdict, deletionVerdict]
          split <;> simp [Reply.error?]

/-! ### The bracket -/

/-- The calls with which a client sends a command over a backend in state `s`. -/
def bracket (client : Client) (backend : Backend σ κ ς) (command : Command) (slots : Operation)
    (s : σ) : List Call :=
  match backend.connect.run s with
  | ⟨.error _, _, _⟩ => [.connect]
  | ⟨.ok context, s₁, _⟩ =>
      match ((backend.openSession context client.service client.login).run s₁).value with
      | .error _ => [.connect, .openSession client.service client.login, .finalize]
      | .ok _ =>
          [.connect, .openSession client.service client.login, .invoke command.id slots,
            .closeSession, .finalize]

theorem bracket_ne_nil (client : Client) (backend : Backend σ κ ς) (command : Command)
    (slots : Operation) (s : σ) : client.bracket backend command slots s ≠ [] := by
  simp only [bracket]
  split
  · simp
  · split <;> simp

/-- An order is carried out over a recorded backend as over the plain one, and the calls of its
bracket are noted. -/
theorem run_execute_recorded (client : Client) (backend : Backend σ κ ς) (order : Order) (s : σ) :
    let plain := (client.execute backend order).run s
    (client.execute backend.recorded order).run (.start s)
      = ⟨plain.value, ⟨plain.state, client.bracket backend order.command order.operation s⟩,
          plain.events⟩ := by
  intro plain
  have course : Course client backend order s plain := course_execute client backend order s
  clear_value plain
  cases course with
  | noContext connects =>
      have notedConnect := Recording.run_noting .connect connects
      rw [run_execute_of_no_context (notedConnect []), bracket, connects]
      rfl
  | noSession connects opens finalizes =>
      have notedConnect := Recording.run_noting .connect connects
      have notedOpen := Recording.run_noting (.openSession client.service client.login) opens
      have notedFinalize := Recording.run_noting .finalize finalizes
      rw [run_execute_of_no_session (notedConnect []) (notedOpen _) (notedFinalize _), bracket,
        connects]
      simp [opens]
  | answered connects opens invokes closes finalizes =>
      have notedConnect := Recording.run_noting .connect connects
      have notedOpen := Recording.run_noting (.openSession client.service client.login) opens
      have notedInvoke := Recording.run_noting (.invoke order.command.id order.operation) invokes
      have notedClose := Recording.run_noting .closeSession closes
      have notedFinalize := Recording.run_noting .finalize finalizes
      have noted : (client.execute backend.recorded order).run (.start s) = _ :=
        run_execute_of_opened (notedConnect []) (notedOpen _) (notedInvoke _) (notedClose _)
          (notedFinalize _)
      rw [noted, bracket, connects]
      simp [opens]

/-- An order's reply never blames the request. -/
theorem execute_ne_precondition (client : Client) (backend : Backend σ κ ς) (order : Order) (s : σ)
    (cause : ValueError) :
    ((client.execute backend order).run s).value.error? ≠ some (.precondition cause) := by
  have course := course_execute client backend order s
  generalize (client.execute backend order).run s = outcome at course
  cases course with
  | noContext connects => simp
  | noSession connects opens finalizes => simp
  | answered connects opens invokes closes finalizes =>
      exact verdict_ne_precondition client order _ _ cause

/-- A request that fails its check makes no call; any other makes the calls of its bracket, and goes
on as it would without the notes. A reply blames the request exactly where no call has been made. -/
theorem run_perform_recorded (client : Client) (backend : Backend σ κ ς) (request : Request) (s : σ) :
    let plain := (client.perform backend request).run s
    let calls :=
      if request.Valid then client.bracket backend request.command request.slots s else []
    (client.perform backend.recorded request).run (.start s)
        = ⟨plain.value, ⟨plain.state, calls⟩, plain.events⟩ ∧
      ((∃ cause, plain.value.error? = some (.precondition cause)) ↔ calls = []) := by
  intro plain calls
  cases checked : request.checked with
  | error cause =>
      have invalid : ¬ request.Valid := by
        rw [← Request.checked_isOk_iff, checked]
        simp
      have plainly : plain = _ := run_perform_of_refused checked s
      rw [run_perform_of_refused checked (Recording.start s)]
      simp [calls, plainly, invalid, Recording.start]
  | ok order =>
      have valid : request.Valid := Request.checked_isOk_iff.mp ⟨order, checked⟩
      obtain ⟨sameCommand, sameSlots⟩ := Request.sends_of_checked checked
      have plainly : plain = (client.execute backend order).run s := by
        simp only [plain, perform_of_checked checked]
      have unblamed := execute_ne_precondition client backend order s
      rw [perform_of_checked checked, run_execute_recorded, ← plainly, sameCommand, sameSlots]
      rw [← plainly] at unblamed
      simp [calls, valid, unblamed, bracket_ne_nil]

end Client

end ObjectVault
