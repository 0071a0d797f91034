import ObjectVault.Proofs.Service.Objects
import ObjectVault.Proofs.Service.Orders
import ObjectVault.Proofs.Trace

/-!
# The contract of the service

What the trusted service does with a command, as rules: `Contract` has one for each way in which a
command can end. A command that is not well formed is refused before the table is asked, and every
other one is about the object with the id in its first slot.

* `contract_iff`: the service does what the rules say, and the rules leave nothing else to it.
* `Contract.objects_of_error`, `Contract.valid_ids`: a refusal leaves the objects alone, and an
  object is only ever stored under an id of one to sixty-four bytes.
* `dispatch_contract` puts these together over runs of commands, and adds that a read which has been
  told the size it needs succeeds when it is repeated with that much room.
-/

namespace ObjectVault

/-! ### Shapes of operations -/

namespace Slot

theorem kind_eq_absent {slot : Slot} : slot.kind = .absent ↔ slot = .absent := by
  cases slot <;> simp [kind]

theorem kind_eq_input {slot : Slot} : slot.kind = .input ↔ ∃ data, slot = .input data := by
  cases slot <;> simp [kind]

theorem kind_eq_output {slot : Slot} :
    slot.kind = .output ↔ ∃ buffer size, slot = .output buffer size := by
  cases slot <;> simp [kind]

end Slot

namespace Service

/-- The ids under which objects are kept. -/
def ValidId (id : Bytes) : Prop := 1 ≤ id.length ∧ id.length ≤ 64

def readSlots (id buffer : Bytes) (size : Nat) : Operation :=
  ⟨.input id, .output buffer size, .absent, .absent⟩

def writeSlots (id data : Bytes) : Operation := ⟨.input id, .input data, .absent, .absent⟩

def deleteSlots (id : Bytes) : Operation := ⟨.input id, .absent, .absent, .absent⟩

/-- The commands that the service takes up: a number that stands for one, the slots that go with it,
and an id that is valid. -/
inductive WellFormed : UInt32 → Operation → Prop where
  | read {id : Bytes} (valid : ValidId id) (buffer : Bytes) (size : Nat) :
      WellFormed 0 (readSlots id buffer size)
  | write {id : Bytes} (valid : ValidId id) (data : Bytes) : WellFormed 1 (writeSlots id data)
  | delete {id : Bytes} (valid : ValidId id) : WellFormed 2 (deleteSlots id)

/-- What comes of a command: the answer, the slots that go back, and the objects after it. -/
structure Served where
  answer : Answer
  slots : Operation
  objects : ObjectMap

/-- What may come of a command where the service holds the given objects. -/
inductive Contract (objects : ObjectMap) : UInt32 → Operation → Served → Prop where
  /-- What is not well formed is refused. -/
  | malformed {number : UInt32} {op : Operation} (bad : ¬ WellFormed number op) :
      Contract objects number op ⟨.error (.trustedApp .badParameters), op, objects⟩
  /-- An object that fits is written over the start of the buffer. -/
  | found {id data buffer : Bytes} {size : Nat} (valid : ValidId id)
      (stored : objects.lookup id = some data) (fits : data.length ≤ buffer.length) :
      Contract objects 0 (readSlots id buffer size)
        ⟨.ok (), readSlots id (data ++ buffer.drop data.length) data.length, objects⟩
  /-- Of an object that does not fit, only the size goes back. -/
  | tooLarge {id data buffer : Bytes} {size : Nat} (valid : ValidId id)
      (stored : objects.lookup id = some data) (large : buffer.length < data.length) :
      Contract objects 0 (readSlots id buffer size)
        ⟨.error (.trustedApp .shortBuffer), readSlots id buffer data.length, objects⟩
  | notFound {id buffer : Bytes} {size : Nat} (valid : ValidId id) (absent : id ∉ objects) :
      Contract objects 0 (readSlots id buffer size)
        ⟨.error (.trustedApp .itemNotFound), readSlots id buffer size, objects⟩
  /-- A write of whatever length takes the place of the object. -/
  | written {id data : Bytes} (valid : ValidId id) :
      Contract objects 1 (writeSlots id data)
        ⟨.ok (), writeSlots id data, objects.insert id data⟩
  | deleted {id : Bytes} (valid : ValidId id) (present : id ∈ objects) :
      Contract objects 2 (deleteSlots id) ⟨.ok (), deleteSlots id, objects.erase id⟩
  | nothingToDelete {id : Bytes} (valid : ValidId id) (absent : id ∉ objects) :
      Contract objects 2 (deleteSlots id)
        ⟨.error (.trustedApp .itemNotFound), deleteSlots id, objects⟩

/-! ### What the rules leave open -/

namespace Contract

variable {objects : ObjectMap} {number : UInt32} {op : Operation} {served : Served}

/-- A refusal leaves the objects alone. -/
theorem objects_of_error (rules : Contract objects number op served) {failure : Failure}
    (refuses : served.answer = .error failure) : served.objects = objects := by
  cases rules with
  | malformed | tooLarge | notFound | nothingToDelete => rfl
  | found | written | deleted => cases refuses

/-- Where every id is valid, every id is valid afterwards. -/
theorem valid_ids (rules : Contract objects number op served)
    (valid : ∀ id ∈ objects, ValidId id) : ∀ id ∈ served.objects, ValidId id := by
  cases rules with
  | malformed | found | tooLarge | notFound | nothingToDelete => exact valid
  | @written key data fine =>
      intro id member
      rcases Finmap.mem_insert.mp member with rfl | before
      · exact fine
      · exact valid id before
  | deleted _ present =>
      intro id member
      exact valid id (Finmap.mem_erase.mp member).2

end Contract

/-! ### The service and its rules -/

section Dispatch

variable {σ : Type} (table : ObjectTable σ)

/-- A valid id in the first slot is taken. -/
theorem objectId?_of_valid {id : Bytes} (valid : ValidId id) {op : Operation}
    (first : op.first = .input id) : objectId? op = some id := by
  have nonempty : id ≠ [] := List.length_pos_iff.mp valid.1
  have fits : id.length ≤ maxKeyLength := valid.2
  simp [objectId?, first, Slot.input?, nonempty, fits]

/-- An id that is taken is valid, and stands in the first slot. -/
theorem valid_of_objectId? {op : Operation} {id : Bytes} (taken : objectId? op = some id) :
    op.first = .input id ∧ ValidId id := by
  obtain ⟨first, second, third, fourth⟩ := op
  cases first with
  | absent | output buffer size => simp [objectId?, Slot.input?] at taken
  | input data =>
      simp only [objectId?, Slot.input?, Option.filter_eq_some_iff] at taken
      obtain ⟨same, fine⟩ := taken
      cases same
      simp only [Bool.and_eq_true, Bool.not_eq_true', List.isEmpty_eq_false_iff, decide_eq_true_eq]
        at fine
      exact ⟨rfl, List.length_pos_iff.mpr fine.1, fine.2⟩

/-- The slots that a command expects leave no choice of shape. -/
theorem wellFormed_of_kinds {command : Command} {op : Operation} {id : Bytes}
    (kinds : op.kinds = expectedKinds command) (taken : objectId? op = some id) :
    WellFormed command.id op := by
  obtain ⟨first, valid⟩ := valid_of_objectId? taken
  obtain ⟨_, second, third, fourth⟩ := op
  cases first
  cases command with
  | readRaw =>
      simp only [Operation.kinds, Operation.slots, List.map, expectedKinds, List.cons.injEq,
        Slot.kind_eq_output, Slot.kind_eq_absent] at kinds
      obtain ⟨-, ⟨buffer, size, rfl⟩, rfl, rfl, -⟩ := kinds
      exact .read valid buffer size
  | writeRaw =>
      simp only [Operation.kinds, Operation.slots, List.map, expectedKinds, List.cons.injEq,
        Slot.kind_eq_input, Slot.kind_eq_absent] at kinds
      obtain ⟨-, ⟨data, rfl⟩, rfl, rfl, -⟩ := kinds
      exact .write valid data
  | delete =>
      simp only [Operation.kinds, Operation.slots, List.map, expectedKinds, List.cons.injEq,
        Slot.kind_eq_absent] at kinds
      obtain ⟨-, rfl, rfl, rfl, -⟩ := kinds
      exact .delete valid

/-- A malformed command is refused before the table is asked. -/
theorem dispatch_of_malformed {number : UInt32} {op : Operation} (bad : ¬ WellFormed number op) :
    dispatch table number op = pure (.error badParameters, op) := by
  cases known : Command.ofId? number with
  | none => simp only [dispatch, known]
  | some command =>
      simp only [dispatch, known, perform]
      split
      · next kinds =>
          cases taken : objectId? op with
          | none => rfl
          | some id =>
              have fine := wellFormed_of_kinds kinds taken
              rw [Command.id_of_ofId? known] at fine
              exact absurd fine bad
      · rfl

variable {id : Bytes} (valid : ValidId id)
include valid

theorem dispatch_read (buffer : Bytes) (size : Nat) :
    dispatch table 0 (readSlots id buffer size) = read table id (readSlots id buffer size) := by
  have kinds : (readSlots id buffer size).kinds = expectedKinds .readRaw := rfl
  exact dispatch_of_taken table kinds (objectId?_of_valid valid rfl)

theorem dispatch_write (data : Bytes) :
    dispatch table 1 (writeSlots id data) = write table id (writeSlots id data) := by
  have kinds : (writeSlots id data).kinds = expectedKinds .writeRaw := rfl
  exact dispatch_of_taken table kinds (objectId?_of_valid valid rfl)

theorem dispatch_delete :
    dispatch table 2 (deleteSlots id) = delete table id (deleteSlots id) := by
  have kinds : (deleteSlots id).kinds = expectedKinds .delete := rfl
  exact dispatch_of_taken table kinds (objectId?_of_valid valid rfl)

end Dispatch

/-! ### The table in memory -/

/-- One command on a table in memory: what goes back, and the table after it. -/
def step (call : UInt32 × Operation) (table : Table Bytes Bytes) :
    (Answer × Operation) × Table Bytes Bytes :=
  let outcome := (dispatch .inMemory call.1 call.2).run table
  (outcome.value, outcome.state)

/-- What comes of a command on a table in memory. -/
def served (table : Table Bytes Bytes) (number : UInt32) (op : Operation) : Served :=
  let after := step (number, op) table
  ⟨after.1.1, after.1.2, after.2.toFinmap⟩

/-- Some rule covers every command. -/
theorem exists_contract (objects : ObjectMap) (number : UInt32) (op : Operation) :
    ∃ served, Contract objects number op served := by
  by_cases fine : WellFormed number op
  · cases fine with
    | @read id valid buffer size =>
        cases stored : objects.lookup id with
        | none => exact ⟨_, .notFound valid (Finmap.lookup_eq_none.mp stored)⟩
        | some data =>
            rcases Nat.lt_or_ge buffer.length data.length with large | fits
            · exact ⟨_, .tooLarge valid stored large⟩
            · exact ⟨_, .found valid stored fits⟩
    | write valid data => exact ⟨_, .written valid⟩
    | @delete id valid =>
        by_cases present : id ∈ objects
        · exact ⟨_, .deleted valid present⟩
        · exact ⟨_, .nothingToDelete valid present⟩
  · exact ⟨_, .malformed fine⟩

section Runs

variable {table : Table Bytes Bytes} {id : Bytes} {op : Operation}

/-- A read of a table in memory delivers what is stored, and leaves the table alone. -/
theorem run_read {found : Option Bytes} (stored : table.lookup id = found) :
    (read .inMemory id op).run table
      = ⟨match found with
          | some data => deliver data op
          | none => (.error notFound, op),
        table, []⟩ := by
  simp only [read, Action.run_bind, ObjectTable.run_load_inMemory, stored]
  cases found <;> rfl

theorem run_write {data : Bytes} (second : op.second = .input data) :
    (write .inMemory id op).run table = ⟨(.ok (), op), table.insert id data, []⟩ := by
  have input : op.second.input? = some data := by rw [second, Slot.input?]
  simp only [write, input]
  rfl

theorem run_delete {found : Bool} (stored : (table.lookup id).isSome = found) :
    (delete .inMemory id op).run table
      = ⟨(if found then .ok () else .error notFound, op), table.erase id, []⟩ := by
  simp only [delete, Action.run_bind, ObjectTable.run_remove_inMemory, stored]
  cases found <;> rfl

/-- The service does what a rule says. -/
theorem eq_served {number : UInt32} {other : Served}
    (rules : Contract table.toFinmap number op other) : other = served table number op := by
  cases rules with
  | malformed bad =>
      rw [served, step, dispatch_of_malformed _ bad]
      rfl
  | @found id data buffer size valid stored fits =>
      have delivers : deliver data (readSlots id buffer size) = _ := deliver_of_fits rfl fits
      have whole : buffer.overwrite data = data ++ buffer.drop data.length := by
        rw [Bytes.overwrite, List.take_of_length_le fits]
      rw [Table.lookup_toFinmap] at stored
      simp only [served, step, dispatch_read _ valid, run_read stored, delivers, whole]
      rfl
  | @tooLarge id data buffer size valid stored large =>
      have delivers : deliver data (readSlots id buffer size) = _ := deliver_of_large rfl large
      rw [Table.lookup_toFinmap] at stored
      simp only [served, step, dispatch_read _ valid, run_read stored, delivers]
      rfl
  | notFound valid absent =>
      have stored := Finmap.lookup_eq_none.mpr absent
      rw [Table.lookup_toFinmap] at stored
      simp only [served, step, dispatch_read _ valid, run_read stored]
      rfl
  | @written id data valid =>
      have writes : (write .inMemory id (writeSlots id data)).run table = _ := run_write rfl
      simp only [served, step, dispatch_write _ valid, writes, Table.toFinmap_insert]
  | deleted valid present =>
      have stored := Table.mem_toFinmap.mp present
      simp only [served, step, dispatch_delete _ valid, run_delete stored, Table.toFinmap_erase]
      rfl
  | @nothingToDelete id valid absent =>
      have stored := Finmap.lookup_eq_none.mpr absent
      rw [Table.lookup_toFinmap] at stored
      have missing : (table.lookup id).isSome = false := by
        rw [stored]
        rfl
      simp only [served, step, dispatch_delete _ valid, run_delete missing,
        Table.toFinmap_erase_of_absent stored]
      rfl

end Runs

/-- What comes of a command is what the rules allow. -/
theorem contract_served (table : Table Bytes Bytes) (number : UInt32) (op : Operation) :
    Contract table.toFinmap number op (served table number op) := by
  obtain ⟨allowed, rules⟩ := exists_contract table.toFinmap number op
  rw [← eq_served rules]
  exact rules

/-- The rules leave one thing that may come of a command. -/
theorem contract_iff (table : Table Bytes Bytes) (number : UInt32) (op : Operation)
    (other : Served) :
    Contract table.toFinmap number op other ↔ other = served table number op := by
  constructor
  · exact eq_served
  · rintro rfl
    exact contract_served table number op

/-! ### Runs of commands -/

/-- Every object that a run from an empty table stores has a valid id. -/
theorem valid_ids_of_run (calls : List (UInt32 × Operation)) :
    ∀ id ∈ (final step calls .empty).toFinmap, ValidId id := by
  have start : ∀ id ∈ (Table.empty : Table Bytes Bytes).toFinmap, ValidId id := by
    intro id member
    exact absurd member Finmap.notMem_empty
  have advance : ∀ (call : UInt32 × Operation) (table : Table Bytes Bytes),
      (∀ id ∈ table.toFinmap, ValidId id) → ∀ id ∈ (step call table).2.toFinmap, ValidId id := by
    intro call table valid
    exact (contract_served table call.1 call.2).valid_ids valid
  exact final_of_step advance calls start

/-- A command that is told of a short buffer is a read of an object that does not fit, and finds it
once it is repeated with as much room as it has been told to need. -/
theorem read_again {table : Table Bytes Bytes} {number : UInt32} {op : Operation} {needed : Nat}
    (short : (served table number op).answer = .error (.trustedApp .shortBuffer))
    (told : (served table number op).slots.second.size? = some needed) :
    number = 0 ∧ ∃ id buffer size data, op = readSlots id buffer size ∧
      table.toFinmap.lookup id = some data ∧ data.length = needed ∧
      ∀ room preset, needed ≤ room.length →
        (step (0, readSlots id room preset) (step (number, op) table).2).1
          = (.ok (), readSlots id (data ++ room.drop needed) needed) := by
  have rules := contract_served table number op
  have same : (step (number, op) table).2.toFinmap = table.toFinmap :=
    rules.objects_of_error short
  generalize served table number op = first at rules short told
  cases rules with
  | malformed | notFound | nothingToDelete => exact absurd (Except.error.inj short) (by decide)
  | found | written | deleted => cases short
  | @tooLarge id data buffer size valid stored large =>
      cases told
      refine ⟨rfl, id, buffer, size, data, rfl, stored, rfl, ?_⟩
      intro room preset enough
      rw [← same] at stored
      have again : _ = served (step (0, readSlots id buffer size) table).2 0
          (readSlots id room preset) := eq_served (.found valid stored enough)
      have answers := congrArg Served.answer again
      have returns := congrArg Served.slots again
      exact (Prod.ext answers returns).symm

/-- The service keeps to its rules, for every table, every number and every four slots; so a refusal
leaves the objects alone, a run from an empty table stores objects under valid ids only, and a read
that is told of a short buffer succeeds when it is repeated with the room it asks for. -/
theorem dispatch_contract :
    (∀ table number op other,
      Contract table.toFinmap number op other ↔ other = served table number op) ∧
    (∀ table number op failure, (served table number op).answer = .error failure →
      (served table number op).objects = table.toFinmap) ∧
    (∀ calls, ∀ id ∈ (final step calls .empty).toFinmap, 1 ≤ id.length ∧ id.length ≤ 64) ∧
    (∀ table number op needed,
      (served table number op).answer = .error (.trustedApp .shortBuffer) →
      (served table number op).slots.second.size? = some needed →
      number = 0 ∧ ∃ id buffer size data, op = readSlots id buffer size ∧
        table.toFinmap.lookup id = some data ∧ data.length = needed ∧
        ∀ room preset, needed ≤ room.length →
          (step (0, readSlots id room preset) (step (number, op) table).2).1
            = (.ok (), readSlots id (data ++ room.drop needed) needed)) := by
  refine ⟨contract_iff, ?_, valid_ids_of_run, ?_⟩
  · intro table number op failure refuses
    exact (contract_served table number op).objects_of_error refuses
  · intro table number op needed short told
    exact read_again short told

end Service

end ObjectVault
