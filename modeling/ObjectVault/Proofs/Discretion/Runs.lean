import ObjectVault.Proofs.Discretion.Files
import ObjectVault.Proofs.Memory.Machine

/-!
# Runs that differ in contents

Two runs that take the same steps, but store different contents of the same lengths, cannot be told
apart: every step reports the same events and gives alike replies, over the backend in memory as over
stores, and the counters of the backend in memory stay the same. `shown_alike` states this.
-/

namespace ObjectVault

open Client

/-- What can be seen of a step: what it replies, if it is a request, and what it reports. -/
structure Shown where
  reply : Option Reply
  events : List Event

/-- The same events, and replies that differ in the contents read at most. -/
structure Shown.Alike (first second : Shown) : Prop where
  reply : Option.Rel Reply.Alike first.reply second.reply
  events : first.events = second.events

/-! ### The backend in memory -/

namespace Table

/-- Tables of contents that differ in the contents at most. -/
def Alike (first second : Table Bytes Bytes) : Prop :=
  ∀ id, Option.Rel Bytes.Alike (first.lookup id) (second.lookup id)

namespace Alike

variable {first second : Table Bytes Bytes}

protected theorem refl (table : Table Bytes Bytes) : table.Alike table := by
  intro id
  cases table.lookup id with
  | none => exact .none
  | some data => exact .some (.refl data)

/-- Tables stay alike when objects of equal length are put under one id. -/
theorem insert (alike : first.Alike second) (id : Bytes) {data data' : Bytes}
    (contents : data.Alike data') : (first.insert id data).Alike (second.insert id data') := by
  intro other
  rw [lookup_insert, lookup_insert]
  split
  · exact .some contents
  · exact alike other

/-- Tables stay alike when one id is taken out of both. -/
theorem erase (alike : first.Alike second) (id : Bytes) :
    (first.erase id).Alike (second.erase id) := by
  intro other
  rw [lookup_erase, lookup_erase]
  split
  · exact .none
  · exact alike other

theorem isSome_lookup (alike : first.Alike second) (id : Bytes) :
    (first.lookup id).isSome = (second.lookup id).isSome := by
  have entries := alike id
  revert entries
  generalize first.lookup id = stored, second.lookup id = stored'
  intro entries
  cases entries with
  | none => rfl
  | some contents => rfl

end Alike

end Table

/-- A table in memory shows lengths and nothing else. -/
theorem ObjectTable.discreet_inMemory : inMemory.Discreet Table.Alike where
  load id := by
    refine Action.Agree.get.bind ?_
    intro table table' alike
    exact .pure (.ok (alike id))
  store id data data' contents := by
    refine Action.Agree.andThen (Action.Agree.modify ?_) (.pure rfl)
    intro table table' alike
    exact alike.insert id contents
  remove id := by
    refine Action.Agree.get.bind ?_
    intro table table' alike
    rw [alike.isSome_lookup]
    exact (Action.Agree.set (alike.erase id)).andThen (.pure rfl)

namespace Memory

/-- Memories that differ in the contents of objects at most. -/
structure Alike (first second : Memory) : Prop where
  service : first.service = second.service
  objects : first.objects.Alike second.objects
  counters : first.counters = second.counters
  faults : first.faults = second.faults

/-- Counters move alike on both sides, so that they never differ. -/
theorem agree_count (change : Counters → Counters) :
    Action.Agree Alike Eq (count change) (count change) := by
  refine Action.Agree.modify ?_
  intro memory memory' alike
  exact ⟨alike.service, alike.objects, congrArg change alike.counters, alike.faults⟩

theorem agree_onObjects {α : Type} {values : α → α → Prop}
    {action action' : Action (Table Bytes Bytes) α}
    (agree : Action.Agree Table.Alike values action action') :
    Action.Agree Alike values (onObjects action) (onObjects action') := by
  refine agree.onPart ?_ ?_
  · intro memory memory' alike
    exact alike.objects
  · intro memory memory' objects objects' alike same
    exact ⟨alike.service, same, alike.counters, alike.faults⟩

/-- What the backend in memory answers and counts depends on its objects by their lengths alone. -/
theorem discreet : backend.Discreet Alike where
  connect := by
    refine Action.Agree.get.bind ?_
    intro memory memory' alike
    rw [alike.faults]
    split
    · exact .pure rfl
    · exact (agree_count _).andThen (.pure rfl)
  openSession context service login := by
    refine Action.Agree.get.bind ?_
    intro memory memory' alike
    rw [alike.faults, alike.service]
    split
    · exact .pure rfl
    split
    · exact (agree_count _).andThen (.pure rfl)
    · exact .pure rfl
  invoke session number op op' same := by
    simp only [backend]
    rw [same.kinds]
    refine (agree_count _).andThen (Action.Agree.get.bind ?_)
    intro memory memory' alike
    rw [alike.faults]
    split
    · exact .pure ⟨rfl, same⟩
    · exact agree_onObjects (Service.agree_dispatch ObjectTable.discreet_inMemory same number)
  closeSession _ _ := agree_count _
  finalize _ := agree_count _

/-- Steps that differ in the contents to be stored at most. -/
inductive Step.Alike : Step → Step → Prop where
  | request {first second : Request} (alike : first.Alike second) :
      Alike (.request first) (.request second)
  | configure (client : Client) : Alike (.configure client) (.configure client)
  | insertRaw (id : Bytes) {first second : Bytes} (alike : first.Alike second) :
      Alike (.insertRaw id first) (.insertRaw id second)
  | inject (stage : Stage) (status : Status) : Alike (.inject stage status) (.inject stage status)
  | clearFaults : Alike .clearFaults .clearFaults

namespace Host

def events : Step → Host → List Event
  | .request request, ⟨client, memory⟩ => ((client.perform backend request).run memory).events
  | _, _ => []

/-- What a step shows, and the host after it. -/
def observe (step : Step) (host : Host) : Shown × Host :=
  (⟨(host.step step).1, host.events step⟩, (host.step step).2)

/-- The same client, on memories that differ in the contents of objects at most. -/
structure Alike (first second : Host) : Prop where
  client : first.client = second.client
  memory : first.memory.Alike second.memory

/-- The step lemma for a host of the memory: alike steps show alike things and leave alike hosts. -/
theorem alike_observe {step step' : Step} {host host' : Host} (steps : step.Alike step')
    (hosts : host.Alike host') :
    (host.observe step).1.Alike (host'.observe step').1 ∧
      (host.observe step).2.Alike (host'.observe step').2 := by
  obtain ⟨client, memory⟩ := host
  obtain ⟨_, memory'⟩ := host'
  obtain ⟨rfl, memories⟩ := hosts
  cases steps with
  | request same =>
      have agree := agree_perform client discreet same memory memory' memories
      exact ⟨⟨.some agree.value, agree.events⟩, rfl, agree.state⟩
  | configure client => exact ⟨⟨.none, rfl⟩, rfl, memories⟩
  | insertRaw id contents =>
      refine ⟨⟨.none, rfl⟩, rfl, ?_⟩
      exact ⟨memories.service, memories.objects.insert id contents, memories.counters,
        memories.faults⟩
  | inject stage status =>
      refine ⟨⟨.none, rfl⟩, rfl, memories.service, memories.objects, memories.counters, ?_⟩
      exact congrArg (Faults.inject stage status) memories.faults
  | clearFaults =>
      exact ⟨⟨.none, rfl⟩, rfl, memories.service, memories.objects, memories.counters, rfl⟩

end Host

end Memory

/-! ### Stores -/

namespace DirectoryStore

/-- A request that a client makes over a store. -/
structure Call where
  store : DirectoryStore
  client : Client
  request : Request

/-- What a call shows, and the tree after it. -/
def Call.observe (call : Call) (tree : FileTree) : Shown × FileTree :=
  let outcome := (call.client.perform call.store.backend call.request).run tree
  (⟨some outcome.value, outcome.events⟩, outcome.state)

/-- Calls of the same client over the same store, that differ in the contents to be stored at most. -/
structure Call.Alike (first second : Call) : Prop where
  store : first.store = second.store
  client : first.client = second.client
  request : first.request.Alike second.request

/-- The step lemma for a store: alike calls show alike things and leave alike trees. -/
theorem Call.alike_observe {call call' : Call} {tree tree' : FileTree} (calls : call.Alike call')
    (trees : tree.Alike tree') :
    (call.observe tree).1.Alike (call'.observe tree').1 ∧
      (call.observe tree).2.Alike (call'.observe tree').2 := by
  obtain ⟨store, client, request⟩ := call
  obtain ⟨_, _, request'⟩ := call'
  obtain ⟨rfl, rfl, same⟩ := calls
  have agree := agree_perform client store.discreet same tree tree' trees
  exact ⟨⟨.some agree.value, agree.events⟩, agree.state⟩

end DirectoryStore

/-! ### Runs -/

/-- Two runs that differ in the contents to be stored at most show the same: the same events, the same
errors, and answers that differ in the contents read at most. The counters are the same, too. -/
theorem shown_alike (host : Memory.Host) {steps steps' : List Memory.Step}
    (stepsAlike : List.Forall₂ Memory.Step.Alike steps steps') (tree : FileTree)
    {calls calls' : List DirectoryStore.Call}
    (callsAlike : List.Forall₂ DirectoryStore.Call.Alike calls calls') :
    List.Forall₂
        (fun after after' => after.1.Alike after'.1 ∧
          after.2.memory.counters = after'.2.memory.counters)
        (trace Memory.Host.observe steps host) (trace Memory.Host.observe steps' host) ∧
      List.Forall₂ (fun after after' => after.1.Alike after'.1)
        (trace DirectoryStore.Call.observe calls tree)
        (trace DirectoryStore.Call.observe calls' tree) := by
  have hosts : host.Alike host := ⟨rfl, rfl, .refl host.memory.objects, rfl, rfl⟩
  have inMemory := trace_linked (fun step step' host host' => Memory.Host.alike_observe)
    stepsAlike hosts
  have inFiles := trace_linked (fun call call' tree tree' => DirectoryStore.Call.alike_observe)
    callsAlike (FileTree.Alike.refl tree)
  constructor
  · exact inMemory.imp fun after after' both => ⟨both.1, both.2.memory.counters⟩
  · exact inFiles.imp fun after after' both => both.1

/-- One byte or another is put, inserted into the memory and read back, with a fault in between, and
nothing that is shown tells which byte it was. -/
theorem shown_alike_one_byte :
    let host : Memory.Host := ⟨.standard, .hosting .secureStorage⟩
    let steps (secret : UInt8) : List Memory.Step :=
      [.request (.put "a" [secret]), .insertRaw [1] [secret], .inject .invoke .generic,
        .request (.get "a")]
    let calls (secret : UInt8) : List DirectoryStore.Call :=
      [⟨⟨[slash], .secureStorage⟩, .standard, .put "a" [secret]⟩,
        ⟨⟨[slash], .secureStorage⟩, .standard, .get "a"⟩]
    List.Forall₂
        (fun after after' => after.1.Alike after'.1 ∧
          after.2.memory.counters = after'.2.memory.counters)
        (trace Memory.Host.observe (steps 1) host) (trace Memory.Host.observe (steps 2) host) ∧
      List.Forall₂ (fun after after' => after.1.Alike after'.1)
        (trace DirectoryStore.Call.observe (calls 1) .empty)
        (trace DirectoryStore.Call.observe (calls 2) .empty) := by
  intro host steps calls
  have stepsAlike : List.Forall₂ Memory.Step.Alike (steps 1) (steps 2) := by
    refine .cons (.request (.put "a" rfl)) ?_
    refine .cons (.insertRaw [1] rfl) ?_
    refine .cons (.inject .invoke .generic) ?_
    exact .cons (.request (.get "a")) .nil
  have callsAlike : List.Forall₂ DirectoryStore.Call.Alike (calls 1) (calls 2) := by
    refine .cons ⟨rfl, rfl, .put "a" rfl⟩ ?_
    exact .cons ⟨rfl, rfl, .get "a"⟩ .nil
  exact shown_alike host stepsAlike .empty callsAlike

end ObjectVault
