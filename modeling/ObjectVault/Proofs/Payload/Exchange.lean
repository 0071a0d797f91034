import ObjectVault.Proofs.Directory.Holdings
import ObjectVault.Proofs.Memory.Machine
import ObjectVault.Proofs.Payload.Padding

/-!
# Payloads that are put and got

A payload goes out padded and comes back as the service reports it. `Keeps` is what a client can rely
on about one object of a backend: a put that succeeds stores the padded payload, and what is stored is
found and can be put over. The backends of the library keep objects (`keeps_memory`,
`keeps_directory`), so on both of them the text of a payload comes back whole, and what has been got
can be put back without any change to the object (`padding_spec`).
-/

namespace ObjectVault

namespace Client

variable {σ κ ς : Type}

/-- The clients of a service find under a key what they have put there; `stored state data` says that
the backend in that state holds these bytes for the key, and can be asked for them. -/
structure Keeps (backend : Backend σ κ ς) (service : ServiceId) (key : ObjectKey)
    (stored : σ → Bytes → Prop) : Prop where
  /-- A put that succeeds stores the padded payload. -/
  stores (client : Client) (payload : Payload) (s : σ) : client.service = service →
    let put := (client.putObject backend key payload).run s
    put.value = .ok () → stored put.state payload.padded
  /-- What is stored is found, and still stored then. -/
  finds (client : Client) (payload : Payload) (s : σ) : client.service = service →
    stored s payload.bytes →
    let got := (client.getObject backend key).run s
    got.value = .ok (.found payload) ∧ stored got.state payload.bytes
  /-- What is stored can be put over. -/
  takes (client : Client) (payload : Payload) (s : σ) (data : Bytes) : client.service = service →
    stored s data → ((client.putObject backend key payload).run s).value = .ok ()

/-- What is put under a key is found there with its text, and putting back what has been found leaves
an object that a put has stored as it is. -/
def Exchanges (backend : Backend σ κ ς) (service : ServiceId) (key : ObjectKey)
    (stored : σ → Bytes → Prop) : Prop :=
  ∀ (writer reader : Client) (payload : Payload) (s : σ),
    writer.service = service → reader.service = service →
    let put := (writer.putObject backend key payload).run s
    (put.value = .ok () → stored put.state payload.padded ∧
      ∃ found, ((reader.getObject backend key).run put.state).value = .ok (.found found) ∧
        found.text = payload.text) ∧
    (stored s payload.padded →
      let got := (reader.getObject backend key).run s
      ∃ found, got.value = .ok (.found found) ∧
        let again := (writer.putObject backend key found).run got.state
        again.value = .ok () ∧ stored again.state payload.padded)

/-- What is found of a payload that has been put is the payload with its padding. -/
theorem Keeps.exchanges {backend : Backend σ κ ς} {service : ServiceId} {key : ObjectKey}
    {stored : σ → Bytes → Prop} (keeps : Keeps backend service key stored) :
    Exchanges backend service key stored := by
  intro writer reader payload s writes reads put
  constructor
  · intro succeeds
    have holds := keeps.stores writer payload s writes succeeds
    obtain ⟨finds, -⟩ := keeps.finds reader payload.full put.state reads holds
    exact ⟨holds, payload.full, finds, payload.text_full⟩
  · intro holds got
    obtain ⟨finds, still⟩ := keeps.finds reader payload.full s reads holds
    have takes := keeps.takes writer payload.full got.state _ writes still
    have stores := keeps.stores writer payload.full got.state writes takes
    rw [payload.padded_full] at stores
    exact ⟨payload.full, finds, takes, stores⟩

/-! ### Calls and orders -/

theorem run_execute_write (client : Client) (backend : Backend σ κ ς) (key : ObjectKey)
    (payload : Payload) (s : σ) :
    let put := (client.putObject backend key payload).run s
    (client.execute backend (.write key payload)).run s = ⟨.write put.value, put.state, put.events⟩ :=
  Action.run_map _ _ _

theorem run_execute_read (client : Client) (backend : Backend σ κ ς) (key : ObjectKey) (s : σ) :
    let got := (client.getObject backend key).run s
    (client.execute backend (.read key)).run s = ⟨.read got.value, got.state, got.events⟩ :=
  Action.run_map _ _ _

end Client

/-! ### In memory -/

namespace Memory

open Client

/-- A backend in memory without faults holds these bytes for a key of its service. -/
structure Holds (service : ServiceId) (key : ObjectKey) (memory : Memory) (data : Bytes) : Prop where
  known : service = memory.service
  sound : memory.faults = .none
  there : memory.objects.lookup key.bytes = some data

section Calls

variable {client : Client} {memory : Memory}

/-- Without faults, an order is answered from the map that the objects spell out. -/
theorem consult_execute (known : client.service = memory.service) (sound : memory.faults = .none)
    (order : Order) :
    let outcome := (client.execute backend order).run memory
    let consulted := Machine.consult client.policy memory.objects.toFinmap order
    outcome.value = consulted.1 ∧ outcome.state.service = memory.service ∧
      outcome.state.faults = .none ∧ outcome.state.objects.toFinmap = consulted.2 := by
  intro outcome consulted
  obtain ⟨replies, counters, leaves⟩ := run_execute order known sound
  obtain ⟨answers, keeps⟩ := consult_serve client order memory.objects
  have state : outcome.state = _ := leaves
  rw [state]
  exact ⟨replies.trans answers, rfl, rfl, keeps⟩

/-- Only a backend without faults lets a put succeed. -/
theorem sound_of_put {key : ObjectKey} {payload : Payload}
    (succeeds : ((client.putObject backend key payload).run memory).value = .ok ()) :
    client.service = memory.service ∧ memory.faults = .none := by
  have replies := (view_execute client (.write key payload) memory).1
  rw [run_execute_write, succeeds] at replies
  obtain ⟨service, objects, counters, ⟨context, opening, fault⟩⟩ := memory
  simp only [Host.view, Machine.answerOrder] at replies
  cases context with
  | some status => cases replies
  | none =>
      cases opening with
      | some status => cases replies
      | none =>
          by_cases known : client.service = service
          · cases fault with
            | some status => simp [known, refusedReply] at replies
            | none => exact ⟨known, rfl⟩
          · simp [known, Reply.failed, Order.command] at replies

/-- A put into a sound memory of the client's service succeeds, and the memory holds the padded
payload. -/
theorem run_putObject (known : client.service = memory.service) (sound : memory.faults = .none)
    (key : ObjectKey) (payload : Payload) :
    let put := (client.putObject backend key payload).run memory
    put.value = .ok () ∧ Holds memory.service key put.state payload.padded := by
  intro put
  obtain ⟨replies, same, faultless, leaves⟩ := consult_execute known sound (.write key payload)
  rw [run_execute_write] at replies same faultless leaves
  refine ⟨Reply.write.inj replies, same.symm, faultless, ?_⟩
  rw [← Table.lookup_toFinmap, leaves]
  exact Finmap.lookup_insert _

/-- What a memory holds is found by every get, and stays. -/
theorem run_getObject {service : ServiceId} {key : ObjectKey} {payload : Payload}
    (known : client.service = service) (holds : Holds service key memory payload.bytes) :
    let got := (client.getObject backend key).run memory
    got.value = .ok (.found payload) ∧ Holds service key got.state payload.bytes := by
  intro got
  obtain ⟨rfl, sound, there⟩ := holds
  rw [← Table.lookup_toFinmap] at there
  obtain ⟨replies, same, faultless, leaves⟩ := consult_execute known sound (.read key)
  rw [run_execute_read] at replies same faultless leaves
  simp only [Machine.consult, there, foundReply, payload.fits, dite_true] at replies leaves
  refine ⟨Reply.read.inj replies, same.symm, faultless, ?_⟩
  rw [← Table.lookup_toFinmap, leaves, there]

end Calls

/-- The memory keeps what is put until it is put again. -/
theorem keeps_memory (service : ServiceId) (key : ObjectKey) :
    Keeps backend service key (Holds service key) where
  stores client payload memory writes := by
    intro put succeeds
    obtain ⟨known, sound⟩ := sound_of_put succeeds
    have holds := (run_putObject known sound key payload).2
    rwa [← known, writes] at holds
  finds client payload memory reads holds := run_getObject reads holds
  takes client payload memory data writes holds :=
    (run_putObject (writes.trans holds.known) holds.sound key payload).1

end Memory

/-! ### In a directory -/

namespace DirectoryStore

open Client FileTree

/-- The file of an object holds these bytes. -/
def Holds (store : DirectoryStore) (key : ObjectKey) (tree : FileTree) (data : Bytes) : Prop :=
  tree.read (objectPath store.serviceDirectory key.bytes) = .ok data

section Calls

variable {store : DirectoryStore} {client : Client} {key : ObjectKey} {tree : FileTree} {data : Bytes}

theorem serviceDirectory_ne_nil (store : DirectoryStore) : store.serviceDirectory ≠ [] := by
  intro empty
  have named := store.serviceDirectory_named
  rw [empty] at named
  exact named rfl

/-- The file of an object lies in the directory of the service, wherever that is. -/
theorem holds_iff :
    store.Holds key tree data ↔
      ∃ dir, tree.find store.serviceDirectory = .ok (dir, some .directory) ∧
        held store.serviceDirectory key.bytes (tree.get? (objectName key.bytes :: dir))
          = .ok (some data) := by
  rw [Holds, read_eq_ok]
  constructor
  · rintro ⟨place, found⟩
    have there := get?_of_find found
    obtain ⟨near, short, dir, located, rfl⟩ :=
      find_parent store.serviceDirectory_ne_nil (plain_objectName key.bytes) found
    refine ⟨dir, located, ?_⟩
    rw [there]
    exact held_of_near ⟨near, short⟩ (some data)
  · rintro ⟨dir, located, holds⟩
    obtain ⟨near, there⟩ := near_of_held holds
    refine ⟨objectName key.bytes :: dir, ?_⟩
    rw [find_objectPath located near, there]
    rfl

/-- An order that is served where no directory is in the place of its object's file leaves the directory
of the service there. -/
theorem serve_located {dir : Place} (client : Client) (order : Order)
    (located : tree.find store.serviceDirectory = .ok (dir, some .directory))
    {stored : Option Bytes}
    (holds : held store.serviceDirectory order.key.bytes (tree.get? (objectName order.key.bytes :: dir))
      = .ok stored) :
    let served := (serve (objects store.serviceDirectory) order).run tree
    client.reply order served.value = heldReply client.policy order (.ok stored) ∧
      served.state.find store.serviceDirectory = .ok (dir, some .directory) ∧
      served.state.get? (objectName order.key.bytes :: dir)
        = entryAfter order (.ok stored) (stored.map .file) := by
  intro served
  obtain ⟨near, there⟩ := near_of_held holds
  obtain ⟨replies, changes⟩ := serve_held client order located
  rw [holds, there] at changes
  rw [holds] at replies
  have clear : tree.get? (objectName order.key.bytes :: dir) ≠ some .directory := by
    rw [there]
    cases stored with
    | none => nofun
    | some data => nofun
  exact ⟨replies,
    find_mono (changes.directoriesStay fun taken => absurd taken clear) changes.current located,
    changes.here⟩

/-- An order on an object that a store holds is answered from what is held, and the place holds the
result. -/
theorem run_located {dir : Place} (known : client.service = store.service) (order : Order)
    (located : tree.find store.serviceDirectory = .ok (dir, some .directory))
    {stored : Option Bytes}
    (holds : held store.serviceDirectory order.key.bytes (tree.get? (objectName order.key.bytes :: dir))
      = .ok stored) :
    let outcome := (client.execute store.backend order).run tree
    outcome.value = heldReply client.policy order (.ok stored) ∧
      outcome.state.find store.serviceDirectory = .ok (dir, some .directory) ∧
      outcome.state.get? (objectName order.key.bytes :: dir)
        = entryAfter order (.ok stored) (stored.map .file) := by
  intro outcome
  obtain ⟨replies, leaves⟩ := run_execute order known (createDirectories_of_find located)
  have state : outcome.state = _ := leaves
  rw [state]
  obtain ⟨answers, again, changes⟩ := serve_located client order located holds
  exact ⟨replies.trans answers, again, changes⟩

/-- After a put that succeeded, the store holds the padded payload. -/
theorem holds_of_put {payload : Payload} (known : client.service = store.service)
    (succeeds : ((client.putObject store.backend key payload).run tree).value = .ok ()) :
    store.Holds key ((client.putObject store.backend key payload).run tree).state payload.padded := by
  have replies : ((client.execute store.backend (.write key payload)).run tree).value
      = .write (.ok ()) := by
    rw [run_execute_write, succeeds]
  rcases creates : tree.createDirectories store.serviceDirectory with ⟨made, error | done⟩
  · rw [run_execute_of_no_context (run_connect_of_refused creates)] at replies
    cases replies
  obtain ⟨dir, located⟩ := find_of_createDirectories store.serviceDirectory_named
    (congrArg Prod.snd creates)
  rw [creates] at located
  obtain ⟨answers, leaves⟩ := run_execute (.write key payload) known creates
  rw [replies, (serve_held client (.write key payload) located).1] at answers
  cases holds : held store.serviceDirectory key.bytes (made.get? (objectName key.bytes :: dir)) with
  | error failure =>
      simp only [Order.key, holds] at answers
      cases answers
  | ok stored =>
      obtain ⟨-, again, changes⟩ := serve_located client (.write key payload) located holds
      rw [← leaves, run_execute_write] at again changes
      have stands := held_of_near (near_of_held holds).1 (some payload.padded)
      exact holds_iff.mpr ⟨dir, again, (congrArg (held _ _) changes).trans stands⟩

/-- A store keeps what is put until it is put again. -/
theorem keeps_directory (store : DirectoryStore) (key : ObjectKey) :
    Keeps store.backend store.service key (store.Holds key) where
  stores client payload tree known := holds_of_put known
  finds client payload tree known holds := by
    intro got
    obtain ⟨dir, located, stored⟩ := holds_iff.mp holds
    obtain ⟨replies, again, leaves⟩ := run_located known (.read key) located stored
    rw [run_execute_read] at replies again leaves
    simp only [heldReply, loadedReply, foundReply, payload.fits, dite_true] at replies
    have stands := held_of_near (near_of_held stored).1 (some payload.bytes)
    exact ⟨Reply.read.inj replies,
      holds_iff.mpr ⟨dir, again, (congrArg (held _ _) leaves).trans stands⟩⟩
  takes client payload tree data known holds := by
    obtain ⟨dir, located, stored⟩ := holds_iff.mp holds
    obtain ⟨replies, -⟩ := run_located known (.write key payload) located stored
    rw [run_execute_write] at replies
    exact Reply.write.inj replies

end Calls

end DirectoryStore

/-! ### All of it -/

namespace Payload

/-- What padding does to payloads, and what that means for objects. A payload goes out as its bytes and
zeros up to the full capacity, which forgets how many zeros it ends in and nothing else. Its text is
the longest start of it without zeros, which padding leaves alone; so a backend, in memory or in a
directory, gives the text back that has been put into it, and takes back what it has given without
any change to the object. -/
theorem padding_spec (p q : Payload) :
    (p.padded.length = 2000 ∧ p.bytes <+: p.padded ∧ ∀ b ∈ p.padded.drop p.length, b = 0) ∧
    (p.padded = q.padded ↔ p.bytes.trimmed = q.bytes.trimmed) ∧
    (∃ full, ofBytes p.padded = .ok full ∧ full.padded = p.padded ∧ full.text = p.text) ∧
    (p.text <+: p.bytes ∧ 0 ∉ p.text ∧
      ∀ start, start <+: p.bytes → 0 ∉ start → start <+: p.text) ∧
    (∀ service key, Client.Exchanges Memory.backend service key (Memory.Holds service key) ∧
      ∀ (writer : Client) (memory : Memory), writer.service = memory.service →
        memory.faults = .none →
        ((writer.putObject Memory.backend key p).run memory).value = .ok ()) ∧
    ∀ (store : DirectoryStore) key,
      Client.Exchanges store.backend store.service key (store.Holds key) := by
  refine ⟨⟨p.length_padded, List.prefix_append _ _, ?_⟩, Bytes.padded_eq_padded_iff p.fits q.fits,
    ⟨p.full, ofBytes_bytes p.full, p.padded_full, p.text_full⟩,
    ⟨List.takeWhile_prefix _, Bytes.nul_not_mem_text p.bytes, ?_⟩, ?_, ?_⟩
  · intro b member
    rw [padded, Bytes.padded, length, List.drop_left] at member
    exact List.eq_of_mem_replicate member
  · intro start starts noNul
    exact Bytes.prefix_text_iff.mpr ⟨starts, noNul⟩
  · intro service key
    refine ⟨(Memory.keeps_memory service key).exchanges, ?_⟩
    intro writer memory known sound
    exact (Memory.run_putObject known sound key p).1
  · intro store key
    exact (store.keeps_directory key).exchanges

end Payload

end ObjectVault
