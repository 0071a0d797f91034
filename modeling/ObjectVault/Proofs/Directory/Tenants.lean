import ObjectVault.Proofs.Directory.Requests
import ObjectVault.Proofs.Trace

/-!
# Services that share a store

Several services can keep their objects below one path, each in a directory of its own, and none of
them can tell whether the others are there: the replies to the requests for one service are those that
it gets where all requests for other services are left out, and its files end up the same. This is
`replies_alone`; it holds for every file tree to begin with and every path of the store.

Two trees that a service cannot tell apart may differ in the directories of other services, and in
how far the directories above its own have been made. They are `Indistinct` where making the
directories above the service's comes to the same. A request for another service keeps that
(`indistinct_of_other`), and a request for the service itself gets the same reply on both sides
(`indistinct_of_own`).
-/

namespace ObjectVault

namespace DirectoryStore

open Client FileTree

/-! ### Trees that a service cannot tell apart -/

/-- The places that matter to a service: that of the store, and those from its own directory on. -/
def Seen (store : DirectoryStore) (base place : Place) : Prop :=
  place = base ∨ store.serviceName :: base <:+ place

theorem seen_objectPlace (store : DirectoryStore) (base : Place) (id : Bytes) :
    Seen store base (store.objectPlace base id) :=
  .inr (List.suffix_cons _ _)

/-- Nothing that belongs to another service matters. -/
theorem ne_of_seen {store other : DirectoryStore} {base place : Place}
    (differ : other.service ≠ store.service) (seen : Seen store base place) :
    place ≠ other.serviceName :: base ∧ ∀ id, place ≠ other.objectPlace base id := by
  have names : other.serviceName ≠ store.serviceName := fun same =>
    differ (serviceName_injective same)
  have apart : ¬ store.serviceName :: base <:+ other.serviceName :: base := by
    intro below
    have whole := below.eq_of_length (by simp)
    exact names (List.cons.inj whole).1.symm
  rcases seen with rfl | below
  · refine ⟨?_, fun id => ?_⟩
    · intro same
      have lengths := congrArg List.length same
      simp at lengths
    · intro same
      have lengths := congrArg List.length same
      simp only [objectPlace, List.length_cons] at lengths
      omega
  · refine ⟨?_, fun id => ?_⟩
    · rintro rfl
      exact apart below
    · rintro rfl
      rcases List.suffix_cons_iff.mp below with whole | below
      · have lengths := congrArg List.length whole
        simp at lengths
      · exact apart below

/-- Two trees that a service cannot tell apart: once the directories above its own have been made, as
far as they can be, what matters to the service is the same. -/
structure Indistinct (store : DirectoryStore) (first second : FileTree) : Prop where
  current : second.current = first.current
  result : (second.prepared store.root).2 = (first.prepared store.root).2
  same : ∀ place, Seen store (first.aim store.root) place →
    (second.prepared store.root).1.get? place = (first.prepared store.root).1.get? place

namespace Indistinct

variable {store : DirectoryStore} {first second : FileTree}

theorem refl (store : DirectoryStore) (tree : FileTree) : Indistinct store tree tree :=
  ⟨rfl, rfl, fun _ _ => rfl⟩

/-- Making the directories above the service's goes unnoticed. -/
theorem of_prepared {first' second' : FileTree} (indistinct : Indistinct store first second)
    (firsts : first' = first ∨ first' = (first.prepared store.root).1)
    (seconds : second' = second ∨ second' = (second.prepared store.root).1) :
    Indistinct store first' second' := by
  have unnoticed {tree tree' : FileTree}
      (either : tree' = tree ∨ tree' = (tree.prepared store.root).1) :
      tree'.current = tree.current ∧ tree'.prepared store.root = tree.prepared store.root := by
    rcases either with rfl | rfl
    · exact ⟨rfl, rfl⟩
    · exact ⟨(extended_prepared tree store.root).current, prepared_again tree store.root⟩
  obtain ⟨current, prepared⟩ := unnoticed firsts
  obtain ⟨current', prepared'⟩ := unnoticed seconds
  refine ⟨?_, ?_, ?_⟩
  · rw [current', current, indistinct.current]
  · rw [prepared', prepared, indistinct.result]
  · intro place seen
    rw [aim_of_current current] at seen
    rw [prepared', prepared]
    exact indistinct.same place seen

/-- If one of two trees that a store cannot tell apart admits its directory, so does the other. -/
theorem admits (indistinct : Indistinct store first second)
    (admits : Admits first store.root store.serviceName) :
    Admits second store.root store.serviceName := by
  have above := indistinct.same (first.aim store.root) (.inl rfl)
  have own := indistinct.same (store.serviceName :: first.aim store.root) (.inr List.suffix_rfl)
  refine ⟨admits.noNul, admits.near, ?_, ?_⟩
  · rw [indistinct.result]
    exact admits.prepares
  · rw [aim_of_current indistinct.current, above, own]
    exact admits.free

theorem symm (indistinct : Indistinct store first second) : Indistinct store second first := by
  refine ⟨indistinct.current.symm, indistinct.result.symm, ?_⟩
  intro place seen
  rw [aim_of_current indistinct.current] at seen
  exact (indistinct.same place seen).symm

end Indistinct

section Unwinding

variable {store other : DirectoryStore} {client : Client} {first second : FileTree}

/-- A request for another service goes unnoticed. -/
theorem indistinct_of_other (request : Request) (known : client.service = other.service)
    (shared : other.root = store.root) (differ : other.service ≠ store.service)
    (indistinct : Indistinct store first second) :
    Indistinct store ((client.perform other.backend request).run first).state second := by
  cases passes : request.checked with
  | error cause =>
      rw [run_perform_of_refused passes]
      exact indistinct
  | ok order =>
      by_cases admits : Admits first other.root other.serviceName
      · obtain ⟨made, makes, -, changes⟩ := perform_of_admits known passes admits
        obtain ⟨prepared, current⟩ := prepared_of_changes admits.prepares makes changes
        have prepares := admits.prepares
        rw [shared] at makes changes prepared prepares
        generalize ((client.perform other.backend request).run first).state = after at *
        refine ⟨?_, ?_, ?_⟩
        · rw [indistinct.current, current]
        · rw [indistinct.result, prepared, prepares]
        · intro place seen
          rw [aim_of_current current] at seen
          obtain ⟨apart, apartFile⟩ := ne_of_seen differ seen
          rw [prepared, changes.elsewhere (apartFile _), makes.elsewhere apart]
          exact indistinct.same place seen
      · obtain ⟨-, leaves⟩ := perform_of_not_admits client passes admits
        rw [shared] at leaves
        exact indistinct.of_prepared leaves (.inl rfl)

/-- A request for the service itself gets the same reply from both trees. -/
theorem indistinct_of_own (request : Request) (known : client.service = store.service)
    (indistinct : Indistinct store first second) :
    let outcome := (client.perform store.backend request).run first
    let outcome' := (client.perform store.backend request).run second
    outcome.value = outcome'.value ∧ Indistinct store outcome.state outcome'.state := by
  cases passes : request.checked with
  | error cause =>
      rw [run_perform_of_refused passes, run_perform_of_refused passes]
      exact ⟨rfl, indistinct⟩
  | ok order =>
      by_cases admits : Admits first store.root store.serviceName
      · have admits' := indistinct.admits admits
        obtain ⟨made, makes, replies, changes⟩ := perform_of_admits known passes admits
        obtain ⟨made', makes', replies', changes'⟩ := perform_of_admits known passes admits'
        obtain ⟨prepared, current⟩ := prepared_of_changes admits.prepares makes changes
        obtain ⟨prepared', current'⟩ := prepared_of_changes admits'.prepares makes' changes'
        rw [aim_of_current indistinct.current] at makes' replies' changes'
        -- what the two trees have once the directory of the service is there
        have laid : ∀ place, Seen store (first.aim store.root) place →
            made'.get? place = made.get? place := by
          intro place seen
          by_cases own : place = store.serviceName :: first.aim store.root
          · rw [own, makes.here, makes'.here]
          · rw [makes.elsewhere own, makes'.elsewhere own]
            exact indistinct.same place seen
        have entries := laid _ (seen_objectPlace store (first.aim store.root) order.key.bytes)
        rw [entries] at replies' changes'
        refine ⟨replies.trans replies'.symm, ?_⟩
        generalize ((client.perform store.backend request).run first).state = after at *
        generalize ((client.perform store.backend request).run second).state = after' at *
        refine ⟨?_, ?_, ?_⟩
        · rw [current, current', indistinct.current]
        · rw [prepared, prepared']
        · intro place seen
          rw [aim_of_current current] at seen
          rw [prepared, prepared', changes.get?, changes'.get?]
          split
          · rfl
          · exact laid place seen
      · have refuses : ¬ Admits second store.root store.serviceName :=
          fun there => admits (indistinct.symm.admits there)
        obtain ⟨replies, leaves⟩ := perform_of_not_admits client passes admits
        obtain ⟨replies', leaves'⟩ := perform_of_not_admits client passes refuses
        exact ⟨replies.trans replies'.symm, indistinct.of_prepared leaves leaves'⟩

end Unwinding

/-! ### Visits -/

/-- A request for a service, made by a client with this login and this policy. -/
structure Visit where
  service : ServiceId
  login : Login
  policy : ShortReadPolicy
  request : Request

namespace Visit

/-- The store that a visit is paid to, below a path that services share. -/
def store (root : Bytes) (visit : Visit) : DirectoryStore := ⟨root, visit.service⟩

def client (visit : Visit) : Client := ⟨visit.service, visit.login, visit.policy⟩

/-- Which service a visit was for and what it was replied, and the tree after it. -/
def pay (root : Bytes) (visit : Visit) (tree : FileTree) : (ServiceId × Reply) × FileTree :=
  let outcome := (visit.client.perform (visit.store root).backend visit.request).run tree
  ((visit.service, outcome.value), outcome.state)

end Visit

/-- Over a whole run, a service is replied what it is replied where nothing but its own requests is
made, and cannot tell the trees at the end apart. -/
theorem indistinct_final (root : Bytes) (service : ServiceId) (visits : List Visit)
    {first second : FileTree} (indistinct : Indistinct ⟨root, service⟩ first second) :
    let mine := visits.filter fun visit => visit.service = service
    ((trace (Visit.pay root) visits first).map Prod.fst).filter (fun told => told.1 = service)
        = (trace (Visit.pay root) mine second).map Prod.fst ∧
      Indistinct ⟨root, service⟩ (final (Visit.pay root) visits first)
        (final (Visit.pay root) mine second) := by
  intro mine
  induction visits generalizing first second with
  | nil => exact ⟨rfl, indistinct⟩
  | cons visit rest ih =>
      by_cases own : visit.service = service
      · subst own
        have known : visit.client.service = (visit.store root).service := rfl
        obtain ⟨replies, onward⟩ := indistinct_of_own visit.request known indistinct
        obtain ⟨later, ends⟩ := ih onward
        have keeps : mine = visit :: rest.filter fun next => next.service = visit.service := by
          simp [mine]
        have same : (visit.pay root first).1 = (visit.pay root second).1 :=
          congrArg (Prod.mk visit.service) replies
        rw [keeps]
        refine ⟨?_, ends⟩
        simp only [trace, List.map_cons]
        rw [List.filter_cons_of_pos (by simp [Visit.pay]), same]
        exact congrArg (List.cons _) later
      · -- the left run takes a step alone, which the service does not notice
        have known : visit.client.service = (visit.store root).service := rfl
        have shared : (visit.store root).root = root := rfl
        have onward : Indistinct ⟨root, service⟩ (visit.pay root first).2 second :=
          indistinct_of_other visit.request known shared own indistinct
        obtain ⟨later, ends⟩ := ih onward
        have drops : mine = rest.filter fun next => next.service = service := by
          simp [mine, own]
        rw [drops]
        refine ⟨?_, ends⟩
        simp only [trace, List.map_cons]
        rw [List.filter_cons_of_neg (by simp [Visit.pay, own])]
        exact later

/-- A service gets the replies that it gets where all requests for other services are left out, and
the files below its directory end up the same. -/
theorem replies_alone (root : Bytes) (tree : FileTree) (visits : List Visit) (service : ServiceId) :
    let store : DirectoryStore := ⟨root, service⟩
    let mine := visits.filter fun visit => visit.service = service
    ((trace (Visit.pay root) visits tree).map Prod.fst).filter (fun told => told.1 = service)
        = (trace (Visit.pay root) mine tree).map Prod.fst ∧
      ∀ place data, store.serviceName :: tree.aim root <:+ place →
        ((final (Visit.pay root) visits tree).get? place = some (.file data) ↔
          (final (Visit.pay root) mine tree).get? place = some (.file data)) := by
  intro store mine
  obtain ⟨replies, indistinct⟩ := indistinct_final root service visits (.refl store tree)
  refine ⟨replies, ?_⟩
  intro place data below
  -- making directories leaves the files of a tree as they are
  have files (ending : FileTree) : (ending.prepared root).1.get? place = some (.file data)
      ↔ ending.get? place = some (.file data) := by
    rcases (extended_prepared ending root).get? place with same | ⟨absent, new, -⟩
    · rw [same]
    · simp [absent, new]
  have stays (visit : Visit) (middle : FileTree) (same : middle.current = tree.current) :
      (visit.pay root middle).2.current = tree.current := by
    have known : visit.client.service = (visit.store root).service := rfl
    exact (current_perform visit.request middle known).trans same
  have current : (final (Visit.pay root) visits tree).current = tree.current :=
    final_of_step stays visits rfl
  have seen : Seen store ((final (Visit.pay root) visits tree).aim root) place := by
    rw [aim_of_current current]
    exact .inr below
  rw [← files, ← files (final (Visit.pay root) mine tree)]
  rw [indistinct.same place seen]

end DirectoryStore

end ObjectVault
