import ObjectVault.Proofs.Results
import ObjectVault.Proofs.Settings.RoundTrip
import ObjectVault.Proofs.Toml.Distinct

/-!
# Settings in documents of strings

A document whose entries are all strings holds settings if every name is that of a field and every
text can be read there, and then the settings are exactly what it says: `ofToml_strings`. Since no
name is bound twice, neither the order of the entries nor what the others say makes any difference.

* `setToml_eq_ok_iff`: one entry sets its field, and leaves all others.
* `foldlM_setEntry_eq_ok_iff`: all entries together set the fields that they name, and leave the
  rest.
* `acceptable_iff`, `Describes.decodes`: what that comes to, field by field.
-/

namespace ObjectVault

/-! ### Strings as values -/

namespace Toml.Value

variable {α : Type} {name : α → String} {values : List α} {text : String}

/-- A string is read as the value that it names. -/
theorem readNamed_string_eq_ok_iff
    (distinct : ∀ {first second : α}, name first = name second → first = second)
    (known : ∀ value, value ∈ values) {value : α} :
    (string text).readNamed name values = .ok value ↔ name value = text := by
  constructor
  · intro reads
    rw [readNamed, mapError_eq_ok_iff, readName] at reads
    split at reads
    · next found =>
        cases reads
        simpa using List.find?_some found
    · cases reads
  · rintro rfl
    exact readNamed_name distinct (known value)

/-- A string is read as an identity exactly if it spells one. -/
theorem readServiceId_string_eq_ok_iff {service : ServiceId} :
    (string text).readServiceId = .ok service ↔ ServiceId.ofText text = .ok service :=
  mapError_eq_ok_iff

end Toml.Value

namespace Settings

open Toml (BareName Entry Entries Value bindingLines)

/-! ### Fields -/

/-- A part of settings that has a name in documents. -/
inductive Field where
  | service
  | login
  | policy
  | storeDir
  deriving DecidableEq

namespace Field

def name : Field → String
  | .service => "ta_uuid"
  | .login => "login"
  | .policy => "short_buffer_policy"
  | .storeDir => "store_dir"

/-- A text says what settings hold in a field. -/
def Reads (text : String) (settings : Settings) : Field → Prop
  | .service => ServiceId.ofText text = .ok settings.service
  | .login => settings.login.name = text
  | .policy => settings.policy.name = text
  | .storeDir => settings.storeDir = Utf8.ofText text

/-- Two settings hold the same in a field. -/
def Same (first second : Settings) : Field → Prop
  | .service => first.service = second.service
  | .login => first.login = second.login
  | .policy => first.policy = second.policy
  | .storeDir => first.storeDir = second.storeDir

/-- Settings with what others hold in a field. -/
def take (source settings : Settings) : Field → Settings
  | .service => { settings with service := source.service }
  | .login => { settings with login := source.login }
  | .policy => { settings with policy := source.policy }
  | .storeDir => { settings with storeDir := source.storeDir }

variable {field other : Field} {first second third : Settings} {text : String}

theorem name_injective (same : field.name = other.name) : field = other := by
  cases field <;> cases other <;> first | rfl | exact absurd same (by decide)

/-- The names of the fields are those that the reader knows. -/
theorem exists_name_iff : (∃ field, name field = text) ↔ text ∈ fieldNames := by
  constructor
  · rintro ⟨field, rfl⟩
    cases field <;> simp [name, fieldNames]
  · intro member
    simp only [fieldNames, List.mem_cons, List.not_mem_nil, or_false] at member
    rcases member with rfl | rfl | rfl | rfl
    · exact ⟨.service, rfl⟩
    · exact ⟨.login, rfl⟩
    · exact ⟨.policy, rfl⟩
    · exact ⟨.storeDir, rfl⟩

theorem Same.refl (field : Field) {settings : Settings} : field.Same settings settings := by
  cases field <;> rfl

theorem Same.symm (same : field.Same first second) : field.Same second first := by
  cases field <;> exact Eq.symm same

theorem Same.trans (same : field.Same first second) (others : field.Same second third) :
    field.Same first third := by
  cases field <;> exact Eq.trans same others

theorem Reads.of_same (reads : field.Reads text first) (same : field.Same first second) :
    field.Reads text second := by
  cases field with
  | service => exact reads.trans (congrArg Except.ok same)
  | login => exact (congrArg Login.name same.symm).trans reads
  | policy => exact (congrArg ShortReadPolicy.name same.symm).trans reads
  | storeDir => exact Eq.trans same.symm reads

/-- A field that has been taken from other settings is as it is there. -/
theorem same_take (field : Field) (source settings : Settings) :
    field.Same (field.take source settings) source := by
  cases field <;> rfl

theorem same_take_of_ne (apart : other ≠ field) (source settings : Settings) :
    other.Same (field.take source settings) settings := by
  cases field <;> cases other <;> first | rfl | exact absurd rfl apart

theorem take_take (field : Field) (source settings : Settings) :
    field.take (field.take source settings) settings = field.take source settings := by
  cases field <;> rfl

/-- Settings are what they hold in their fields. -/
theorem eq_of_same (same : ∀ field, Same first second field) : first = second := by
  obtain ⟨service, login, policy, storeDir⟩ := first
  obtain rfl : service = second.service := same .service
  obtain rfl : login = second.login := same .login
  obtain rfl : policy = second.policy := same .policy
  obtain rfl : storeDir = second.storeDir := same .storeDir
  rfl

end Field

/-! ### One entry -/

section Entry

variable {settings after : Settings} {entry : Entry Value} {text : String} {field : Field}

/-- The entry of a field sets it. -/
theorem setToml_of_field (named : entry.key.text = field.name)
    (holds : entry.value = .string text) :
    setToml settings entry = .ok after ↔
      field.Reads text after ∧ after = field.take after settings := by
  cases field with
  | service =>
      simp only [setToml, named, Field.name, holds, bind_eq_ok_iff, Field.Reads, Field.take,
        Value.readServiceId_string_eq_ok_iff]
      constructor
      · rintro ⟨service, reads, ⟨⟩⟩
        exact ⟨reads, rfl⟩
      · rintro ⟨reads, taken⟩
        exact ⟨after.service, reads, congrArg Except.ok taken.symm⟩
  | login =>
      simp only [setToml, named, Field.name, holds, bind_eq_ok_iff, Field.Reads, Field.take,
        Value.readNamed_string_eq_ok_iff Login.name_injective Login.mem_all]
      constructor
      · rintro ⟨login, reads, ⟨⟩⟩
        exact ⟨reads, rfl⟩
      · rintro ⟨reads, taken⟩
        exact ⟨after.login, reads, congrArg Except.ok taken.symm⟩
  | policy =>
      simp only [setToml, named, Field.name, holds, bind_eq_ok_iff, Field.Reads, Field.take,
        Value.readNamed_string_eq_ok_iff ShortReadPolicy.name_injective ShortReadPolicy.mem_all]
      constructor
      · rintro ⟨policy, reads, ⟨⟩⟩
        exact ⟨reads, rfl⟩
      · rintro ⟨reads, taken⟩
        exact ⟨after.policy, reads, congrArg Except.ok taken.symm⟩
  | storeDir =>
      simp only [setToml, named, Field.name, holds, Field.Reads, Field.take]
      constructor
      · rintro ⟨⟩
        exact ⟨rfl, rfl⟩
      · rintro ⟨reads, taken⟩
        rw [taken, reads]
        rfl

/-- An entry under an unknown name is never accepted. -/
theorem setToml_of_unknown (unknown : entry.key.text ∉ fieldNames) :
    setToml settings entry ≠ .ok after := by
  simp only [fieldNames, List.mem_cons, List.not_mem_nil, or_false, not_or] at unknown
  obtain ⟨noService, noLogin, noPolicy, noStoreDir⟩ := unknown
  unfold setToml
  split
  · contradiction
  · contradiction
  · contradiction
  · contradiction
  · rintro ⟨⟩

/-- An entry sets the field that it names, and leaves all others. -/
theorem setToml_eq_ok_iff (holds : entry.value = .string text) :
    setToml settings entry = .ok after ↔
      ∃ field : Field, field.name = entry.key.text ∧ field.Reads text after ∧
        after = field.take after settings := by
  constructor
  · intro sets
    by_cases known : entry.key.text ∈ fieldNames
    · obtain ⟨field, named⟩ := Field.exists_name_iff.mpr known
      exact ⟨field, named, (setToml_of_field named.symm holds).mp sets⟩
    · exact absurd sets (setToml_of_unknown known)
  · rintro ⟨field, named, sets⟩
    exact (setToml_of_field named.symm holds).mpr sets

end Entry

/-! ### All entries -/

def Bound (entries : Entries) (name text : String) : Prop :=
  ∃ entry ∈ entries, entry.key.text = name ∧ entry.value = .string text

/-- Settings hold what is bound, and apart from that what there was at the start. -/
structure Describes (bound : String → String → Prop) (start settings : Settings) : Prop where
  reads : ∀ name text, bound name text →
    ∃ field : Field, field.name = name ∧ field.Reads text settings
  keeps : ∀ field : Field, (∀ text, ¬ bound field.name text) → field.Same settings start

section Documents

variable {source : List Char} {entry : Entry Value} {entries rest : Entries}
  {start settings : Settings} {name text : String}

/-- What a document binds is bound by its first entry or by the rest. -/
theorem bound_cons_iff (holds : entry.value = .string text) {other : String} :
    Bound (entry :: rest) name other ↔
      (entry.key.text = name ∧ text = other) ∨ Bound rest name other := by
  simp [Bound, holds]

/-- The name of the first entry is not bound again. -/
theorem not_bound_of_distinct (distinct : Toml.Entries.Distinct (entry :: rest)) (text : String) :
    ¬ Bound rest entry.key.text text := by
  rintro ⟨other, member, same, -⟩
  obtain ⟨new, -⟩ := List.nodup_cons.mp distinct
  exact new (List.mem_map.mpr ⟨other, member, same⟩)

/-- Settings that hold what the rest binds, after the first field has been set, hold what the whole
binds. -/
theorem Describes.cons (holds : entry.value = .string text) {field : Field} {middle : Settings}
    (named : field.name = entry.key.text) (distinct : Toml.Entries.Distinct (entry :: rest))
    (reads : field.Reads text middle) (taken : middle = field.take middle start)
    (describes : Describes (Bound rest) middle settings) :
    Describes (Bound (entry :: rest)) start settings := by
  have kept : field.Same settings middle :=
    describes.keeps field fun other => named ▸ not_bound_of_distinct distinct other
  constructor
  · intro name other bound
    rcases (bound_cons_iff holds).mp bound with ⟨rfl, rfl⟩ | later
    · exact ⟨field, named, reads.of_same kept.symm⟩
    · exact describes.reads name other later
  · intro other unbound
    have apart : other ≠ field := by
      rintro rfl
      exact unbound text ((bound_cons_iff holds).mpr (.inl ⟨named.symm, rfl⟩))
    have keeps := describes.keeps other fun found bound =>
      unbound found ((bound_cons_iff holds).mpr (.inr bound))
    have untouched : other.Same middle start := taken ▸ Field.same_take_of_ne apart middle start
    exact keeps.trans untouched

/-- What is bound to the name of a field has been read into it. -/
theorem Describes.readsField {bound : String → String → Prop}
    (describes : Describes bound start settings) (field : Field) (binds : bound field.name text) :
    field.Reads text settings := by
  obtain ⟨other, same, reads⟩ := describes.reads field.name text binds
  exact Field.name_injective same ▸ reads

/-- The first entry sets its field, and the rest go on from there. -/
theorem Describes.tail (holds : entry.value = .string text) {field : Field}
    (named : field.name = entry.key.text)
    (describes : Describes (Bound (entry :: rest)) start settings) :
    Describes (Bound rest) (field.take settings start) settings := by
  constructor
  · intro name other bound
    exact describes.reads name other ((bound_cons_iff holds).mpr (.inr bound))
  · intro other unbound
    by_cases same : other = field
    · rw [same]
      exact (field.same_take settings start).symm
    · have untouched := Field.same_take_of_ne same settings start
      refine (describes.keeps other ?_).trans untouched.symm
      intro found bound
      rcases (bound_cons_iff holds).mp bound with ⟨first, -⟩ | later
      · exact same (Field.name_injective (first.symm.trans named.symm))
      · exact unbound found later

/-- Entries that are strings set the fields that they name, and leave the rest. -/
theorem foldlM_setEntry_eq_ok_iff (distinct : entries.Distinct)
    (strings : ∀ entry ∈ entries, ∃ text, entry.value = .string text) :
    entries.foldlM (setEntry source) start = .ok settings ↔
      Describes (Bound entries) start settings := by
  induction entries generalizing start with
  | nil =>
      constructor
      · rintro ⟨⟩
        exact ⟨nofun, fun field _ => Field.Same.refl field⟩
      · rintro ⟨-, keeps⟩
        exact congrArg Except.ok (Field.eq_of_same fun field => (keeps field nofun).symm)
  | cons entry rest ih =>
      obtain ⟨text, holds⟩ := strings entry List.mem_cons_self
      have ihRest (middle : Settings) :
          rest.foldlM (setEntry source) middle = .ok settings ↔
            Describes (Bound rest) middle settings :=
        ih (List.nodup_cons.mp distinct).2
          fun other member => strings other (List.mem_cons_of_mem entry member)
      rw [List.foldlM_cons, bind_eq_ok_iff]
      constructor
      · rintro ⟨middle, sets, setsRest⟩
        obtain ⟨field, named, reads, taken⟩ :=
          (setToml_eq_ok_iff holds).mp (mapError_eq_ok_iff.mp sets)
        exact ((ihRest middle).mp setsRest).cons holds named distinct reads taken
      · intro describes
        obtain ⟨field, named, reads⟩ :=
          describes.reads entry.key.text text ((bound_cons_iff holds).mpr (.inl ⟨rfl, rfl⟩))
        have readsMiddle := reads.of_same (field.same_take settings start).symm
        have sets := (setToml_eq_ok_iff holds).mpr
          ⟨field, named, readsMiddle, (field.take_take settings start).symm⟩
        exact ⟨_, mapError_eq_ok_iff.mpr sets,
          (ihRest _).mpr (describes.tail holds named)⟩

/-- Entries set their fields if each of them can be read where it belongs, whatever there was at the
start. -/
theorem foldlM_setEntry_succeeds (strings : ∀ entry ∈ entries, ∃ text, entry.value = .string text)
    (readable : ∀ name text, Bound entries name text →
      ∃ field : Field, field.name = name ∧ ∃ settings, field.Reads text settings)
    (start : Settings) : ∃ settings, entries.foldlM (setEntry source) start = .ok settings := by
  induction entries generalizing start with
  | nil => exact ⟨start, rfl⟩
  | cons entry rest ih =>
      obtain ⟨text, holds⟩ := strings entry List.mem_cons_self
      obtain ⟨field, named, read, reads⟩ :=
        readable entry.key.text text ((bound_cons_iff holds).mpr (.inl ⟨rfl, rfl⟩))
      have sets : setEntry source start entry = .ok (field.take read start) := by
        refine mapError_eq_ok_iff.mpr ((setToml_eq_ok_iff holds).mpr ⟨field, named, ?_, ?_⟩)
        · exact reads.of_same (field.same_take read start).symm
        · exact (field.take_take read start).symm
      obtain ⟨settings, setsRest⟩ := ih
        (fun other member => strings other (List.mem_cons_of_mem entry member))
        (fun name text bound => readable name text ((bound_cons_iff holds).mpr (.inr bound)))
        (field.take read start)
      rw [List.foldlM_cons, sets]
      exact ⟨settings, setsRest⟩

/-- Whatever the fault is, it is one of an entry, with its place in the text. -/
theorem foldlM_setEntry_eq_error {error : SettingsError}
    (fails : entries.foldlM (setEntry source) start = .error error) :
    ∃ span cause, error = .badEntry source span cause := by
  induction entries generalizing start with
  | nil => cases fails
  | cons entry rest ih =>
      rw [List.foldlM_cons] at fails
      cases sets : setToml start entry with
      | error fault =>
          rw [setEntry, sets] at fails
          cases fails
          exact ⟨_, _, rfl⟩
      | ok middle =>
          rw [setEntry_of_setToml sets] at fails
          exact ih fails

/-- Nothing is bound but fields, each to a text that can be read there. -/
structure Acceptable (bound : String → String → Prop) : Prop where
  known : ∀ name text, bound name text →
    name ∈ ["ta_uuid", "login", "short_buffer_policy", "store_dir"]
  service : ∀ text, bound "ta_uuid" text → ∃ service, ServiceId.ofText text = .ok service
  login : ∀ text, bound "login" text → text ∈ ["public", "user", "group", "application"]
  policy : ∀ text, bound "short_buffer_policy" text → text ∈ ["report", "fatal", "legacy"]

/-- What settings hold in a field is what is bound to it, or standard if nothing is. -/
structure Decodes (bound : String → String → Prop) (settings : Settings) : Prop where
  service : ∀ text, bound "ta_uuid" text → ServiceId.ofText text = .ok settings.service
  login : ∀ text, bound "login" text → (text, settings.login) ∈
    [("public", .anyone), ("user", .user), ("group", .group), ("application", .application)]
  policy : ∀ text, bound "short_buffer_policy" text → (text, settings.policy) ∈
    [("report", .report), ("fatal", .fatal), ("legacy", .legacy)]
  storeDir : ∀ text, bound "store_dir" text → settings.storeDir = Utf8.ofText text
  standardService : (∀ text, ¬ bound "ta_uuid" text) → settings.service = .secureStorage
  standardLogin : (∀ text, ¬ bound "login" text) → settings.login = .anyone
  standardPolicy : (∀ text, ¬ bound "short_buffer_policy" text) → settings.policy = .report
  standardStoreDir : (∀ text, ¬ bound "store_dir" text) →
    settings.storeDir = Utf8.ofText "/var/lib/secstore"

/-- Each entry can be read where it belongs. -/
theorem acceptable_iff {bound : String → String → Prop} :
    Acceptable bound ↔ ∀ name text, bound name text →
      ∃ field : Field, field.name = name ∧ ∃ settings, field.Reads text settings := by
  constructor
  · rintro ⟨known, services, logins, policies⟩ name text binds
    obtain ⟨field, rfl⟩ := Field.exists_name_iff.mpr (known name text binds)
    refine ⟨field, rfl, ?_⟩
    cases field with
    | service =>
        obtain ⟨service, reads⟩ := services text binds
        exact ⟨{ standard with service }, reads⟩
    | login =>
        have among : text ∈ Login.all.map Login.name := logins text binds
        obtain ⟨login, -, named⟩ := List.mem_map.mp among
        exact ⟨{ standard with login }, named⟩
    | policy =>
        have among : text ∈ ShortReadPolicy.all.map ShortReadPolicy.name := policies text binds
        obtain ⟨policy, -, named⟩ := List.mem_map.mp among
        exact ⟨{ standard with policy }, named⟩
    | storeDir => exact ⟨{ standard with storeDir := Utf8.ofText text }, rfl⟩
  · intro readable
    have readsField (field : Field) (text : String) (binds : bound field.name text) :
        ∃ settings, field.Reads text settings := by
      obtain ⟨other, same, settings, reads⟩ := readable field.name text binds
      exact ⟨settings, Field.name_injective same ▸ reads⟩
    constructor
    · intro name text binds
      obtain ⟨field, named, -⟩ := readable name text binds
      exact Field.exists_name_iff.mp ⟨field, named⟩
    · intro text binds
      obtain ⟨settings, reads⟩ := readsField .service text binds
      exact ⟨settings.service, reads⟩
    · intro text binds
      obtain ⟨settings, rfl⟩ := readsField .login text binds
      cases settings.login <;> decide
    · intro text binds
      obtain ⟨settings, rfl⟩ := readsField .policy text binds
      cases settings.policy <;> decide

/-- Settings that hold what is bound decode the document field by field. -/
theorem Describes.decodes {bound : String → String → Prop}
    (describes : Describes bound standard settings) : Decodes bound settings where
  service _ binds := describes.readsField .service binds
  login text binds := by
    obtain rfl := describes.readsField .login binds
    cases settings.login <;> simp [Login.name]
  policy text binds := by
    obtain rfl := describes.readsField .policy binds
    cases settings.policy <;> simp [ShortReadPolicy.name]
  storeDir _ binds := describes.readsField .storeDir binds
  standardService := describes.keeps .service
  standardLogin := describes.keeps .login
  standardPolicy := describes.keeps .policy
  standardStoreDir := describes.keeps .storeDir

/-- Entries that bind names to texts are strings, and nothing else is bound. -/
theorem bound_of_binds {pairs : List (String × List Char)}
    (binds : List.Forall₂ (fun pair entry => entry.Binds pair.1 pair.2) pairs entries) :
    (∀ entry ∈ entries, ∃ text, entry.value = .string text) ∧
      ∀ name text, Bound entries name text ↔ (name, text.toList) ∈ pairs := by
  induction binds with
  | nil => exact ⟨nofun, by simp [Bound]⟩
  | @cons pair entry pairs entries first others ih =>
      obtain ⟨named, holds⟩ := first
      constructor
      · exact List.forall_mem_cons.mpr ⟨⟨_, holds⟩, ih.1⟩
      · intro name text
        have spelled : String.ofList pair.2 = text ↔ text.toList = pair.2 := by
          constructor
          · rintro rfl
            exact String.toList_ofList
          · intro same
            rw [← same, String.ofList_toList]
        rw [bound_cons_iff holds, ih.2, List.mem_cons, named, Prod.ext_iff, spelled, eq_comm]

/-! ### Documents -/

/-- What an entry binds, wherever it stands. -/
def binding (entry : Entry Value) : String × Value := (entry.key.text, entry.value)

/-- Only the names and the values of the entries matter for what is bound. -/
theorem bound_iff_mem : Bound entries name text ↔ (name, .string text) ∈ entries.map binding := by
  simp [Bound, binding]

/-- So the order of the entries makes no difference to it. -/
theorem bound_of_perm {others : Entries} (same : (others.map binding).Perm (entries.map binding)) :
    Bound others = Bound entries := by
  funext name text
  exact propext ((bound_iff_mem.trans same.mem_iff).trans bound_iff_mem.symm)

theorem strings_of_perm {others : Entries}
    (strings : ∀ entry ∈ entries, ∃ text, entry.value = .string text)
    (same : (others.map binding).Perm (entries.map binding)) :
    ∀ entry ∈ others, ∃ text, entry.value = .string text := by
  intro entry member
  obtain ⟨twin, there, equal⟩ := List.mem_map.mp (same.mem_iff.mp (List.mem_map_of_mem member))
  obtain ⟨text, holds⟩ := strings twin there
  exact ⟨text, (congrArg Prod.snd equal).symm.trans holds⟩

/-- A document of strings is read exactly as the settings that hold what it binds and are standard
elsewhere. -/
theorem ofToml_eq_ok_iff (reads : Toml.Document.read text.toList = some entries)
    (strings : ∀ entry ∈ entries, ∃ value, entry.value = .string value) :
    ofToml text = .ok settings ↔ Describes (Bound entries) standard settings := by
  rw [ofToml, reads]
  exact foldlM_setEntry_eq_ok_iff (Toml.Document.distinct_of_read reads) strings

end Documents

/-- A document of strings holds settings if it binds nothing but fields, each to a text that can be
read there. The settings are what it says about each field, and standard where it says nothing; so
they are the same for any document that binds the same, in whatever order. -/
theorem ofToml_strings {text : String} {entries : Entries}
    (reads : Toml.Document.read text.toList = some entries)
    (strings : ∀ entry ∈ entries, ∃ value, entry.value = .string value) :
    ((∃ settings, ofToml text = .ok settings) ↔ Acceptable (Bound entries)) ∧
    (¬ Acceptable (Bound entries) →
      ∃ span cause, ofToml text = .error (.badEntry text.toList span cause)) ∧
    (∀ settings, ofToml text = .ok settings → Decodes (Bound entries) settings) ∧
    ∀ other others, Toml.Document.read other.toList = some others →
      (others.map binding).Perm (entries.map binding) →
      ∀ settings, ofToml other = .ok settings ↔ ofToml text = .ok settings := by
  have succeeds : (∃ settings, ofToml text = .ok settings) ↔ Acceptable (Bound entries) := by
    rw [acceptable_iff]
    constructor
    · rintro ⟨settings, yields⟩ name value binds
      obtain ⟨field, named, holds⟩ :=
        ((ofToml_eq_ok_iff reads strings).mp yields).reads name value binds
      exact ⟨field, named, settings, holds⟩
    · intro readable
      rw [ofToml, reads]
      exact foldlM_setEntry_succeeds strings readable standard
  refine ⟨succeeds, ?_, ?_, ?_⟩
  · intro refused
    cases yields : ofToml text with
    | ok settings => exact absurd (succeeds.mp ⟨settings, yields⟩) refused
    | error error =>
        rw [ofToml, reads] at yields
        obtain ⟨span, cause, rfl⟩ := foldlM_setEntry_eq_error yields
        exact ⟨span, cause, rfl⟩
  · intro settings yields
    exact ((ofToml_eq_ok_iff reads strings).mp yields).decodes
  · intro other others readsOther same settings
    rw [ofToml_eq_ok_iff readsOther (strings_of_perm strings same), ofToml_eq_ok_iff reads strings,
      bound_of_perm same]

/-- In a document of two strings, both are read where both names are those of fields; where the case of
one letter is off, the document is refused. -/
theorem ofToml_strings_misspelled :
    let correct := "store_dir = \"/s\"\nlogin = \"user\"\n"
    let misspelled := "store_dir = \"/s\"\nLogin = \"user\"\n"
    ofToml correct = .ok ⟨.secureStorage, .user, .report, Utf8.ofText "/s"⟩ ∧
      ∃ span cause, ofToml misspelled = .error (.badEntry misspelled.toList span cause) := by
  intro correct misspelled
  let pairs (name : String) := [("store_dir", "/s".toList), (name, "user".toList)]
  have document (name : String) (bare : BareName name) (new : name ≠ "store_dir") :
      ∃ entries, Toml.Document.read (bindingLines (pairs name)) = some entries ∧
        (∀ entry ∈ entries, ∃ value, entry.value = .string value) ∧
        ∀ other value, Bound entries other value ↔
          (other = "store_dir" ∧ value = "/s") ∨ (other = name ∧ value = "user") := by
    have bareAll : ∀ pair ∈ pairs name, BareName pair.1 := by
      have bareDirectory : BareName "store_dir" := bareName_of_fieldNames _ (by decide)
      simp [pairs, bare, bareDirectory]
    obtain ⟨entries, reads, binds⟩ :=
      Toml.Document.read_bindingLines bareAll (by simp [pairs, new.symm])
    obtain ⟨strings, bound⟩ := bound_of_binds binds
    refine ⟨entries, reads, strings, fun other value => (bound other value).trans ?_⟩
    simp only [pairs, List.mem_cons, List.not_mem_nil, or_false, Prod.mk.injEq, String.toList_inj]
  constructor
  · have spelled : correct.toList = bindingLines (pairs "login") := by decide +kernel
    obtain ⟨entries, reads, strings, bound⟩ :=
      document "login" (bareName_of_fieldNames _ (by decide)) (by decide)
    rw [← spelled] at reads
    obtain ⟨succeeds, -, decodes, -⟩ := ofToml_strings reads strings
    have known (name value : String) (binds : Bound entries name value) :
        name ∈ ["ta_uuid", "login", "short_buffer_policy", "store_dir"] := by
      rcases (bound name value).mp binds with ⟨rfl, -⟩ | ⟨rfl, -⟩ <;> decide
    have acceptable : Acceptable (Bound entries) :=
      ⟨known, by simp [bound], by simp [bound], by simp [bound]⟩
    obtain ⟨settings, yields⟩ := succeeds.mpr acceptable
    have decoded := decodes settings yields
    rw [yields]
    refine congrArg Except.ok (Field.eq_of_same fun field => ?_)
    cases field with
    | service => exact decoded.standardService (by simp [bound])
    | login => simpa [Field.Same] using decoded.login "user" (by simp [bound])
    | policy => exact decoded.standardPolicy (by simp [bound])
    | storeDir => exact decoded.storeDir "/s" (by simp [bound])
  · have spelled : misspelled.toList = bindingLines (pairs "Login") := by decide +kernel
    obtain ⟨entries, reads, strings, bound⟩ :=
      document "Login" (by simp [BareName, Toml.Reader.isBare]) (by decide)
    rw [← spelled] at reads
    obtain ⟨-, fails, -, -⟩ := ofToml_strings reads strings
    apply fails
    intro acceptable
    have unknown := acceptable.known "Login" "user" ((bound "Login" "user").mpr (.inr ⟨rfl, rfl⟩))
    exact absurd unknown (by decide)

end Settings

end ObjectVault
