import ObjectVault.Proofs.Text.Identities
import ObjectVault.Proofs.Text.Utf8
import ObjectVault.Proofs.Toml.Bindings

/-!
# Settings read back

Settings are written wherever their directory is text, and what has been written is read back as the
same settings, whatever text the directory is (`ofToml_toToml`).
-/

namespace ObjectVault

/-! ### Names -/

/-- Logins are told apart by their names. -/
theorem Login.name_injective {first second : Login} (same : first.name = second.name) :
    first = second := by
  cases first <;> cases second <;> first | rfl | exact absurd same (by decide)

theorem ShortReadPolicy.name_injective {first second : ShortReadPolicy}
    (same : first.name = second.name) : first = second := by
  cases first <;> cases second <;> first | rfl | exact absurd same (by decide)

section Names

variable {α : Type} {name : α → String} {values : List α}

/-- A value is found by its name, where no two values have the same one. -/
theorem find?_name (distinct : ∀ {first second : α}, name first = name second → first = second)
    {value : α} (known : value ∈ values) :
    values.find? (fun other => name other == name value) = some value := by
  cases found : values.find? fun other => name other == name value with
  | none =>
      have missed := List.find?_eq_none.mp found value known
      simp at missed
  | some other =>
      have named := List.find?_some found
      exact congrArg some (distinct (by simpa using named))

end Names

namespace Toml.Value

/-- A value is read by its name, where no two values have the same one. -/
theorem readNamed_name {α : Type} {name : α → String} {values : List α}
    (distinct : ∀ {first second : α}, name first = name second → first = second) {value : α}
    (known : value ∈ values) : (string (name value)).readNamed name values = .ok value := by
  rw [readNamed, readName, find?_name distinct known]
  rfl

theorem readServiceId_text (service : ServiceId) :
    (string service.text).readServiceId = .ok service := by
  simp only [readServiceId, items?, readText, Except.mapError, Except.bind, bind,
    service.ofText_text]

end Toml.Value

namespace Settings

open Toml (BareName Entry Value bindingLines)

/-- The names and the texts of settings whose directory is the given text. -/
def pairs (settings : Settings) (directory : List Char) : List (String × List Char) :=
  [("ta_uuid", settings.service.text.toList), ("login", settings.login.name.toList),
    ("short_buffer_policy", settings.policy.name.toList), ("store_dir", directory)]

/-- No field needs quotes around its name. -/
theorem bareName_of_fieldNames : ∀ name ∈ fieldNames, BareName name := by
  simp [fieldNames, BareName, Toml.Reader.isBare]

/-- Settings with a directory that is text are written as four bindings. -/
theorem toToml?_eq (settings : Settings) {directory : String}
    (text : settings.storeDir = Utf8.ofText directory) :
    settings.toToml? = some (String.ofList (bindingLines (settings.pairs directory.toList))) := by
  rw [toToml?, text, Utf8.ofText, Utf8.decode?_encode]
  simp [bindingLines, pairs]

/-! ### Entries -/

section Entries

variable {settings : Settings} {entry : Entry Value}

/-- An entry that binds the field of the service to an identity sets it. -/
theorem setToml_service {service : ServiceId} (binds : entry.Binds "ta_uuid" service.text.toList) :
    setToml settings entry = .ok { settings with service } := by
  obtain ⟨named, holds⟩ := binds
  rw [String.ofList_toList] at holds
  simp only [setToml, named, holds, Value.readServiceId_text]
  rfl

theorem setToml_login {login : Login} (binds : entry.Binds "login" login.name.toList) :
    setToml settings entry = .ok { settings with login } := by
  obtain ⟨named, holds⟩ := binds
  rw [String.ofList_toList] at holds
  have read := Value.readNamed_name Login.name_injective login.mem_all
  simp only [setToml, named, holds, read]
  rfl

theorem setToml_policy {policy : ShortReadPolicy}
    (binds : entry.Binds "short_buffer_policy" policy.name.toList) :
    setToml settings entry = .ok { settings with policy } := by
  obtain ⟨named, holds⟩ := binds
  rw [String.ofList_toList] at holds
  have read := Value.readNamed_name ShortReadPolicy.name_injective policy.mem_all
  simp only [setToml, named, holds, read]
  rfl

theorem setToml_storeDir {directory : String} (binds : entry.Binds "store_dir" directory.toList) :
    setToml settings entry = .ok { settings with storeDir := Utf8.ofText directory } := by
  obtain ⟨named, holds⟩ := binds
  rw [String.ofList_toList] at holds
  simp only [setToml, named, holds]
  rfl

/-- Where a field can be set, no error is made of its entry. -/
theorem setEntry_of_setToml {text : List Char} {after : Settings}
    (sets : setToml settings entry = .ok after) : setEntry text settings entry = .ok after := by
  rw [setEntry, sets]
  rfl

end Entries

/-! ### Settings -/

/-- Settings whose directory is a text can be written, whatever else they are, and are the same when
they are read back. -/
theorem ofToml_toToml (service : ServiceId) (login : Login) (policy : ShortReadPolicy)
    (directory : String) :
    let settings : Settings := ⟨service, login, policy, Utf8.ofText directory⟩
    ∃ text, settings.toToml? = some text ∧ ofToml text = .ok settings := by
  intro settings
  have named : (settings.pairs directory.toList).map Prod.fst = fieldNames := rfl
  have bare : ∀ pair ∈ settings.pairs directory.toList, BareName pair.1 := by
    intro pair member
    have among : pair.1 ∈ fieldNames := by
      rw [← named]
      exact List.mem_map_of_mem member
    exact bareName_of_fieldNames pair.1 among
  have distinct : ((settings.pairs directory.toList).map Prod.fst).Nodup := by
    rw [named]
    decide
  obtain ⟨entries, read, binds⟩ := Toml.Document.read_bindingLines bare distinct
  refine ⟨_, settings.toToml?_eq rfl, ?_⟩
  rw [ofToml, String.toList_ofList, read]
  obtain _ | ⟨bindsService, _ | ⟨bindsLogin, _ | ⟨bindsPolicy, _ | ⟨bindsDirectory, ⟨⟩⟩⟩⟩⟩ := binds
  simp only [List.foldlM_cons, setEntry_of_setToml (setToml_service bindsService),
    setEntry_of_setToml (setToml_login bindsLogin), setEntry_of_setToml (setToml_policy bindsPolicy),
    setEntry_of_setToml (setToml_storeDir bindsDirectory)]
  rfl

end Settings

end ObjectVault
