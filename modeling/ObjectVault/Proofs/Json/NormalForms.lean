import ObjectVault.Json.Forms
import ObjectVault.Proofs.Settings.Strings

/-!
# Normal forms in JSON

What is written in JSON is read back as the same value. The readers accept more than is written: an
identity in any of its spellings, a name with nothing as its content, settings with fields left out or
without names. So a value has several forms, and the written one is normal among them: what is
accepted has it, and is read from it again (`Faithful`). `faithful_forms` states this of every type
that has forms.

* `Origin.ofJson_json`, `Json.readNamed_name` and the like: a value is read from its form.
* `Settings.setFields_eq_ok_iff`: an object is read where its names are distinct and each of its fields
  can be set.
* `Settings.foldlM_setJson_fields`: fields are set to what has been written in them, and the others
  stay, so that settings are read from any of their fields.
* `Settings.textual_of_ofJson`: settings that are accepted can be written.
-/

namespace ObjectVault

/-! ### Forms that are read back -/

section Forms

variable {α : Type} {write : α → Option Json} {read : Json → Except FormError α}

/-- The form in which a value is written that is read from another form. -/
def normalForm? (write : α → Option Json) (read : Json → Except FormError α) (source : Json) :
    Option Json :=
  (read source).toOption.bind write

/-- A value is read from the form in which it is written. Whatever else it is read from has that form
as its normal one, and a normal form is its own. -/
structure Faithful (write : α → Option Json) (read : Json → Except FormError α) : Prop where
  readsBack : ∀ value form, write value = some form → read form = .ok value
  normalizes : ∀ source value, read source = .ok value →
    ∃ form, normalForm? write read source = some form ∧ read form = .ok value ∧
      normalForm? write read form = some form

theorem normalForm?_of_read {source form : Json} {value : α} (reads : read source = .ok value)
    (writes : write value = some form) : normalForm? write read source = some form := by
  rw [normalForm?, reads]
  exact writes

/-- To be faithful, it is enough to read back what is written and to be able to write what is read. -/
theorem Faithful.of_writable
    (readsBack : ∀ value form, write value = some form → read form = .ok value)
    (writable : ∀ source value, read source = .ok value → ∃ form, write value = some form) :
    Faithful write read where
  readsBack := readsBack
  normalizes source value reads := by
    obtain ⟨form, writes⟩ := writable source value reads
    have again := readsBack value form writes
    exact ⟨form, normalForm?_of_read reads writes, again, normalForm?_of_read again writes⟩

/-- Where everything can be written, it is enough to read back what is written. -/
theorem Faithful.of_total {write : α → Json} (readsBack : ∀ value, read (write value) = .ok value) :
    Faithful (fun value => some (write value)) read := by
  apply of_writable
  · rintro value form ⟨⟩
    exact readsBack value
  · intro source value reads
    exact ⟨write value, rfl⟩

end Forms

/-! ### Numbers and names -/

theorem Json.readWord_toNat (word : UInt32) : readWord (.integer word.toNat) = .ok word := by
  have inside : (0 : Int) ≤ word.toNat ∧ (word.toNat : Int) < UInt32.size :=
    ⟨Int.natCast_nonneg _, by exact_mod_cast word.toNat_lt_size⟩
  rw [readWord, if_pos inside, Int.toNat_natCast, UInt32.ofNat_toNat]

/-- A value is read by its name, where no two values have the same one. -/
theorem Json.readNamed_name {α : Type} {name : α → String} {values : List α}
    (distinct : ∀ {first second : α}, name first = name second → first = second) {value : α}
    (known : value ∈ values) : readNamed name values (.string (name value)) = .ok value := by
  simp only [readNamed, readVariant, find?_name distinct known]
  rfl

theorem Command.debug_injective {first second : Command} (same : first.debug = second.debug) :
    first = second := by
  cases first <;> cases second <;> first | rfl | exact absurd same (by decide)

theorem ObjectKey.ofJson_json (key : ObjectKey) : ofJson key.json = .ok key :=
  mapError_eq_ok_iff.mpr key.ofText_text

/-- An identity is read in all its spellings. -/
theorem ServiceId.ofJson_string {text : String} {id : ServiceId} (spells : ofText text = .ok id) :
    ofJson (.string text) = .ok id :=
  mapError_eq_ok_iff.mpr spells

theorem Status.ofJson_json (status : Status) : ofJson status.json = .ok status :=
  bind_eq_ok_iff.mpr ⟨status.code, Json.readWord_toNat status.code, rfl⟩

/-- An origin is read from its name, and one that is not known from the number beside it. -/
theorem Origin.ofJson_json (origin : Origin) : ofJson origin.json = .ok origin := by
  cases origin with
  | api => rfl
  | comms => rfl
  | tee => rfl
  | trustedApp => rfl
  | unknown number =>
      have listed : variantNames.find? (fun name => id name == "Unknown") = some "Unknown" :=
        find?_name id (by simp [variantNames])
      have variant (content : Json) :
          Json.readVariant id variantNames (.object [("Unknown", content)])
            = .ok ("Unknown", some content) := by
        simp only [Json.readVariant, listed]
      have numbered : ofVariantName? "Unknown" = none := by simp [ofVariantName?]
      refine bind_eq_ok_iff.mpr ⟨_, variant (.integer number.toNat), ?_⟩
      simp only [numbered]
      exact bind_eq_ok_iff.mpr ⟨number, Json.readWord_toNat number, rfl⟩

theorem Command.ofJson_json (command : Command) : ofJson command.json = .ok command :=
  Json.readNamed_name debug_injective command.mem_all

theorem Login.ofJson_json (login : Login) : ofJson login.json = .ok login :=
  Json.readNamed_name name_injective login.mem_all

theorem ShortReadPolicy.ofJson_json (policy : ShortReadPolicy) : ofJson policy.json = .ok policy :=
  Json.readNamed_name name_injective policy.mem_all

/-! ### Objects of distinct fields -/

namespace Settings

/-- The fields of an object can be put in place exactly if none of them has been seen, no two have the
same name, and each can be set. -/
theorem setFields_eq_ok_iff {start after : Settings} {seen : List String}
    {fields : List (String × Json)} :
    start.setFields seen fields = .ok after ↔
      (∀ field ∈ fields, field.1 ∉ seen) ∧ (fields.map Prod.fst).Nodup ∧
        fields.foldlM setJson start = .ok after := by
  induction fields generalizing seen start with
  | nil => simp [setFields, pure, Except.pure]
  | cons first rest ih =>
      by_cases given : first.1 ∈ seen
      · rw [setFields, if_pos given]
        exact ⟨nofun, fun fresh => absurd given (fresh.1 first List.mem_cons_self)⟩
      rw [setFields, if_neg given, List.foldlM_cons, bind_eq_ok_iff, bind_eq_ok_iff, List.map_cons,
        List.nodup_cons, List.forall_mem_cons]
      constructor
      · rintro ⟨middle, sets, later⟩
        obtain ⟨fresh, distinct, onward⟩ := ih.mp later
        refine ⟨⟨given, fun field member => mt (List.mem_cons_of_mem _) (fresh field member)⟩,
          ⟨fun again => ?_, distinct⟩, middle, sets, onward⟩
        obtain ⟨field, member, same⟩ := List.mem_map.mp again
        exact fresh field member (same ▸ List.mem_cons_self)
      · rintro ⟨⟨-, fresh⟩, ⟨alone, distinct⟩, middle, sets, onward⟩
        refine ⟨middle, sets, ih.mpr ⟨fun field member again => ?_, distinct, onward⟩⟩
        rcases List.mem_cons.mp again with same | earlier
        · exact alone (List.mem_map.mpr ⟨field, member, same⟩)
        · exact fresh field member earlier

/-- An object is read exactly if its names are distinct and each of its fields can be set. -/
theorem ofJson_object_eq_ok_iff {settings : Settings} {fields : List (String × Json)} :
    ofJson (.object fields) = .ok settings ↔
      (fields.map Prod.fst).Nodup ∧ fields.foldlM setJson standard = .ok settings :=
  setFields_eq_ok_iff.trans ⟨And.right, fun holds => ⟨fun _ _ => List.not_mem_nil, holds⟩⟩

/-! ### Settings that are written -/

/-- What is written in a field of settings whose directory is the given text. -/
def Field.json (settings : Settings) (directory : String) : Field → Json
  | .service => settings.service.json
  | .login => settings.login.json
  | .policy => settings.policy.json
  | .storeDir => .string directory

/-- The fields, in the order in which they are written. -/
def Field.all : List Field := [.service, .login, .policy, .storeDir]

theorem Field.mem_all (field : Field) : field ∈ all := by
  cases field <;> decide

theorem Field.nodup_all : all.Nodup := by
  simp [all]

/-- A field under its name, as it is written. -/
def written (settings : Settings) (directory : String) (field : Field) : String × Json :=
  (field.name, field.json settings directory)

section Written

variable {settings start after : Settings} {directory : String}

/-- Settings whose directory is text are written with all four fields. -/
theorem json?_eq (text : settings.storeDir = Utf8.ofText directory) :
    settings.json? = some (.object (Field.all.map (settings.written directory))) := by
  rw [json?, text, Utf8.text?_ofText]
  rfl

/-- Settings can be written only where their directory is text. -/
theorem json?_eq_some {form : Json} (writes : settings.json? = some form) :
    ∃ directory, settings.storeDir = Utf8.ofText directory ∧
      form = .object (Field.all.map (settings.written directory)) := by
  obtain ⟨directory, reads, -⟩ := Option.bind_eq_some_iff.mp writes
  have text := (Utf8.ofText_of_text? reads).symm
  exact ⟨directory, text, Option.some.inj (writes.symm.trans (json?_eq text))⟩

/-- A field is set to what has been written in it. -/
theorem setJson_written (text : settings.storeDir = Utf8.ofText directory) (field : Field) :
    start.setJson (settings.written directory field) = .ok (field.take settings start) := by
  cases field with
  | service =>
      have reads := ServiceId.ofJson_string settings.service.ofText_text
      simp only [written, setJson, Field.name, Field.json, ServiceId.json, reads]
      rfl
  | login =>
      simp only [written, setJson, Field.name, Field.json, settings.login.ofJson_json]
      rfl
  | policy =>
      simp only [written, setJson, Field.name, Field.json, settings.policy.ofJson_json]
      rfl
  | storeDir =>
      simp only [written, setJson, Field.name, Field.json, Field.take, text]
      rfl

/-- Fields are set to what has been written in them, and the others stay. -/
theorem foldlM_setJson_fields (text : settings.storeDir = Utf8.ofText directory)
    (fields : List Field) (start : Settings) :
    ∃ after, (fields.map (settings.written directory)).foldlM setJson start = .ok after ∧
      ∀ field : Field, (field ∈ fields → field.Same after settings) ∧
        (field ∉ fields → field.Same after start) := by
  induction fields generalizing start with
  | nil => exact ⟨start, rfl, fun field => ⟨nofun, fun _ => Field.Same.refl field⟩⟩
  | cons first rest ih =>
      obtain ⟨after, sets, holds⟩ := ih (first.take settings start)
      refine ⟨after, ?_, fun field => ⟨fun member => ?_, fun missing => ?_⟩⟩
      · rw [List.map_cons, List.foldlM_cons, setJson_written text first]
        exact sets
      · -- a field that is given twice is set again, to the same
        by_cases later : field ∈ rest
        · exact (holds field).1 later
        · obtain rfl : field = first := (List.mem_cons.mp member).resolve_right later
          exact ((holds field).2 later).trans (field.same_take settings start)
      · obtain ⟨other, later⟩ := not_or.mp (mt List.mem_cons.mpr missing)
        exact ((holds field).2 later).trans (Field.same_take_of_ne other settings start)

theorem names_written (fields : List Field) :
    (fields.map (settings.written directory)).map Prod.fst = fields.map Field.name := by
  rw [List.map_map]
  rfl

/-- Settings are read from any of their fields; in the others they are standard. -/
theorem ofJson_fields (text : settings.storeDir = Utf8.ofText directory) {fields : List Field}
    (distinct : fields.Nodup) :
    ∃ read, ofJson (.object (fields.map (settings.written directory))) = .ok read ∧
      ∀ field : Field, (field ∈ fields → field.Same read settings) ∧
        (field ∉ fields → field.Same read standard) := by
  obtain ⟨read, sets, holds⟩ := foldlM_setJson_fields text fields standard
  refine ⟨read, ofJson_object_eq_ok_iff.mpr ⟨?_, sets⟩, holds⟩
  rw [names_written]
  exact distinct.map fun _ _ => Field.name_injective

/-- A written field that has not been seen is put in place. -/
theorem setFields_written (text : settings.storeDir = Utf8.ofText directory) {field : Field}
    {seen : List String} (fresh : field.name ∉ seen) (rest : List (String × Json)) :
    start.setFields seen (settings.written directory field :: rest)
      = (field.take settings start).setFields (field.name :: seen) rest := by
  have unseen : (settings.written directory field).1 ∉ seen := fresh
  rw [setFields, if_neg unseen, setJson_written text field]
  rfl

/-- Of written fields, the first that has been seen or given before is refused, and nothing is read. -/
theorem setFields_of_repeated (text : settings.storeDir = Utf8.ofText directory)
    {fields : List Field} {seen : List String}
    (repeated : ¬ (fields.Nodup ∧ ∀ field ∈ fields, field.name ∉ seen)) :
    ∃ field ∈ fields, start.setFields seen (fields.map (settings.written directory))
      = .error (.duplicateField field.name) := by
  induction fields generalizing seen start with
  | nil => exact absurd ⟨List.nodup_nil, nofun⟩ repeated
  | cons first rest ih =>
      by_cases given : first.name ∈ seen
      · exact ⟨first, List.mem_cons_self, if_pos given⟩
      · have later : ¬ (rest.Nodup ∧ ∀ field ∈ rest, field.name ∉ first.name :: seen) := by
          rintro ⟨distinct, fresh⟩
          refine repeated ⟨List.nodup_cons.mpr ⟨fun member => ?_, distinct⟩, ?_⟩
          · exact fresh first member List.mem_cons_self
          · rintro field (_ | ⟨_, member⟩)
            · exact given
            · exact mt (List.mem_cons_of_mem _) (fresh field member)
        obtain ⟨field, member, refuses⟩ := ih later
        refine ⟨field, List.mem_cons_of_mem first member, ?_⟩
        rw [List.map_cons, setFields_written text given]
        exact refuses

/-- A field that is given twice is refused, whatever it is set to. -/
theorem ofJson_of_repeated (text : settings.storeDir = Utf8.ofText directory) {fields : List Field}
    (repeated : ¬ fields.Nodup) :
    ∃ field ∈ fields, ofJson (.object (fields.map (settings.written directory)))
      = .error (.duplicateField field.name) :=
  setFields_of_repeated text fun distinct => repeated distinct.1

/-- Settings are read from the form in which they are written. -/
theorem ofJson_of_json? {form : Json} (writes : settings.json? = some form) :
    ofJson form = .ok settings := by
  obtain ⟨directory, text, rfl⟩ := json?_eq_some writes
  obtain ⟨read, reads, holds⟩ := ofJson_fields text Field.nodup_all
  rw [reads, Field.eq_of_same fun field => (holds field).1 field.mem_all]

end Written

/-! ### Settings that are accepted -/

/-- The directory is text. -/
def Textual (settings : Settings) : Prop := ∃ directory, settings.storeDir = Utf8.ofText directory

section Accepted

variable {settings start after : Settings}

theorem textual_standard : standard.Textual := ⟨_, rfl⟩

/-- However a field is set, the directory stays as it is or becomes a text. -/
theorem Textual.of_setJson {field : String × Json} (textual : start.Textual)
    (sets : start.setJson field = .ok after) : after.Textual := by
  simp only [setJson] at sets
  split at sets
  · obtain ⟨service, -, ⟨⟩⟩ := bind_eq_ok_iff.mp sets
    exact textual
  · obtain ⟨login, -, ⟨⟩⟩ := bind_eq_ok_iff.mp sets
    exact textual
  · obtain ⟨policy, -, ⟨⟩⟩ := bind_eq_ok_iff.mp sets
    exact textual
  · obtain ⟨directory, -, ⟨⟩⟩ := bind_eq_ok_iff.mp sets
    exact ⟨directory, rfl⟩
  · cases sets

/-- However many fields are set, a directory that is text stays text. -/
theorem Textual.of_foldlM {fields : List (String × Json)} (textual : start.Textual)
    (sets : fields.foldlM setJson start = .ok after) : after.Textual := by
  induction fields generalizing start with
  | nil =>
      cases sets
      exact textual
  | cons field rest ih =>
      obtain ⟨middle, first, later⟩ := bind_eq_ok_iff.mp sets
      exact ih (textual.of_setJson first) later

/-- Settings that are accepted can be written. -/
theorem textual_of_ofJson {source : Json} (reads : ofJson source = .ok settings) :
    settings.Textual := by
  unfold ofJson at reads
  split at reads
  · exact textual_standard.of_foldlM (ofJson_object_eq_ok_iff.mp reads).2
  · obtain ⟨found, sets, checks⟩ := bind_eq_ok_iff.mp reads
    split at checks
    · cases checks
    · cases checks
      exact textual_standard.of_foldlM sets
  · cases reads

end Accepted

end Settings

/-! ### All types -/

/-- The forms of all types are faithful. Everything can be written, settings where their directory is
text. An identity is read in all its spellings. Settings are read from any of their fields, being
standard in the others; an object that names a field twice is refused. -/
theorem faithful_forms :
    Faithful (fun key => some (ObjectKey.json key)) ObjectKey.ofJson ∧
    Faithful (fun id => some (ServiceId.json id)) ServiceId.ofJson ∧
    Faithful (fun status => some (Status.json status)) Status.ofJson ∧
    Faithful (fun origin => some (Origin.json origin)) Origin.ofJson ∧
    Faithful (fun login => some (Login.json login)) Login.ofJson ∧
    Faithful (fun command => some (Command.json command)) Command.ofJson ∧
    Faithful (fun policy => some (ShortReadPolicy.json policy)) ShortReadPolicy.ofJson ∧
    Faithful Settings.json? Settings.ofJson ∧
    (∀ settings : Settings, (∃ form, settings.json? = some form) ↔
      ∃ directory, settings.storeDir = Utf8.ofText directory) ∧
    (∀ text id, ServiceId.ofText text = .ok id → ServiceId.ofJson (.string text) = .ok id) ∧
    (∀ fields settings, Settings.ofJson (.object fields) = .ok settings →
      (fields.map Prod.fst).Nodup) ∧
    ∀ (settings : Settings) (directory : String), settings.storeDir = Utf8.ofText directory →
      ∀ fields : List Settings.Field,
        (fields.Nodup →
          ∃ read, Settings.ofJson (.object (fields.map (settings.written directory))) = .ok read ∧
            ∀ field : Settings.Field, (field ∈ fields → field.Same read settings) ∧
              (field ∉ fields → field.Same read .standard)) ∧
        (¬ fields.Nodup → ∃ field ∈ fields,
          Settings.ofJson (.object (fields.map (settings.written directory)))
            = .error (.duplicateField field.name)) := by
  refine ⟨.of_total ObjectKey.ofJson_json,
    .of_total fun id => ServiceId.ofJson_string id.ofText_text, .of_total Status.ofJson_json,
    .of_total Origin.ofJson_json, .of_total Login.ofJson_json, .of_total Command.ofJson_json,
    .of_total ShortReadPolicy.ofJson_json, .of_writable ?_ ?_, ?_,
    fun _ _ spells => ServiceId.ofJson_string spells,
    fun _ _ reads => (Settings.ofJson_object_eq_ok_iff.mp reads).1,
    fun _ _ text _ => ⟨Settings.ofJson_fields text, Settings.ofJson_of_repeated text⟩⟩
  · intro settings form writes
    exact Settings.ofJson_of_json? writes
  · intro source settings reads
    obtain ⟨directory, text⟩ := Settings.textual_of_ofJson reads
    exact ⟨_, Settings.json?_eq text⟩
  · intro settings
    constructor
    · rintro ⟨form, writes⟩
      obtain ⟨directory, text, -⟩ := Settings.json?_eq_some writes
      exact ⟨directory, text⟩
    · rintro ⟨directory, text⟩
      exact ⟨_, Settings.json?_eq text⟩

end ObjectVault
