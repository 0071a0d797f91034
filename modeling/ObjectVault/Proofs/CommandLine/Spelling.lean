import Mathlib.Data.List.Nodup
import ObjectVault.CommandLine.Parser
import ObjectVault.Proofs.Text.Utf8

/-!
# Command lines read back

Arguments that can be spelled at all are read back from their words, whatever stands in keys, data and
paths (`parse_words`). In which order the options come, and on which side of the name of the request,
makes no difference.

* `ofWord_optionWord`: the first equals sign ends the name of an option, so its value may hold others.
* `Gathers`: what a part has found is a list of settings, and nothing else. A setting of a new kind is
  added to it (`Gathers.put`), and so a whole list of them is (`gathers_settings`).
* `readPart_operands`: behind `--` nothing is an option any more.
-/

namespace ObjectVault.CommandLine

/-! ### The shapes of words -/

theorem optionWord_eq (name : String) (value : Bytes) :
    Arguments.optionWord name value
      = hyphen :: hyphen :: (Utf8.ofText name ++ equalsSign :: value) := by
  rw [Arguments.optionWord, Utf8.ofText, String.toList_append, String.toList_append,
    Utf8.encode_append, Utf8.encode_append, List.append_assoc, List.append_assoc]
  rfl

/-- An option word is the name of the option and its value, whatever bytes the value holds. -/
theorem Shape.ofWord_optionWord {name : String} (plain : equalsSign ∉ Utf8.ofText name)
    (value : Bytes) :
    Shape.ofWord (Arguments.optionWord name value) = .long (Utf8.ofText name) (some value) := by
  have before : ∀ b ∈ Utf8.ofText name, decide (b ≠ equalsSign) = true := by
    intro b member
    exact decide_eq_true fun same => plain (same ▸ member)
  have behind : Utf8.ofText name ++ equalsSign :: value ≠ [] := by simp
  rw [optionWord_eq, ofWord, if_neg (by simp), if_neg (by simp), if_neg behind, ofLong,
    List.dropWhile_append_of_pos before, List.takeWhile_append_of_pos before,
    List.dropWhile_cons_of_neg (by simp), List.takeWhile_cons_of_neg (by simp), List.append_nil]

theorem Shape.ofWord_of_verb {word : Bytes} {verb : Verb} (names : Verb.ofWord? word = some verb) :
    Shape.ofWord word = .plain := by
  have found := List.find?_some names
  simp only [Bool.or_eq_true, decide_eq_true_eq] at found
  cases verb <;> rcases found with rfl | rfl <;> decide

/-- A verb is read from both of its spellings. -/
theorem Verb.ofWord?_verbWord (legacy : Bool) (verb : Verb) :
    Verb.ofWord? (Arguments.verbWord legacy verb) = some verb := by
  cases legacy <;> cases verb <;> decide

/-! ### Settings -/

/-- What one option says. -/
inductive Setting where
  | verbose
  | config (path : Bytes)
  | storeDir (path : Bytes)
  | file (path : Bytes)
  deriving DecidableEq

namespace Setting

def word : Setting → Bytes
  | .verbose => Utf8.ofText "-v"
  | .config path => Arguments.optionWord "config" path
  | .storeDir path => Arguments.optionWord "store-dir" path
  | .file path => Arguments.optionWord "file" path

/-- What a setting gives a value to. Two settings that say the same about it exclude each other. -/
def kind : Setting → Option Operand
  | .verbose => none
  | .config _ => some .config
  | .storeDir _ => some .storeDir
  | .file _ => some .file

/-- A path names something. -/
def Proper : Setting → Prop
  | .verbose => True
  | .config path | .storeDir path | .file path => path ≠ []

/-- Only a request to put takes a file. -/
def Fits (level : Level) : Setting → Prop
  | .file _ => level = .verb .put
  | .verbose | .config _ | .storeDir _ => True

end Setting

namespace Arguments

/-- The settings that go with every request. -/
def sharedSettings (arguments : Arguments) : List Setting :=
  (if arguments.verbose then [.verbose] else []) ++ (arguments.config.map .config).toList
    ++ (arguments.storeDir.map .storeDir).toList

/-- The setting that only a request to put has. -/
def fileSettings (arguments : Arguments) : List Setting :=
  (arguments.request.sourcePath.map .file).toList

def allSettings (arguments : Arguments) : List Setting :=
  arguments.sharedSettings ++ arguments.fileSettings

theorem sharedWords_eq (arguments : Arguments) :
    arguments.sharedWords = arguments.sharedSettings.map Setting.word := by
  obtain ⟨request, verbose, config, storeDir⟩ := arguments
  cases verbose <;> cases config <;> cases storeDir <;> rfl

theorem fileWords_eq (arguments : Arguments) :
    arguments.fileWords = arguments.fileSettings.map Setting.word := by
  rw [fileWords, fileSettings]
  cases arguments.request.sourcePath <;> rfl

/-- No two settings are of one kind. -/
theorem nodup_kinds (arguments : Arguments) : (arguments.allSettings.map Setting.kind).Nodup := by
  rw [allSettings, sharedSettings, fileSettings]
  cases arguments.verbose <;> cases arguments.config <;> cases arguments.storeDir <;>
    cases arguments.request.sourcePath <;> simp [Setting.kind]

end Arguments

/-! ### What settings leave -/

namespace Found

def Holds (found : Found) : Setting → Prop
  | .verbose => found.verbose = true
  | .config path => found.config = some path
  | .storeDir path => found.storeDir = some path
  | .file path => found.file = some path

def put (found : Found) : Setting → Found
  | .verbose => { found with verbose := true }
  | .config path => { found with config := some path }
  | .storeDir path => { found with storeDir := some path }
  | .file path => { found with file := some path }

/-- Nothing of the kind of a setting has been found. -/
def Lacks (found : Found) (setting : Setting) : Prop :=
  ∀ other : Setting, other.kind = setting.kind → ¬ found.Holds other

/-- The settings have been found, and nothing else. -/
structure Gathers (found : Found) (settings : List Setting) : Prop where
  holds : ∀ setting, found.Holds setting ↔ setting ∈ settings
  key : found.key = none
  data : found.data = none
  placed : found.placed = 0
  pending : found.pending = none

variable {found : Found} {setting : Setting} {settings : List Setting}

theorem Lacks.verbose (lacks : found.Lacks .verbose) : found.verbose = false :=
  Bool.eq_false_iff.mpr (lacks .verbose rfl)

theorem Lacks.config {path : Bytes} (lacks : found.Lacks (.config path)) : found.config = none :=
  Option.eq_none_iff_forall_ne_some.mpr fun other => lacks (.config other) rfl

theorem Lacks.storeDir {path : Bytes} (lacks : found.Lacks (.storeDir path)) :
    found.storeDir = none :=
  Option.eq_none_iff_forall_ne_some.mpr fun other => lacks (.storeDir other) rfl

theorem Lacks.file {path : Bytes} (lacks : found.Lacks (.file path)) : found.file = none :=
  Option.eq_none_iff_forall_ne_some.mpr fun other => lacks (.file other) rfl

/-- A setting that is put in place is found from then on, and all others as before. -/
theorem holds_put (lacks : found.Lacks setting) (other : Setting) :
    (found.put setting).Holds other ↔ found.Holds other ∨ other = setting := by
  cases setting with
  | verbose => cases other <;> simp [put, Holds, lacks.verbose]
  | config path =>
      cases other <;> simp [put, Holds, lacks.config]
      exact eq_comm
  | storeDir path =>
      cases other <;> simp [put, Holds, lacks.storeDir]
      exact eq_comm
  | file path =>
      cases other <;> simp [put, Holds, lacks.file]
      exact eq_comm

theorem gathers_nothing : nothing.Gathers [] := by
  refine ⟨fun setting => ?_, rfl, rfl, rfl, rfl⟩
  cases setting <;> simp [Holds, nothing]

/-- A setting of a new kind is lacking among those that have been gathered. -/
theorem Gathers.lacks (gathers : found.Gathers settings)
    (new : setting.kind ∉ settings.map Setting.kind) : found.Lacks setting := by
  intro other same there
  exact new (List.mem_map.mpr ⟨other, (gathers.holds other).mp there, same⟩)

/-- One that is lacking can be gathered as well. -/
theorem Gathers.put (gathers : found.Gathers settings) (lacks : found.Lacks setting) :
    (found.put setting).Gathers (settings ++ [setting]) := by
  refine ⟨fun other => ?_, ?_, ?_, ?_, ?_⟩
  · rw [holds_put lacks, gathers.holds, List.mem_append, List.mem_singleton]
  · cases setting <;> exact gathers.key
  · cases setting <;> exact gathers.data
  · cases setting <;> exact gathers.placed
  · cases setting <;> exact gathers.pending

end Found

/-! ### Reading words -/

section Reading

variable {level : Level} {found : Found} {word : Bytes} {rest : List Bytes}

/-- A word with a hyphen in front is neither a call for help nor the name of a request. -/
theorem unnamed_of_hyphen (shaped : Shape.ofWord word ≠ .plain) :
    word ≠ Found.helpWord ∧ Verb.ofWord? word = none := by
  constructor
  · rintro rfl
    exact shaped (by decide)
  · cases names : Verb.ofWord? word with
    | none => rfl
    | some verb => exact absurd (Shape.ofWord_of_verb names) shaped

/-- Behind the separator, words are operands. -/
theorem readPart_of_escape (shape : Shape.ofWord word = .escape) :
    readPart level false found (word :: rest) = readPart level true found rest := by
  obtain ⟨noHelp, noVerb⟩ := unnamed_of_hyphen (by rw [shape]; nofun)
  rw [readPart]
  simp only [Bool.false_eq_true, if_false, noHelp, and_false, noVerb, ite_self, shape]

/-- A word behind two hyphens is taken as an option, and reading goes on. -/
theorem readPart_of_long {name : Bytes} {value : Option Bytes}
    (shape : Shape.ofWord word = .long name value) :
    readPart level false found (word :: rest)
      = (do readPart level false (← found.takeOption level name value) rest) := by
  obtain ⟨noHelp, noVerb⟩ := unnamed_of_hyphen (by rw [shape]; nofun)
  rw [readPart]
  simp only [Bool.false_eq_true, if_false, noHelp, and_false, noVerb, ite_self, shape]

theorem readPart_of_letters {letters : Bytes} (shape : Shape.ofWord word = .letters letters) :
    readPart level false found (word :: rest)
      = (do readPart level false (← found.takeLetters level letters) rest) := by
  obtain ⟨noHelp, noVerb⟩ := unnamed_of_hyphen (by rw [shape]; nofun)
  rw [readPart]
  simp only [Bool.false_eq_true, if_false, noHelp, and_false, noVerb, ite_self, shape]

/-- At the top, the name of a request ends the part. -/
theorem readPart_of_verb {verb : Verb} (idle : found.awaited? = none)
    (names : Verb.ofWord? word = some verb) :
    readPart .top false found (word :: rest) = .ok (found, some (verb, rest)) := by
  have noHelp : word ≠ Found.helpWord := by
    rintro rfl
    have unnamed : Verb.ofWord? Found.helpWord = none := by decide
    rw [unnamed] at names
    cases names
  rw [readPart]
  simp only [Bool.false_eq_true, if_false, idle, noHelp, and_false, and_self, if_true, names]

end Reading

/-! ### Reading settings -/

section Settings

variable {level : Level} {found : Found} {setting : Setting} {settings before : List Setting}

theorem Found.settle_of_free (free : found.pending = none) : found.settle = .ok found := by
  rw [settle, free]

theorem Found.awaited?_of_free (free : found.pending = none) : found.awaited? = none := by
  rw [awaited?, free]

/-- An option with its value is put in place at once. -/
theorem Found.takeOption_of_value {name : String} {operand : Operand} {value : Bytes}
    (free : found.pending = none) (noFlag : level.flag? name = none)
    (option : level.option? name = some operand) :
    found.takeOption level (Utf8.ofText name) (some value)
      = ({ found with pending := none }.store operand value) := by
  simp only [takeOption, Utf8.text?_ofText, noFlag, option, await, settle_of_free free]
  rfl

/-- The flag for more events is taken, if it has not been given before. -/
theorem Found.takeFlag_verbose (free : found.pending = none) (quiet : found.verbose = false) :
    found.takeFlag level .verbose = .ok { found with verbose := true } := by
  simp only [takeFlag, settle_of_free free, bind, Except.bind, quiet, Bool.false_eq_true, if_false]
  rfl

theorem Found.takeLetters_verbose (free : found.pending = none) (quiet : found.verbose = false) :
    found.takeLetters level (Utf8.ofText "v") = .ok { found with verbose := true } := by
  have letter : Utf8.pieces (Utf8.ofText "v") = [.char 'v'] := Utf8.pieces_encode ['v']
  have flag : (Utf8.Piece.char 'v').char?.bind level.flagOfLetter? = some .verbose := rfl
  simp only [takeLetters, letter, List.foldlM_cons, flag, takeFlag_verbose free quiet]
  rfl

theorem Found.checkPath_of_new {path : Bytes} (proper : path ≠ []) :
    checkPath none path = .ok path := by
  rw [checkPath, if_neg (by simp), if_neg proper]

/-- A setting of a new kind is found where its word is read. -/
theorem readPart_setting (free : found.pending = none) (lacks : found.Lacks setting)
    (proper : setting.Proper) (fits : setting.Fits level) (rest : List Bytes) :
    readPart level false found (setting.word :: rest)
      = readPart level false (found.put setting) rest := by
  cases setting with
  | verbose =>
      have shape : Shape.ofWord (Setting.word .verbose) = .letters (Utf8.ofText "v") := by decide
      rw [readPart_of_letters shape, Found.takeLetters_verbose free lacks.verbose]
      rfl
  | config path =>
      rw [Setting.word, readPart_of_long (Shape.ofWord_optionWord (by decide) path),
        Found.takeOption_of_value free rfl rfl]
      simp only [Found.store, lacks.config, Found.checkPath_of_new proper, ← free]
      rfl
  | storeDir path =>
      rw [Setting.word, readPart_of_long (Shape.ofWord_optionWord (by decide) path),
        Found.takeOption_of_value free rfl rfl]
      simp only [Found.store, lacks.storeDir, Found.checkPath_of_new proper, ← free]
      rfl
  | file path =>
      obtain rfl : level = .verb .put := fits
      rw [Setting.word, readPart_of_long (Shape.ofWord_optionWord (by decide) path),
        Found.takeOption_of_value free rfl rfl]
      simp only [Found.store, lacks.file, Found.checkPath_of_new proper, ← free]
      rfl

/-- Settings of different kinds are read one after the other. -/
theorem gathers_settings (gathers : found.Gathers before)
    (distinct : ((before ++ settings).map Setting.kind).Nodup)
    (proper : ∀ setting ∈ settings, setting.Proper)
    (fits : ∀ setting ∈ settings, setting.Fits level) (rest : List Bytes) :
    ∃ after : Found, after.Gathers (before ++ settings) ∧
      readPart level false found (settings.map Setting.word ++ rest)
        = readPart level false after rest := by
  induction settings generalizing found before with
  | nil => exact ⟨found, by rwa [List.append_nil], rfl⟩
  | cons setting others ih =>
      rw [List.append_cons] at distinct
      have new : setting.kind ∉ before.map Setting.kind := by
        rw [List.map_append, List.map_append, List.append_assoc] at distinct
        intro known
        exact (List.disjoint_of_nodup_append distinct) known (by simp)
      have lacks := gathers.lacks new
      obtain ⟨after, gathersAll, reads⟩ := ih (gathers.put lacks) distinct
        (fun other member => proper other (List.mem_cons_of_mem setting member))
        (fun other member => fits other (List.mem_cons_of_mem setting member))
      refine ⟨after, by rwa [List.append_cons], ?_⟩
      rw [List.map_cons, List.cons_append, ← reads]
      exact readPart_setting gathers.pending lacks (proper setting List.mem_cons_self)
        (fits setting List.mem_cons_self) _

end Settings

/-! ### Reading operands -/

section Operands

variable {level : Level} {found settled : Found} {settings : List Setting} {word : Bytes}

/-- Behind `--` every word is an operand. -/
theorem readPart_of_escaped (level : Level) (found : Found) (word : Bytes) (rest : List Bytes) :
    readPart level true found (word :: rest)
      = (do readPart level true (← found.takePlace level true word) rest) := by
  rw [readPart]
  rfl

/-- A word is taken as the next operand, whatever it looks like behind the separator. -/
theorem Found.takePlace_of_place {operand : Operand} (settles : found.settle = .ok settled)
    (place : level.places[found.placed]? = some operand) (escaped : Bool) (word : Bytes) :
    found.takePlace level escaped word
      = .ok { settled with pending := some (operand, some word), placed := found.placed + 1 } := by
  simp only [takePlace, place, await, settles]
  rfl

theorem Found.settle_of_key {key : String}
    (pending : found.pending = some (.key, some (Utf8.ofText key))) :
    found.settle = .ok { found with pending := none, key := some key } := by
  simp only [settle, pending, store, Utf8.text?_ofText]

theorem Found.settle_of_data {data : Bytes} (pending : found.pending = some (.data, some data)) :
    found.settle = .ok { found with pending := none, data := some data } := by
  simp only [settle, pending, store]

/-- What stands behind all options is the key, and perhaps data. -/
theorem readPart_operands (arguments : Arguments) (gathers : found.Gathers settings) :
    ∃ last, readPart (.verb arguments.request.verb) false found arguments.operandWords
        = .ok (last, none) ∧
      last.settle = .ok { found with
        key := some arguments.request.key
        data := arguments.request.sourceData
        placed := last.placed } := by
  let request := arguments.request
  let keyed : Found :=
    { found with pending := some (.key, some (Utf8.ofText request.key)), placed := 1 }
  have settlesKey : keyed.settle = .ok { keyed with pending := none, key := some request.key } :=
    Found.settle_of_key rfl
  have readsKey (rest : List Bytes) :
      readPart (.verb request.verb) false found
          (Utf8.ofText "--" :: Utf8.ofText request.key :: rest)
        = readPart (.verb request.verb) true keyed rest := by
    have escape : Shape.ofWord (Utf8.ofText "--") = .escape := by decide
    have place : (Level.verb request.verb).places[found.placed]? = some .key := by
      rw [gathers.placed]
      cases request <;> rfl
    rw [readPart_of_escape escape, readPart_of_escaped,
      Found.takePlace_of_place (Found.settle_of_free gathers.pending) place, gathers.placed]
    rfl
  rw [Arguments.operandWords, readsKey]
  cases given : request.sourceData with
  | none =>
      refine ⟨keyed, rfl, ?_⟩
      rw [settlesKey]
      simp only [keyed, gathers.data, gathers.pending]
      rfl
  | some data =>
      have place : (Level.verb request.verb).places[keyed.placed]? = some .data := by
        cases named : request with
        | put key source => rfl
        | get key | delete key =>
            rw [named] at given
            cases given
      let last : Found :=
        { found with key := some request.key, pending := some (.data, some data), placed := 2 }
      refine ⟨last, ?_, ?_⟩
      · rw [Option.toList_some, readPart_of_escaped, Found.takePlace_of_place settlesKey place]
        rfl
      · rw [Found.settle_of_data rfl]
        simp only [last, gathers.pending]
        rfl

/-- What has been found is the request, if a request to put has one source. -/
theorem request_of_found {request : Request} (key : found.key = some request.key)
    (data : found.data = request.sourceData) (file : found.file = request.sourcePath)
    (single : ∀ key source, request = .put key source →
      (source.data.isSome ↔ source.path = none)) :
    found.request request.verb = .ok request := by
  cases request with
  | put keyText source =>
      have one := single keyText source rfl
      obtain ⟨given, path⟩ := source
      have sources : found.source = .ok ⟨given, path⟩ := by
        rw [Found.source, data, file]
        cases given with
        | none =>
            cases path with
            | none => simp at one
            | some path => rfl
        | some given =>
            cases path with
            | none => rfl
            | some path => simp at one
      simp only [Request.verb, Found.request, sources, key]
      rfl
  | get keyText | delete keyText =>
      simp only [Request.verb, Found.request, key]
      rfl

end Operands

/-! ### The whole -/

/-- Arguments that a command line can ask for: no path is empty, and a request to put has one source
for its contents. -/
structure Arguments.Spellable (arguments : Arguments) : Prop where
  config : arguments.config ≠ some []
  storeDir : arguments.storeDir ≠ some []
  sourcePath : arguments.request.sourcePath ≠ some []
  single : ∀ key source, arguments.request = .put key source →
    (source.data.isSome ↔ source.path = none)

namespace Arguments

variable {arguments : Arguments}

/-- A setting is what the arguments ask for. -/
def Holds (arguments : Arguments) : Setting → Prop
  | .verbose => arguments.verbose = true
  | .config path => arguments.config = some path
  | .storeDir path => arguments.storeDir = some path
  | .file path => arguments.request.sourcePath = some path

/-- The settings in the words are those that the arguments ask for. -/
theorem mem_allSettings (arguments : Arguments) (setting : Setting) :
    setting ∈ arguments.allSettings ↔ arguments.Holds setting := by
  rw [allSettings, sharedSettings, fileSettings]
  cases setting <;> simp [Holds]

/-- What can be spelled has no empty paths. -/
theorem Spellable.proper (spellable : arguments.Spellable) :
    ∀ setting ∈ arguments.allSettings, setting.Proper := by
  intro setting member
  rw [mem_allSettings] at member
  cases setting with
  | verbose => trivial
  | config path =>
      rintro rfl
      exact spellable.config member
  | storeDir path =>
      rintro rfl
      exact spellable.storeDir member
  | file path =>
      rintro rfl
      exact spellable.sourcePath member

/-- Only a request to put asks for a file. -/
theorem fits_of_holds {setting : Setting} (holds : arguments.Holds setting) :
    setting.Fits (.verb arguments.request.verb) := by
  cases setting with
  | file path =>
      cases named : arguments.request with
      | put key source => rfl
      | get key | delete key =>
          rw [Holds, named] at holds
          cases holds
  | verbose | config path | storeDir path => trivial

/-- Of two values that agree with a third where they are there, the first that is there is the third. -/
theorem or_eq_of_iff {inner top whole : Option Bytes}
    (same : ∀ path, top = some path ∨ inner = some path ↔ whole = some path) :
    inner.or top = whole := by
  cases inner with
  | none =>
      apply Option.ext
      intro path
      simpa using same path
  | some path => exact ((same path).mp (.inr rfl)).symm

/-- Two parts that have found all settings together, and then operands, come to the arguments. -/
theorem parse_of_parts {words rest : List Bytes} {top inner : Found} {front behind : List Setting}
    (spellable : arguments.Spellable) (gathersTop : top.Gathers front)
    (gathersInner : inner.Gathers behind) (fileless : ∀ path, .file path ∉ front)
    (holds : ∀ setting, setting ∈ front ∨ setting ∈ behind ↔ arguments.Holds setting)
    (readsTop : readPart .top false .nothing words
      = .ok (top, some (arguments.request.verb, rest)))
    (readsInner : readPart (.verb arguments.request.verb) false .nothing rest
      = readPart (.verb arguments.request.verb) false inner arguments.operandWords) :
    parse words = .ok arguments := by
  have found (setting : Setting) :
      top.Holds setting ∨ inner.Holds setting ↔ arguments.Holds setting := by
    rw [gathersTop.holds, gathersInner.holds, holds]
  have verbose : (top.verbose || inner.verbose) = arguments.verbose := by
    rw [Bool.eq_iff_iff, Bool.or_eq_true]
    exact found .verbose
  have config : inner.config.or top.config = arguments.config :=
    or_eq_of_iff fun path => found (.config path)
  have storeDir : inner.storeDir.or top.storeDir = arguments.storeDir :=
    or_eq_of_iff fun path => found (.storeDir path)
  have file : inner.file = arguments.request.sourcePath := by
    apply Option.ext
    intro path
    have only := holds (.file path)
    rw [or_iff_right (fileless path)] at only
    exact (gathersInner.holds (.file path)).trans only
  obtain ⟨last, readsLast, settles⟩ := readPart_operands arguments gathersInner
  let final : Found := { inner with
    key := some arguments.request.key
    data := arguments.request.sourceData
    placed := last.placed }
  have request : final.request arguments.request.verb = .ok arguments.request :=
    request_of_found rfl rfl file spellable.single
  rw [parse, readsTop]
  simp only [bind, Except.bind, readsInner, readsLast, settles,
    Found.settle_of_free gathersTop.pending]
  rw [request]
  simp only [verbose, config, storeDir]
  rfl

/-- A command line with all settings on it, in any order and on either side of the name of the request,
is read as the arguments. -/
theorem parse_spread (spellable : arguments.Spellable) (legacy : Bool) {front behind : List Setting}
    (spread : (front ++ behind).Perm arguments.allSettings)
    (fileless : ∀ path, .file path ∉ front) :
    parse (front.map Setting.word
        ++ verbWord legacy arguments.request.verb
          :: (behind.map Setting.word ++ arguments.operandWords))
      = .ok arguments := by
  have holds (setting : Setting) :
      setting ∈ front ∨ setting ∈ behind ↔ arguments.Holds setting := by
    rw [← List.mem_append, spread.mem_iff, mem_allSettings]
  have proper (setting : Setting) (member : setting ∈ front ++ behind) : setting.Proper :=
    spellable.proper setting (spread.mem_iff.mp member)
  have distinct : ((front ++ behind).map Setting.kind).Nodup :=
    (spread.map Setting.kind).nodup_iff.mpr arguments.nodup_kinds
  obtain ⟨distinctTop, distinctInner, -⟩ := List.nodup_append.mp (List.map_append ▸ distinct)
  have fitsTop (setting : Setting) (member : setting ∈ front) : setting.Fits .top := by
    cases setting with
    | file path => exact absurd member (fileless path)
    | verbose | config path | storeDir path => trivial
  obtain ⟨top, gathersTop, readsTop⟩ := gathers_settings Found.gathers_nothing distinctTop
    (fun setting member => proper setting (List.mem_append_left behind member)) fitsTop
    (verbWord legacy arguments.request.verb :: (behind.map Setting.word ++ arguments.operandWords))
  -- the name of the request ends the first part
  rw [readPart_of_verb (Found.awaited?_of_free gathersTop.pending) (Verb.ofWord?_verbWord _ _)]
    at readsTop
  obtain ⟨inner, gathersInner, readsInner⟩ := gathers_settings Found.gathers_nothing distinctInner
    (fun setting member => proper setting (List.mem_append_right front member))
    (fun setting member => fits_of_holds ((holds setting).mp (.inr member))) arguments.operandWords
  exact parse_of_parts spellable gathersTop gathersInner fileless holds readsTop readsInner

/-- Arguments that can be spelled are read back, whatever stands in them: with the options that go with
every request before its name or behind it, and with all of them anywhere before `--`. -/
theorem parse_words (spellable : arguments.Spellable) (legacy : Bool) :
    (∀ sharedFirst, parse (arguments.words legacy sharedFirst) = .ok arguments) ∧
      ∀ front behind : List Setting, (front ++ behind).Perm arguments.allSettings →
        (∀ path, .file path ∉ front) →
        parse (front.map Setting.word
            ++ verbWord legacy arguments.request.verb
              :: (behind.map Setting.word ++ arguments.operandWords))
          = .ok arguments := by
  constructor
  · intro sharedFirst
    rw [words, sharedWords_eq, fileWords_eq]
    cases sharedFirst with
    | true =>
        have fileless (path : Bytes) : .file path ∉ arguments.sharedSettings := by
          simp [sharedSettings]
        rw [if_pos rfl, List.append_assoc, List.append_assoc]
        exact parse_spread spellable legacy (.refl _) fileless
    | false =>
        have spread : ([] ++ arguments.allSettings).Perm arguments.allSettings := .refl _
        have reads := parse_spread spellable legacy spread fun _ => List.not_mem_nil
        rw [allSettings, List.map_append] at reads
        simpa using reads
  · intro front behind spread fileless
    exact parse_spread spellable legacy spread fileless

/-- Operands that look like options are read as they are behind the separator, and a value may hold an
equals sign or be no text. -/
theorem parse_words_hyphens :
    let arguments : Arguments :=
      ⟨.put "--" (.inline (Utf8.ofText "-v")), true, some (Utf8.ofText "a=b"), some [0xFF]⟩
    arguments.Spellable ∧
      parse [Utf8.ofText "PUT", Utf8.ofText "-v", Utf8.ofText "--config=a=b",
          Utf8.ofText "--store-dir=" ++ [0xFF], Utf8.ofText "--", Utf8.ofText "--",
          Utf8.ofText "-v"]
        = .ok arguments := by
  intro arguments
  have spellable : arguments.Spellable := by
    refine ⟨by decide, by decide, by decide, ?_⟩
    rintro key source ⟨⟩
    exact iff_of_true rfl rfl
  exact ⟨spellable, (parse_words spellable true).1 false⟩

end Arguments

end ObjectVault.CommandLine
