import ObjectVault.Proofs.CommandLine.Execution
import ObjectVault.Proofs.CommandLine.Spelling
import ObjectVault.Proofs.Results

/-!
# What a command line mentions

Which words of a command line are operands, and which are values of options, can be told without
reading it: `mentions` goes by the shapes of the words alone. Of a command line that is read,
everything mentioned is found (`Took.readPart`), so that a request to put mentions its key, and
either data or a file and not both (`parse_single`).

* `takeFlag_eq_ok`, `takeOption_eq_ok`, `takePlace_eq_ok`: what there is to each way to take a word.
* `Took` carries the proof: all operands and paths mentioned so far have been found or are pending.
  Each way to take a word adds to it what the word mentions.
-/

namespace ObjectVault.CommandLine

/-! ### Mentions -/

/-- What a word says, or an option together with the word behind it. -/
inductive Mention where
  /-- The value of an option. -/
  | value (operand : Operand) (value : Bytes)
  /-- A word in a place of its own. -/
  | place (word : Bytes)
  deriving DecidableEq

namespace Mention

def place? : Mention → Option Bytes
  | .place word => some word
  | .value .. => none

def path? : Mention → Option Bytes
  | .value .file path => some path
  | _ => none

@[simp] theorem place?_place (word : Bytes) : (place word).place? = some word := rfl

@[simp] theorem place?_value (operand : Operand) (word : Bytes) :
    (value operand word).place? = none := rfl

@[simp] theorem path?_place (word : Bytes) : (place word).path? = none := rfl

theorem path?_of_ne {operand : Operand} (noFile : operand ≠ .file) (word : Bytes) :
    (value operand word).path? = none := by
  cases operand with
  | file => exact absurd rfl noFile
  | config | storeDir | key | data => rfl

end Mention

def operandOf? (name : Bytes) : Option Operand :=
  if name = Utf8.ofText "config" then some .config
  else if name = Utf8.ofText "store-dir" then some .storeDir
  else if name = Utf8.ofText "file" then some .file
  else none

/-- What words mention, where the first may be the value of an option before them. Behind `--` every
word is an operand. -/
def mentions (awaiting : Option Operand) : List Bytes → List Mention
  | [] => []
  | word :: rest =>
      match Shape.ofWord word, awaiting with
      | .escape, _ => rest.map .place
      | .long name none, _ => mentions (operandOf? name) rest
      | .long name (some value), _ =>
          ((operandOf? name).map (.value · value)).toList ++ mentions none rest
      | .letters _, _ => mentions none rest
      | .plain, some operand => .value operand word :: mentions none rest
      | .plain, none => .place word :: mentions none rest

/-- The words of a command line that stand in places of their own. -/
def operands (words : List Bytes) : List Bytes := (mentions none words).filterMap Mention.place?

/-- The files of which a command line gives the paths. -/
def filePaths (words : List Bytes) : List Bytes := (mentions none words).filterMap Mention.path?

/-! ### What has been taken -/

namespace Found

/-- What is pending with its value. -/
def waiting (found : Found) : Option Mention :=
  match found.pending with
  | some (.key, some word) | some (.data, some word) => some (.place word)
  | some (operand, some value) => some (.value operand value)
  | some (_, none) | none => none

/-- The operands that have been found, and then one that is pending. -/
def places (found : Found) : List Bytes :=
  (found.key.map Utf8.ofText).toList ++ found.data.toList
    ++ found.waiting.toList.filterMap Mention.place?

/-- The path of the file that has been found, and then one that is pending. -/
def paths (found : Found) : List Bytes :=
  found.file.toList ++ found.waiting.toList.filterMap Mention.path?

/-- The key comes before data, and neither is found twice. -/
def InOrder (found : Found) : Prop :=
  match found.pending with
  | some (.key, value) => value.isSome ∧ found.key = none ∧ found.data = none
  | some (.data, value) => value.isSome ∧ found.key.isSome ∧ found.data = none
  | _ => found.data.isSome → found.key.isSome

/-- What has been mentioned has been taken, and nothing else. -/
structure Took (found : Found) (taken : List Mention) : Prop where
  places : found.places = taken.filterMap Mention.place?
  paths : found.paths = taken.filterMap Mention.path?
  placed : found.placed = found.places.length
  inOrder : found.InOrder

/-! ### Ways to take a word -/

/-- What a value that is put in place changes. -/
def Stores (found : Found) (value : Bytes) (after : Found) : Operand → Prop
  | .config => after = { found with config := some value }
  | .storeDir => after = { found with storeDir := some value }
  | .file => found.file = none ∧ after = { found with file := some value }
  | .data => after = { found with data := some value }
  | .key => ∃ text, Utf8.ofText text = value ∧ after = { found with key := some text }

variable {level : Level} {found settled after : Found} {operand : Operand} {flag : Flag}
  {word name path : Bytes} {value : Option Bytes} {taken : List Mention}

/-- A path is taken only where none has been given before. -/
theorem checkPath_eq_ok {before : Option Bytes} {checked : Bytes}
    (passes : checkPath before path = .ok checked) : before = none ∧ checked = path := by
  unfold checkPath at passes
  split at passes
  · cases passes
  · next new =>
      split at passes
      · cases passes
      · cases passes
        exact ⟨by simpa using new, rfl⟩

/-- A value that is accepted changes the one field that its operand stands for. -/
theorem store_eq_ok (puts : found.store operand word = .ok after) :
    found.Stores word after operand := by
  cases operand with
  | config | storeDir =>
      obtain ⟨checked, passes, stores⟩ := bind_eq_ok_iff.mp puts
      obtain ⟨-, rfl⟩ := checkPath_eq_ok passes
      cases stores
      rfl
  | file =>
      obtain ⟨checked, passes, stores⟩ := bind_eq_ok_iff.mp puts
      obtain ⟨new, rfl⟩ := checkPath_eq_ok passes
      cases stores
      exact ⟨new, rfl⟩
  | data =>
      cases puts
      rfl
  | key =>
      simp only [store] at puts
      split at puts
      · next text reads =>
          cases puts
          exact ⟨text, Utf8.ofText_of_text? reads, rfl⟩
      · cases puts

/-- Before something new becomes pending, what was pending is settled. -/
theorem await_eq_ok (awaits : found.await operand value = .ok after) :
    ∃ settled, found.settle = .ok settled ∧
      after = { settled with pending := some (operand, value) } := by
  obtain ⟨settled, settles, awaits⟩ := bind_eq_ok_iff.mp awaits
  cases awaits
  exact ⟨settled, settles, rfl⟩

/-- The only flag that does not end reading asks for reports, and is given once. -/
theorem takeFlag_eq_ok (takes : found.takeFlag level flag = .ok after) :
    ∃ settled, found.settle = .ok settled ∧ settled.verbose = false ∧
      after = { settled with verbose := true } := by
  obtain ⟨settled, settles, takes⟩ := bind_eq_ok_iff.mp takes
  refine ⟨settled, settles, ?_⟩
  cases flag with
  | help | version => cases takes
  | verbose =>
      dsimp only at takes
      split at takes
      · cases takes
      · next quiet =>
          cases takes
          exact ⟨Bool.eq_false_iff.mpr quiet, rfl⟩

theorem operandOf?_of_flag {text : String} (names : level.flag? text = some flag) :
    operandOf? (Utf8.ofText text) = none := by
  unfold Level.flag? at names
  split at names
  · next same =>
      rw [same]
      decide
  · split at names
    · next same =>
        rw [same]
        decide
    · split at names
      · next same =>
          rw [same.1]
          decide
      · cases names

/-- A name that a level knows is known as such, and only the verbs know the option for a file. -/
theorem operandOf?_of_option {text : String} (names : level.option? text = some operand) :
    operandOf? (Utf8.ofText text) = some operand ∧ (level = .top → operand ≠ .file) := by
  unfold Level.option? at names
  split at names
  · next same =>
      cases names
      rw [same]
      exact ⟨by decide, nofun⟩
  · split at names
    · next same =>
        cases names
        rw [same]
        exact ⟨by decide, nofun⟩
    · split at names
      · next same =>
          obtain ⟨rfl, rfl⟩ := same
          cases names
          exact ⟨by decide, nofun⟩
      · cases names

/-- A word behind two hyphens is a flag, or an option that takes a value; at the top, it is none
that takes a file. -/
theorem takeOption_eq_ok (takes : found.takeOption level name value = .ok after) :
    (value = none ∧ operandOf? name = none ∧ ∃ flag, found.takeFlag level flag = .ok after) ∨
      ∃ operand, operandOf? name = some operand ∧ (level = .top → operand ≠ .file) ∧
        ∃ waiting, found.await operand value = .ok waiting ∧
          match value with
          | none => after = waiting
          | some _ => waiting.settle = .ok after := by
  cases reads : Utf8.text? name with
  | none =>
      rw [takeOption, reads] at takes
      cases takes
  | some text =>
      obtain rfl := Utf8.ofText_of_text? reads
      simp only [takeOption, reads] at takes
      cases flags : level.flag? text with
      | some flag =>
          rw [flags] at takes
          cases value with
          | none => exact .inl ⟨rfl, operandOf?_of_flag flags, flag, takes⟩
          | some value => cases takes
      | none =>
          cases options : level.option? text with
          | none =>
              rw [flags, options] at takes
              cases takes
          | some operand =>
              rw [flags, options] at takes
              obtain ⟨known, atTop⟩ := operandOf?_of_option options
              cases value with
              | none => exact .inr ⟨operand, known, atTop, after, takes, rfl⟩
              | some value =>
                  obtain ⟨waiting, awaits, settles⟩ := bind_eq_ok_iff.mp takes
                  exact .inr ⟨operand, known, atTop, waiting, awaits, settles⟩

/-- A word without hyphens becomes pending as the next operand of its verb. -/
theorem takePlace_eq_ok {escaped : Bool} (takes : found.takePlace level escaped word = .ok after) :
    ∃ operand settled, level.places[found.placed]? = some operand ∧ found.settle = .ok settled ∧
      after =
        { settled with pending := some (operand, some word), placed := found.placed + 1 } := by
  unfold takePlace at takes
  split at takes
  · next operand place =>
      obtain ⟨waiting, awaits, takes⟩ := bind_eq_ok_iff.mp takes
      obtain ⟨settled, settles, rfl⟩ := await_eq_ok awaits
      cases takes
      exact ⟨operand, settled, place, settles, rfl⟩
  · split at takes <;> cases takes
  · cases takes

theorem pending_of_settle (settles : found.settle = .ok settled) : settled.pending = none := by
  unfold settle at settles
  split at settles
  · next free =>
      cases settles
      exact free
  · cases settles
  · next operand value _ =>
      have stored := store_eq_ok settles
      cases operand with
      | config | storeDir | data =>
          obtain rfl := stored
          rfl
      | file =>
          obtain ⟨-, rfl⟩ := stored
          rfl
      | key =>
          obtain ⟨text, -, rfl⟩ := stored
          rfl

/-- Behind a single hyphen there is one letter, since no flag can be given twice. -/
theorem takeLetters_eq_ok {letters : Bytes} (some : letters ≠ [])
    (takes : found.takeLetters level letters = .ok after) :
    ∃ flag, found.takeFlag level flag = .ok after := by
  obtain ⟨first, behind, rfl⟩ := List.exists_cons_of_ne_nil some
  rw [takeLetters, Utf8.pieces, List.foldlM_cons] at takes
  obtain ⟨next, takesFirst, takesOthers⟩ := bind_eq_ok_iff.mp takes
  split at takesFirst
  · next flag _ =>
      obtain ⟨settled, settles, -, rfl⟩ := takeFlag_eq_ok takesFirst
      generalize Utf8.pieces _ = others at takesOthers
      cases others with
      | nil =>
          cases takesOthers
          exact ⟨flag, takesFirst⟩
      | cons second others =>
          -- the second letter would be the same flag again
          rw [List.foldlM_cons] at takesOthers
          obtain ⟨_, takesSecond, -⟩ := bind_eq_ok_iff.mp takesOthers
          split at takesSecond
          · obtain ⟨again, settlesAgain, quiet, -⟩ := takeFlag_eq_ok takesSecond
            simp only [settle, pending_of_settle settles] at settlesAgain
            cases settlesAgain
            cases quiet
          · cases takesSecond
  · cases takesFirst

theorem awaited?_of_takeFlag (takes : found.takeFlag level flag = .ok after) :
    after.awaited? = none := by
  obtain ⟨settled, settles, -, rfl⟩ := takeFlag_eq_ok takes
  have free := pending_of_settle settles
  exact awaited?_of_free free

/-- An option waits for its value, if it has none behind an equals sign. -/
theorem awaited?_of_takeOption (takes : found.takeOption level name value = .ok after) :
    after.awaited? = if value = none then operandOf? name else none := by
  rcases takeOption_eq_ok takes with
    ⟨rfl, unknown, flag, takes⟩ | ⟨operand, known, -, waiting, awaits, rest⟩
  · rw [awaited?_of_takeFlag takes, unknown, ite_self]
  · obtain ⟨settled, -, rfl⟩ := await_eq_ok awaits
    rw [known]
    cases value with
    | none =>
        obtain rfl : after = _ := rest
        rfl
    | some value => exact awaited?_of_free (pending_of_settle rest)

theorem awaited?_of_takePlace {escaped : Bool}
    (takes : found.takePlace level escaped word = .ok after) : after.awaited? = none := by
  obtain ⟨operand, settled, -, -, rfl⟩ := takePlace_eq_ok takes
  rfl

/-- Before the verb, the option for a file is not taken. -/
theorem not_file_of_takeOption (takes : found.takeOption .top name value = .ok after) :
    operandOf? name ≠ some .file := by
  rcases takeOption_eq_ok takes with ⟨-, unknown, -⟩ | ⟨operand, known, other, -⟩
  · rw [unknown]
    nofun
  · rw [known]
    exact fun same => other rfl (Option.some.inj same)

/-! ### What has been taken stays -/

theorem took_nothing : nothing.Took [] := ⟨rfl, rfl, rfl, nofun⟩

/-- Settling puts in place what is pending, and loses nothing. -/
theorem Took.settle (took : found.Took taken) (settles : found.settle = .ok settled) :
    settled.Took taken := by
  obtain ⟨verbose, config, storeDir, file, key, data, placed, pending⟩ := found
  obtain ⟨places, paths, placed, inOrder⟩ := took
  rcases pending with _ | ⟨operand, _ | value⟩
  · cases settles
    exact ⟨places, paths, placed, inOrder⟩
  · cases settles
  · have stored := store_eq_ok settles
    cases operand with
    | config | storeDir =>
        obtain rfl := stored
        exact ⟨places, paths, placed, inOrder⟩
    | file =>
        obtain ⟨new, rfl⟩ := stored
        obtain rfl : file = none := new
        exact ⟨places, paths, placed, inOrder⟩
    | key =>
        obtain ⟨text, rfl, rfl⟩ := stored
        obtain ⟨-, rfl, rfl⟩ := inOrder
        exact ⟨places, paths, placed, nofun⟩
    | data =>
        obtain rfl := stored
        obtain ⟨-, keyed, rfl⟩ := inOrder
        refine ⟨?_, paths, ?_, fun _ => keyed⟩
        · simpa [Found.places, waiting] using places
        · simpa [Found.places, waiting] using placed

theorem option_of_operandOf? (known : operandOf? name = some operand) :
    operand ≠ .key ∧ operand ≠ .data := by
  unfold operandOf? at known
  split at known
  · cases known
    exact ⟨nofun, nofun⟩
  · split at known
    · cases known
      exact ⟨nofun, nofun⟩
    · split at known
      · cases known
        exact ⟨nofun, nofun⟩
      · cases known

/-- Something new that is pending is taken, if nothing was waiting before. -/
theorem Took.wait {found : Found} (took : found.Took taken) (idle : found.waiting = none)
    (pending : Option (Operand × Option Bytes)) {placed : Nat} {added : List Mention}
    (waits : { found with pending := pending }.waiting.toList = added)
    (counted : placed = found.placed + (added.filterMap Mention.place?).length)
    (inOrder : { found with pending := pending }.InOrder) :
    { found with pending := pending, placed := placed }.Took (taken ++ added) := by
  obtain ⟨places, paths, all, -⟩ := took
  simp only [Found.places, Found.paths, idle, Option.toList_none, List.filterMap_nil,
    List.append_nil] at places paths all
  have same : { found with pending := pending, placed := placed }.waiting.toList = added := waits
  refine ⟨?_, ?_, ?_, inOrder⟩
  · rw [Found.places, same, List.filterMap_append, ← places]
  · rw [Found.paths, same, List.filterMap_append, ← paths]
  · rw [Found.places, same, List.length_append, ← all]
    exact counted

theorem waiting_of_option (noKey : operand ≠ .key) (noData : operand ≠ .data) :
    { found with pending := some (operand, value) }.waiting = value.map (.value operand) := by
  cases operand with
  | key => exact absurd rfl noKey
  | data => exact absurd rfl noData
  | config | storeDir | file => cases value <;> rfl

/-- An option is mentioned when it becomes pending with its value; one without a value is not
mentioned yet. -/
theorem Took.await (took : found.Took taken) (known : operandOf? name = some operand)
    (awaits : found.await operand value = .ok after) :
    after.Took (taken ++ (value.map (.value operand)).toList) := by
  obtain ⟨noKey, noData⟩ := option_of_operandOf? known
  obtain ⟨settled, settles, rfl⟩ := await_eq_ok awaits
  have free := pending_of_settle settles
  have tookSettled := took.settle settles
  have inOrder := tookSettled.inOrder
  rw [InOrder, free] at inOrder
  refine tookSettled.wait (by rw [waiting, free]) (some (operand, value))
    (congrArg Option.toList (waiting_of_option noKey noData)) ?_ ?_
  · cases value <;> rfl
  · cases operand with
    | key => exact absurd rfl noKey
    | data => exact absurd rfl noData
    | config | storeDir | file => exact inOrder

/-- A flag mentions nothing. -/
theorem Took.takeFlag (took : found.Took taken) (takes : found.takeFlag level flag = .ok after) :
    after.Took taken := by
  obtain ⟨settled, settles, -, rfl⟩ := takeFlag_eq_ok takes
  obtain ⟨places, paths, placed, inOrder⟩ := took.settle settles
  exact ⟨places, paths, placed, inOrder⟩

/-- An option with its value in the same word mentions that value. -/
theorem Took.takeOption (took : found.Took taken)
    (takes : found.takeOption level name value = .ok after) :
    after.Took
      (taken ++ (value.bind fun value => (operandOf? name).map (.value · value)).toList) := by
  rcases takeOption_eq_ok takes with
    ⟨rfl, unknown, flag, takes⟩ | ⟨operand, known, -, waiting, awaits, rest⟩
  · simpa using took.takeFlag takes
  · have tookWaiting := took.await known awaits
    rw [known]
    cases value with
    | none =>
        obtain rfl : after = _ := rest
        exact tookWaiting
    | some value => exact tookWaiting.settle rest

/-- The first place is that of the key, and the second that of data. -/
theorem operand_of_place {index : Nat} (place : level.places[index]? = some operand) :
    (index = 0 ∧ operand = .key) ∨ (index = 1 ∧ operand = .data) := by
  cases level with
  | top => cases place
  | verb verb =>
      match index with
      | 0 => cases verb <;> exact .inl ⟨rfl, (Option.some.inj place).symm⟩
      | 1 =>
          cases verb with
          | put => exact .inr ⟨rfl, (Option.some.inj place).symm⟩
          | get | delete => cases place
      | index + 2 => cases verb <;> cases place

/-- A word without hyphens is mentioned as a place. -/
theorem Took.takePlace {escaped : Bool} (took : found.Took taken)
    (takes : found.takePlace level escaped word = .ok after) :
    after.Took (taken ++ [.place word]) := by
  obtain ⟨operand, settled, place, settles, rfl⟩ := takePlace_eq_ok takes
  have free := pending_of_settle settles
  have tookSettled := took.settle settles
  have inOrder := tookSettled.inOrder
  have idle : settled.waiting = none := by rw [waiting, free]
  have count := tookSettled.placed
  have same : found.placed = settled.placed := by
    rw [tookSettled.placed, took.placed, tookSettled.places, took.places]
  rw [InOrder, free] at inOrder
  rw [← same, Found.places, idle, Option.toList_none, List.filterMap_nil, List.append_nil,
    List.length_append] at count
  rcases operand_of_place place with ⟨first, rfl⟩ | ⟨second, rfl⟩
  · refine tookSettled.wait idle (some (.key, some word)) rfl (same ▸ rfl) ⟨rfl, ?_⟩
    rw [first] at count
    simpa using count.symm
  · refine tookSettled.wait idle (some (.data, some word)) rfl (same ▸ rfl) ⟨rfl, ?_⟩
    rw [second] at count
    change settled.key.isSome ∧ settled.data = none
    cases keyed : settled.key with
    | none =>
        -- data without a key would be out of order
        have dataless : settled.data = none := by simpa [keyed] using inOrder
        simp [keyed, dataless] at count
    | some key => simpa [keyed] using count

/-- A value that was awaited is taken. -/
theorem Took.supply (took : found.Took taken) (awaits : found.awaited? = some operand) :
    { found with pending := some (operand, some word) }.Took
      (taken ++ [Mention.value operand word]) := by
  have pending : found.pending = some (operand, none) := by
    rw [awaited?] at awaits
    split at awaits
    · next pending =>
        cases awaits
        exact pending
    · cases awaits
  have inOrder := took.inOrder
  rw [InOrder, pending] at inOrder
  cases operand with
  | config | storeDir | file =>
      have idle : found.waiting = none := by rw [waiting, pending]
      exact took.wait idle _ rfl rfl inOrder
  | key | data => cases inOrder.1

end Found

/-! ### Parts that are read -/

section Parts

variable {level : Level} {found last : Found} {operand : Operand} {verb : Verb} {word : Bytes}
  {words rest : List Bytes} {taken : List Mention} {left : Option (Verb × List Bytes)}

theorem Shape.letters_ne_nil {letters : Bytes} (shape : Shape.ofWord word = .letters letters) :
    letters ≠ [] := by
  unfold ofWord ofLong at shape
  split at shape
  · cases shape
  · cases shape
  · next a b others =>
      repeat' split at shape
      all_goals cases shape
      nofun

/-- A plain word is the value of an option that waits for one. -/
theorem readPart_of_value (shape : Shape.ofWord word = .plain)
    (awaits : found.awaited? = some operand) :
    readPart level false found (word :: rest)
      = readPart level false { found with pending := some (operand, some word) } rest := by
  rw [readPart]
  simp only [Bool.false_eq_true, if_false, awaits, reduceCtorEq, false_and, and_false, shape]

/-- A plain word is an operand where nothing waits for a value. -/
theorem readPart_of_place (shape : Shape.ofWord word = .plain) (idle : found.awaited? = none) :
    readPart (.verb verb) false found (word :: rest)
      = (do readPart (.verb verb) false (← found.takePlace (.verb verb) false word) rest) := by
  rw [readPart]
  simp only [Bool.false_eq_true, if_false, idle, reduceCtorEq, false_and, shape]

/-- Behind `--` every word is taken as an operand. -/
theorem Found.Took.readPart_escaped (took : found.Took taken)
    (reads : readPart level true found words = .ok (last, left)) :
    last.Took (taken ++ words.map .place) := by
  induction words generalizing found taken with
  | nil =>
      cases reads
      simpa using took
  | cons word rest ih =>
      rw [readPart_of_escaped] at reads
      obtain ⟨next, takes, reads⟩ := bind_eq_ok_iff.mp reads
      simpa using ih (took.takePlace takes) reads

/-- Behind the name of a request everything that is mentioned is taken. -/
theorem Found.Took.readPart (took : found.Took taken)
    (reads : readPart (.verb verb) false found words = .ok (last, left)) :
    last.Took (taken ++ mentions found.awaited? words) := by
  -- each word adds to what has been taken, and may leave an option waiting for the next one
  induction words generalizing found taken with
  | nil =>
      cases reads
      simpa [mentions] using took
  | cons word rest ih =>
      cases shape : Shape.ofWord word with
      | escape =>
          rw [readPart_of_escape shape] at reads
          simpa [mentions, shape] using took.readPart_escaped reads
      | long name value =>
          rw [readPart_of_long shape] at reads
          obtain ⟨next, takes, reads⟩ := bind_eq_ok_iff.mp reads
          have tookLast := ih (took.takeOption takes) reads
          rw [awaited?_of_takeOption takes] at tookLast
          cases value <;> simpa [mentions, shape] using tookLast
      | letters letters =>
          rw [readPart_of_letters shape] at reads
          obtain ⟨next, takes, reads⟩ := bind_eq_ok_iff.mp reads
          obtain ⟨flag, takesFlag⟩ := Found.takeLetters_eq_ok (Shape.letters_ne_nil shape) takes
          have tookLast := ih (took.takeFlag takesFlag) reads
          rw [Found.awaited?_of_takeFlag takesFlag] at tookLast
          simpa [mentions, shape] using tookLast
      | plain =>
          cases awaits : found.awaited? with
          | none =>
              rw [readPart_of_place shape awaits] at reads
              obtain ⟨next, takes, reads⟩ := bind_eq_ok_iff.mp reads
              have tookLast := ih (took.takePlace takes) reads
              rw [Found.awaited?_of_takePlace takes] at tookLast
              simpa [mentions, shape] using tookLast
          | some operand =>
              rw [readPart_of_value shape awaits] at reads
              have tookLast := ih (took.supply awaits) reads
              simpa [mentions, shape, Found.awaited?] using tookLast

/-- Behind `--` there is no name of a request. -/
theorem readPart_top_escaped : readPart .top true found words ≠ .ok (last, some (verb, rest)) := by
  cases words with
  | nil => nofun
  | cons word others =>
      rw [readPart_of_escaped]
      intro reads
      obtain ⟨next, takes, -⟩ := bind_eq_ok_iff.mp reads
      obtain ⟨operand, settled, place, -⟩ := Found.takePlace_eq_ok takes
      cases place

/-- At the top, the only word that can stand in a place of its own is the name of a request. -/
theorem verb_of_readPart_top {others : List Bytes} (shape : Shape.ofWord word = .plain)
    (idle : found.awaited? = none)
    (reads : readPart .top false found (word :: others) = .ok (last, some (verb, rest))) :
    Verb.ofWord? word = some verb ∧ others = rest := by
  rw [readPart] at reads
  simp only [Bool.false_eq_true, if_false, idle, true_and, and_true, if_true, shape] at reads
  split at reads
  · cases reads
  · cases names : Verb.ofWord? word with
    | none =>
        rw [names] at reads
        obtain ⟨next, takes, -⟩ := bind_eq_ok_iff.mp reads
        obtain ⟨operand, settled, place, -⟩ := Found.takePlace_eq_ok takes
        cases place
    | some named =>
        rw [names] at reads
        cases reads
        exact ⟨rfl, rfl⟩

/-- The name of a request is the first operand, and no file is mentioned before it. -/
theorem mentions_of_verb (fileless : found.awaited? ≠ some .file)
    (reads : readPart .top false found words = .ok (last, some (verb, rest))) :
    ∃ name, Verb.ofWord? name = some verb ∧
      (mentions found.awaited? words).filterMap Mention.place? = name :: operands rest ∧
      (mentions found.awaited? words).filterMap Mention.path? = filePaths rest := by
  induction words generalizing found with
  | nil => cases reads
  | cons word others ih =>
      cases shape : Shape.ofWord word with
      | escape =>
          rw [readPart_of_escape shape] at reads
          exact absurd reads readPart_top_escaped
      | long name value =>
          rw [readPart_of_long shape] at reads
          obtain ⟨next, takes, readsOthers⟩ := bind_eq_ok_iff.mp reads
          have noFile := Found.not_file_of_takeOption takes
          have awaits := Found.awaited?_of_takeOption takes
          cases value with
          | none =>
              rw [if_pos rfl] at awaits
              have there := ih (awaits.symm ▸ noFile) readsOthers
              rw [awaits] at there
              simpa [mentions, shape] using there
          | some value =>
              rw [if_neg nofun] at awaits
              have there := ih (awaits.symm ▸ nofun) readsOthers
              rw [awaits] at there
              cases known : operandOf? name with
              | none => simpa [mentions, shape, known] using there
              | some operand =>
                  have silent := Mention.path?_of_ne (fun same => noFile (same ▸ known)) value
                  simpa [mentions, shape, known, silent, List.filterMap_cons] using there
      | letters letters =>
          rw [readPart_of_letters shape] at reads
          obtain ⟨next, takes, readsOthers⟩ := bind_eq_ok_iff.mp reads
          obtain ⟨flag, takesFlag⟩ := Found.takeLetters_eq_ok (Shape.letters_ne_nil shape) takes
          have idle := Found.awaited?_of_takeFlag takesFlag
          have there := ih (idle.symm ▸ nofun) readsOthers
          rw [idle] at there
          simpa [mentions, shape] using there
      | plain =>
          cases awaits : found.awaited? with
          | none =>
              obtain ⟨names, rfl⟩ := verb_of_readPart_top shape awaits reads
              exact ⟨word, names, by simp [mentions, shape, operands],
                by simp [mentions, shape, filePaths, List.filterMap_cons]⟩
          | some operand =>
              rw [readPart_of_value shape awaits] at reads
              have idle : { found with pending := some (operand, some word) }.awaited? = none := rfl
              have there := ih (idle.symm ▸ nofun) reads
              -- an option that takes a file would have been refused before it could wait
              have silent := Mention.path?_of_ne (fun same => fileless (same ▸ awaits)) word
              rw [idle] at there
              simpa [mentions, shape, silent, List.filterMap_cons] using there

end Parts

/-! ### The whole -/

section Whole

variable {words : List Bytes} {arguments : Arguments} {found : Found} {verb : Verb} {key : String}
  {source : Source}

/-- A source that is found is the data or the file, and never both or neither. -/
theorem Found.source_eq_ok (yields : found.source = .ok source) :
    found.data = source.data ∧ found.file = source.path ∧
      (source.data.isSome ↔ source.path = none) := by
  unfold Found.source at yields
  cases data : found.data with
  | none =>
      cases file : found.file with
      | none =>
          rw [data, file] at yields
          cases yields
      | some path =>
          rw [data, file] at yields
          cases yields
          exact ⟨rfl, rfl, by simp⟩
  | some bytes =>
      cases file : found.file with
      | none =>
          rw [data, file] at yields
          cases yields
          exact ⟨rfl, rfl, by simp⟩
      | some path =>
          rw [data, file] at yields
          cases yields

/-- A request to put comes from its key and from one source. -/
theorem Found.request_eq_put (yields : found.request verb = .ok (.put key source)) :
    verb = .put ∧ found.key = some key ∧ found.source = .ok source := by
  cases verb with
  | put =>
      obtain ⟨one, yieldsOne, yieldsAll⟩ := bind_eq_ok_iff.mp yields
      cases keyed : found.key with
      | none =>
          rw [keyed] at yieldsAll
          cases yieldsAll
      | some text =>
          rw [keyed] at yieldsAll
          cases yieldsAll
          exact ⟨rfl, rfl, yieldsOne⟩
  | get | delete =>
      unfold Found.request at yields
      cases keyed : found.key with
      | none =>
          rw [keyed] at yields
          cases yields
      | some text =>
          rw [keyed] at yields
          cases yields

/-- A command line is read in two parts. -/
theorem Arguments.parse_eq_ok (parses : parse words = .ok arguments) :
    ∃ top verb rest inner left settled,
      readPart .top false .nothing words = .ok (top, some (verb, rest)) ∧
      readPart (.verb verb) false .nothing rest = .ok (inner, left) ∧
      inner.settle = .ok settled ∧ settled.request verb = .ok arguments.request := by
  obtain ⟨⟨top, _ | ⟨verb, rest⟩⟩, readsTop, parses⟩ := bind_eq_ok_iff.mp parses
  · obtain ⟨settled, -, fails⟩ := bind_eq_ok_iff.mp parses
    cases fails
  · obtain ⟨⟨inner, left⟩, readsInner, parses⟩ := bind_eq_ok_iff.mp parses
    obtain ⟨settled, settles, parses⟩ := bind_eq_ok_iff.mp parses
    obtain ⟨request, yields, parses⟩ := bind_eq_ok_iff.mp parses
    obtain ⟨_, -, parses⟩ := bind_eq_ok_iff.mp parses
    cases parses
    exact ⟨top, verb, rest, inner, left, settled, readsTop, readsInner, settles, yields⟩

/-- What is put comes from one source. -/
theorem Arguments.single_of_parse (parses : parse words = .ok arguments)
    (puts : arguments.request = .put key source) : source.data.isSome ↔ source.path = none := by
  obtain ⟨_, _, _, _, _, _, -, -, -, yields⟩ := parse_eq_ok parses
  rw [puts] at yields
  exact (Found.source_eq_ok (Found.request_eq_put yields).2.2).2.2

/-- A command line that asks to put an object mentions the key and the source, and nothing else. -/
theorem Arguments.mentions_of_parse (parses : parse words = .ok arguments)
    (puts : arguments.request = .put key source) :
    (∃ name, Verb.ofWord? name = some .put ∧
        operands words = name :: Utf8.ofText key :: source.data.toList) ∧
      filePaths words = source.path.toList := by
  obtain ⟨top, verb, rest, inner, left, settled, readsTop, readsInner, settles, yields⟩ :=
    parse_eq_ok parses
  rw [puts] at yields
  obtain ⟨rfl, keyed, one⟩ := Found.request_eq_put yields
  obtain ⟨data, file, -⟩ := Found.source_eq_ok one
  obtain ⟨name, names, operandsTop, pathsTop⟩ := mentions_of_verb (by decide) readsTop
  obtain ⟨places, paths, -, -⟩ := (Found.took_nothing.readPart readsInner).settle settles
  have idle : settled.waiting = none := by rw [Found.waiting, Found.pending_of_settle settles]
  rw [List.nil_append, Found.places, keyed, data, idle] at places
  rw [List.nil_append, Found.paths, file, idle] at paths
  have same : operands rest = Utf8.ofText key :: source.data.toList := by
    simpa [operands, Found.awaited?, Found.nothing] using places.symm
  have samePaths : filePaths rest = source.path.toList := by
    simpa [filePaths, Found.awaited?, Found.nothing] using paths.symm
  exact ⟨⟨name, names, operandsTop.trans (congrArg (name :: ·) same)⟩, pathsTop.trans samePaths⟩

/-- A single source is given on the command line or in a file. -/
theorem Source.inline_or_file (single : source.data.isSome ↔ source.path = none) :
    (∃ data, source = .inline data) ∨ ∃ path, source = .file path := by
  obtain ⟨_ | data, _ | path⟩ := source
  · simp at single
  · exact .inr ⟨path, rfl⟩
  · exact .inl ⟨data, rfl⟩
  · simp at single

/-- The contents of a single source with a path are those of the file. -/
theorem Source.contents_of_path {path : Bytes} (named : source.path = some path)
    (single : source.data.isSome ↔ source.path = none) (read : Bytes → Except FileError Bytes) :
    source.contents read = (read path).mapError (.badSource path) := by
  rcases inline_or_file single with ⟨data, rfl⟩ | ⟨other, rfl⟩
  · cases named
  · cases named
    rfl

/-- A single source never lacks contents. -/
theorem Source.contents_ne_noContents (single : source.data.isSome ↔ source.path = none)
    (read : Bytes → Except FileError Bytes) : source.contents read ≠ .error .noContents := by
  rcases inline_or_file single with ⟨data, rfl⟩ | ⟨path, rfl⟩
  · nofun
  · rw [contents_of_path rfl single]
    cases read path <;> nofun

/-- No reply is shown as a lack of contents. -/
theorem replyLine_ne_noContents (key : String) (reply : Client.Reply) :
    replyLine key reply ≠ .error .noContents := by
  cases reply with
  | read result =>
      rcases result with error | outcome
      · nofun
      · cases outcome <;> nofun
  | write result => cases result <;> nofun
  | deletion result => cases result <;> nofun

/-- A command line that is read does not lack contents to put. -/
theorem Arguments.execute_ne_noContents (parses : parse words = .ok arguments) (tree : FileTree) :
    (arguments.execute.run tree).value ≠ .error .noContents := by
  cases loads : arguments.loaded tree with
  | error cause =>
      obtain ⟨path, -, fails⟩ := settings_of_not_loaded loads
      rw [execute_of_bad_settings fails]
      nofun
  | ok base =>
      have settles := settings_of_loaded loads
      cases asks : arguments.request.asked tree.read with
      | error error =>
          obtain ⟨key, source, puts, lacking⟩ := Request.asked_eq_error asks
          have present := Source.contents_ne_noContents (single_of_parse parses puts) tree.read
          rw [execute_of_bad_source settles asks]
          intro same
          cases same
          exact present lacking
      | ok asked =>
          rw [execute_of_asked settles asks]
          exact replyLine_ne_noContents _ _

/-- A command line that asks to put an object gives its contents once, as data or as a file: they
are what it mentions beside the key, and a file that it mentions is the one that is read. So carrying
out a command line never comes to a lack of contents. -/
theorem Arguments.parse_single (parses : parse words = .ok arguments) :
    (∀ key source, arguments.request = .put key source →
      (source.data.isSome ↔ source.path = none) ∧
      (∃ name, Verb.ofWord? name = some .put ∧
        operands words = name :: Utf8.ofText key :: source.data.toList) ∧
      filePaths words = source.path.toList ∧
      ∀ path ∈ filePaths words, ∀ read,
        source.contents read = (read path).mapError (.badSource path)) ∧
    ∀ tree, (arguments.execute.run tree).value ≠ .error .noContents := by
  constructor
  · intro key source puts
    have single := single_of_parse parses puts
    obtain ⟨operands, paths⟩ := mentions_of_parse parses puts
    refine ⟨single, operands, paths, ?_⟩
    intro path member read
    rw [paths, Option.mem_toList] at member
    exact Source.contents_of_path member single read
  · intro tree
    exact execute_ne_noContents parses tree

/-- What looks like the option for a file is the contents behind the separator, and names a file before
it. -/
theorem Arguments.parse_single_hyphens :
    let inline := ["--store-dir", "put", "PUT", "-v", "--", "--file=a", "--file=b"].map Utf8.ofText
    let fromFile := ["put", "k", "--file", "a=b", "-v"].map Utf8.ofText
    (parse inline = .ok ⟨.put "--file=a" (.inline (Utf8.ofText "--file=b")), true, none,
        some (Utf8.ofText "put")⟩ ∧
      (∃ name, Verb.ofWord? name = some .put ∧
        operands inline = [name, Utf8.ofText "--file=a", Utf8.ofText "--file=b"]) ∧
      filePaths inline = []) ∧
    parse fromFile = .ok ⟨.put "k" (.file (Utf8.ofText "a=b")), true, none, none⟩ ∧
      filePaths fromFile = [Utf8.ofText "a=b"] ∧
      ∀ tree, ((⟨.put "k" (.file (Utf8.ofText "a=b")), true, none, none⟩ : Arguments).execute.run
        tree).value ≠ .error .noContents := by
  intro inline fromFile
  have parsesInline : parse inline = .ok ⟨.put "--file=a" (.inline (Utf8.ofText "--file=b")), true,
      none, some (Utf8.ofText "put")⟩ := eq_ok_of_toOption (by decide +kernel)
  have parsesFile : parse fromFile = .ok ⟨.put "k" (.file (Utf8.ofText "a=b")), true, none, none⟩ :=
    eq_ok_of_toOption (by decide +kernel)
  obtain ⟨-, operandsInline, pathsInline, -⟩ := (parse_single parsesInline).1 _ _ rfl
  obtain ⟨fromSource, runs⟩ := parse_single parsesFile
  obtain ⟨-, -, pathsFile, -⟩ := fromSource _ _ rfl
  exact ⟨⟨parsesInline, operandsInline, pathsInline⟩, parsesFile, pathsFile, runs⟩

end Whole

end ObjectVault.CommandLine
