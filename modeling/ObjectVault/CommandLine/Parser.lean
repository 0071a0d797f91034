import ObjectVault.CommandLine.Help

/-!
# Reading command lines

A command line has two parts: options, then the name of a request; and options and operands of that
request. Each part is read from left to right. A value that has been given stays pending until the
next word asks for something else, or the part ends; only then it is checked. So of two faults the
one that is found first is not always the one that stands first.

`Arguments.parse` yields what a command line asks for, or why reading stops: because it asks for help
or for the version, or because of a fault.
-/

namespace ObjectVault.CommandLine

/-! ### Why reading stops -/

inductive UsageFault where
  /-- There is nothing on it. -/
  | nothing
  /-- It names no request. -/
  | noVerb
  /-- A word stands where only the name of a request can. -/
  | unknownVerb
  /-- A word that has no place. -/
  | unknownArgument
  /-- Something that is required is not there. -/
  | missingArgument
  /-- Something is given twice, or two things that exclude each other are given. -/
  | conflict
  /-- A value that is required is not there, or empty. -/
  | missingValue
  /-- A value for an option that takes none. -/
  | unexpectedValue
  /-- A key that is not text. -/
  | notText
  deriving DecidableEq, Repr

/-- Why reading stops before there are arguments. -/
inductive Halt where
  | help (topic : Topic)
  | version
  | fault (fault : UsageFault)
  deriving DecidableEq, Repr

namespace Halt

def exitStatus : Halt → Nat
  | .help _ | .version => 0
  | .fault _ => 2

/-- The text that has been asked for. -/
def text? : Halt → Option String
  | .help topic => some (Help.text topic)
  | .version => some Help.version
  | .fault _ => none

end Halt

/-! ### What a part may hold -/

/-- A part of a command line. -/
inductive Level where
  /-- What stands before the name of a request. -/
  | top
  /-- What stands behind it. -/
  | verb (verb : Verb)
  deriving DecidableEq, Repr

/-- An option without a value. -/
inductive Flag where
  | verbose
  | help
  | version
  deriving DecidableEq, Repr

/-- Something that takes a value: an option, or a place. -/
inductive Operand where
  | config
  | storeDir
  | file
  | key
  | data
  deriving DecidableEq, Repr

namespace Level

def topic : Level → Topic
  | .top => .program
  | .verb request => .verb request

def flagOfLetter? (level : Level) (letter : Char) : Option Flag :=
  if letter = 'v' then some .verbose
  else if letter = 'h' then some .help
  else if letter = 'V' ∧ level = .top then some .version
  else none

def flag? (level : Level) (name : String) : Option Flag :=
  if name = "verbose" then some .verbose
  else if name = "help" then some .help
  else if name = "version" ∧ level = .top then some .version
  else none

/-- The option of a name that takes a value. -/
def option? (level : Level) (name : String) : Option Operand :=
  if name = "config" then some .config
  else if name = "store-dir" then some .storeDir
  else if name = "file" ∧ level = .verb .put then some .file
  else none

/-- The places that take a value each, in order. -/
def places : Level → List Operand
  | .top => []
  | .verb .put => [.key, .data]
  | .verb _ => [.key]

end Level

/-! ### What has been found -/

/-- What the words of a part have said so far. -/
structure Found where
  verbose : Bool
  config : Option Bytes
  storeDir : Option Bytes
  file : Option Bytes
  key : Option String
  data : Option Bytes
  /-- How many places have been taken. -/
  placed : Nat
  /-- What has been named last, and its value if that is there. -/
  pending : Option (Operand × Option Bytes)
  deriving DecidableEq

namespace Found

def nothing : Found := ⟨false, none, none, none, none, none, 0, none⟩

/-- A path, which is given once and not empty. -/
def checkPath (before : Option Bytes) (path : Bytes) : Except Halt Bytes :=
  if before.isSome then .error (.fault .conflict)
  else if path = [] then .error (.fault .missingValue)
  else .ok path

/-- Puts a value in place, if it is one that can stand there. -/
def store (found : Found) (operand : Operand) (value : Bytes) : Except Halt Found :=
  match operand with
  | .config => do return { found with config := some (← checkPath found.config value) }
  | .storeDir => do return { found with storeDir := some (← checkPath found.storeDir value) }
  | .file => do return { found with file := some (← checkPath found.file value) }
  | .data => .ok { found with data := some value }
  | .key =>
      match Utf8.text? value with
      | some text => .ok { found with key := some text }
      | none => .error (.fault .notText)

/-- Checks what is pending, and puts it in place. -/
def settle (found : Found) : Except Halt Found :=
  match found.pending with
  | none => .ok found
  | some (_, none) => .error (.fault .missingValue)
  | some (operand, some value) => { found with pending := none }.store operand value

/-- Settles what was pending before, and makes something else pending. -/
def await (found : Found) (operand : Operand) (value : Option Bytes) : Except Halt Found := do
  return { ← found.settle with pending := some (operand, value) }

def takeFlag (level : Level) (found : Found) (flag : Flag) : Except Halt Found := do
  let found ← found.settle
  match flag with
  | .help => throw (.help level.topic)
  | .version => throw .version
  | .verbose =>
      if found.verbose then throw (.fault .conflict)
      return { found with verbose := true }

/-- Takes the letters of a word behind a single hyphen. -/
def takeLetters (level : Level) (letters : Bytes) (found : Found) : Except Halt Found :=
  (Utf8.pieces letters).foldlM (fun found piece =>
    match piece.char?.bind level.flagOfLetter? with
    | some flag => takeFlag level found flag
    | none => throw (.fault .unknownArgument)) found

/-- Takes a word behind two hyphens. -/
def takeOption (level : Level) (name : Bytes) (value : Option Bytes) (found : Found) :
    Except Halt Found := do
  let some name := Utf8.text? name | throw (.fault .unknownArgument)
  match level.flag? name, level.option? name, value with
  | some flag, _, none => found.takeFlag level flag
  | some _, _, some _ => throw (.fault .unexpectedValue)
  | none, some operand, none => found.await operand none
  | none, some operand, some value => (← found.await operand value).settle
  | none, none, _ => throw (.fault .unknownArgument)

/-- The word that asks for help on the words behind it. -/
def helpWord : Bytes := Utf8.ofText "help"

/-- Takes a word that is no option. `escaped` says that it stands behind `--`. -/
def takePlace (level : Level) (escaped : Bool) (word : Bytes) (found : Found) :
    Except Halt Found :=
  match level.places[found.placed]?, level with
  | some operand, _ => do
      return { ← found.await operand word with placed := found.placed + 1 }
  | none, .top =>
      if escaped ∧ (word = helpWord ∨ (Verb.ofWord? word).isSome) then
        .error (.fault .unknownArgument)
      else .error (.fault .unknownVerb)
  | none, .verb _ => .error (.fault .unknownArgument)

/-- What waits for a value that the next word has to give. -/
def awaited? (found : Found) : Option Operand :=
  match found.pending with
  | some (operand, none) => some operand
  | _ => none

end Found

/-! ### Words -/

/-- The shapes of a word. -/
inductive Shape where
  /-- Two hyphens: no word behind them is an option. -/
  | escape
  /-- Two hyphens and a name, perhaps with a value behind an equals sign. -/
  | long (name : Bytes) (value : Option Bytes)
  /-- A hyphen and letters. -/
  | letters (letters : Bytes)
  | plain
  deriving DecidableEq

def hyphen : UInt8 := 0x2D

def equalsSign : UInt8 := 0x3D

namespace Shape

/-- A name with what stands behind its first equals sign. -/
def ofLong (body : Bytes) : Shape :=
  match body.dropWhile (· ≠ equalsSign) with
  | [] => .long body none
  | _ :: value => .long (body.takeWhile (· ≠ equalsSign)) (some value)

def ofWord (word : Bytes) : Shape :=
  match word with
  | [] | [_] => .plain
  | a :: b :: rest =>
      if a ≠ hyphen then .plain
      else if b ≠ hyphen then .letters (b :: rest)
      else if rest = [] then .escape
      else ofLong rest

end Shape

/-! ### Parts -/

/-- What help is asked for by the words behind `help`. -/
def helpTopic : List Bytes → Halt
  | [] => .help .program
  | [word] =>
      match Verb.ofWord? word with
      | some verb => .help (.verb verb)
      | none => if word = Found.helpWord then .help .help else .fault .unknownVerb
  | _ => .fault .unknownVerb

/-- Reads one part. At the top it ends with the name of a request, and the words behind that are
left. -/
def readPart (level : Level) (escaped : Bool) (found : Found) :
    List Bytes → Except Halt (Found × Option (Verb × List Bytes))
  | [] => .ok (found, none)
  | word :: rest =>
      if escaped then do readPart level true (← found.takePlace level true word) rest
      else if level = .top ∧ found.awaited? = none ∧ word = Found.helpWord then
        .error (helpTopic rest)
      else
        let verb := if level = .top ∧ found.awaited? = none then Verb.ofWord? word else none
        match verb, Shape.ofWord word, found.awaited? with
        | some verb, _, _ => .ok (found, some (verb, rest))
        | none, .escape, _ => readPart level true found rest
        | none, .long name value, _ => do
            readPart level false (← found.takeOption level name value) rest
        | none, .letters letters, _ => do
            readPart level false (← found.takeLetters level letters) rest
        | none, .plain, some operand =>
            readPart level false { found with pending := some (operand, some word) } rest
        | none, .plain, none => do
            readPart level false (← found.takePlace level false word) rest

/-! ### The whole -/

namespace Found

/-- What a request puts: inline data or a file, and not both. -/
def source (found : Found) : Except Halt Source :=
  match found.data, found.file with
  | some _, some _ => .error (.fault .conflict)
  | none, none => .error (.fault .missingArgument)
  | data, path => .ok ⟨data, path⟩

/-- The request that the words behind its name spell. -/
def request (verb : Verb) (found : Found) : Except Halt Request := do
  match verb with
  | .put =>
      let source ← found.source
      let some key := found.key | throw (.fault .missingArgument)
      return .put key source
  | .get =>
      let some key := found.key | throw (.fault .missingArgument)
      return .get key
  | .delete =>
      let some key := found.key | throw (.fault .missingArgument)
      return .delete key

def hasOptions (found : Found) : Bool :=
  found.verbose || found.config.isSome || found.storeDir.isSome

end Found

namespace Arguments

/-- What a command line asks for. An option that stands before and behind the name of a request
counts as it stands behind it. -/
def parse (words : List Bytes) : Except Halt Arguments := do
  match ← readPart .top false .nothing words with
  | (top, none) =>
      let top ← top.settle
      throw (.fault (if top.hasOptions then .noVerb else .nothing))
  | (top, some (verb, rest)) =>
      let (inner, _) ← readPart (.verb verb) false .nothing rest
      let inner ← inner.settle
      let request ← inner.request verb
      let top ← top.settle
      return {
        request
        verbose := top.verbose || inner.verbose
        config := inner.config.or top.config
        storeDir := inner.storeDir.or top.storeDir }

end Arguments

end ObjectVault.CommandLine
