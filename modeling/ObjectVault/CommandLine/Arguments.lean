import ObjectVault.Text.Utf8

/-!
# Command lines

What a command line asks for: one of three requests, and settings that go with any of them. A command
line is a list of words, which are bytes; keys are text, and paths and data are bytes.

`Arguments.words` spells arguments as a command line, in the spelling that leaves nothing to guess:
options carry their value behind an equals sign, and `--` stands before the key.
-/

namespace ObjectVault.CommandLine

def programName : String := "secstore"

/-- What can be asked for. -/
inductive Verb where
  | put
  | get
  | delete
  deriving DecidableEq, Repr

namespace Verb

def all : List Verb := [.put, .get, .delete]

def name : Verb → String
  | .put => "put"
  | .get => "get"
  | .delete => "delete"

/-- The name in capitals, which older scripts use. -/
def legacyName : Verb → String
  | .put => "PUT"
  | .get => "GET"
  | .delete => "DELETE"

/-- The request that a word names. -/
def ofWord? (word : Bytes) : Option Verb :=
  all.find? fun verb => word = Utf8.ofText verb.name || word = Utf8.ofText verb.legacyName

end Verb

/-- Where the contents for an object come from. A command line that is read says exactly one of the
two. -/
structure Source where
  /-- The contents that stand on the command line. -/
  data : Option Bytes
  /-- The path of the file that they are in. -/
  path : Option Bytes
  deriving DecidableEq, Repr

namespace Source

@[match_pattern]
def inline (data : Bytes) : Source := ⟨some data, none⟩

@[match_pattern]
def file (path : Bytes) : Source := ⟨none, some path⟩

end Source

/-- A request with the key of its object. -/
inductive Request where
  | put (key : String) (source : Source)
  | get (key : String)
  | delete (key : String)
  deriving DecidableEq, Repr

namespace Request

def verb : Request → Verb
  | .put .. => .put
  | .get _ => .get
  | .delete _ => .delete

def key : Request → String
  | .put key _ | .get key | .delete key => key

/-- The contents that stand on the command line. -/
def sourceData : Request → Option Bytes
  | .put _ source => source.data
  | .get _ | .delete _ => none

/-- The path of the file that holds the contents. -/
def sourcePath : Request → Option Bytes
  | .put _ source => source.path
  | .get _ | .delete _ => none

end Request

/-- All that a command line says. -/
structure Arguments where
  request : Request
  /-- Whether to report what the backend is asked. -/
  verbose : Bool
  /-- The path of the settings, where they are not the standard ones. -/
  config : Option Bytes
  /-- The directory of the store, where it is not that of the settings. -/
  storeDir : Option Bytes
  deriving DecidableEq, Repr

namespace Arguments

/-- An option with its value, as one word. -/
def optionWord (name : String) (value : Bytes) : Bytes :=
  Utf8.ofText ("--" ++ name ++ "=") ++ value

/-- The words of the options that go with every request. -/
def sharedWords (arguments : Arguments) : List Bytes :=
  (if arguments.verbose then [Utf8.ofText "-v"] else [])
    ++ (arguments.config.map (optionWord "config")).toList
    ++ (arguments.storeDir.map (optionWord "store-dir")).toList

/-- The words of the option that only a request to put has. -/
def fileWords (arguments : Arguments) : List Bytes :=
  (arguments.request.sourcePath.map (optionWord "file")).toList

def operandWords (arguments : Arguments) : List Bytes :=
  Utf8.ofText "--" :: Utf8.ofText arguments.request.key :: arguments.request.sourceData.toList

/-- The name of a request, in capitals or not. -/
def verbWord (legacy : Bool) (verb : Verb) : Bytes :=
  Utf8.ofText (if legacy then verb.legacyName else verb.name)

/-- The words of a command line; the options that go with every request stand before its name or
behind it. -/
def words (legacy sharedFirst : Bool) (arguments : Arguments) : List Bytes :=
  let name := [verbWord legacy arguments.request.verb]
  (if sharedFirst then arguments.sharedWords ++ name else name ++ arguments.sharedWords)
    ++ arguments.fileWords ++ arguments.operandWords

end Arguments

end ObjectVault.CommandLine
