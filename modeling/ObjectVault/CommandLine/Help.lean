import ObjectVault.CommandLine.Arguments

/-!
# Help

The texts that explain the command line: one for the whole of it, one for each request, and one for
the word `help` itself. A text says what its topic is for, how it is used, and then lists what can be
given, in sections whose second column is aligned.
-/

namespace ObjectVault.CommandLine

/-- What help can be about. -/
inductive Topic where
  | program
  | verb (verb : Verb)
  | help
  deriving DecidableEq, Repr

namespace Help

def version : String := programName ++ " 0.1.0\n"

def about : Topic → String
  | .program => "Store, read and delete small objects in trusted secure storage"
  | .verb .put => "Store an object, replacing any previous one"
  | .verb .get => "Print an object as OK:<key>:<payload>"
  | .verb .delete => "Delete an object"
  | .help => "Print this message or the help of the given subcommand(s)"

def usage : Topic → String
  | .program => programName ++ " [OPTIONS] <COMMAND>"
  | .verb .put => programName ++ " put [OPTIONS] <DATA|--file <PATH>> <KEY>"
  | .verb verb => programName ++ " " ++ verb.name ++ " [OPTIONS] <KEY>"
  | .help => programName ++ " help [COMMAND]..."

/-- A line of a section: what can be given, and what it means. -/
structure Row where
  given : String
  meaning : String

structure Section where
  title : String
  rows : List Row

/-- The options that go with every request. -/
def sharedOptions : List Row := [
  ⟨"-v, --verbose", "Log backend interaction at debug level"⟩,
  ⟨"    --config <PATH>", "TOML configuration file"⟩,
  ⟨"    --store-dir <PATH>",
    "Directory of the simulated secure backend (overrides the config file)"⟩,
  ⟨"-h, --help", "Print help"⟩]

def sections : Topic → List Section
  | .program => [
      ⟨"Commands", (Verb.all.map fun verb => ⟨verb.name, about (.verb verb)⟩) ++
        [⟨"help", about .help⟩]⟩,
      ⟨"Options", sharedOptions ++ [⟨"-V, --version", "Print version"⟩]⟩]
  | .verb .put => [
      ⟨"Arguments", [⟨"<KEY>", ""⟩, ⟨"[DATA]", "Payload given inline, taken byte for byte"⟩]⟩,
      ⟨"Options", ⟨"    --file <PATH>", "Read the payload from a file"⟩ :: sharedOptions⟩]
  | .verb _ => [⟨"Arguments", [⟨"<KEY>", ""⟩]⟩, ⟨"Options", sharedOptions⟩]
  | .help => [⟨"Arguments", [⟨"[COMMAND]...", "Print help for the subcommand(s)"⟩]⟩]

def padded (width : Nat) (text : String) : String :=
  text ++ String.ofList (List.replicate (width - text.length) ' ')

/-- The text of a section; its first column is as wide as its longest entry. -/
def Section.text (part : Section) : String :=
  let width := part.rows.foldl (fun width row => max width row.given.length) 0
  "\n" ++ part.title ++ ":\n" ++
    String.join (part.rows.map fun row => "  " ++ padded width row.given ++ "  " ++ row.meaning ++ "\n")

def usageLine (topic : Topic) : String := "Usage: " ++ usage topic ++ "\n"

def text (topic : Topic) : String :=
  about topic ++ "\n\n" ++ usageLine topic ++ String.join ((sections topic).map Section.text)

end Help

end ObjectVault.CommandLine
