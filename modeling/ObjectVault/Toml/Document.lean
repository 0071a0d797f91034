import ObjectVault.Toml.Quoted
import ObjectVault.Toml.Scalar
import ObjectVault.Toml.Table

/-!
# Documents

A TOML text is a sequence of lines: blank ones, bindings, and headers. The bindings before the first
header belong to the document itself, those after a header to its table. `Document.read` gives the
entries of the document, or nothing for a text that is not TOML.

Values nest to a depth of `maxDepth`, and paths have at most `maxPath` keys. Every loop reads
something in each round, and gives up where it has not.
-/

namespace ObjectVault.Toml

/-- How many brackets and braces may be open around a value. -/
def maxDepth : Nat := 79

/-- How many keys a path may have. -/
def maxPath : Nat := 79

/-- Reads something from the start of a text, and gives what is left. -/
abbrev Reader (α : Type) := List Char → Option (α × List Char)

namespace Reader

/-! ### Marks and blanks -/

def skipBlanks (chars : List Char) : List Char := chars.dropWhile isBlank

def mark (c : Char) : List Char → Option (List Char)
  | [] => none
  | d :: rest => if c = d then some rest else none

def skipComment : List Char → List Char
  | '#' :: rest => rest.dropWhile isPlain
  | chars => chars

/-- Reads blanks, perhaps a comment, and the end of a line or of the text. -/
def lineEnd (chars : List Char) : Option (List Char) :=
  match skipComment (skipBlanks chars) with
  | [] => some []
  | chars => afterNewline? chars

/-- What follows blanks, comments and line ends. -/
def skipLines (inComment : Bool) : List Char → List Char
  | [] => []
  | '\r' :: '\n' :: rest => skipLines false rest
  | c :: rest =>
      if inComment && isPlain c then skipLines true rest
      else if isBlank c || c = '\n' then skipLines false rest
      else if c = '#' then skipLines true rest
      else c :: rest

/-- Reads one thing after the other while commas stand between them; `next` says where the thing after
a comma starts, and whether the sequence may end there instead. -/
def afterCommas {α : Type} (item : Reader α) (next : List Char → List Char × Bool) :
    Reader (List α) := fun chars =>
  match item chars with
  | none => none
  | some (first, rest) =>
      match rest with
      | ',' :: rest =>
          let (start, mayEnd) := next rest
          if mayEnd then some ([first], start)
          else if start.length < chars.length then do
            let (others, rest) ← afterCommas item next start
            return (first :: others, rest)
          else none
      | rest => some ([first], rest)
termination_by chars => chars.length

/-! ### Keys -/

/-- A character of a key without quotes. -/
def isBare (c : Char) : Bool := c.isAlphanum || c = '-' || c = '_'

/-- Reads one part of a path. -/
def key : Reader Key := fun chars => do
  let (text, rest) ←
    match chars.takeWhile isBare with
    | [] => readShort chars
    | bare => some (bare, chars.dropWhile isBare)
  return (⟨String.ofList text, chars.length, rest.length⟩, rest)

/-- Reads keys with dots between them and blanks around them; `most` bounds how many. -/
def path : (most : Nat) → Reader (List Key)
  | 0, _ => none
  | most + 1, chars => do
      let (first, rest) ← key (skipBlanks chars)
      match skipBlanks rest with
      | '.' :: rest => do
          let (others, rest) ← path most rest
          return (first :: others, rest)
      | rest => return ([first], rest)

/-! ### Values -/

/-- Reads a path, an equals sign and a value. -/
def assignment (value : Reader Value) : Reader Assignment := fun chars => do
  let (path, rest) ← path maxPath chars
  let start := skipBlanks (← mark '=' rest)
  let (value, rest) ← value start
  return (⟨path, ⟨start.length, rest.length⟩, value⟩, rest)

/-- Reads the inside of an array. A comma may stand behind the last item. -/
def array (value : Reader Value) : Reader Value := fun chars =>
  let item : Reader (Item Value) := fun chars => do
    let (value, rest) ← value chars
    return (⟨⟨chars.length, rest.length⟩, value⟩, skipLines false rest)
  let next (rest : List Char) : List Char × Bool :=
    let start := skipLines false rest
    (start, start.head? = some ']')
  match skipLines false chars with
  | ']' :: rest => some (.array [], rest)
  | chars => do
      let (items, rest) ← afterCommas item next chars
      return (.array items, ← mark ']' rest)

/-- Reads the inside of a table in braces. -/
def inlineTable (value : Reader Value) : Reader Value := fun chars =>
  let item : Reader Assignment := fun chars => do
    let (line, rest) ← assignment value chars
    return (line, skipBlanks rest)
  match skipBlanks chars with
  | '\x7d' :: rest => some (.table .inline [], rest)
  | chars => do
      let (lines, rest) ← afterCommas item (fun rest => (rest, false)) chars
      return (.table .inline (← Entries.putAll lines []), ← mark '\x7d' rest)

/-- Reads a string or a scalar. -/
def plain : Reader Value := fun chars =>
  match chars with
  | [] => none
  | c :: _ =>
      if c = '"' ∨ c = apostrophe then
        (readString chars).map fun read => (.string (String.ofList read.1), read.2)
      else Scalar.read chars

/-- Reads a value that holds others to the given depth. -/
def value : (depth : Nat) → Reader Value
  | 0, chars => plain chars
  | depth + 1, chars =>
      match chars with
      | '[' :: rest => array (value depth) rest
      | '\x7b' :: rest => inlineTable (value depth) rest
      | chars => plain chars

end Reader

/-! ### Lines -/

/-- A line of a document. -/
inductive Line where
  | blank
  | assignment (line : Assignment)
  | header (line : Header)

namespace Reader

/-- Reads a header up to its closing bracket or brackets. -/
def header : Reader Header := fun chars => do
  let opened ← mark '[' chars
  let (repeated, opened) :=
    match opened with
    | '[' :: rest => (true, rest)
    | rest => (false, rest)
  let (path, rest) ← path maxPath opened
  let rest ← mark ']' rest
  let rest ← if repeated then mark ']' rest else some rest
  return (⟨repeated, path, ⟨chars.length, rest.length⟩⟩, rest)

def line : Reader Line := fun chars => do
  let start := skipBlanks chars
  match start with
  | '[' :: _ => do
      let (header, rest) ← header start
      return (.header header, ← lineEnd rest)
  | c :: _ =>
      if c = '#' ∨ c = '\n' ∨ c = '\r' then return (.blank, ← lineEnd start)
      else do
        let (line, rest) ← assignment (value maxDepth) start
        return (.assignment line, ← lineEnd rest)
  | [] => return (.blank, [])

def lines (chars : List Char) : Option (List Line) :=
  if chars = [] then some []
  else
    match line chars with
    | none => none
    | some (first, rest) =>
        if rest.length < chars.length then (lines rest).map (first :: ·) else none
termination_by chars.length

end Reader

/-! ### The document -/

namespace Document

def bindings : List Line → List Assignment
  | .assignment line :: rest => line :: bindings rest
  | .blank :: rest => bindings rest
  | .header _ :: _ => []
  | [] => []

/-- Opens the tables that headers name, and fills each with the bindings behind its header. -/
def placeAll : List Line → Entries → Option Entries
  | [], entries => some entries
  | .header header :: rest, entries => do
      placeAll rest (← Entries.place header (bindings rest) header.path entries)
  | _ :: rest, entries => placeAll rest entries

def ofLines (lines : List Line) : Option Entries := do
  placeAll lines (← Entries.putAll (bindings lines) [])

/-- The text behind a byte order mark, if one stands at its start. -/
def withoutMark : List Char → List Char
  | '\uFEFF' :: rest => rest
  | chars => chars

/-- The entries of a document, or nothing for a text that is not TOML. -/
def read (chars : List Char) : Option Entries := do
  ofLines (← Reader.lines (withoutMark chars))

end Document

end ObjectVault.Toml
