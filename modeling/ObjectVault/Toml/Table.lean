import ObjectVault.Toml.Value

/-!
# Building tables

A TOML text adds to a table in two ways: a line binds a key, which may lead through tables by dots,
and a header opens a table, which may lie inside others. No key is bound twice, and what one way has
made the other can only add to within limits:

* a key with dots leads through tables that such keys have made (`put`), and may pass through, but
  not end in, a table that only a deeper header has implied, or the last of those in double brackets;
* a header may name a table once, after deeper headers have implied it or not (`place`); it then
  takes its place behind what its parent holds;
* a header in double brackets adds one more table to those of the same name.
-/

namespace ObjectVault.Toml

/-- A line that binds a key. -/
structure Assignment where
  path : List Key
  span : Span
  value : Value

/-- A line that opens a table. -/
structure Header where
  /-- Whether it stands in double brackets. -/
  repeated : Bool
  path : List Key
  span : Span

namespace Entries

def find? (entries : Entries) (name : String) : Option (Entry Value) :=
  List.find? (fun entry => entry.key.text = name) entries

def erase (entries : Entries) (name : String) : Entries :=
  entries.filter fun entry => entry.key.text ≠ name

/-- Changes the entry of a key where it stands, or adds one at the end; `none` where `change` refuses
what it is given. -/
def alter (name : String) (change : Option (Entry Value) → Option (Entry Value)) :
    Entries → Option Entries
  | [] => (change none).map ([·])
  | entry :: rest =>
      if entry.key.text = name then (change (some entry)).map (· :: rest)
      else (alter name change rest).map (entry :: ·)

def put : (path : List Key) → Span → Value → Entries → Option Entries
  | [], _, _, _ => none
  | [key], span, value, entries =>
      alter key.text
        (fun
          | none => some ⟨key, some span, value⟩
          | some _ => none)
        entries
  | key :: next :: rest, span, value, entries =>
      alter key.text
        (fun
          | none => (put (next :: rest) span value []).map fun inner =>
              ⟨key, none, .table .dotted inner⟩
          | some ⟨key, stretch, .table kind inner⟩ =>
              if kind = .dotted ∨ (kind = .implied ∧ rest ≠ []) then
                (put (next :: rest) span value inner).map fun inner =>
                  ⟨key, stretch, .table kind inner⟩
              else none
          | some ⟨key, stretch, .tables elements⟩ => do
              let last ← elements.getLast?
              if rest = [] then none
              let inner ← put (next :: rest) span value last.value
              return ⟨key, stretch, .tables (elements.dropLast ++ [⟨last.span, inner⟩])⟩
          | some _ => none)
        entries

def putAll (lines : List Assignment) (entries : Entries) : Option Entries :=
  lines.foldlM (fun entries line => put line.path line.span line.value entries) entries

/-- The stretch of a table: from its header to the last value that is bound in it. -/
def extent (header : Header) (lines : List Assignment) : Span :=
  match lines.getLast? with
  | some line => ⟨header.span.start, line.span.stop⟩
  | none => header.span

/-- Opens the table of a header in double brackets, and fills it. -/
def addTable (header : Header) (key : Key) (lines : List Assignment) (entries : Entries) :
    Option Entries := do
  let inner ← putAll lines []
  let span := extent header lines
  alter key.text
    (fun
      | none => some ⟨key, some span, .tables [⟨span, inner⟩]⟩
      | some ⟨key, stretch, .tables elements⟩ =>
          let stretch := ⟨(stretch.getD span).start, span.stop⟩
          some ⟨key, some stretch, .tables (elements ++ [⟨span, inner⟩])⟩
      | some _ => none)
    entries

/-- Opens the table of a header in single brackets, and fills it. -/
def openTable (header : Header) (key : Key) (lines : List Assignment) (entries : Entries) :
    Option Entries := do
  let before ← match find? entries key.text with
    | none => some []
    | some ⟨_, _, .table .implied inner⟩ => some inner
    | some _ => none
  let inner ← putAll lines before
  return erase entries key.text ++ [⟨key, some (extent header lines), .table .header inner⟩]

/-- Opens the table that a header names, at the end of a path, and fills it. -/
def place (header : Header) (lines : List Assignment) : (path : List Key) → Entries → Option Entries
  | [], _ => none
  | [key], entries =>
      if header.repeated then addTable header key lines entries
      else openTable header key lines entries
  | key :: next :: rest, entries =>
      alter key.text
        (fun
          | none => (place header lines (next :: rest) []).map fun inner =>
              ⟨key, none, .table .implied inner⟩
          | some ⟨key, stretch, .table kind inner⟩ =>
              if kind = .inline then none
              else (place header lines (next :: rest) inner).map fun inner =>
                ⟨key, stretch, .table kind inner⟩
          | some ⟨key, stretch, .tables elements⟩ => do
              let last ← elements.getLast?
              let inner ← place header lines (next :: rest) last.value
              return ⟨key, stretch, .tables (elements.dropLast ++ [⟨last.span, inner⟩])⟩
          | some _ => none)
        entries

end Entries

end ObjectVault.Toml
