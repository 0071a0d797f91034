import Mathlib.Data.List.Forall2
import ObjectVault.Proofs.Toml.Quoted
import ObjectVault.Settings.Toml

/-!
# Documents of bindings

A document may consist of nothing but lines that bind a name to a quoted string. It is read back
entry by entry, whatever the strings hold, as long as the names need no quotes and none of them comes
twice (`read_bindingLines`).
-/

namespace ObjectVault.Toml

open Settings (bindingLine)

/-! ### Names and lines -/

/-- A name that can stand for itself. -/
def BareName (name : String) : Prop := name ≠ "" ∧ ∀ c ∈ name.toList, Reader.isBare c

theorem BareName.toList_ne_nil {name : String} (bare : BareName name) : name.toList ≠ [] := by
  simpa using bare.1

def Assignment.Binds (line : Assignment) (name : String) (text : List Char) : Prop :=
  (∃ key, line.path = [key] ∧ key.text = name) ∧ line.value = .string (String.ofList text)

def Entry.Binds (entry : Entry Value) (name : String) (text : List Char) : Prop :=
  entry.key.text = name ∧ entry.value = .string (String.ofList text)

namespace Reader

variable {name : String} {rest : List Char}

theorem takeWhile_isBare (bare : BareName name) (rest : List Char) :
    (name.toList ++ ' ' :: rest).takeWhile isBare = name.toList ∧
      (name.toList ++ ' ' :: rest).dropWhile isBare = ' ' :: rest := by
  constructor
  · rw [List.takeWhile_append_of_pos bare.2, List.takeWhile_cons_of_neg (by decide), List.append_nil]
  · rw [List.dropWhile_append_of_pos bare.2, List.dropWhile_cons_of_neg (by decide)]

theorem key_of_bare (bare : BareName name) (rest : List Char) :
    ∃ span, key (name.toList ++ ' ' :: rest) = some (⟨name, span⟩, ' ' :: rest) := by
  obtain ⟨taken, dropped⟩ := takeWhile_isBare bare rest
  refine ⟨⟨(name.toList ++ ' ' :: rest).length, (' ' :: rest).length⟩, ?_⟩
  cases spelled : name.toList with
  | nil => exact absurd spelled bare.toList_ne_nil
  | cons first others =>
      rw [spelled] at taken dropped
      simp only [key, taken, dropped]
      rw [← spelled]
      simp [String.ofList_toList]

theorem skipBlanks_cons {c : Char} (solid : isBlank c = false) (rest : List Char) :
    skipBlanks (c :: rest) = c :: rest :=
  List.dropWhile_cons_of_neg (by simp [solid])

/-- The characters that a line may start with when it is no binding, and the byte order mark. -/
def otherStarts : List Char := [' ', '\t', '[', '#', '\n', '\r', '\uFEFF']

theorem not_isBare_of_otherStarts : ∀ c ∈ otherStarts, isBare c = false := by
  simp [otherStarts, isBare]

/-- A bare name starts with no character that another kind of line starts with. -/
theorem first_of_bare (bare : BareName name) :
    ∃ first others, name.toList = first :: others ∧ first ∉ otherStarts := by
  cases spelled : name.toList with
  | nil => exact absurd spelled bare.toList_ne_nil
  | cons first others =>
      have isBare : isBare first = true := bare.2 first (by rw [spelled]; exact List.mem_cons_self)
      refine ⟨first, others, rfl, fun special => ?_⟩
      simp [not_isBare_of_otherStarts first special] at isBare

theorem skipBlanks_name (bare : BareName name) (rest : List Char) :
    skipBlanks (name.toList ++ rest) = name.toList ++ rest := by
  obtain ⟨first, others, spelled, ordinary⟩ := first_of_bare bare
  have solid : isBlank first = false := by
    simp only [otherStarts, List.mem_cons, not_or] at ordinary
    simp [isBlank, ordinary]
  rw [spelled]
  exact skipBlanks_cons solid _

/-- A bare name is a path of one key, up to the equals sign. -/
theorem path_of_bare (bare : BareName name) (rest : List Char) :
    ∃ span, path maxPath (name.toList ++ ' ' :: '=' :: rest)
      = some ([⟨name, span⟩], '=' :: rest) := by
  obtain ⟨span, read⟩ := key_of_bare bare ('=' :: rest)
  refine ⟨span, ?_⟩
  rw [show maxPath = 78 + 1 from rfl, path, skipBlanks_name bare, read]
  rfl

/-- A value that starts with a quotation mark is read as a string. -/
theorem value_of_mark {c : Char} (mark : c = '"' ∨ c = apostrophe) (depth : Nat)
    (chars : List Char) :
    value depth (c :: chars)
      = (readString (c :: chars)).map fun read => (.string (String.ofList read.1), read.2) := by
  rcases mark with rfl | rfl <;> cases depth <;> rfl

/-- A quoted string at the end of a line is read as a value. -/
theorem value_write (depth : Nat) (text rest : List Char) :
    value depth (write text ++ '\n' :: rest)
      = some (.string (String.ofList text), '\n' :: rest) := by
  have read : readString (write text ++ '\n' :: rest) = some (text, '\n' :: rest) := by
    refine readString_write text ?_
    rcases marked_styleFor text with mark | mark <;> rw [mark] <;> simp [apostrophe]
  obtain ⟨others, starts⟩ := write_eq_cons text
  rw [starts, List.cons_append] at read ⊢
  rw [value_of_mark (marked_styleFor text), read, Option.map_some]

theorem skipBlanks_write (text rest : List Char) :
    skipBlanks (' ' :: (write text ++ rest)) = write text ++ rest := by
  obtain ⟨others, starts⟩ := write_eq_cons text
  have solid : isBlank (styleFor text).mark = false := by
    rcases marked_styleFor text with mark | mark <;> rw [mark] <;> rfl
  rw [starts]
  exact skipBlanks_cons solid _

/-- A line that binds a name to a text is read as that binding, whatever comes behind it. -/
theorem assignment_bindingLine (bare : BareName name) (text rest : List Char) :
    ∃ bound : Assignment, bound.Binds name text ∧
      assignment (value maxDepth) (bindingLine name text ++ rest) = some (bound, '\n' :: rest) := by
  obtain ⟨span, readPath⟩ := path_of_bare bare (' ' :: (write text ++ '\n' :: rest))
  have cut : bindingLine name text ++ rest
      = name.toList ++ ' ' :: '=' :: ' ' :: (write text ++ '\n' :: rest) := by
    simp [bindingLine]
  refine ⟨⟨[⟨name, span⟩], ⟨(write text ++ '\n' :: rest).length, ('\n' :: rest).length⟩,
    .string (String.ofList text)⟩, ⟨⟨_, rfl, rfl⟩, rfl⟩, ?_⟩
  rw [cut, assignment, readPath]
  simp only [Option.bind_eq_bind, Option.bind_some, mark, if_true, skipBlanks_write, value_write]
  rfl

/-- A line that binds a name to a string is read up to its end. -/
theorem line_bindingLine (bare : BareName name) (text rest : List Char) :
    ∃ bound : Assignment, bound.Binds name text ∧
      line (bindingLine name text ++ rest) = some (.assignment bound, rest) := by
  obtain ⟨bound, binds, read⟩ := assignment_bindingLine bare text rest
  have start : skipBlanks (bindingLine name text ++ rest) = bindingLine name text ++ rest := by
    simp only [bindingLine, List.append_assoc]
    exact skipBlanks_name bare _
  obtain ⟨first, others, spelled, ordinary⟩ := first_of_bare bare
  have starts : ∃ behind, bindingLine name text ++ rest = first :: behind := by
    simp only [bindingLine, spelled, List.cons_append]
    exact ⟨_, rfl⟩
  obtain ⟨behind, starts⟩ := starts
  refine ⟨bound, binds, ?_⟩
  rw [line, start]
  rw [starts] at read ⊢
  simp only [otherStarts, List.mem_cons, List.not_mem_nil, or_false, not_or] at ordinary
  have kind : ¬ (first = '#' ∨ first = '\n' ∨ first = '\r') := by simp [ordinary]
  split
  · next same => simp_all
  · next same =>
      cases same
      rw [if_neg kind, read]
      rfl
  · next same => cases same

end Reader

/-! ### Documents -/

def bindingLines (pairs : List (String × List Char)) : List Char :=
  pairs.flatMap fun pair => bindingLine pair.1 pair.2

variable {pairs : List (String × List Char)}

/-- Lines of bindings are read as the bindings, one for each line. -/
theorem lines_bindingLines (bare : ∀ pair ∈ pairs, BareName pair.1) :
    ∃ bound : List Assignment,
      List.Forall₂ (fun pair line => line.Binds pair.1 pair.2) pairs bound ∧
        Reader.lines (bindingLines pairs) = some (bound.map .assignment) := by
  induction pairs with
  | nil =>
      refine ⟨[], .nil, ?_⟩
      rw [bindingLines, List.flatMap_nil, Reader.lines]
      rfl
  | cons pair others ih =>
      obtain ⟨bound, binds, read⟩ := ih fun other member => bare other (List.mem_cons_of_mem _ member)
      obtain ⟨first, bindsFirst, readFirst⟩ :=
        Reader.line_bindingLine (bare pair List.mem_cons_self) pair.2 (bindingLines others)
      refine ⟨first :: bound, .cons bindsFirst binds, ?_⟩
      have cut : bindingLines (pair :: others)
          = bindingLine pair.1 pair.2 ++ bindingLines others := List.flatMap_cons
      have filled : bindingLine pair.1 pair.2 ++ bindingLines others ≠ [] := by
        simp [bindingLine]
      have shorter : (bindingLines others).length
          < (bindingLine pair.1 pair.2 ++ bindingLines others).length := by
        simp [bindingLine]
        omega
      rw [cut, Reader.lines, if_neg filled, readFirst]
      simp only [if_pos shorter, read, Option.map_some, List.map_cons]

namespace Entries

/-- An entry is added where its key is new. -/
theorem alter_of_new {name : String} {entries : Entries}
    {change : Option (Entry Value) → Option (Entry Value)}
    (new : ∀ entry ∈ entries, entry.key.text ≠ name) :
    alter name change entries = (change none).map fun entry => entries ++ [entry] := by
  induction entries with
  | nil => rfl
  | cons entry rest ih =>
      rw [alter, if_neg (new entry List.mem_cons_self),
        ih fun other member => new other (List.mem_cons_of_mem entry member), Option.map_map]
      rfl

/-- Bindings of new and distinct names are put behind what there is, in order. -/
theorem putAll_of_binds {bound : List Assignment}
    (binds : List.Forall₂ (fun pair line => line.Binds pair.1 pair.2) pairs bound)
    (distinct : (pairs.map Prod.fst).Nodup) (before : Entries)
    (new : ∀ entry ∈ before, entry.key.text ∉ pairs.map Prod.fst) :
    ∃ after : Entries,
      List.Forall₂ (fun pair entry => entry.Binds pair.1 pair.2) pairs after ∧
        putAll bound before = some (before ++ after) := by
  induction binds generalizing before with
  | nil => exact ⟨[], .nil, by simp [putAll]⟩
  | @cons pair line others bound bindsFirst _ ih =>
      obtain ⟨⟨key, path, named⟩, holds⟩ := bindsFirst
      obtain ⟨fresh, distinct⟩ := List.nodup_cons.mp distinct
      let entry : Entry Value := ⟨key, some line.span, line.value⟩
      have put : put line.path line.span line.value before = some (before ++ [entry]) := by
        rw [path, put, alter_of_new]
        · rfl
        · intro other member same
          exact new other member (by rw [same, named]; exact List.mem_cons_self)
      obtain ⟨after, bindsAfter, puts⟩ := ih distinct (before ++ [entry]) (by
        intro other member
        rcases List.mem_append.mp member with old | last
        · exact fun later => new other old (List.mem_cons_of_mem _ later)
        · obtain rfl := List.mem_singleton.mp last
          simpa [entry, named] using fresh)
      refine ⟨entry :: after, .cons ⟨named, holds⟩ bindsAfter, ?_⟩
      rw [putAll, List.foldlM_cons, put]
      simpa [putAll] using puts

end Entries

namespace Document

theorem placeAll_assignments (bound : List Assignment) (entries : Entries) :
    placeAll (bound.map .assignment) entries = some entries := by
  induction bound with
  | nil => rfl
  | cons line rest ih =>
      rw [List.map_cons, placeAll, ih]
      exact fun header same => nomatch same

theorem bindings_assignments (bound : List Assignment) :
    Document.bindings (bound.map .assignment) = bound := by
  induction bound with
  | nil => rfl
  | cons line rest ih => rw [List.map_cons, Document.bindings, ih]

/-- A document of bindings starts with no byte order mark. -/
theorem withoutMark_bindingLines (bare : ∀ pair ∈ pairs, BareName pair.1) :
    withoutMark (bindingLines pairs) = bindingLines pairs := by
  cases pairs with
  | nil => rfl
  | cons pair others =>
      obtain ⟨first, behind, spelled, ordinary⟩ :=
        Reader.first_of_bare (bare pair List.mem_cons_self)
      simp only [Reader.otherStarts, List.mem_cons, List.not_mem_nil, or_false, not_or] at ordinary
      simp only [bindingLines, List.flatMap_cons, bindingLine, spelled, List.cons_append]
      rw [withoutMark]
      rintro rest ⟨⟩
      simp at ordinary

/-- A document that binds different names to texts, and nothing else, is read back entry by entry. -/
theorem read_bindingLines (bare : ∀ pair ∈ pairs, BareName pair.1)
    (distinct : (pairs.map Prod.fst).Nodup) :
    ∃ entries : Entries, read (bindingLines pairs) = some entries ∧
      List.Forall₂ (fun pair entry => entry.Binds pair.1 pair.2) pairs entries := by
  obtain ⟨bound, binds, reads⟩ := lines_bindingLines bare
  obtain ⟨entries, bindsEntries, puts⟩ :=
    Entries.putAll_of_binds binds distinct [] fun _ member => nomatch member
  refine ⟨entries, ?_, bindsEntries⟩
  rw [read, withoutMark_bindingLines bare, reads]
  simp only [Option.bind_eq_bind, Option.bind_some, ofLines, bindings_assignments, puts,
    placeAll_assignments]
  rfl

end Document

end ObjectVault.Toml
