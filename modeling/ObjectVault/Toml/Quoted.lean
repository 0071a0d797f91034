import ObjectVault.Bytes

/-!
# Quoted strings

TOML has four ways to quote a string: between quotes with escapes, or between apostrophes without; on
one line, or, between three marks, on several. `Style` describes the four, `scan` reads the inside of
any of them, and `write` takes the plainest style that can hold a text.
-/

namespace ObjectVault.Toml

/-! ### Characters and line ends -/

def apostrophe : Char := '\x27'

/-- The two characters that may stand between the parts of a line. -/
def isBlank (c : Char) : Bool := c = ' ' || c = '\t'

/-- The characters that a comment or a string may hold as they are: all but the controls, of which
only the tab is allowed. -/
def isPlain (c : Char) : Bool := c = '\t' || (' ' ≤ c && c ≠ '\x7f')

def afterNewline? : List Char → Option (List Char)
  | '\n' :: rest => some rest
  | '\r' :: '\n' :: rest => some rest
  | _ => none

def skipWhite : List Char → List Char
  | '\r' :: '\n' :: rest => skipWhite rest
  | c :: rest => if isBlank c || c = '\n' then skipWhite rest else c :: rest
  | [] => []

theorem length_afterNewline? {chars rest : List Char} (found : afterNewline? chars = some rest) :
    rest.length < chars.length := by
  unfold afterNewline? at found
  split at found <;> grind

theorem length_skipWhite_le (chars : List Char) : (skipWhite chars).length ≤ chars.length := by
  fun_induction skipWhite chars <;> simp_all <;> omega

/-! ### Styles -/

/-- A way to quote a string. -/
structure Style where
  mark : Char
  /-- Whether a backslash starts an escape. -/
  escapes : Bool
  /-- Whether three marks enclose the string, and line ends may stand in it. -/
  multiline : Bool
  deriving DecidableEq

namespace Style

def basic : Style := ⟨'"', true, false⟩
def literal : Style := ⟨apostrophe, false, false⟩
def longBasic : Style := ⟨'"', true, true⟩
def longLiteral : Style := ⟨apostrophe, false, true⟩

/-- What stands before and behind a string. -/
def fence (style : Style) : List Char := List.replicate (if style.multiline then 3 else 1) style.mark

end Style

/-! ### Reading -/

/-- The character with the code point that hexadecimal digits spell. -/
def codePoint? (digits : List Char) : Option Char := do
  let values ← digits.mapM Bytes.hexValue?
  let code := values.foldl (fun code value => code * 16 + value) 0
  if code.isValidChar then some (Char.ofNat code) else none

/-- The character that an escape stands for, and what follows it; the backslash is read already. -/
def escape? : List Char → Option (Char × List Char)
  | 'b' :: rest => some ('\x08', rest)
  | 't' :: rest => some ('\t', rest)
  | 'n' :: rest => some ('\n', rest)
  | 'f' :: rest => some ('\x0c', rest)
  | 'r' :: rest => some ('\r', rest)
  | '"' :: rest => some ('"', rest)
  | '\\' :: rest => some ('\\', rest)
  | 'u' :: a :: b :: c :: d :: rest => (codePoint? [a, b, c, d]).map (·, rest)
  | 'U' :: a :: b :: c :: d :: e :: f :: g :: h :: rest =>
      (codePoint? [a, b, c, d, e, f, g, h]).map (·, rest)
  | _ => none

/-- What follows a backslash at the end of a line: it takes all white space after it away. -/
def afterContinuation? (chars : List Char) : Option (List Char) :=
  (afterNewline? (chars.dropWhile isBlank)).map skipWhite

theorem length_escape? {chars rest : List Char} {c : Char} (found : escape? chars = some (c, rest)) :
    rest.length < chars.length := by
  unfold escape? at found
  split at found <;> simp_all <;> grind

theorem length_dropWhile_le (p : Char → Bool) (chars : List Char) :
    (chars.dropWhile p).length ≤ chars.length :=
  (List.dropWhile_sublist p).length_le

theorem length_afterContinuation? {chars rest : List Char}
    (found : afterContinuation? chars = some rest) : rest.length < chars.length := by
  obtain ⟨after, next, rfl⟩ := Option.map_eq_some_iff.mp found
  have h₁ := length_afterNewline? next
  have h₂ := length_dropWhile_le isBlank chars
  have h₃ := length_skipWhite_le after
  omega

/-- Puts a character before what has been read. -/
def consRead (c : Char) (read : Option (List Char × List Char)) : Option (List Char × List Char) :=
  read.map fun read => (c :: read.1, read.2)

/-- Reads the inside of a string up to its closing marks, and gives what follows them. Up to two more
marks before three closing ones belong to the string. -/
def scan (style : Style) : List Char → Option (List Char × List Char)
  | [] => none
  | c :: rest =>
      if c = style.mark then
        if style.multiline then
          let run := ((c :: rest).takeWhile (· = style.mark)).length
          if run < 3 then consRead c (scan style rest)
          else if run ≤ 5 then some (List.replicate (run - 3) c, (c :: rest).drop run)
          else none
        else some ([], rest)
      else if c = '\\' ∧ style.escapes then
        match _h : escape? rest with
        | some (escaped, rest) => consRead escaped (scan style rest)
        | none =>
            if style.multiline then
              match _h : afterContinuation? rest with
              | some rest => scan style rest
              | none => none
            else none
      else if isPlain c then consRead c (scan style rest)
      else if style.multiline then
        match _h : afterNewline? (c :: rest) with
        | some rest => consRead '\n' (scan style rest)
        | none => none
      else none
termination_by chars => chars.length
decreasing_by
  · exact Nat.lt_succ_self _
  · exact Nat.lt_succ_of_lt (length_escape? (by assumption))
  · exact Nat.lt_succ_of_lt (length_afterContinuation? (by assumption))
  · exact Nat.lt_succ_self _
  · exact length_afterNewline? (by assumption)

def readShort (chars : List Char) : Option (List Char × List Char) :=
  match chars with
  | [] => none
  | c :: rest =>
      if c = '"' then scan .basic rest
      else if c = apostrophe then scan .literal rest
      else none

/-- Reads a string in any style. A line end right behind three opening marks does not count. -/
def readString (chars : List Char) : Option (List Char × List Char) :=
  let inside (style : Style) := (afterNewline? (chars.drop 3)).getD (chars.drop 3) |> scan style
  if Style.longBasic.fence.isPrefixOf chars then inside .longBasic
  else if Style.longLiteral.fence.isPrefixOf chars then inside .longLiteral
  else readShort chars

/-! ### Writing -/

/-- The controls that only an escape can bring into a string. -/
def needsEscape (c : Char) : Bool := !isPlain c && c ≠ '\n'

/-- The length of the longest run of a character. -/
def longestRun (c : Char) (text : List Char) : Nat :=
  (text.foldl (fun (longest, run) d =>
    if d = c then (max longest (run + 1), run + 1) else (longest, 0)) (0, 0)).1

/-- The style in which a text is written: the first that needs no escapes but for tabs, of short
basic, short literal, long basic and long literal; failing these, a basic one with escapes. -/
def styleFor (text : List Char) : Style :=
  let controls := text.any needsEscape
  let backslash := text.contains '\\'
  let newline := text.contains '\n'
  let quotes := longestRun '"' text
  let apostrophes := longestRun apostrophe text
  if !controls && !backslash && quotes = 0 && !newline then .basic
  else if !controls && apostrophes = 0 && !newline then .literal
  else if !controls && !backslash && quotes ≤ 2 then .longBasic
  else if !controls && apostrophes ≤ 2 then .longLiteral
  else if newline then .longBasic
  else .basic

def escapeCode (c : Char) : List Char :=
  "\\u00".toList ++ (Bytes.hexDigits [UInt8.ofNat c.toNat]).map Char.toUpper

/-- One character of a basic string that is no quote. -/
def escapeChar (multiline : Bool) (c : Char) : List Char :=
  if c = '\x08' then ['\\', 'b']
  else if c = '\t' then ['\\', 't']
  else if c = '\n' then if multiline then [c] else ['\\', 'n']
  else if c = '\x0c' then ['\\', 'f']
  else if c = '\r' then ['\\', 'r']
  else if c = '\\' then ['\\', '\\']
  else if isPlain c then [c]
  else escapeCode c

/-- The inside of a basic string. A quote is escaped where one more would stand in a row than the
style allows; `run` counts those before it. -/
def escaped (multiline : Bool) : (run : Nat) → List Char → List Char
  | _, [] => []
  | run, c :: rest =>
      if c = '"' then
        if run < (if multiline then 2 else 0) then c :: escaped multiline (run + 1) rest
        else '\\' :: c :: escaped multiline 0 rest
      else escapeChar multiline c ++ escaped multiline 0 rest

/-- A text in quotes. A long string that holds a line end starts on a line of its own. -/
def write (text : List Char) : List Char :=
  let style := styleFor text
  let start := if style.multiline && text.contains '\n' then ['\n'] else []
  let inside := if style.escapes then escaped style.multiline 0 text else text
  style.fence ++ start ++ inside ++ style.fence

end ObjectVault.Toml
