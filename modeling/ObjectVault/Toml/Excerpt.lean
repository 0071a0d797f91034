import ObjectVault.Text.Utf8
import ObjectVault.Toml.Value

/-!
# Excerpts

A message about a stretch of a TOML text shows the line where the stretch starts and marks the
stretch in it, as far as that line goes. Lines and columns count from one, columns in characters; the
marks count bytes.
-/

namespace ObjectVault.Toml

/-- A position in a text, and the line that it is in. -/
structure Position where
  /-- How many lines stand before. -/
  line : Nat
  /-- How many characters of the line stand before. -/
  column : Nat
  /-- The line without the line feed that ends it. -/
  content : List Char

def positionAt (text : List Char) (left : Nat) : Position :=
  let before := text.take (text.length - left)
  let after := text.drop (text.length - left)
  let start := (before.reverse.takeWhile (· ≠ '\n')).reverse
  ⟨before.count '\n', start.length, start ++ after.takeWhile (· ≠ '\n')⟩

/-- How many bytes of a stretch are marked: those in its first line, and at least one. -/
def marked (text : List Char) (span : Span) (position : Position) : Nat :=
  let stretch := (text.drop (text.length - span.start)).take (span.start - span.stop)
  let size (chars : List Char) : Nat := (Utf8.encode chars).length
  max 1 (min (size stretch) (size position.content - position.column))

/-- A message under the line that it is about. -/
def excerpt (text : List Char) (span : Span) (message : String) : String :=
  let position := positionAt text span.start
  let number := toString (position.line + 1)
  let blanks (n : Nat) : String := String.ofList (List.replicate n ' ')
  let gutter := blanks (number.length + 1) ++ "|"
  String.intercalate "\n" [
    "TOML parse error at line " ++ number ++ ", column " ++ toString (position.column + 1),
    gutter,
    number ++ " | " ++ String.ofList position.content,
    gutter ++ blanks (position.column + 1)
      ++ String.ofList (List.replicate (marked text span position) '^'),
    message,
    ""]

end ObjectVault.Toml
