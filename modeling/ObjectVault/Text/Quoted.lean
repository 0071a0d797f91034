import ObjectVault.Text.Printable
import ObjectVault.Text.Utf8

/-!
# Quoted text and records

How values are shown in diagnostics. A text stands between double quotes, with the quote, the
backslash and every character without a visible form of its own escaped; a byte string is shown the
same way, its broken stretches in hexadecimal. A record is its name and its fields in braces.
-/

namespace ObjectVault.Text

/-! ### Numbers in hexadecimal -/

/-- The lower-case hexadecimal digits of a number, without leading zeros. -/
def hexNat (n : Nat) : String := String.ofList ((Nat.toDigits 16 n))

/-! ### Escapes -/

/-- The escape `\u` with the code point in braces. -/
def escapeCode (c : Char) : List Char :=
  "\\u\x7b".toList ++ (Nat.toDigits 16 c.toNat) ++ ['\x7d']

/-- One character inside double quotes. -/
def escapeChar (c : Char) : List Char :=
  if c = '\x00' then ['\\', '0']
  else if c = '\t' then ['\\', 't']
  else if c = '\r' then ['\\', 'r']
  else if c = '\n' then ['\\', 'n']
  else if c = '"' then ['\\', '"']
  else if c = '\\' then ['\\', '\\']
  else if extendsGrapheme c || !isPrintable c then escapeCode c
  else [c]

def quoted (text : String) : String :=
  String.ofList ('"' :: text.toList.flatMap escapeChar ++ ['"'])

/-! ### Byte strings -/

/-- A byte of a broken stretch: `\x` and two upper-case hexadecimal digits. -/
def escapeByte (b : UInt8) : List Char :=
  ['\\', 'x'] ++ (Bytes.hexDigits [b]).map Char.toUpper

/-- One piece of a byte string inside double quotes. -/
def escapePiece : Utf8.Piece → List Char
  | .char c => escapeChar c
  | .broken bytes => bytes.flatMap escapeByte

def quotedBytes (bytes : Bytes) : String :=
  String.ofList ('"' :: (Utf8.pieces bytes).flatMap escapePiece ++ ['"'])

/-! ### Composite values -/

def commaSeparated (items : List String) : String := String.intercalate ", " items

def list (items : List String) : String := "[" ++ commaSeparated items ++ "]"

def tagged (name value : String) : String := name ++ "(" ++ value ++ ")"

def record (name : String) (fields : List (String × String)) : String :=
  name ++ " \x7b " ++ commaSeparated (fields.map fun field => field.1 ++ ": " ++ field.2) ++ " \x7d"

end ObjectVault.Text
