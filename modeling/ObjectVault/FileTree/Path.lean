import ObjectVault.Text.Utf8

/-!
# Paths

A path is a byte sequence that names a place in a file tree: names with slashes between, from the root
where it starts with a slash, and from the current directory otherwise. What a file system refuses
about paths and places is a `FileError`.
-/

namespace ObjectVault

inductive FileError where
  | notFound
  /-- A file stands where a directory is to be made. -/
  | occupied
  | notDirectory
  | isDirectory
  /-- A path, or a name in it, is too long. -/
  | nameTooLong
  /-- A path holds a NUL. -/
  | badPath
  /-- A file that is read as text holds something else. -/
  | notText
  deriving DecidableEq, Repr

def FileError.message : FileError → String
  | .notFound => "No such file or directory (os error 2)"
  | .occupied => "File exists (os error 17)"
  | .notDirectory => "Not a directory (os error 20)"
  | .isDirectory => "Is a directory (os error 21)"
  | .nameTooLong => "File name too long (os error 36)"
  | .badPath => "file name contained an unexpected NUL byte"
  | .notText => "stream did not contain valid UTF-8"

/-- The name of a file or a directory in its directory. -/
abbrev Name := Bytes

def slash : UInt8 := 0x2F

/-- The longest path, in bytes. -/
def maxPathLength : Nat := 4095

/-- The longest name, in bytes. -/
def maxNameLength : Nat := 255

/-- A path, taken apart. -/
structure Path where
  /-- Whether it starts at the root. -/
  absolute : Bool
  names : List Name
  /-- Whether it ends in a slash, so that it can only name a directory. -/
  closed : Bool
  deriving DecidableEq

namespace Path

/-- The pieces of a byte sequence between slashes. -/
def pieces (bytes : Bytes) : List Name :=
  match bytes with
  | [] => [[]]
  | b :: rest =>
      if b = slash then [] :: pieces rest
      else
        match pieces rest with
        | [] => [[b]]
        | first :: others => (b :: first) :: others

def ofBytes (bytes : Bytes) : Except FileError Path :=
  if 0 ∈ bytes then .error .badPath
  else if bytes = [] then .error .notFound
  else if maxPathLength < bytes.length then .error .nameTooLong
  else .ok {
    absolute := bytes.head? = some slash
    names := (pieces bytes).filter (· ≠ [])
    closed := bytes.getLast? = some slash }

def child (directory : Bytes) (name : Name) : Bytes :=
  if directory = [] ∨ directory.getLast? = some slash then directory ++ name
  else directory ++ slash :: name

def here : Name := Utf8.ofText "."

def above : Name := Utf8.ofText ".."

end Path

end ObjectVault
