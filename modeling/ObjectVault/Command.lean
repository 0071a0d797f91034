/-!
# Commands and logins

What a trusted service can be asked to do, and how a host presents itself to it.
-/

namespace ObjectVault

/-- A command of the secure storage service. -/
inductive Command where
  | readRaw
  | writeRaw
  | delete
  deriving DecidableEq, Repr

namespace Command

/-- The commands, in the order of their numbers. -/
def all : List Command := [.readRaw, .writeRaw, .delete]

theorem mem_all (command : Command) : command ∈ all := by
  cases command <;> decide

def id : Command → UInt32
  | .readRaw => 0
  | .writeRaw => 1
  | .delete => 2

/-- The command that a number stands for. -/
def ofId? (id : UInt32) : Option Command :=
  if id = 0 then some .readRaw
  else if id = 1 then some .writeRaw
  else if id = 2 then some .delete
  else none

/-- A command is found by its number. -/
theorem ofId?_id (command : Command) : ofId? command.id = some command := by
  cases command <;> rfl

/-- A number that is known is that of its command. -/
theorem id_of_ofId? {number : UInt32} {command : Command} (known : ofId? number = some command) :
    command.id = number := by
  grind [ofId?, id]

def name : Command → String
  | .readRaw => "READ_RAW"
  | .writeRaw => "WRITE_RAW"
  | .delete => "DELETE"

def debug : Command → String
  | .readRaw => "ReadRaw"
  | .writeRaw => "WriteRaw"
  | .delete => "Delete"

end Command

/-- How a host presents itself when it opens a session. -/
inductive Login where
  /-- Without a credential. -/
  | anyone
  | user
  | group
  | application
  deriving DecidableEq, Repr

namespace Login

instance : Inhabited Login := ⟨.anyone⟩

/-- The logins, in the order of their numbers. -/
def all : List Login := [.anyone, .user, .group, .application]

theorem mem_all (login : Login) : login ∈ all := by
  cases login <;> decide

def number : Login → UInt32
  | .anyone => 0
  | .user => 1
  | .group => 2
  | .application => 4

/-- The name of a login in settings. -/
def name : Login → String
  | .anyone => "public"
  | .user => "user"
  | .group => "group"
  | .application => "application"

def debug : Login → String
  | .anyone => "Public"
  | .user => "User"
  | .group => "Group"
  | .application => "Application"

end Login

end ObjectVault
