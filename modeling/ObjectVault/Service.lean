import ObjectVault.ObjectTable

/-!
# The trusted service

What the secure storage service does with a command, as far as a host can tell: it checks the
command's number, then the kinds of the slots, then the length of the object id, and then acts on
its object table. A refused command leaves the slots alone, except that a read which finds more than
the buffer holds reports the size it needs.
-/

namespace ObjectVault.Service

/-- How the service answers a command: success, or a refusal. -/
abbrev Answer := Except Failure Unit

/-- The slots that a command expects. -/
def expectedKinds : Command → List SlotKind
  | .readRaw => [.input, .output, .absent, .absent]
  | .writeRaw => [.input, .input, .absent, .absent]
  | .delete => [.input, .absent, .absent, .absent]

def badParameters : Failure := .trustedApp .badParameters

def notFound : Failure := .trustedApp .itemNotFound

/-- The id in the first slot, where it is one the service takes. -/
def objectId? (op : Operation) : Option Bytes :=
  op.first.input?.filter fun id => !id.isEmpty && id.length ≤ maxKeyLength

/-- Puts stored bytes into the read buffer, or says how large a buffer they need. -/
def deliver (data : Bytes) (op : Operation) : Answer × Operation :=
  match op.second with
  | .output buffer _ =>
      if buffer.length < data.length then
        (.error (.trustedApp .shortBuffer), { op with second := .output buffer data.length })
      else (.ok (), { op with second := .output (buffer.overwrite data) data.length })
  | _ => (.error badParameters, op)

variable {σ : Type} (table : ObjectTable σ)

def read (id : Bytes) (op : Operation) : Action σ (Answer × Operation) := do
  match ← table.load id with
  | .error failure => return (.error failure, op)
  | .ok none => return (.error notFound, op)
  | .ok (some data) => return deliver data op

def write (id : Bytes) (op : Operation) : Action σ (Answer × Operation) :=
  match op.second.input? with
  | none => return (.error badParameters, op)
  | some data => do return (← table.store id data, op)

def delete (id : Bytes) (op : Operation) : Action σ (Answer × Operation) := do
  match ← table.remove id with
  | .error failure => return (.error failure, op)
  | .ok true => return (.ok (), op)
  | .ok false => return (.error notFound, op)

/-- Carries a known command out. -/
def perform (command : Command) (op : Operation) : Action σ (Answer × Operation) :=
  if op.kinds = expectedKinds command then
    match objectId? op with
    | none => return (.error badParameters, op)
    | some id =>
        match command with
        | .readRaw => read table id op
        | .writeRaw => write table id op
        | .delete => delete table id op
  else return (.error badParameters, op)

/-- Answers the command with the given number, and hands its slots back. -/
def dispatch (number : UInt32) (op : Operation) : Action σ (Answer × Operation) :=
  match Command.ofId? number with
  | none => return (.error badParameters, op)
  | some command => perform table command op

end ObjectVault.Service
