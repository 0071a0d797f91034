import ObjectVault.Text.Quoted

/-!
# Operations

A command travels with four slots. A slot is absent, holds bytes for the backend to read, or is a
buffer for the backend to write, with a size that starts as the buffer's length and comes back as the
number of bytes written or needed.

`Operation.updated` says what a host sees of the slots that a backend hands back: an output buffer
takes what was written over its start and keeps its length, whatever the backend did.
-/

namespace ObjectVault

/-! ### Slots -/

/-- What a slot is declared as. -/
inductive SlotKind where
  | absent
  | input
  | output
  deriving DecidableEq, Repr

def SlotKind.debug : SlotKind → String
  | .absent => "None"
  | .input => "MemrefTempInput"
  | .output => "MemrefTempOutput"

/-- One of the four parameters of a command. -/
inductive Slot where
  | absent
  /-- Bytes that the backend only reads. -/
  | input (data : Bytes)
  /-- A buffer that the backend fills, and the size that it reports. -/
  | output (buffer : Bytes) (size : Nat)
  deriving DecidableEq, Repr

namespace Slot

/-- A fresh output slot: its size is the length of its buffer. -/
def ofBuffer (buffer : Bytes) : Slot := .output buffer buffer.length

def kind : Slot → SlotKind
  | .absent => .absent
  | .input _ => .input
  | .output _ _ => .output

def input? : Slot → Option Bytes
  | .input data => some data
  | _ => none

def size? : Slot → Option Nat
  | .output _ size => some size
  | _ => none

def buffer? : Slot → Option Bytes
  | .output buffer _ => some buffer
  | _ => none

/-- The slot that was sent, after the backend handed `returned` back. -/
def updated : (sent returned : Slot) → Slot
  | .output buffer _, .output written size => .output (buffer.overwrite written) size
  | sent, _ => sent

def debugBytes (bytes : Bytes) : String := Text.list (bytes.map fun b => toString b.toNat)

def debug : Slot → String
  | .absent => "None"
  | .input data => Text.tagged "TempInput" (debugBytes data)
  | .output buffer size =>
      Text.record "TempOutput" [("buffer", debugBytes buffer), ("size", toString size)]

end Slot

/-! ### Operations -/

/-- The four slots of a command. -/
structure Operation where
  first : Slot
  second : Slot
  third : Slot
  fourth : Slot
  deriving DecidableEq, Repr

namespace Operation

def slots (op : Operation) : List Slot := [op.first, op.second, op.third, op.fourth]

def kinds (op : Operation) : List SlotKind := op.slots.map Slot.kind

def slot? (op : Operation) (index : Nat) : Option Slot := op.slots[index]?

/-- The operation that was sent, after the backend handed `returned` back. -/
def updated (sent returned : Operation) : Operation where
  first := sent.first.updated returned.first
  second := sent.second.updated returned.second
  third := sent.third.updated returned.third
  fourth := sent.fourth.updated returned.fourth

def debug (op : Operation) : String :=
  Text.record "Operation" [("params", Text.list (op.slots.map Slot.debug))]

end Operation

end ObjectVault
