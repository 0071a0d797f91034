import ObjectVault.Backend

/-!
# The scripted backend

A backend without objects: how it answers each kind of call is written in its state. It can fail at
any step with any failure, and it can write any bytes into the read buffer and report any size,
whether it then fails or not.
-/

namespace ObjectVault

/-- How a scripted backend answers. -/
structure Script where
  connect : Option Failure
  openSession : Option Failure
  invoke : Option Failure
  /-- What it writes over the start of the buffer in the second slot. -/
  written : Bytes
  /-- The size that it reports for the second slot, where it reports one. -/
  size : Option Nat

namespace Script

def answer {α : Type} (failure : Option Failure) (value : α) : Except Failure α :=
  match failure with
  | some failure => .error failure
  | none => .ok value

/-- What the script does to a slot, if it is an output. -/
def fill (script : Script) : Slot → Slot
  | .output buffer size => .output (buffer.overwrite script.written) (script.size.getD size)
  | slot => slot

/-- The backend that follows the script in its state. -/
def backend : Backend Script Unit Unit where
  connect := return answer (← Action.get).connect ()
  openSession _ _ _ := return answer (← Action.get).openSession ()
  invoke _ _ op := do
    let script ← Action.get
    return (answer script.invoke (), { op with second := script.fill op.second })
  closeSession _ _ := return ()
  finalize _ := return ()

end Script

end ObjectVault
