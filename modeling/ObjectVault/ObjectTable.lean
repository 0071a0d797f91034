import ObjectVault.Action
import ObjectVault.Table

/-!
# Object tables

Where a trusted service keeps its objects: three actions over some state. `inMemory` is the table
whose state is a finite map; its actions never fail and report nothing.
-/

namespace ObjectVault

/-- A keeper of objects by id. -/
structure ObjectTable (σ : Type) where
  /-- The bytes stored for an id, if any are. -/
  load : Bytes → Action σ (Except Failure (Option Bytes))
  /-- Stores bytes for an id, in place of any earlier ones. -/
  store : Bytes → Bytes → Action σ (Except Failure Unit)
  /-- Removes what is stored for an id, and says whether anything was. -/
  remove : Bytes → Action σ (Except Failure Bool)

namespace ObjectTable

def inMemory : ObjectTable (Table Bytes Bytes) where
  load id := do
    let table ← Action.get
    return .ok (table.lookup id)
  store id data := do
    Action.modify (·.insert id data)
    return .ok ()
  remove id := do
    let table ← Action.get
    Action.set (table.erase id)
    return .ok (table.lookup id).isSome

end ObjectTable

end ObjectVault
