import ObjectVault.Text.Quoted
import ObjectVault.ValueError

/-!
# Payloads

What an object holds: at most `objectCapacity` bytes, which the type says. A payload is sent filled
up with zeros to the full capacity, and read back as whatever the service reports, zeros included;
for text the part before the first NUL is what was put in.
-/

namespace ObjectVault

/-- The contents of an object. -/
structure Payload where
  bytes : Bytes
  fits : bytes.length ≤ objectCapacity
  deriving DecidableEq

namespace Payload

def empty : Payload := ⟨[], Nat.zero_le _⟩

instance : Inhabited Payload := ⟨empty⟩

def ofBytes (bytes : Bytes) : Except ValueError Payload :=
  if fits : bytes.length ≤ objectCapacity then .ok ⟨bytes, fits⟩
  else .error (.payloadTooLarge bytes.length)

def length (payload : Payload) : Nat := payload.bytes.length

/-- The bytes as they are sent: filled up with zeros to the capacity. -/
def padded (payload : Payload) : Bytes := payload.bytes.padded objectCapacity

def text (payload : Payload) : Bytes := payload.bytes.text

theorem length_padded (payload : Payload) : payload.padded.length = objectCapacity :=
  Bytes.length_padded payload.fits

theorem ofBytes_bytes (payload : Payload) : ofBytes payload.bytes = .ok payload := by
  simp [ofBytes, payload.fits]

def debug (payload : Payload) : String :=
  Text.record "ObjectPayload"
    [("len", toString payload.length), ("text_len", toString payload.text.length)]

end Payload

end ObjectVault
