import AeadEnvelope.Binary.Bytes
import AeadEnvelope.Fault

/-!
# Dialects

The first byte of a wire chooses its dialect, so no wire belongs to two of them.
-/
namespace AeadEnvelope

/-- A way of laying out a context and a ciphertext as bytes. -/
inductive Dialect where
  /-- Tagged sections behind a mask of well-known keys, read but no longer written. -/
  | legacy
  /-- Tagged sections with lengths. -/
  | current
  /-- Associated data with their length in base 128 before the ciphertext. -/
  | varint
deriving DecidableEq

namespace Dialect

/-- First byte of a wire in the dialect. -/
def versionByte : Dialect → UInt8
  | legacy => 0x01
  | current => 0x02
  | varint => 0xEE

/-- Name of the dialect in messages. -/
def name : Dialect → String
  | legacy => "tag-length v1 (legacy)"
  | current => "tag-length v2"
  | varint => "varint"

/-- The dialect that a first byte chooses. -/
def ofByte (byte : UInt8) : Except Fault Dialect :=
  if byte = versionByte legacy then .ok legacy
  else if byte = versionByte current then .ok current
  else if byte = versionByte varint then .ok varint
  else .error (.unsupportedVersion byte)

/-- The dialect of a wire. -/
def detect : Bytes → Except Fault Dialect
  | [] => .error (.malformed .emptyPacket)
  | first :: _ => ofByte first

/-- Every dialect is chosen by its first byte. -/
theorem ofByte_versionByte (dialect : Dialect) : ofByte dialect.versionByte = .ok dialect := by
  cases dialect <;> rfl

end Dialect

end AeadEnvelope
