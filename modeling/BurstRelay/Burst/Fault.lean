import BurstRelay.Wire.Fault

/-!
# Burst faults

What can be wrong with one burst: its header, its declared size, its compressed body or the record
inside it. None of these stops the relay; the burst is skipped, and the fault says enough to tell a
truncated transmission from a corrupt header.
-/

namespace BurstRelay

/-- What a malformed header looks like it came from. -/
inductive Diagnosis where
  /-- There is no payload at all. -/
  | empty
  /-- The payload ends with its header or inside it. -/
  | headerOnly
  /-- The compressed size would fit if its bytes were reversed. -/
  | byteOrder
  /-- The payload is shorter than its header says. -/
  | truncated
  /-- The payload is longer than its header says. -/
  | trailing
  deriving DecidableEq, Repr

def Diagnosis.message : Diagnosis → String
  | empty => "empty payload frame"
  | headerOnly => "payload not longer than the 8-byte header"
  | byteOrder => "byte order (endianness) mismatch"
  | truncated => "body truncated in transit"
  | trailing => "trailing bytes after declared body or corrupt header"

/-- Why a block codec did not produce a record. -/
inductive CodecFault where
  /-- The codec refused the body, for a reason of its own. -/
  | refused (reason : String)
  /-- The codec succeeded without producing a byte. -/
  | nothingProduced
  /-- The codec claims more bytes than there was room for. -/
  | overreported (produced room : Nat)
  deriving DecidableEq, Repr

def CodecFault.message : CodecFault → String
  | refused reason => reason
  | nothingProduced => "codec produced no bytes"
  | overreported produced room => s!"codec reported {produced} bytes for a {room} byte buffer"

/-- Why a burst is skipped. -/
inductive BurstFault where
  /-- The payload does not have the length that its header calls for. -/
  | malformedHeader (payloadLength : Nat) (declaredCompressed : Option UInt32)
      (diagnosis : Diagnosis)
  /-- The declared size of the record is above the bound. -/
  | declaredTooLarge (declared limit : UInt32)
  /-- The body could not be decompressed. -/
  | codecFailure (codec : String) (cause : CodecFault) (bodyLength : Nat)
  /-- The body was decompressed to another size than the declared one. -/
  | sizeMismatch (declared : UInt32) (produced : Nat)
  /-- The record is not a container of telemetry frames. -/
  | undecodable (cause : Wire.Fault) (recordLength : Nat)
  deriving DecidableEq, Repr

namespace BurstFault

/-- The short, stable name of a fault, under which it is counted. -/
def kind : BurstFault → String
  | malformedHeader .. => "malformed_header"
  | declaredTooLarge .. => "declared_size_too_large"
  | codecFailure .. => "codec_failure"
  | sizeMismatch .. => "size_mismatch"
  | undecodable .. => "container"

/-- The wording of a compressed size that may be unknown. -/
private def sizeText : Option UInt32 → String
  | some size => s!"Some({size})"
  | none => "None"

def message : BurstFault → String
  | malformedHeader payloadLength declaredCompressed diagnosis =>
    s!"Malformed burst header: payload {payloadLength} bytes, " ++
      s!"declared compressed {sizeText declaredCompressed} (cause: {diagnosis.message})"
  | declaredTooLarge declared limit =>
    s!"Declared uncompressed size {declared} exceeds bound {limit}"
  | codecFailure codec cause bodyLength =>
    s!"Codec failure: {codec}: {cause.message} (compressed: {bodyLength} bytes)"
  | sizeMismatch declared produced =>
    s!"Decompressed size mismatch: header declared {declared} bytes, codec produced {produced}"
  | undecodable cause recordLength =>
    s!"Container decode failed: {cause.message} (record: {recordLength} bytes)"

end BurstFault

end BurstRelay
