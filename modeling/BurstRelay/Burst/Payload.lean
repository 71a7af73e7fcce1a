import BurstRelay.Bytes.Word
import BurstRelay.Burst.Fault

/-!
# Burst payloads

A payload is an eight-byte header and a compressed body:

* the size of the record inside, four bytes, lowest first;
* the size of the body, four bytes, lowest first;
* the body, at least one byte of it.

`Payload.parse` accepts exactly what `Payload.encode` writes. It runs before anything is allocated
or decompressed, and looks at lengths alone; the bound on the declared size is a policy of the relay
and is checked apart, by `Header.checkDeclared`.
-/

namespace BurstRelay

/-- The header of a burst. -/
structure Header where
  /-- The size that the record claims to have. -/
  declaredUncompressed : UInt32
  /-- The size that the body claims to have. -/
  declaredCompressed : UInt32
  deriving DecidableEq, Repr

namespace Header

/-- The number of bytes of a header. -/
def size : Nat := 8

def encode (header : Header) : Bytes :=
  Bytes.littleEndian 4 header.declaredUncompressed.toNat ++
    Bytes.littleEndian 4 header.declaredCompressed.toNat

/-- The header at the start of some bytes, if there are enough of them. -/
def decode? : Bytes → Option Header
  | a :: b :: c :: d :: e :: f :: g :: h :: _ => some
    { declaredUncompressed := UInt32.ofNat (Bytes.ofLittleEndian [a, b, c, d])
      declaredCompressed := UInt32.ofNat (Bytes.ofLittleEndian [e, f, g, h]) }
  | _ => none

/-- The length of the payload that a header describes. -/
def payloadLength (header : Header) : Nat := header.declaredCompressed.toNat + size

/-- The header of a record of the declared size, if the declared size is within the limit. -/
def checkDeclared (header : Header) (limit : UInt32) : Except BurstFault Unit :=
  if limit < header.declaredUncompressed then
    .error (.declaredTooLarge header.declaredUncompressed limit)
  else .ok ()

end Header

/-- A payload whose header agrees with its length. -/
structure Payload where
  header : Header
  body : Bytes
  deriving DecidableEq, Repr

namespace BurstFault

/-- The fault of a payload that has no body. -/
def shortPayload (payloadLength : Nat) : BurstFault :=
  .malformedHeader payloadLength none (if payloadLength = 0 then .empty else .headerOnly)

/-- The number whose four bytes are those of `word` in reverse order. -/
def reversedWord (word : UInt32) : Nat :=
  Bytes.ofBigEndian (Bytes.littleEndian 4 word.toNat)

/-- The fault of a payload whose length is not the one that its header describes. -/
def lengthMismatch (payloadLength : Nat) (declaredCompressed : UInt32) : BurstFault :=
  let bodyLength := payloadLength - Header.size
  .malformedHeader payloadLength (some declaredCompressed)
    (if reversedWord declaredCompressed = bodyLength then .byteOrder
     else if bodyLength < declaredCompressed.toNat then .truncated
     else .trailing)

end BurstFault

namespace Payload

/-- Reads a payload: a header, and a body of exactly the size that the header declares. -/
def parse (payload : Bytes) : Except BurstFault Payload :=
  let length := payload.length
  if length ≤ Header.size then .error (.shortPayload length)
  else
    match Header.decode? payload with
    | none => .error (.shortPayload length)
    | some header =>
      if length = header.payloadLength then .ok ⟨header, payload.drop Header.size⟩
      else .error (.lengthMismatch length header.declaredCompressed)

/-- Writes the payload of a compressed body and of the size of the record inside it. -/
def encode (declaredUncompressed : UInt32) (body : Bytes) : Bytes :=
  Header.encode ⟨declaredUncompressed, UInt32.ofNat body.length⟩ ++ body

end Payload

end BurstRelay
