import BurstRelay.Bytes.Hex
import BurstRelay.Bytes.Word

/-!
# Framing of output records

Records are written one after the other, so each has to say where it ends:

* in binary form a record comes after its length, which is four bytes, highest first;
* in hexadecimal form a record is a line of lowercase digits.
-/

namespace BurstRelay

/-- How records are framed. -/
inductive RecordFormat where
  | binary
  | hex
  deriving DecidableEq, Repr

namespace Record

/-- The number of bytes of the length before a record. -/
def lengthSize : Nat := 4

/-- A record in binary form. The length is cut to what four bytes can hold. -/
def frame (record : Bytes) : Bytes := Bytes.bigEndian lengthSize record.length ++ record

/-- A record in hexadecimal form. -/
def hexLine (record : Bytes) : Bytes := Hex.ascii record ++ [10]

def framed : RecordFormat → Bytes → Bytes
  | .binary, record => frame record
  | .hex, record => hexLine record

end Record

end BurstRelay
