import BurstRelay.Record.Framing
import BurstRelay.Stream.Source

/-!
# Reading records

A reader takes records in binary form from a source, one at a time. The stream may end between two
records, and nowhere else; a record whose length is above a limit is refused before it is read.
-/

namespace BurstRelay

/-- A reader of records with its source. -/
structure RecordReader where
  source : Source
  /-- The longest record that is accepted. -/
  longest : Nat := UInt32.size - 1

namespace RecordReader

/-- The stream ended inside the length of a record. -/
def cutLength : Fault := ⟨.unexpectedEnd, "stream ended inside a record length prefix"⟩

/-- A record is longer than accepted. -/
def tooLong (length longest : Nat) : Fault :=
  ⟨.invalidData, s!"record length {length} exceeds limit {longest}"⟩

/-- Reads one record; there is none at the end of the stream. -/
def read (reader : RecordReader) : Except Fault (Option Bytes) × RecordReader :=
  match reader.source.fill Record.lengthSize with
  | (.failed fault, _, source) => (.error fault, { reader with source })
  | (.ended, [], source) => (.ok none, { reader with source })
  | (.ended, _ :: _, source) => (.error cutLength, { reader with source })
  | (.full, lengthBytes, source) =>
    let length := Bytes.ofBigEndian lengthBytes
    if reader.longest < length then (.error (tooLong length reader.longest), { reader with source })
    else
      match source.fill length with
      | (.full, record, source) => (.ok (some record), { reader with source })
      | (.ended, _, source) => (.error .endedEarly, { reader with source })
      | (.failed fault, _, source) => (.error fault, { reader with source })

/-- Reads records up to the first result that is not one. Each record takes bytes of the source, so
that one step more than there are bytes is enough. -/
def readEach : Nat → RecordReader → List Bytes × Except Fault Unit
  | 0, _ => ([], .ok ())
  | fuel + 1, reader =>
    match reader.read with
    | (.ok (some record), reader) =>
      let (records, ending) := readEach fuel reader
      (record :: records, ending)
    | (.ok none, _) => ([], .ok ())
    | (.error fault, _) => ([], .error fault)

/-- All records of a source, and how the stream ended. -/
def readAll (reader : RecordReader) : List Bytes × Except Fault Unit :=
  readEach (reader.source.rest.length + 1) reader

end RecordReader

end BurstRelay
