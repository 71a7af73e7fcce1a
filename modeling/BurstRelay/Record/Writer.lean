import BurstRelay.Record.Framing
import BurstRelay.Stream.Sink

/-!
# Writing records

A writer offers a record to its sink in two parts, the second being the record itself in binary form
and the end of the line in hexadecimal form, and then flushes, so that a consumer sees the record at
once. A record counts as written when both parts were taken and the flush succeeded. Whatever
happens, the sink keeps what it took.
-/

namespace BurstRelay

/-- A writer of records with its sink. -/
structure RecordWriter where
  sink : Sink
  format : RecordFormat
  /-- The records written so far. -/
  written : Nat := 0

namespace RecordWriter

/-- Offers the parts of a record to the sink in turn. -/
def offer (sink : Sink) : List Bytes → Except Fault Unit × Sink
  | [] => (.ok (), sink)
  | part :: parts =>
    match sink.writeAll part with
    | (.ok (), sink) => offer sink parts
    | (.error fault, sink) => (.error fault, sink)

/-- The parts of a record in a format; a record whose length does not fit four bytes has none. -/
def parts (format : RecordFormat) (record : Bytes) : Except Fault (List Bytes) :=
  match format with
  | .binary =>
    let length := record.length
    if length < UInt32.size then .ok [Bytes.bigEndian Record.lengthSize length, record]
    else .error ⟨.invalidInput, s!"record of {length} bytes exceeds u32 framing"⟩
  | .hex => .ok [Hex.ascii record, [10]]

/-- Writes one record and flushes. -/
def write (writer : RecordWriter) (record : Bytes) : Except Fault Unit × RecordWriter :=
  match parts writer.format record with
  | .error fault => (.error fault, writer)
  | .ok parts =>
    match offer writer.sink parts with
    | (.error fault, sink) => (.error fault, { writer with sink })
    | (.ok (), sink) =>
      match sink.flush with
      | (.error fault, sink) => (.error fault, { writer with sink })
      | (.ok (), sink) => (.ok (), { writer with sink, written := writer.written + 1 })

/-- Writes records in turn, up to the first that fails, and counts those written. -/
def writeEach (writer : RecordWriter) : List Bytes → Except Fault Unit × RecordWriter
  | [] => (.ok (), writer)
  | record :: records =>
    match writer.write record with
    | (.ok (), writer) => writer.writeEach records
    | (.error fault, writer) => (.error fault, writer)

end RecordWriter

end BurstRelay
