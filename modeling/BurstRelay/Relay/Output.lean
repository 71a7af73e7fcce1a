import BurstRelay.Record.Writer
import BurstRelay.Settings.Basic
import BurstRelay.Telemetry.Container

/-!
# Output of verified records

A relay writes a verified record as it is, or as the records of its frames. In the latter case the
whole container is read before the first frame is written, so that a record that is no container
writes nothing.
-/

namespace BurstRelay

/-- A writer of records with the mode it writes in. -/
structure Output where
  writer : RecordWriter
  mode : OutputMode

/-- What came of writing a verified record. -/
inductive Emission where
  /-- So many output records were written. -/
  | wrote (records : Nat)
  /-- The record is no container, and nothing was written. -/
  | undecodable (fault : BurstFault)
  /-- The sink failed. -/
  | failed (fault : Fault)
  deriving DecidableEq, Repr

namespace Output

/-- An output that nothing was written to yet. -/
def ofSink (sink : Sink) (mode : OutputMode) : Output :=
  { writer := { sink, format := mode.format }, mode }

/-- The output records of a verified record in a mode. -/
def records (mode : OutputMode) (record : Bytes) : Except BurstFault (List Bytes) :=
  match mode with
  | .binary | .hex => .ok [record]
  | .frames => DataBurst.split record

/-- Writes one verified record. -/
def emit (output : Output) (record : Bytes) : Emission × Output :=
  match records output.mode record with
  | .error fault => (.undecodable fault, output)
  | .ok records =>
    match output.writer.writeEach records with
    | (.ok (), writer) => (.wrote records.length, { output with writer })
    | (.error fault, writer) => (.failed fault, { output with writer })

end Output

end BurstRelay
