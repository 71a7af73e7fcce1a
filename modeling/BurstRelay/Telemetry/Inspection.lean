import BurstRelay.Record.Reader
import BurstRelay.Stream.Sink
import BurstRelay.Telemetry.Container

/-!
# Looking into records

A record that a relay wrote holds the frames of a burst, or one frame. Its frames can be gathered and
written again as one record, and the frames of a message can be written as they are, line by line.
-/

namespace BurstRelay

/-- What a record holds. -/
inductive RecordLayout where
  /-- A whole burst. -/
  | burst
  /-- One frame. -/
  | frame
  deriving DecidableEq, Repr

def RecordLayout.frames : RecordLayout → Bytes → Except BurstFault (List DataFrame)
  | burst, record => (DataBurst.ofRecord record).map DataBurst.frames
  | frame, record => (DataFrame.ofRecord record).map fun frame => [frame]

namespace DataBurst

/-- The frames of all records, each of which is passed over if it has none to show. -/
def gather (layout : RecordLayout) (records : List Bytes) : List DataFrame :=
  records.flatMap fun record => (layout.frames record).toOption.getD []

/-- The frames of all records of a stream, which has to end between two records. -/
def gatherStream (layout : RecordLayout) (source : Source) : Except Fault (List DataFrame) :=
  let (records, ending) := RecordReader.readAll { source }
  ending.map fun () => gather layout records

/-- The frames of all records of streams, in order. -/
def gatherStreams (layout : RecordLayout) (sources : List Source) :
    Except Fault (List DataFrame) :=
  (sources.mapM (gatherStream layout)).map List.flatten

/-- The bytes of one record in binary form that holds all frames. -/
def merged (frames : List DataFrame) : Bytes := Record.frame (DataBurst.toRecord ⟨frames⟩)

/-- Writes one record that holds all frames. -/
def writeMerged (sink : Sink) (frames : List DataFrame) : Except Fault Unit × Sink :=
  sink.writeAll (merged frames)

end DataBurst

namespace Watch

/-- Writes the frames of a message to a sink, each on a line of its own. -/
def writeLines (sink : Sink) : List Bytes → Except Fault Unit × Sink
  | [] => (.ok (), sink)
  | frame :: frames =>
    match sink.writeAll frame with
    | (.error fault, sink) => (.error fault, sink)
    | (.ok (), sink) =>
      match sink.writeAll [10] with
      | (.error fault, sink) => (.error fault, sink)
      | (.ok (), sink) => writeLines sink frames

/-- Writes a message to a sink and flushes. -/
def writeMessage (sink : Sink) (message : List Bytes) : Except Fault Unit × Sink :=
  match writeLines sink message with
  | (.error fault, sink) => (.error fault, sink)
  | (.ok (), sink) => sink.flush

end Watch

end BurstRelay
