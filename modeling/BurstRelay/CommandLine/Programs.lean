import BurstRelay.CommandLine.Parser
import BurstRelay.Settings.Overrides
import BurstRelay.Telemetry.Inspection
import BurstRelay.Telemetry.Text

/-!
# The programs and their arguments

Five programs share the library: two relays, which differ in what they write; one that prints the
records of a relay; one that generates bursts; and one that prints a stream of messages.
-/

namespace BurstRelay.CommandLine

def version : String := "0.1.0"

/-! ## Logging -/

/-- How a program logs. -/
structure LoggingArguments where
  verbose : Bool
  /-- Whether events are logged as JSON. -/
  json : Bool
  deriving DecidableEq, Repr

def loggingSwitches : List Switch :=
  [{ name := "verbose", letter := some 'v', purpose := "Verbose diagnostics (debug level)" },
    { name := "json-logs", purpose := "Enable JSON logging format" }]

/-- How a program logs by what was given. -/
def LoggingArguments.ofGiven (given : Given) : LoggingArguments where
  verbose := given.has "verbose"
  json := given.has "json-logs"

/-! ## Relays -/

/-- The options that override settings. -/
def overrideSwitches : List Switch :=
  [{ name := "config", letter := some 'c', effect := .value .path
     purpose := "Path to a TOML configuration file" },
    { name := "slow", letter := some 's', purpose := "Delay each acknowledgment by one second" },
    { name := "subscribe", letter := some 'b', excludes := ["impersonate"]
      purpose := "Subscribe passively instead of binding; never acknowledges" },
    { name := "impersonate", letter := some 'i'
      purpose := "Connect as the broker's consumer identity and acknowledge" },
    { name := "identity", effect := .value .text
      purpose := "Routing identity announced when impersonating" },
    { name := "prefix", effect := .value .text
      purpose := "Subscription prefix when observing passively" },
    { name := "ack-skipped", purpose := "Also acknowledge bursts that fail verification" },
    { name := "max-declared-size", effect := .value .word32
      purpose := "Largest declared uncompressed size to accept (0 = codec limit)" }]

def overridesOfGiven (given : Given) : Overrides where
  endpoint := given.text? "endpoint"
  config := given.text? "config"
  slow := given.has "slow"
  passive := given.has "subscribe"
  impersonate := given.has "impersonate"
  identity := given.text? "identity"
  subscribe := given.text? "prefix"
  ackSkipped := given.has "ack-skipped"
  maxDeclaredSize := (given.number? "max-declared-size").map UInt32.ofNat

/-- The arguments of a relay. -/
structure RelayArguments where
  overrides : Overrides
  /-- The output mode, if the program or an option fixes it. -/
  format : Option OutputMode
  dummy : Bool
  logging : LoggingArguments
  deriving DecidableEq, Repr

namespace RelayArguments

/-- What a relay takes without an option: its endpoint. -/
def endpoint : Operand where
  name := "endpoint"
  purpose := "ZeroMQ endpoint (overrides relay.endpoint)"

/-- What the relay of whole records takes. -/
def burstGrammar : Grammar where
  program := "burst-sink"
  version := some CommandLine.version
  purpose := "Verify diagnostic bursts and write their records to stdout"
  switches := overrideSwitches ++
    [{ name := "hex", letter := some 'x', purpose := "Write records as lowercase hex lines" },
      { name := "dummy", letter := some 'd'
        purpose := "Check headers only; skip decompression and output" }] ++
    loggingSwitches
  operand := some endpoint

/-- What the relay of single frames takes. -/
def frameGrammar : Grammar where
  program := "frame-sink"
  version := some CommandLine.version
  purpose := "Verify diagnostic bursts and write their frames to stdout"
  switches := overrideSwitches ++ loggingSwitches
  operand := some endpoint

/-- The arguments of the relay of whole records by what was given. -/
def burstOfGiven (given : Given) : RelayArguments where
  overrides := overridesOfGiven given
  format := if given.has "hex" then some .hex else none
  dummy := given.has "dummy"
  logging := .ofGiven given

/-- The arguments of the relay of single frames by what was given. -/
def frameOfGiven (given : Given) : RelayArguments where
  overrides := overridesOfGiven given
  format := some .frames
  dummy := false
  logging := .ofGiven given

/-- Reads the arguments of the relay of whole records. -/
def parseBurst (arguments : List String) : Parsed RelayArguments :=
  burstOfGiven <$> burstGrammar.parse arguments

def parseFrame (arguments : List String) : Parsed RelayArguments :=
  frameOfGiven <$> frameGrammar.parse arguments

/-- Loads, overrides and checks the settings of a relay. -/
def resolve (arguments : RelayArguments) (files : TextFiles)
    (environment : Environment.Variables) : Logged (Except ResolveFault Settings) :=
  arguments.overrides.resolve arguments.format arguments.dummy files environment

end RelayArguments

/-! ## Printing records -/

/-- The arguments of the program that prints records. -/
structure CatArguments where
  /-- The names of the files to read; the standard input if there are none. -/
  files : List String
  layout : RecordLayout
  /-- How frames are printed; not at all if they are merged into one record. -/
  style : Option TextStyle
  logging : LoggingArguments
  deriving DecidableEq, Repr

namespace CatArguments

/-- What the program that prints records takes. -/
def grammar : Grammar where
  program := "burst-cat"
  version := some CommandLine.version
  purpose := "Decode length-prefixed burst records and print their frames"
  switches :=
    [{ name := "no-burst"
       purpose := "Each record is a single DataFrame rather than a DataBurst" },
      { name := "json", purpose := "Print frames as JSON lines" },
      { name := "pb", excludes := ["json"]
        purpose := "Merge every frame into one DataBurst record instead of printing" }] ++
      loggingSwitches
  operand := some { name := "files", rule := .path, repeats := true
                    purpose := "Input files; stdin when none are given" }

/-- Reads the arguments of the program that prints records. -/
def parse (arguments : List String) : Parsed CatArguments := do
  let given ← grammar.parse arguments
  return {
    files := given.texts "files"
    layout := if given.has "no-burst" then .frame else .burst
    style :=
      if given.has "pb" then none
      else if given.has "json" then some .json
      else some .visible
    logging := .ofGiven given }

end CatArguments

/-! ## Generating bursts -/

/-- Where generated bursts go. -/
inductive GenDestination where
  /-- To the standard output, as payloads. -/
  | payloads
  /-- To the standard output, as records. -/
  | records
  /-- To one file each. -/
  | split (stem : String)
  /-- To a relay. -/
  | endpoint (endpoint : String)
  deriving DecidableEq, Repr

/-- The arguments of the program that generates bursts. -/
structure GenArguments where
  /-- The number of frames. -/
  count : Nat
  /-- The most frames of a burst. -/
  burstLength : Nat
  seed : Option UInt64
  destination : GenDestination
  logging : LoggingArguments
  deriving DecidableEq, Repr

namespace GenArguments

/-- The number of frames, and the most frames of a burst, if nothing else is said. -/
def preset : Nat := 100

/-- What the program that generates bursts takes. -/
def grammar : Grammar where
  program := "burst-gen"
  version := some CommandLine.version
  purpose := "Generate random diagnostic bursts"
  switches :=
    [{ name := "count", letter := some 'n', effect := .value .word64
       purpose := "Total number of frames to generate", preset := some (toString preset) },
      { name := "burst-len", effect := .value .word64
        purpose := "Frames per burst", preset := some (toString preset) },
      { name := "seed", effect := .value .word64, purpose := "Seed for reproducible output" },
      { name := "split-files", effect := .value .path, excludes := ["send", "records"]
        purpose := "Write each burst to PREFIX.00, PREFIX.01, ...", valueName := some "PREFIX" },
      { name := "send", effect := .value .text, excludes := ["records"]
        purpose := "Send each burst to a sink over DEALER and wait for its acknowledgment"
        valueName := some "ENDPOINT" },
      { name := "records"
        purpose := "Write uncompressed length-prefixed records instead of wire bursts" }] ++
      loggingSwitches

/-- Where bursts go by what was given. -/
def destinationOfGiven (given : Given) : GenDestination :=
  if given.has "records" then .records
  else
    match given.text? "split-files", given.text? "send" with
    | some stem, _ => .split stem
    | none, some endpoint => .endpoint endpoint
    | none, none => .payloads

/-- Reads the arguments of the program that generates bursts. -/
def parse (arguments : List String) : Parsed GenArguments := do
  let given ← grammar.parse arguments
  return {
    count := (given.number? "count").getD preset
    burstLength := (given.number? "burst-len").getD preset
    seed := (given.number? "seed").map UInt64.ofNat
    destination := destinationOfGiven given
    logging := .ofGiven given }

end GenArguments

/-! ## Watching a stream -/

/-- The arguments of the program that prints a stream. -/
structure WatchArguments where
  endpoint : String
  /-- What the messages to print start with. -/
  topic : String
  logging : LoggingArguments
  deriving DecidableEq, Repr

namespace WatchArguments

/-- What the program that prints a stream takes. -/
def grammar : Grammar where
  program := "telemetry-watch"
  version := some CommandLine.version
  purpose := "Subscribe to a telemetry stream and print each message"
  switches :=
    [{ name := "prefix", letter := some 'p', effect := .value .text
       purpose := "Only show messages starting with this prefix", preset := some "" }] ++
      loggingSwitches
  operand := some { name := "endpoint", required := true
                    purpose := "Publisher endpoint to connect to" }

/-- Reads the arguments of the program that prints a stream. -/
def parse (arguments : List String) : Parsed WatchArguments := do
  let given ← grammar.parse arguments
  return {
    endpoint := (given.text? "endpoint").getD ""
    topic := (given.text? "prefix").getD ""
    logging := .ofGiven given }

end WatchArguments

end BurstRelay.CommandLine
