import BurstRelay.Block.Stored
import BurstRelay.CommandLine.Help
import BurstRelay.CommandLine.Programs
import BurstRelay.Random.ChaCha
import BurstRelay.Relay.Opening
import BurstRelay.Telemetry.Synthetic

/-!
# What the programs do

Each program as a function of its arguments and of what it finds around it. A program ends with a
status: zero if all went well, one if it failed, and two if its arguments were refused. A program that
gets as far as to wait for a peer has no status yet.
-/

namespace BurstRelay.CommandLine

/-- What a program finds around it. -/
structure Surroundings where
  /-- The contents of files by their names. -/
  files : String → Option Bytes := fun _ => none
  /-- The standard input. -/
  input : Bytes := []
  /-- The variables of the environment. -/
  environment : Environment.Variables := []
  /-- Words that nobody can foresee. -/
  entropy : ChaCha.Key := (⟨0, 0, 0, 0⟩, ⟨0, 0, 0, 0⟩)
  clock : Clock := fun _ => 0
  /-- Whether a file of a name can be created. -/
  creates : String → Bool := fun _ => true
  /-- The compressor. -/
  compress : Bytes → Bytes := Block.store

def Surroundings.texts (surroundings : Surroundings) : TextFiles := fun name =>
  surroundings.files name >>= Bytes.toString?

/-- What a program did. -/
structure ProgramRun where
  /-- The status it ended with; none while it waits for a peer. -/
  status : Option Nat
  /-- What it wrote to the standard output. -/
  output : Bytes := []
  /-- The files it wrote, in order. -/
  files : List (String × Bytes) := []
  /-- What it complained about, if it did. -/
  complaint : Option String := none
  deriving DecidableEq, Repr

namespace ProgramRun

def failed (complaint : String) : ProgramRun := { status := some 1, complaint }

/-- The program waits for a peer. -/
def waiting : ProgramRun := { status := none }

/-- What a program did that wrote something before. -/
def behind (run : ProgramRun) (output : Bytes) (files : List (String × Bytes)) : ProgramRun :=
  { run with output := output ++ run.output, files := files ++ run.files }

/-- What a program does if its arguments are refused. -/
def ofRefusal (grammar : Grammar) : Refusal → ProgramRun
  | .helpRequested => { status := some 0, output := Bytes.ofString grammar.help }
  | .versionRequested =>
    let version := grammar.version.getD ""
    { status := some 0, output := Bytes.ofString s!"{grammar.program} {version}\n" }
  | refusal => { status := some 2, complaint := refusal.message }

def ofParsed {α : Type} (grammar : Grammar) (run : α → ProgramRun) : Parsed α → ProgramRun
  | .ok arguments => run arguments
  | .error refusal => ofRefusal grammar refusal

end ProgramRun

/-- Starts a relay, up to the point where it waits for its peers. -/
def RelayArguments.run (surroundings : Surroundings) (arguments : RelayArguments) : ProgramRun :=
  match (arguments.resolve surroundings.texts surroundings.environment).value with
  | .error fault => .failed fault.message
  | .ok settings =>
    match settings.relay.openSocket.value with
    | .error fault => .failed fault.message
    | .ok _ =>
      match Buffer.ofCapacity .machine settings.decompression.initialCapacity.toNat with
      | .error fault => .failed fault.message
      | .ok _ => .waiting

/-- Starts the program that prints a stream, up to the point where it waits for its peer. -/
def WatchArguments.run (arguments : WatchArguments) : ProgramRun :=
  match (Socket.subscribe arguments.endpoint (Bytes.ofString arguments.topic)).value with
  | .error fault =>
    .failed (withCause s!"Failed to subscribe to {arguments.endpoint}: {fault.message}"
      fault.source?)
  | .ok _ => .waiting

/-- The output that shows frames in a style, or else merges them into one record. -/
def CatArguments.render (style : Option TextStyle) (frames : List DataFrame) : Bytes :=
  match style with
  | some style => frames.flatMap (DataFrame.line style)
  | none => DataBurst.merged frames

/-- The streams of the files that are named, or of the standard input if none is. -/
def CatArguments.streams (surroundings : Surroundings) (arguments : CatArguments) :
    Except String (List Bytes) :=
  if arguments.files = [] then .ok [surroundings.input]
  else arguments.files.mapM fun name =>
    match surroundings.files name with
    | some contents => .ok contents
    | none => .error s!"Failed to open {name}"

/-- Prints the records of streams. Nothing is written unless all of them were read to the end. -/
def CatArguments.print (arguments : CatArguments) (streams : List Bytes) : ProgramRun :=
  match DataBurst.gatherStreams arguments.layout (streams.map Source.ofBytes) with
  | .error fault => .failed s!"Failed to read record: {fault.message}"
  | .ok frames => { status := some 0, output := CatArguments.render arguments.style frames }

/-- Prints the records of the streams that are named. -/
def CatArguments.run (surroundings : Surroundings) (arguments : CatArguments) : ProgramRun :=
  match arguments.streams surroundings with
  | .error complaint => .failed complaint
  | .ok streams => arguments.print streams

/-! ## Generating bursts -/

namespace GenArguments

/-- The name of the file of a burst, by the number of bursts before: the number has at least two
digits. -/
def fileName (stem : String) (index : Nat) : String :=
  let digits := Nat.toDigits 10 index
  stem ++ "." ++ String.ofList (List.replicate (2 - digits.length) '0' ++ digits)

/-- The random source as it is at first: it is keyed by what nobody can foresee if there is no seed. -/
def source (surroundings : Surroundings) (arguments : GenArguments) : ChaCha :=
  match arguments.seed with
  | some seed => .ofSeed seed
  | none => { key := surroundings.entropy }

def generate (surroundings : Surroundings) (arguments : GenArguments) : List DataBurst :=
  let sizes := Synthetic.burstSizes arguments.count arguments.burstLength
  (Synthetic.bursts ChaCha.source surroundings.clock 0 sizes (arguments.source surroundings)).1

/-- The payload of a burst; if it has none, the program fails. -/
def payload (surroundings : Surroundings) (burst : DataBurst) : Except ProgramRun Bytes :=
  (burst.wire surroundings.compress).mapError fun fault => .failed fault.message

/-- Sends a burst where it should go, by the number of bursts before: the bytes of the standard output
and the files that this adds, or what the program ends with. -/
def deliver (surroundings : Surroundings) (destination : GenDestination) (index : Nat)
    (burst : DataBurst) : Except ProgramRun (Bytes × List (String × Bytes)) :=
  match destination with
  | .records => .ok (Record.frame burst.toRecord, [])
  | .payloads => do
    let payload ← payload surroundings burst
    return (payload, [])
  | .split stem => do
    let payload ← payload surroundings burst
    let name := fileName stem index
    if surroundings.creates name then return ([], [(name, payload)])
    else .error (.failed s!"Failed to create {name}")
  | .endpoint _ => do
    let _ ← payload surroundings burst
    .error .waiting

/-- Sends bursts one after the other. The first that cannot be sent ends the program, and what was
written before it stays. -/
def deliverFrom (surroundings : Surroundings) (destination : GenDestination) (index : Nat) :
    List DataBurst → ProgramRun
  | [] => { status := some 0 }
  | burst :: bursts =>
    match deliver surroundings destination index burst with
    | .error ended => ended
    | .ok (output, files) =>
      (deliverFrom surroundings destination (index + 1) bursts).behind output files

/-- Generates bursts and sends them where they should go. A socket is opened first. -/
def run (surroundings : Surroundings) (arguments : GenArguments) : ProgramRun :=
  let delivered :=
    deliverFrom surroundings arguments.destination 0 (arguments.generate surroundings)
  match arguments.destination with
  | .endpoint endpoint =>
    match (Socket.connectDealer endpoint).value with
    | .error fault =>
      .failed (withCause s!"Failed to connect to {endpoint}: {fault.message}" fault.source?)
    | .ok _ => delivered
  | .records | .payloads | .split _ => delivered

end GenArguments

/-! ## The programs by their names -/

/-- A program. -/
inductive Program where
  /-- The relay of whole records. -/
  | burstSink
  /-- The relay of single frames. -/
  | frameSink
  /-- The program that prints records. -/
  | burstCat
  /-- The program that generates bursts. -/
  | burstGen
  /-- The program that prints a stream. -/
  | telemetryWatch
  deriving DecidableEq, Repr

namespace Program

def all : List Program := [burstSink, frameSink, burstCat, burstGen, telemetryWatch]

def grammar : Program → Grammar
  | burstSink => RelayArguments.burstGrammar
  | frameSink => RelayArguments.frameGrammar
  | burstCat => CatArguments.grammar
  | burstGen => GenArguments.grammar
  | telemetryWatch => WatchArguments.grammar

def name (program : Program) : String := program.grammar.program

def named? (name : String) : Option Program := all.find? fun program => program.name = name

/-- What a program reads before it runs: the names of files, and whether it reads its input. -/
structure Needs where
  files : List String := []
  input : Bool := false
  deriving DecidableEq, Repr

/-- What a relay reads: the configuration file that is named, by any of its names. -/
def Needs.ofRelay (arguments : RelayArguments) : Needs where
  files := arguments.overrides.config.toList.flatMap ConfigurationFile.candidates

def needs (program : Program) (arguments : List String) : Needs :=
  let reading : Parsed Needs := match program with
    | burstSink => (RelayArguments.parseBurst arguments).map .ofRelay
    | frameSink => (RelayArguments.parseFrame arguments).map .ofRelay
    | burstCat => (CatArguments.parse arguments).map fun arguments =>
      { files := arguments.files, input := arguments.files.isEmpty }
    | burstGen | telemetryWatch => .ok {}
  reading.toOption.getD {}

def run (program : Program) (surroundings : Surroundings) (arguments : List String) : ProgramRun :=
  match program with
  | burstSink => .ofParsed program.grammar (·.run surroundings) (RelayArguments.parseBurst arguments)
  | frameSink => .ofParsed program.grammar (·.run surroundings) (RelayArguments.parseFrame arguments)
  | burstCat => .ofParsed program.grammar (·.run surroundings) (CatArguments.parse arguments)
  | burstGen => .ofParsed program.grammar (·.run surroundings) (GenArguments.parse arguments)
  | telemetryWatch => .ofParsed program.grammar (·.run) (WatchArguments.parse arguments)

end Program

end BurstRelay.CommandLine
