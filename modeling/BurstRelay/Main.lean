import BurstRelay.CommandLine.Run
import Std.Time.DateTime.Timestamp

/-!
# The command line

The first argument names a program, and the others are its own. What the program needs is read, it
runs, and what it did is carried out: its files and its output are written, and its complaint. A
program that would go on to wait for a peer ends here, because nothing carries its messages.
-/

namespace BurstRelay.Shell

open CommandLine

def readFile? (name : String) : IO (Option Bytes) := do
  try
    return some (← IO.FS.readBinFile name).data.toList
  catch _ =>
    return none

def readFiles (names : List String) : IO (Keyed Bytes) :=
  names.filterMapM fun name => do
    return (← readFile? name).map fun contents => (name, contents)

/-- The standard input up to its end. -/
def readInput : IO Bytes := do
  return (← (← IO.getStdin).readBinToEnd).data.toList

def readVariables : IO Environment.Variables := do
  return ((← readFile? "/proc/self/environ").map Environment.ofBlock).getD []

/-- Words from the entropy of the system. -/
def readEntropy : IO ChaCha.Key := do
  let bytes ← IO.getRandomBytes 32
  return .ofBytes bytes.data.toList

/-- The time, in nanoseconds since the epoch. -/
def readTime : IO UInt64 := do
  let now ← Std.Time.Timestamp.now
  return UInt64.ofNat now.toNanosecondsSinceUnixEpoch.toInt.toNat

/-- What a program finds around it, as far as it needs it. -/
def surroundings (needs : Program.Needs) : IO Surroundings := do
  let files ← readFiles needs.files
  let input ← if needs.input then readInput else pure []
  let time ← readTime
  return {
    files := fun name => files.lookup name
    input
    environment := ← readVariables
    entropy := ← readEntropy
    clock := fun _ => time }

/-- Says something on the standard error. -/
def complain (complaint : String) : IO Unit := do
  (← IO.getStderr).putStrLn complaint

/-- Carries out what a program did. -/
def carryOut (run : ProgramRun) : IO UInt32 := do
  for (name, contents) in run.files do
    IO.FS.writeBinFile name ⟨contents.toArray⟩
  let output ← IO.getStdout
  output.write ⟨run.output.toArray⟩
  output.flush
  if let some complaint := run.complaint then complain s!"error: {complaint}"
  match run.status with
  | some status => return UInt32.ofNat status
  | none =>
    complain "error: no transport to wait for peers"
    return 1

/-- Runs the program that the first argument names. -/
def start : List String → IO UInt32
  | [] => do
    complain s!"usage: PROGRAM [ARGUMENTS], PROGRAM being one of {Program.all.map Program.name}"
    return 2
  | name :: arguments => do
    match Program.named? name with
    | none =>
      complain s!"error: no program is named {name}"
      return 2
    | some program =>
      carryOut (program.run (← surroundings (program.needs arguments)) arguments)

end BurstRelay.Shell

/-- The command line. -/
def main (arguments : List String) : IO UInt32 := BurstRelay.Shell.start arguments
