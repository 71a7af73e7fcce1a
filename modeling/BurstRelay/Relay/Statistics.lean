import BurstRelay.Log

/-!
# Statistics

Counters over the life of a relay, and a tally of the skipped messages by the kind of fault. The
tally is in the order of the kinds, each of which occurs once.
-/

namespace BurstRelay

/-- How often each kind occurred, in the order of the kinds. -/
abbrev Tally := List (String × Nat)

namespace Tally

/-- Counts one more of a kind. -/
def add (kind : String) : Tally → Tally
  | [] => [(kind, 1)]
  | (first, count) :: rest =>
    if kind = first then (first, count + 1) :: rest
    else if kind < first then (kind, 1) :: (first, count) :: rest
    else (first, count) :: add kind rest

/-- How often a kind occurred. -/
def count (kind : String) (tally : Tally) : Nat := (List.lookup kind tally).getD 0

/-- How often any kind occurred. -/
def total (tally : Tally) : Nat := tally.foldr (fun (_, count) total => count + total) 0

end Tally

/-- The counters of a relay. -/
structure Statistics where
  /-- The messages received. -/
  envelopes : Nat := 0
  /-- The output records written. -/
  recordsEmitted : Nat := 0
  /-- The messages skipped, by the kind of fault. -/
  skipped : Tally := []
  /-- The acknowledgments of others that were seen. -/
  ackEchoes : Nat := 0
  /-- The acknowledgments sent. -/
  acksSent : Nat := 0
  /-- The largest capacity of the buffer. -/
  peakCapacity : Nat := 0
  deriving DecidableEq, Repr

namespace Statistics

/-- The messages between two reports of progress. -/
def progressInterval : Nat := 1000

/-- Counts a skipped message. -/
def recordSkip (statistics : Statistics) (kind : String) : Statistics :=
  { statistics with skipped := statistics.skipped.add kind }

/-- Notes a capacity of the buffer. -/
def observeCapacity (statistics : Statistics) (capacity : Nat) : Statistics :=
  { statistics with peakCapacity := max statistics.peakCapacity capacity }

/-- Reports progress, once every so many messages. -/
def reportProgress (statistics : Statistics) : Logged Unit :=
  if 0 < statistics.envelopes ∧ statistics.envelopes % progressInterval = 0 then
    Logged.report .debug "pipeline progress"
      [("envelopes", toString statistics.envelopes),
        ("records", toString statistics.recordsEmitted),
        ("skipped", toString statistics.skipped.total),
        ("acks", toString statistics.acksSent)]
  else return ()

/-- Reports each kind of skipped messages. -/
def reportTally : Tally → Logged Unit
  | [] => return ()
  | (kind, count) :: rest => do
    Logged.report .info "skipped messages" [("kind", kind), ("count", toString count)]
    reportTally rest

def reportSummary (statistics : Statistics) : Logged Unit := do
  Logged.report .info "pipeline finished"
    [("envelopes", toString statistics.envelopes),
      ("records", toString statistics.recordsEmitted),
      ("skipped", toString statistics.skipped.total),
      ("ack_echoes", toString statistics.ackEchoes),
      ("acks", toString statistics.acksSent),
      ("peak_capacity", toString statistics.peakCapacity)]
  reportTally statistics.skipped

end Statistics

end BurstRelay
