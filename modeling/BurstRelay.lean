import BurstRelay.Main
import BurstRelay.Random.SplitMix
import BurstRelay.Relay.Basic
import BurstRelay.Proofs.Relay.Durability
import BurstRelay.Proofs.Relay.Endurance
import BurstRelay.Proofs.Relay.Interference
import BurstRelay.Proofs.Wire.RoundTrip
import BurstRelay.Proofs.Telemetry.RoundTrip
import BurstRelay.Proofs.Block.Stored
import BurstRelay.Proofs.Record.Reading
import BurstRelay.Proofs.Burst.RoundTrip
import BurstRelay.Proofs.Relay.RoundTrip
import BurstRelay.Proofs.Record.CrashConsistency
import BurstRelay.Proofs.Relay.Runs
import BurstRelay.Proofs.Relay.Explicit
import BurstRelay.Proofs.Relay.Replies
import BurstRelay.Proofs.Record.HexLines
import BurstRelay.Proofs.Relay.Examination
import BurstRelay.Proofs.Relay.SameWork
import BurstRelay.Proofs.Relay.Modes
import BurstRelay.Proofs.Relay.ReplyPolicy
import BurstRelay.Proofs.Relay.Tally
import BurstRelay.Proofs.Relay.Accounts
import BurstRelay.Proofs.Relay.Capacity
import BurstRelay.Proofs.Relay.Counting
import BurstRelay.Proofs.Relay.HeadersOnly
import BurstRelay.Proofs.Relay.Interruptions
import BurstRelay.Proofs.Settings.TextVariables
import BurstRelay.Proofs.Telemetry.Normalisation
import BurstRelay.Proofs.Burst.Regions
import BurstRelay.Proofs.Message.Boundaries
import BurstRelay.Proofs.Message.Reader
import BurstRelay.Proofs.Burst.WireFormat
import BurstRelay.Proofs.Wire.Foreign
import BurstRelay.Proofs.Telemetry.Extension
import BurstRelay.Proofs.Relay.Skipping
import BurstRelay.Proofs.Buffer.History
import BurstRelay.Proofs.Telemetry.Generation
import BurstRelay.Proofs.Telemetry.Lines
import BurstRelay.Proofs.CommandLine.Merging
import BurstRelay.Proofs.CommandLine.Generating
import BurstRelay.Proofs.Message.History
