import BurstRelay.Settings.Load

/-!
# Overrides

What is said on the command line overrides single settings. `Overrides.resolve` loads the settings,
overrides them, and only then checks them against each other.
-/

namespace BurstRelay

/-- The settings that the command line of a relay can override. -/
structure Overrides where
  endpoint : Option String := none
  /-- The configuration file to load. -/
  config : Option String := none
  /-- Whether acknowledgments are delayed. -/
  slow : Bool := false
  /-- Whether the relay is a passive observer. -/
  passive : Bool := false
  /-- Whether the relay is an impersonator, which wins over being passive. -/
  impersonate : Bool := false
  identity : Option String := none
  subscribe : Option String := none
  ackSkipped : Bool := false
  maxDeclaredSize : Option UInt32 := none
  deriving DecidableEq, Repr

/-- Why settings cannot be used. -/
inductive ResolveFault where
  /-- They cannot be loaded, with the configuration file that was named. -/
  | unloadable (config : Option String) (fault : LoadFault)
  | invalid (fault : SettingsFault)
  deriving DecidableEq, Repr

/-- The wording of a fault, with all that it was the cause of in front. -/
def ResolveFault.message : ResolveFault → String
  | unloadable (some config) fault =>
    s!"Failed to load configuration from {config}: {fault.message}"
  | unloadable none fault => s!"Failed to load configuration: {fault.message}"
  | invalid fault => s!"Invalid configuration: {fault.message}"

namespace Overrides

/-- The delay of acknowledgments that are delayed, in milliseconds. -/
def slowDelayMs : UInt64 := 1000

def apply (overrides : Overrides) (settings : Settings) : Settings where
  relay :=
    { role :=
        if overrides.impersonate then .impersonator
        else if overrides.passive then .passiveObserver
        else settings.relay.role
      endpoint := overrides.endpoint.getD settings.relay.endpoint
      identity := overrides.identity <|> settings.relay.identity
      subscribe := overrides.subscribe.getD settings.relay.subscribe }
  output := settings.output
  decompression :=
    { settings.decompression with
      maxDeclaredSize := overrides.maxDeclaredSize.getD settings.decompression.maxDeclaredSize }
  acknowledgment :=
    { settings.acknowledgment with
      delayMs := if overrides.slow then slowDelayMs else settings.acknowledgment.delayMs
      ackSkipped := overrides.ackSkipped || settings.acknowledgment.ackSkipped }

/-- Overrides what the purpose of a program fixes: the output mode, and whether it only checks
headers. -/
def applyPurpose (format : Option OutputMode) (dummy : Bool) (settings : Settings) : Settings :=
  { settings with
    output := { format := format.getD settings.output.format }
    acknowledgment :=
      { settings.acknowledgment with dummy := dummy || settings.acknowledgment.dummy } }

/-- Loads, overrides and checks the settings of a relay. -/
def resolve (overrides : Overrides) (format : Option OutputMode) (dummy : Bool)
    (files : TextFiles) (environment : Environment.Variables) :
    Logged (Except ResolveFault Settings) := do
  match ← Settings.load files overrides.config environment with
  | .error fault => return .error (.unloadable overrides.config fault)
  | .ok loaded =>
    let settings := applyPurpose format dummy (overrides.apply loaded)
    return (settings.validate.mapError .invalid).map fun () => settings

end Overrides

end BurstRelay
