/-!
# Connection roles

A relay is attached to the transport in one of three ways, for its whole life. A responder and an
impersonator sit in the path of the bursts and acknowledge them; a passive observer only listens.
-/

namespace BurstRelay

/-- How a relay is attached to the transport. -/
inductive Role where
  /-- Binds, and acknowledges every burst it consumes. -/
  | responder
  /-- Connects and subscribes, and never sends. -/
  | passiveObserver
  /-- Connects as a peer with an identity of its own, and acknowledges. -/
  | impersonator
  deriving DecidableEq, Repr

namespace Role

def name : Role → String
  | responder => "responder"
  | passiveObserver => "passive_observer"
  | impersonator => "impersonator"

/-- Whether a role sends acknowledgments. -/
def acknowledges : Role → Bool
  | passiveObserver => false
  | _ => true

/-- A name in lower case and with underscores; only the letters of ASCII have cases here. -/
def normalize (text : String) : String :=
  text.map fun letter => if letter = '-' then '_' else letter.toLower

/-- The role that a text names, in any case and with dashes or underscores; else why it names none. -/
def parse (text : String) : Except String Role :=
  match normalize text with
  | "responder" => .ok responder
  | "passive_observer" => .ok passiveObserver
  | "observer" => .ok passiveObserver
  | "impersonator" => .ok impersonator
  | other => .error
    s!"unknown role '{other}' (expected responder, passive_observer or impersonator)"

end Role

end BurstRelay
