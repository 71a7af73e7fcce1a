import BurstRelay.CommandLine.Parser
import BurstRelay.Text.Blank
import BurstRelay.Text.Quoted

/-!
# Help

The page that a program shows about itself: what it is for, how it is called, and one entry for each
thing that it takes. What an entry says stands beside its label, unless the labels of its section
leave too little room; then it stands on a line below.
-/

namespace BurstRelay.CommandLine

/-- What a page says about one thing that a program takes. -/
structure HelpEntry where
  /-- What stands in front of the label. -/
  lead : String
  label : String
  purpose : String
  deriving DecidableEq, Repr

namespace HelpEntry

def pageWidth : Nat := 100

def labelWidth (entries : List HelpEntry) : Nat :=
  entries.foldl (fun width entry => max width entry.label.length) 0

/-- Whether labels take more than two fifths of the page, and something does not fit beside them. -/
def areCramped (entries : List HelpEntry) : Bool :=
  let taken := labelWidth entries + 12
  2 * pageWidth < 5 * taken &&
    entries.any fun entry => pageWidth < taken + entry.purpose.length

def lines (entries : List HelpEntry) : String :=
  String.join (entries.map fun entry =>
    let gap :=
      if areCramped entries then '\n' :: List.replicate 10 ' '
      else List.replicate (labelWidth entries + 2 - entry.label.length) ' '
    s!"  {entry.lead}{entry.label}{String.ofList gap}{entry.purpose}\n")

end HelpEntry

/-- The name of a value in help: that of what it is a value of, in capitals. -/
def valueLabel (name : String) : String :=
  String.ofList (name.toList.map fun letter => if letter = '-' then '_' else letter.toUpper)

/-- A value in help. One that could not be seen otherwise stands in quotes. -/
def presetText (preset : String) : String :=
  if preset = "" || preset.toList.any Text.isBlank then
    String.ofList (Text.quoted Text.escapeVisible preset)
  else preset

def Switch.helpEntry (switch : Switch) : HelpEntry where
  lead :=
    match switch.letter with
    | some letter => s!"-{letter}, "
    | none => "    "
  label :=
    match switch.effect with
    | .value _ => s!"--{switch.name} <{switch.valueName.getD (valueLabel switch.name)}>"
    | _ => s!"--{switch.name}"
  purpose :=
    match switch.preset with
    | some preset => s!"{switch.purpose} [default: {presetText preset}]"
    | none => switch.purpose

def Operand.label (operand : Operand) : String :=
  let name := valueLabel operand.name
  (if operand.required then s!"<{name}>" else s!"[{name}]") ++ if operand.repeats then "..." else ""

/-- The page that a program shows about itself. -/
def Grammar.help (grammar : Grammar) : String :=
  let (call, operands) := match grammar.operand with
    | some operand =>
      (s!" {operand.label}",
        "Arguments:\n" ++ HelpEntry.lines [⟨"", operand.label, operand.purpose⟩] ++ "\n")
    | none => ("", "")
  let options := grammar.allSwitches.map Switch.helpEntry
  s!"{grammar.purpose}\n\nUsage: {grammar.program} [OPTIONS]{call}\n\n{operands}Options:\n" ++
    HelpEntry.lines options

end BurstRelay.CommandLine
