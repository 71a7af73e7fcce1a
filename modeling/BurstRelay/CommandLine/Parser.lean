import BurstRelay.Decimal.Numeral

/-!
# Command lines

A command line is a list of arguments. A program declares its options and what it takes without an
option; reading the arguments gives the values of what was given, or says what is wrong with the
first argument that is.

The value of an option can be attached to it or be the next argument, unless that argument looks like
an option itself. A value that is attached is checked at once, any other when the next argument has
been looked up. Single letters can be joined, and everything behind two dashes is a value.
-/

namespace BurstRelay.CommandLine

/-- What is wrong with a command line, or what it asks for in place of running the program. -/
inductive Refusal where
  | unknownArgument
  /-- A value is missing, or empty where it cannot be. -/
  | invalidValue
  /-- A value does not spell what it has to. -/
  | valueValidation
  /-- There is a value for what takes none. -/
  | tooManyValues
  /-- Something is given twice, or together with what it excludes. -/
  | conflict
  /-- Something that has to be given is not. -/
  | missingRequired
  | helpRequested
  | versionRequested
  deriving DecidableEq, Repr

def Refusal.message : Refusal → String
  | unknownArgument => "unexpected argument"
  | invalidValue => "a value is required"
  | valueValidation => "invalid value"
  | tooManyValues => "unexpected value"
  | conflict => "an argument cannot be used with another, or more than once"
  | missingRequired => "a required argument was not provided"
  | helpRequested => "help requested"
  | versionRequested => "version requested"

/-- A result of reading arguments. -/
abbrev Parsed (α : Type) := Except Refusal α

/-- What values have to spell. -/
inductive ValueRule where
  | text
  /-- The name of a file, which is not empty. -/
  | path
  | word32
  | word64
  deriving DecidableEq, Repr

/-- A checked value. -/
inductive Value where
  | text (text : String)
  | number (number : Nat)
  deriving DecidableEq, Repr

def ValueRule.check : ValueRule → String → Parsed Value
  | text, value => .ok (.text value)
  | path, value => if value = "" then .error .invalidValue else .ok (.text value)
  | word32, value =>
    match Numeral.integer64? value.toList with
    | some number =>
      if 0 ≤ number ∧ number < UInt32.size then .ok (.number number.toNat) else .error .valueValidation
    | none => .error .valueValidation
  | word64, value =>
    match Numeral.below? UInt64.size value.toList with
    | some number => .ok (.number number)
    | none => .error .valueValidation

/-- What an option does. -/
inductive Effect where
  /-- It is given or not. -/
  | flag
  /-- It takes a value. -/
  | value (rule : ValueRule)
  | help
  | version
  deriving DecidableEq, Repr

/-- An option. -/
structure Switch where
  /-- The long name, without its dashes. -/
  name : String
  letter : Option Char := none
  effect : Effect := .flag
  /-- The long names of the options that it excludes. -/
  excludes : List String := []
  /-- What the option is for. -/
  purpose : String
  /-- What its value is called, if not as the option itself. -/
  valueName : Option String := none
  /-- The value that it has if it is not given. -/
  preset : Option String := none
  deriving DecidableEq, Repr

/-- What a program takes without an option. -/
structure Operand where
  name : String
  purpose : String
  rule : ValueRule := .text
  /-- Whether there can be any number of them. -/
  repeats : Bool := false
  required : Bool := false
  deriving DecidableEq, Repr

/-- What a program takes. -/
structure Grammar where
  /-- The name of the program. -/
  program : String
  /-- The version of the program, if it can be asked for it. -/
  version : Option String
  /-- What the program is for. -/
  purpose : String
  /-- The options of its own. -/
  switches : List Switch
  operand : Option Operand := none
  deriving DecidableEq, Repr

/-- The option that asks for help. -/
def helpSwitch : Switch where
  name := "help"
  letter := some 'h'
  effect := .help
  purpose := "Print help"

/-- The option that asks for the version. -/
def versionSwitch : Switch where
  name := "version"
  letter := some 'V'
  effect := .version
  purpose := "Print version"

/-- All options of a program. -/
def Grammar.allSwitches (grammar : Grammar) : List Switch :=
  grammar.switches ++ helpSwitch :: if grammar.version.isSome then [versionSwitch] else []

/-- What was given: the values of each name, in order. -/
abbrev Given := List (String × List Value)

/-- What waits for its value, or for its values to be checked. -/
inductive Pending where
  | nothing
  /-- An option that takes a value, with the value if it was there. -/
  | switch (name : String) (rule : ValueRule) (value : Option String)
  /-- Operands, the latest first. -/
  | operands (operand : Operand) (values : List String)
  deriving DecidableEq, Repr

/-- How far the arguments are read. -/
structure Progress where
  given : Given := []
  pending : Pending := .nothing
  /-- Whether the only operand there can be was given. -/
  operandGiven : Bool := false
  deriving DecidableEq, Repr

namespace Grammar

def named? (grammar : Grammar) (name : String) : Option Switch :=
  grammar.allSwitches.find? fun switch => switch.name = name

def lettered? (grammar : Grammar) (letter : Char) : Option Switch :=
  grammar.allSwitches.find? fun switch => switch.letter = some letter

end Grammar

namespace Progress

/-- Notes the value of an option, which can be given once. -/
def setValue (progress : Progress) (name : String) (rule : ValueRule) (value : String) :
    Parsed Progress := do
  if (progress.given.lookup name).isSome then .error .conflict
  else
    let value ← rule.check value
    return { progress with given := progress.given ++ [(name, [value])], pending := .nothing }

/-- Notes more operands. -/
def addOperands (progress : Progress) (operand : Operand) (values : List String) :
    Parsed Progress := do
  let values ← values.mapM operand.rule.check
  let before := (progress.given.lookup operand.name).getD []
  let others := progress.given.filter fun entry => entry.1 ≠ operand.name
  return { progress with
    given := others ++ [(operand.name, before ++ values)]
    pending := .nothing }

/-- Checks and notes what waits. -/
def settle (progress : Progress) : Parsed Progress :=
  match progress.pending with
  | .nothing => .ok progress
  | .switch _ _ none => .error .invalidValue
  | .switch name rule (some value) => progress.setValue name rule value
  | .operands operand values => progress.addOperands operand values.reverse

/-- Takes an option without a value. -/
def takeSwitch (progress : Progress) (switch : Switch) : Parsed Progress := do
  let progress ← progress.settle
  match switch.effect with
  | .help => .error .helpRequested
  | .version => .error .versionRequested
  | .value rule => return { progress with pending := .switch switch.name rule none }
  | .flag =>
    if (progress.given.lookup switch.name).isSome then .error .conflict
    else return { progress with given := progress.given ++ [(switch.name, [])] }

def takeAttached (progress : Progress) (switch : Switch) (value : String) : Parsed Progress := do
  match switch.effect with
  | .value rule => (← progress.settle).setValue switch.name rule value
  | _ => .error .tooManyValues

def takeLong (grammar : Grammar) (progress : Progress) (argument : List Char) : Parsed Progress :=
  let name := argument.takeWhile (· ≠ '=')
  match grammar.named? (String.ofList name), argument.drop name.length with
  | none, _ => .error .unknownArgument
  | some switch, [] => progress.takeSwitch switch
  | some switch, _ :: value => progress.takeAttached switch (String.ofList value)

/-- Takes an argument of joined letters. -/
def takeLetters (grammar : Grammar) (progress : Progress) : List Char → Parsed Progress
  | [] => .ok progress
  | letter :: rest => do
    match grammar.lettered? letter with
    | none => .error .unknownArgument
    | some switch =>
      match switch.effect, rest with
      | .value _, '=' :: value => progress.takeAttached switch (String.ofList value)
      | .value _, letter :: rest => progress.takeAttached switch (String.ofList (letter :: rest))
      | _, _ => takeLetters grammar (← progress.takeSwitch switch) rest

def takeOperand (grammar : Grammar) (progress : Progress) (value : String) : Parsed Progress :=
  match grammar.operand, progress.pending with
  | none, _ => .error .unknownArgument
  | some operand, .operands _ values =>
    if operand.repeats then .ok { progress with pending := .operands operand (value :: values) }
    else .error .unknownArgument
  | some operand, _ =>
    if progress.operandGiven ∧ ¬ operand.repeats then .error .unknownArgument
    else do
      let progress ← progress.settle
      return { progress with pending := .operands operand [value], operandGiven := true }

/-- Takes a value: that of the option that waits for one, or else an operand. -/
def takeValue (grammar : Grammar) (progress : Progress) (value : String) : Parsed Progress :=
  match progress.pending with
  | .switch name rule none => .ok { progress with pending := .switch name rule (some value) }
  | _ => progress.takeOperand grammar value

/-- Takes arguments in turn. Behind two dashes, all of them are operands. -/
def takeAll (grammar : Grammar) (progress : Progress) : List String → Parsed Progress
  | [] => progress.settle
  | argument :: rest => do
    match argument.toList with
    | ['-', '-'] => rest.foldlM (takeOperand grammar) progress >>= settle
    | '-' :: '-' :: name => takeAll grammar (← progress.takeLong grammar name) rest
    | '-' :: letter :: letters =>
      takeAll grammar (← progress.takeLetters grammar (letter :: letters)) rest
    | _ => takeAll grammar (← progress.takeValue grammar argument) rest

end Progress

/-- Whether two names that exclude each other were both given. -/
def Grammar.hasConflict (grammar : Grammar) (given : Given) : Bool :=
  grammar.switches.any fun switch =>
    (given.lookup switch.name).isSome &&
      switch.excludes.any fun other => (given.lookup other).isSome

/-- Whether something that has to be given was not. -/
def Grammar.lacks (grammar : Grammar) (given : Given) : Bool :=
  grammar.operand.any fun operand => operand.required && (given.lookup operand.name).isNone

def Grammar.parse (grammar : Grammar) (arguments : List String) : Parsed Given := do
  let progress ← Progress.takeAll grammar {} arguments
  if grammar.hasConflict progress.given then .error .conflict
  else if grammar.lacks progress.given then .error .missingRequired
  else return progress.given

namespace Given

/-- Whether something was given. -/
def has (given : Given) (name : String) : Bool := (List.lookup name given).isSome

def values (given : Given) (name : String) : List Value := (List.lookup name given).getD []

def text? (given : Given) (name : String) : Option String :=
  match given.values name with
  | .text text :: _ => some text
  | _ => none

def number? (given : Given) (name : String) : Option Nat :=
  match given.values name with
  | .number number :: _ => some number
  | _ => none

def texts (given : Given) (name : String) : List String :=
  (given.values name).filterMap fun value =>
    match value with
    | .text text => some text
    | .number _ => none

end Given

end BurstRelay.CommandLine
