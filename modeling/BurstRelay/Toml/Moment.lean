import BurstRelay.Toml.Scalar

/-!
# Dates and times

A moment is a date, a time of day, or both, and may say how far it is from universal time. A reader
gives its text in the one form that a moment is written in: the mark between date and time is a
capital letter, a fraction of a second has at most nine digits and no zeros at its end, and no
distance is negative that is none.

A document spells moments in two ways. Bare, in place of a value, a moment keeps to the clock. In
quotes, under a key that says so, the rules are looser (`spelledMoment?`): the day has an hour more,
and a distance has any hours and minutes, as long as it stays within a day.
-/

namespace BurstRelay.TomlText

/-- Reads so many decimal digits, and the number they spell if it is within bounds. -/
def fixedDigits (count low high : Nat) : Reader Nat := fun input =>
  let spelled := input.take count
  let value := numberOf 10 spelled
  if spelled.length = count ∧ spelled.all isDecimal ∧ low ≤ value ∧ value ≤ high then
    some (value, input.drop count)
  else none

/-- The text of a number with at least so many digits. -/
def padded (count value : Nat) : String :=
  let spelled := Nat.toDigits 10 value
  String.ofList (List.replicate (count - spelled.length) '0' ++ spelled)

/-! ## The parts of a moment -/

def daysOf (year month : Nat) : Nat :=
  let leap := year % 4 = 0 && (year % 100 ≠ 0 || year % 400 = 0)
  if month = 2 then (if leap then 29 else 28)
  else if month = 4 || month = 6 || month = 9 || month = 11 then 30
  else 31

def date : Reader String := fun input => do
  let (year, rest) ← fixedDigits 4 0 9999 input
  let rest ← expect ['-'] rest
  let (month, rest) ← fixedDigits 2 1 12 rest
  let rest ← expect ['-'] rest
  let (day, rest) ← fixedDigits 2 1 (daysOf year month) rest
  return (padded 4 year ++ "-" ++ padded 2 month ++ "-" ++ padded 2 day, rest)

/-- Reads the fraction of a second, of which nine digits count, if there is one. -/
def secondFraction : List Char → Option (String × List Char)
  | '.' :: rest =>
    let spelled := rest.takeWhile isDecimal
    if spelled = [] then none
    else
      let kept := ((spelled.take 9).reverse.dropWhile (· = '0')).reverse
      some (if kept = [] then "" else String.ofList ('.' :: kept), rest.drop spelled.length)
  | rest => some ("", rest)

/-- Reads a time of day, up to some hour. -/
def time (latestHour : Nat) : Reader String := fun input => do
  let (hour, rest) ← fixedDigits 2 0 latestHour input
  let rest ← expect [':'] rest
  let (minute, rest) ← fixedDigits 2 0 59 rest
  let rest ← expect [':'] rest
  let (second, rest) ← fixedDigits 2 0 60 rest
  let (part, rest) ← secondFraction rest
  return (padded 2 hour ++ ":" ++ padded 2 minute ++ ":" ++ padded 2 second ++ part, rest)

/-- The most minutes that a time is from universal time: those of a day. -/
def farthestOffset : Nat := 24 * 60

/-- Reads the distance of a time from universal time, if there is one. -/
def offset (latestHour latestMinute : Nat) : List Char → Option (String × List Char)
  | letter :: rest =>
    if letter = 'Z' || letter = 'z' then some ("Z", rest)
    else if letter = '+' || letter = '-' then do
      let (hours, rest) ← fixedDigits 2 0 latestHour rest
      let rest ← expect [':'] rest
      let (minutes, rest) ← fixedDigits 2 0 latestMinute rest
      let distance := 60 * hours + minutes
      if farthestOffset < distance then none
      else
        let mark := if letter = '-' && distance ≠ 0 then "-" else "+"
        some (mark ++ padded 2 (distance / 60) ++ ":" ++ padded 2 (distance % 60), rest)
    else some ("", letter :: rest)
  | [] => some ("", [])

/-- Whether a character stands between a date and its time. -/
def isTimeMark (letter : Char) : Bool := letter = 'T' || letter = 't' || letter = ' '

/-! ## Bare moments -/

def timeOfDate (day : String) (input : List Char) : Option (String × List Char) :=
  match input with
  | mark :: behind =>
    if isTimeMark mark then
      match time 23 behind with
      | some (clock, rest) => do
        let (zone, rest) ← offset 23 59 rest
        return (day ++ "T" ++ clock ++ zone, rest)
      | none => some (day, input)
    else some (day, input)
  | [] => some (day, input)

/-- Reads a date, a time, or both. -/
def moment : Reader String := fun input =>
  match date input with
  | none => time 23 input
  | some (day, rest) => timeOfDate day rest

/-! ## Moments in quotes -/

/-- Reads a date, a time, or both, by the looser rules. -/
def looseMoment : Reader String := fun input =>
  match date input with
  | none => time 24 input
  | some (day, []) => some (day, [])
  | some (day, mark :: rest) =>
    if isTimeMark mark then do
      let (clock, rest) ← time 24 rest
      let (zone, rest) ← offset 99 99 rest
      return (day ++ "T" ++ clock ++ zone, rest)
    else none

/-- The moment that a text spells, if it spells one and nothing else. -/
def spelledMoment? (text : String) : Option String :=
  match looseMoment text.toList with
  | some (spelled, []) => some spelled
  | _ => none

end BurstRelay.TomlText
