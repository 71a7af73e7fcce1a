/-!
# Random sources

A random source gives words, of thirty-two or of sixty-four bits, and goes on to its next state.
What is drawn from it is decided by the words alone. A number below a bound is drawn without bias: the
word is multiplied by the bound, the high half of the product is the number, and the word counts only
if the low half is within the zone in which every number is equally often. Otherwise the next word is
tried.
-/

namespace BurstRelay

/-- A source of random words. -/
structure RandomSource (State : Type) where
  next32 : State → UInt32 × State
  next64 : State → UInt64 × State
  /-- The most words tried for one number. Each is refused less often than not, so that a source would
  have to be far from random to need as many as are tried if nothing else is said. -/
  patience : Nat := 100000

namespace RandomSource

variable {State : Type}

/-- A computation that draws from a random source. -/
abbrev Draw (State : Type) := StateM State

def word (source : RandomSource State) (width : Nat) : Draw State Nat := fun state =>
  if width = 64 then
    let (word, state) := source.next64 state
    (word.toNat, state)
  else
    let (word, state) := source.next32 state
    (word.toNat, state)

/-- Draws words of so many bits until one counts, and gives the number below the bound that the word
stands for. -/
def tryBelow (source : RandomSource State) (width bound zone : Nat) : Nat → Draw State Nat
  | 0 => return 0
  | tries + 1 => do
    let word ← source.word width
    let product := word * bound
    if product % (1 <<< width) ≤ zone then return product >>> width
    else tryBelow source width bound zone tries

/-- The zone that is a power of two times the bound, and as large as words of so many bits allow. -/
def wideZone (width bound : Nat) : Nat := (bound <<< (width - 1 - bound.log2)) - 1

/-- The zone that is the largest multiple of the bound. -/
def exactZone (width bound : Nat) : Nat :=
  let words := 1 <<< width
  words - 1 - (words - bound) % bound

/-- Draws a number below a bound from words of so many bits. -/
def below (source : RandomSource State) (width bound : Nat) : Draw State Nat :=
  source.tryBelow width bound (wideZone width bound) source.patience

def byteBelow (source : RandomSource State) (bound : Nat) : Draw State Nat :=
  source.tryBelow 32 bound (exactZone 32 bound) source.patience

/-- Draws so many things, one after the other. -/
def repeated {α : Type} (draw : Draw State α) : Nat → Draw State (List α)
  | 0 => return []
  | count + 1 => do
    let first ← draw
    let others ← repeated draw count
    return first :: others

end RandomSource

end BurstRelay
