import BurstRelay.Random.Source

/-!
# A random source of given words

The words that are given come first, and those of a small generator behind them, which scrambles the
multiples of a constant. A word of thirty-two bits is the low half of one of sixty-four.
-/

namespace BurstRelay

/-- The state of a source of given words. -/
structure SplitMix where
  /-- The words that come first. -/
  first : List UInt64 := []
  seed : UInt64
  /-- The words drawn so far. -/
  drawn : Nat := 0
  deriving DecidableEq, Repr

namespace SplitMix

/-- The word that a multiple of the constant stands for. -/
def scramble (number : UInt64) : UInt64 :=
  let mixed := (number ^^^ (number >>> 30)) * 0xbf58476d1ce4e5b9
  let mixed := (mixed ^^^ (mixed >>> 27)) * 0x94d049bb133111eb
  mixed ^^^ (mixed >>> 31)

def next (state : SplitMix) : UInt64 × SplitMix :=
  match state.first with
  | word :: first => (word, { state with first, drawn := state.drawn + 1 })
  | [] =>
    let seed := state.seed + 0x9e3779b97f4a7c15
    (scramble seed, { state with seed, drawn := state.drawn + 1 })

def source : RandomSource SplitMix where
  next32 state :=
    let (word, state) := state.next
    (word.toUInt32, state)
  next64 := next

end SplitMix

end BurstRelay
