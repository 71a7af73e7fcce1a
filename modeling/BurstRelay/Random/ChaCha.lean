import BurstRelay.Bytes.Word
import BurstRelay.Random.Source

/-!
# The seeded random source

The words of a stream cipher make a random source that is the same for the same seed: ChaCha with
twelve rounds, keyed by eight words, which can be derived from a seed, with a block counter of
sixty-four bits that starts at zero. A word of sixty-four bits is two of the stream, the low half
first.
-/

namespace BurstRelay

/-- Four words, one of each column. -/
structure ChaCha.Row where
  first : UInt32
  second : UInt32
  third : UInt32
  fourth : UInt32
  deriving DecidableEq, Repr

/-- What a source is keyed by: eight words. -/
abbrev ChaCha.Key := ChaCha.Row × ChaCha.Row

/-- The state of the source: its key, the number of the next block, and what is left of the last. -/
structure ChaCha where
  key : ChaCha.Key
  block : Nat := 0
  left : List UInt32 := []
  deriving DecidableEq, Repr

namespace ChaCha

namespace Row

/-- Combines two rows column by column. -/
def zip (combine : UInt32 → UInt32 → UInt32) (row other : Row) : Row where
  first := combine row.first other.first
  second := combine row.second other.second
  third := combine row.third other.third
  fourth := combine row.fourth other.fourth

/-- Adds two rows. -/
def add (row other : Row) : Row := zip (· + ·) row other

/-- Rotates the exclusive sum of two words. -/
def rotateXor (count : UInt32) (word other : UInt32) : UInt32 :=
  let sum := word ^^^ other
  (sum <<< count) ||| (sum >>> (32 - count))

/-- Adds two rows without carry and rotates each word to the left. -/
def mix (count : UInt32) (row other : Row) : Row := zip (rotateXor count) row other

/-- Moves each word one column to the left. -/
def turn (row : Row) : Row := ⟨row.second, row.third, row.fourth, row.first⟩

def words (row : Row) : List UInt32 := [row.first, row.second, row.third, row.fourth]

end Row

/-- The sixteen words of a block, as four rows. -/
structure Grid where
  a : Row
  b : Row
  c : Row
  d : Row
  deriving DecidableEq, Repr

namespace Grid

/-- One round on the columns. -/
def columns (grid : Grid) : Grid :=
  let a := grid.a.add grid.b
  let d := grid.d.mix 16 a
  let c := grid.c.add d
  let b := grid.b.mix 12 c
  let a := a.add b
  let d := d.mix 8 a
  let c := c.add d
  let b := b.mix 7 c
  ⟨a, b, c, d⟩

/-- Moves the rows so that the diagonals become columns. -/
def skew (grid : Grid) : Grid :=
  ⟨grid.a, grid.b.turn, grid.c.turn.turn, grid.d.turn.turn.turn⟩

/-- Moves the rows back. -/
def unskew (grid : Grid) : Grid :=
  ⟨grid.a, grid.b.turn.turn.turn, grid.c.turn.turn, grid.d.turn⟩

/-- So many rounds on the columns, each followed by one on the diagonals. -/
def rounds : Nat → Grid → Grid
  | 0, grid => grid
  | count + 1, grid => rounds count grid.columns.skew.columns.unskew

/-- Adds two grids. -/
def add (grid other : Grid) : Grid :=
  ⟨grid.a.add other.a, grid.b.add other.b, grid.c.add other.c, grid.d.add other.d⟩

def words (grid : Grid) : List UInt32 :=
  grid.a.words ++ grid.b.words ++ grid.c.words ++ grid.d.words

end Grid

/-- The first row of every block. -/
def constants : Row := ⟨0x61707865, 0x3320646e, 0x79622d32, 0x6b206574⟩

def blockWords (key : Key) (block : Nat) : List UInt32 :=
  let start : Grid :=
    ⟨constants, key.1, key.2, ⟨UInt32.ofNat block, UInt32.ofNat (block >>> 32), 0, 0⟩⟩
  ((start.rounds 6).add start).words

/-- The next word of the stream. -/
def next (state : ChaCha) : UInt32 × ChaCha :=
  match state.left with
  | word :: left => (word, { state with left })
  | [] =>
    match blockWords state.key state.block with
    | word :: left => (word, { state with block := state.block + 1, left })
    | [] => (0, state)

def source : RandomSource ChaCha where
  next32 := next
  next64 state :=
    let (low, state) := next state
    let (high, state) := next state
    (UInt64.ofNat (low.toNat + UInt32.size * high.toNat), state)

/-! ## Keys and seeds -/

/-- The row of words that are laid out lowest byte first. -/
def Row.ofBytes (bytes : Bytes) : Row :=
  let word (offset : Nat) : UInt32 :=
    UInt32.ofNat (Bytes.ofLittleEndian ((bytes.drop offset).take 4))
  ⟨word 0, word 4, word 8, word 12⟩

/-- The key in thirty-two bytes. -/
def Key.ofBytes (bytes : Bytes) : Key := (.ofBytes bytes, .ofBytes (bytes.drop 16))

/-- The number that follows a number in the expansion of a seed. -/
def expand (seed : UInt64) : UInt64 := seed * 6364136223846793005 + 11634580027462260723

/-- The word that a number stands for in the expansion of a seed. -/
def scramble (number : UInt64) : UInt32 :=
  let mixed := (((number >>> 18) ^^^ number) >>> 27).toUInt32
  let count := (number >>> 59).toUInt32
  (mixed >>> count) ||| (mixed <<< (32 - count))

/-- A row of words from the expansion of a seed, and the number at which it goes on. -/
def expandRow (seed : UInt64) : Row × UInt64 :=
  let first := expand seed
  let second := expand first
  let third := expand second
  let fourth := expand third
  (⟨scramble first, scramble second, scramble third, scramble fourth⟩, fourth)

def ofSeed (seed : UInt64) : ChaCha :=
  let (low, seed) := expandRow seed
  let (high, _) := expandRow seed
  { key := (low, high) }

end ChaCha

end BurstRelay
