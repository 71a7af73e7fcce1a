import BurstRelay.Buffer.Region
import BurstRelay.Log

/-!
# The decompression buffer

One buffer serves all bursts of a relay. It grows to exactly the size that a burst declares when
that is more than its capacity, and it never shrinks, so that steady traffic allocates nothing.
Bytes behind the last record are left over from earlier bursts.

Whether memory can be had is up to an allocator, which is a value: it answers each request by the
number of requests before and by the capacity asked for. A refused request leaves the buffer as it
was, except that it was asked for.
-/

namespace BurstRelay

/-- Why memory cannot be had. -/
inductive Refusal where
  /-- No region can have that many bytes. -/
  | tooLarge
  /-- The allocator has no room. -/
  | noRoom
  deriving DecidableEq, Repr

def Refusal.message : Refusal → String
  | tooLarge =>
    "memory allocation failed because the computed capacity exceeded the collection's maximum"
  | noRoom => "memory allocation failed because the memory allocator returned an error"

/-- Which requests for memory are refused, by the number of requests before and by the capacity. -/
abbrev Allocator := Nat → Nat → Option Refusal

namespace Allocator

/-- The allocator that grants every request. -/
def willing : Allocator := fun _ _ => none

/-- The allocator of a machine of sixty-four bits: a region has less than 2^63 bytes, and there is
no room for 2^62 of them. -/
def machine : Allocator := fun _ capacity =>
  if 1 <<< 63 ≤ capacity then some .tooLarge
  else if 1 <<< 62 ≤ capacity then some .noRoom
  else none

end Allocator

/-- A buffer that could not grow. -/
structure BufferFault where
  capacity : Nat
  requested : Nat
  refusal : Refusal
  deriving DecidableEq, Repr

def BufferFault.message (fault : BufferFault) : String :=
  s!"Failed to grow decompression buffer from {fault.capacity} to {fault.requested} bytes: " ++
    fault.refusal.message

/-- The decompression buffer of a relay. -/
structure Buffer where
  allocator : Allocator
  /-- All addressable bytes. -/
  region : Region := .zeros 0
  /-- How often the capacity was raised after creation. -/
  growths : Nat := 0
  /-- How often memory was asked for. -/
  requests : Nat := 0

namespace Buffer

/-- The number of addressable bytes. -/
def capacity (buffer : Buffer) : Nat := buffer.region.size

/-- The capacity that a buffer has if nothing else is said. -/
def defaultCapacity : Nat := 1024000

/-- Asks for memory up to a capacity above the present one. -/
def reserve (buffer : Buffer) (requested : Nat) : Except BufferFault Unit × Buffer :=
  match buffer.allocator buffer.requests requested with
  | some refusal =>
    (.error ⟨buffer.capacity, requested, refusal⟩, { buffer with requests := buffer.requests + 1 })
  | none =>
    (.ok (), { buffer with
      region := buffer.region.grow requested
      requests := buffer.requests + 1 })

/-- A buffer of a capacity. -/
def ofCapacity (allocator : Allocator) (capacity : Nat) : Except BufferFault Buffer :=
  let buffer : Buffer := { allocator }
  if capacity = 0 then .ok buffer
  else
    match buffer.reserve capacity with
    | (.ok (), buffer) => .ok buffer
    | (.error fault, _) => .error fault

/-- Makes sure that the buffer has room for so many bytes. -/
def ensure (buffer : Buffer) (needed : Nat) : Logged (Except BufferFault Unit × Buffer) := do
  if buffer.capacity < needed then
    Logged.report .debug "growing decompression buffer"
      [("from", toString buffer.capacity), ("to", toString needed)]
    match buffer.reserve needed with
    | (.ok (), grown) => return (.ok (), { grown with growths := grown.growths + 1 })
    | (.error fault, same) => return (.error fault, same)
  else
    return (.ok (), buffer)

/-- The first `count` bytes, or all if there are fewer. -/
def valid (buffer : Buffer) (count : Nat) : Bytes := buffer.region.first count

def write (buffer : Buffer) (offset : Nat) (bytes : Bytes) : Buffer :=
  { buffer with region := buffer.region.write offset bytes }

end Buffer

end BurstRelay
