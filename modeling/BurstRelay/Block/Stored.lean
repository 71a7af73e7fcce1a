import BurstRelay.Bytes.Basic

/-!
# Stored blocks

The plainest valid block holds its content as one literal run, with no match. A record of at most
fourteen bytes takes one byte more than its content, and a longer one a byte more for each 255.
-/

namespace BurstRelay.Block

/-- The bytes that spell a length from fifteen on: so many times 255, and a last byte below that. -/
def lengthTail (beyond : Nat) : Bytes :=
  List.replicate (beyond / 255) 255 ++ [UInt8.ofNat (beyond % 255)]

/-- The block that holds its content as one literal run. -/
def store (content : Bytes) : Bytes :=
  let length := content.length
  if length < 15 then UInt8.ofNat (16 * length) :: content
  else UInt8.ofNat 240 :: (lengthTail (length - 15) ++ content)

end BurstRelay.Block
