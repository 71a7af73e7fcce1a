import BurstRelay.Proofs.Block.Codec

/-!
# Records do not depend on regions

The region that a burst is decompressed into comes from a buffer that only grows, and it holds what
earlier bursts left in it. Neither matters to a record (`decompressed_alike`): once a body gives a record
in some region, it gives the same one in every larger region, whatever is in it, and no other record in
any region at all, whatever size another header declares for it. Only whether there is a record can
depend on the region, and a larger one is never worse, as long as the library takes it.
-/

namespace BurstRelay

namespace Block

variable {declared otherDeclared : UInt32} {limit otherLimit size otherSize : Nat}
  {body record otherRecord : Bytes}

/-- A body has at most one record, in whatever regions, under whatever declared sizes, and with
whatever libraries. -/
theorem recordIn_unique (first : recordIn limit declared size body = .ok record)
    (second : recordIn otherLimit otherDeclared otherSize body = .ok otherRecord) :
    otherRecord = record ∧ otherDeclared = declared := by
  obtain ⟨-, decoded, -, whole⟩ := recordIn_eq_ok.mp first
  obtain ⟨-, otherDecoded, -, otherWhole⟩ := recordIn_eq_ok.mp second
  have same : otherRecord = record := by
    -- the larger of the two regions gives both
    rcases Nat.le_total (min size Codec.blockLimit) (min otherSize Codec.blockLimit) with le | le
    · cases (decode_grow le decoded).symm.trans otherDecoded
      rfl
    · cases (decode_grow le otherDecoded).symm.trans decoded
      rfl
  subst same
  exact ⟨rfl, UInt32.toNat_inj.mp (otherWhole.symm.trans whole)⟩

end Block

/-- The codec for compressed blocks with the library as it is documented, which takes every region. -/
def Codec.documented (leavings : Leavings) : Codec Unit := blockWithin blockLimit leavings

namespace Payload

open Block (recordIn)

variable {payload : Payload} {region : Region} {limit count : Nat} {leavings : Codec.Leavings}

/-- What checked decompression accepts is a record, and the region begins with it. -/
theorem exists_record
    (done : (payload.decompress (Codec.blockWithin limit leavings) () region).outcome = .ok count) :
    ∃ record, recordIn limit payload.header.declaredUncompressed region.size payload.body =
        .ok record ∧
      record.length = count ∧
      (payload.decompress (Codec.blockWithin limit leavings) () region).region.first count =
        record := by
  have gives := (payload.decompress_block region limit leavings).2
  cases found : recordIn limit payload.header.declaredUncompressed region.size payload.body with
  | error fault =>
    rw [found] at gives
    cases gives.symm.trans done
  | ok record =>
    rw [found] at gives
    obtain ⟨outcome, first⟩ := gives
    cases outcome.symm.trans done
    exact ⟨record, rfl, rfl, first⟩

theorem decompress_of_recordIn {record : Bytes} (leavings : Codec.Leavings)
    (found : recordIn limit payload.header.declaredUncompressed region.size payload.body =
      .ok record) :
    (payload.decompress (Codec.blockWithin limit leavings) () region).outcome =
        .ok record.length ∧
      (payload.decompress (Codec.blockWithin limit leavings) () region).region.first
        record.length = record := by
  have gives := (payload.decompress_block region limit leavings).2
  rw [found] at gives
  exact gives

/-- A burst that is decompressed in some region is decompressed alike in every larger one that is
taken, whatever either of them held and whatever a library leaves behind records: by the documented
library in every one, and by the library that runs in those that are no longer than the longest content
of a block. Its body gives no other record anywhere, and only under the size that its own header
declares. -/
theorem decompressed_alike (payload : Payload) (region : Region) (limit count : Nat)
    (leavings : Codec.Leavings)
    (done : (payload.decompress (Codec.blockWithin limit leavings) () region).outcome = .ok count) :
    let record :=
      (payload.decompress (Codec.blockWithin limit leavings) () region).region.first count
    record.length = payload.header.declaredUncompressed.toNat ∧
      (∀ (larger : Region) (otherLeavings : Codec.Leavings), region.size ≤ larger.size →
        let again := payload.decompress (Codec.documented otherLeavings) () larger
        again.outcome = .ok count ∧ again.region.first count = record) ∧
      (∀ (larger : Region) (otherLeavings : Codec.Leavings), region.size ≤ larger.size →
        let again := payload.decompress (Codec.block otherLeavings) () larger
        if larger.size ≤ Block.inputLimit then
          again.outcome = .ok count ∧ again.region.first count = record
        else again.outcome = .error (Block.oversized payload.body)) ∧
      ∀ (other : Payload) (elsewhere : Region) (otherLimit found : Nat)
        (otherLeavings : Codec.Leavings),
        let again := other.decompress (Codec.blockWithin otherLimit otherLeavings) () elsewhere
        other.body = payload.body → again.outcome = .ok found →
          other.header.declaredUncompressed = payload.header.declaredUncompressed ∧
            found = count ∧ again.region.first found = record := by
  obtain ⟨record, found, rfl, first⟩ := exists_record done
  intro produced
  have same : produced = record := first
  rw [same]
  refine ⟨(Block.recordIn_eq_ok.mp found).2.2.2, ?documented, ?runs, ?unique⟩
  case documented =>
    intro larger otherLeavings le
    exact decompress_of_recordIn otherLeavings
      (Block.recordIn_grow le (Block.takes_blockLimit _) found)
  case runs =>
    intro larger otherLeavings le
    dsimp only
    split
    · rename_i within
      exact decompress_of_recordIn otherLeavings
        (Block.recordIn_grow le (Block.takes_inputLimit.mpr within) found)
    · rename_i beyond
      have gives := (payload.decompress_block larger Block.inputLimit otherLeavings).2
      rw [Block.recordIn_of_not_takes (mt Block.takes_inputLimit.mp beyond)] at gives
      exact gives
  case unique =>
    intro other elsewhere otherLimit count otherLeavings again sameBody doneElsewhere
    obtain ⟨otherRecord, foundElsewhere, rfl, firstElsewhere⟩ := exists_record doneElsewhere
    rw [sameBody] at foundElsewhere
    obtain ⟨rfl, declared⟩ := Block.recordIn_unique found foundElsewhere
    exact ⟨declared, rfl, firstElsewhere⟩

/-- A burst of one literal byte, a match at distance zero and eight literal bytes, in the smallest region
that takes it and with old bytes in the place of the match. -/
theorem decompressed_alike_at_distance_zero :
    let payload : Payload := ⟨⟨13, 13⟩, [16, 170, 0, 0, 128, 1, 2, 3, 4, 5, 6, 7, 8]⟩
    let region : Region := ⟨13, List.replicate 13 255, Nat.le_of_eq List.length_replicate⟩
    let leavings : Codec.Leavings := fun _ _ => [9, 9]
    let codec := Codec.documented leavings
    (payload.decompress codec () region).outcome = .ok 13 ∧
      (payload.decompress codec () region).region.first 13 =
        [170, 0, 0, 0, 0, 1, 2, 3, 4, 5, 6, 7, 8] ∧
      ∀ larger : Region, region.size ≤ larger.size →
        (payload.decompress codec () larger).outcome = .ok 13 ∧
          (payload.decompress codec () larger).region.first 13 =
            [170, 0, 0, 0, 0, 1, 2, 3, 4, 5, 6, 7, 8] := by
  intro payload region leavings codec
  have decoded : Block.decode (min region.size Codec.blockLimit) payload.body =
      .ok [170, 0, 0, 0, 0, 1, 2, 3, 4, 5, 6, 7, 8] := by rfl
  obtain ⟨done, record⟩ : (payload.decompress codec () region).outcome = .ok 13 ∧
      (payload.decompress codec () region).region.first 13 =
        [170, 0, 0, 0, 0, 1, 2, 3, 4, 5, 6, 7, 8] :=
    decompress_of_recordIn leavings
      (Block.recordIn_eq_ok.mpr ⟨Block.takes_blockLimit _, decoded, by simp, rfl⟩)
  obtain ⟨-, alike, -⟩ := decompressed_alike payload region Codec.blockLimit 13 leavings done
  refine ⟨done, record, ?_⟩
  intro larger le
  rw [← record]
  exact alike larger leavings le

end Payload

end BurstRelay
