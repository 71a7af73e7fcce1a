import BurstRelay.Proofs.Block.Codec
import BurstRelay.Proofs.Relay.Calls
import BurstRelay.Proofs.Telemetry.Footprint

/-!
# Relays that nothing around them fails

Memory, the channel and the sink can stop a relay; messages cannot. `Dependable` says that the
former work, and then no message stops a call (`served_of_dependable`), whatever is in it and
whatever the codec makes of it. Two things have to be known for that: a declared size is admitted
only up to the bound, so that memory for it is granted; and a record of at most that size is split
into records that four bytes of length are enough for (`length_lt_of_records`).
-/

namespace BurstRelay

theorem Acknowledger.reply_ne_nil (envelope : Envelope) : reply envelope ≠ [] := by
  simp [reply]

/-- What unpacking a burst comes to when it does not stop the relay. -/
def Unpacking.ofResult : Except BurstFault Bytes → Unpacking
  | .ok bytes => .record bytes
  | .error fault => .skip fault

namespace Relay

variable {State : Type}

/-- What is around a relay works: memory is granted up to the bound, sends succeed, and the sink
accepts everything. -/
structure Dependable (relay : Relay State) : Prop where
  grants : ∀ requests capacity, capacity ≤ relay.bound.toNat →
    relay.buffer.allocator requests capacity = none
  bounded : relay.bound.toNat ≤ Codec.blockLimit
  sends : relay.channel.sendFault = none
  accepts : relay.sink.behaviour.Accepts
  framing : relay.format = relay.output.mode.format

/-- No call changes what a relay depends on. -/
theorem Dependable.keeps {relay after : Relay State} (dependable : Dependable relay)
    (keeps : relay.Keeps after) : Dependable after where
  grants := by
    intro requests capacity within
    rw [keeps.bound] at within
    rw [keeps.allocator]
    exact dependable.grants requests capacity within
  bounded := by
    rw [keeps.bound]
    exact dependable.bounded
  sends := keeps.sendFault.trans dependable.sends
  accepts := by
    show after.output.writer.sink.behaviour.Accepts
    rw [keeps.writer.behaviour]
    exact dependable.accepts
  framing := by
    show after.output.writer.format = after.output.mode.format
    rw [keeps.writer.format, keeps.mode]
    exact dependable.framing

/-- The bound that is enforced is never above what the block format can be decoded into. -/
theorem bound_le_blockLimit (settings : Settings) : settings.bound.toNat ≤ Codec.blockLimit := by
  have limit : Settings.codecLimit.toNat = Codec.blockLimit := by decide
  unfold Settings.bound
  dsimp only
  split
  · omega
  · show (if settings.decompression.maxDeclaredSize ≤ Settings.codecLimit then
      settings.decompression.maxDeclaredSize else Settings.codecLimit).toNat ≤ Codec.blockLimit
    split
    · rename_i below
      rw [← limit]
      exact UInt32.le_iff_toNat_le.mp below
    · omega

theorem dependable_of_start {settings : Settings} {allocator : Allocator} {codec : Codec State}
    {codecState : State} {channel : Channel} {sink : Sink} {relay : Relay State}
    (started : (start settings allocator codec codecState channel sink).value = .ok relay)
    (grants : ∀ requests capacity, capacity ≤ settings.bound.toNat →
      allocator requests capacity = none)
    (sends : channel.sendFault = none) (accepts : sink.behaviour.Accepts) : Dependable relay := by
  obtain ⟨buffer, made, rfl⟩ := eq_of_start started
  have same : buffer.allocator = allocator := (Buffer.frame_of_ofCapacity made).1
  refine ⟨?_, bound_le_blockLimit settings, sends, accepts, rfl⟩
  rw [same]
  exact grants

/-! ## Memory -/

/-- What a burst is decompressed to in the region that was made large enough for it. -/
def decompressed (relay : Relay State) (burst : Payload) : Decompression State :=
  burst.decompress relay.codec relay.codecState
    (relay.buffer.region.grow burst.header.declaredUncompressed.toNat)

/-- The record of a burst that memory was granted for. -/
def record? (relay : Relay State) (burst : Payload) : Except BurstFault Bytes :=
  (relay.decompressed burst).outcome.map (relay.decompressed burst).region.first

theorem unpack_of_granted {relay : Relay State} {burst : Payload}
    (granted : ∀ requests, relay.buffer.allocator requests
      burst.header.declaredUncompressed.toNat = none) :
    ∃ unpacked, unpacked.buffer.region = (relay.decompressed burst).region ∧
      (relay.unpack burst).value = (.ofResult (relay.record? burst), unpacked) := by
  obtain ⟨grown, ensured, region⟩ := Buffer.ensure_of_granted fun _ => granted _
  simp only [unpack, Logged.value_bind, ensured, region, record?, decompressed]
  cases (burst.decompress relay.codec relay.codecState
      (relay.buffer.region.grow burst.header.declaredUncompressed.toNat)).outcome with
  | error fault => exact ⟨_, rfl, rfl⟩
  | ok produced => exact ⟨_, rfl, rfl⟩

/-- With the codec for compressed blocks, nothing but the size of the region matters to a burst. -/
theorem record?_block {relay : Relay Unit} {leavings : Codec.Leavings}
    (codec : relay.codec = .block leavings) (burst : Payload) :
    relay.record? burst = Block.recordIn Block.inputLimit burst.header.declaredUncompressed
      (max relay.buffer.capacity burst.header.declaredUncompressed.toNat) burst.body := by
  have found := (burst.decompress_block
    (relay.buffer.region.grow burst.header.declaredUncompressed.toNat) Block.inputLimit leavings).2
  unfold record? decompressed
  rw [codec]
  rw [Region.size_grow] at found
  show _ = Block.recordIn Block.inputLimit burst.header.declaredUncompressed
    (max relay.buffer.region.size burst.header.declaredUncompressed.toNat) burst.body
  cases recorded : Block.recordIn Block.inputLimit burst.header.declaredUncompressed
      (max relay.buffer.region.size burst.header.declaredUncompressed.toNat) burst.body with
  | error fault =>
    rw [recorded] at found
    exact congrArg (Except.map _) found
  | ok record =>
    rw [recorded] at found
    obtain ⟨produced, whole⟩ := found
    refine (congrArg (Except.map _) produced).trans ?_
    exact congrArg Except.ok whole

/-! ## Sizes -/

/-- A burst is admitted exactly when it is well formed and declares no more than the bound. -/
theorem admission_eq_ok {relay : Relay State} {payload : Bytes} {burst : Payload} :
    (relay.admission payload).value = .ok burst ↔
      Payload.parse payload = .ok burst ∧
        burst.header.declaredUncompressed.toNat ≤ relay.bound.toNat := by
  unfold admission Header.checkDeclared
  cases parsed : Payload.parse payload with
  | error fault => simp
  | ok found =>
    dsimp only
    split
    · rename_i fault refused
      split at refused
      · rename_i above
        have beyond := UInt32.lt_iff_toNat_lt.mp above
        constructor
        · intro same
          cases same
        · rintro ⟨same, within⟩
          cases same
          omega
      · cases refused
    · rename_i fits
      split at fits
      · cases fits
      · rename_i within
        have below := mt UInt32.lt_iff_toNat_lt.mpr within
        constructor
        · intro same
          cases same
          exact ⟨rfl, by omega⟩
        · rintro ⟨same, -⟩
          cases same
          rfl

/-- A codec that is believed has produced what was declared. -/
theorem checkProduced_eq_ok {payload : Payload} {codec : String} {room produced : Nat}
    {reported : Except String Nat}
    (accepted : payload.checkProduced codec room reported = .ok produced) :
    produced = payload.header.declaredUncompressed.toNat ∧ produced ≤ room := by
  unfold Payload.checkProduced at accepted
  dsimp only at accepted
  split at accepted
  · cases accepted
  · split at accepted
    · cases accepted
    · split at accepted
      · cases accepted
      · split at accepted
        · cases accepted
        · rename_i within whole
          cases accepted
          exact ⟨by simpa using whole, by omega⟩

theorem length_first_le (region : Region) (count : Nat) : (region.first count).length ≤ count := by
  rw [region.first_eq_take]
  exact List.length_take_le _ _

/-- Four bytes are enough for the length of each output record of a record that fits the block
format, although a frame can be longer than the record it was read out of. -/
theorem length_lt_of_records {mode : OutputMode} {record : Bytes} {parts : List Bytes}
    (short : record.length ≤ Codec.blockLimit) (split : Output.records mode record = .ok parts) :
    ∀ part ∈ parts, part.length < UInt32.size := by
  intro part member
  have limit : Codec.blockLimit + 5 < UInt32.size := by decide
  cases mode with
  | binary =>
    cases split
    rw [List.mem_singleton.mp member]
    omega
  | hex =>
    cases split
    rw [List.mem_singleton.mp member]
    omega
  | frames =>
    have longer := DataBurst.length_le_of_split split part member
    omega

/-! ## Messages do not stop a relay -/

/-- A record is the start of the buffer, as much of it as the burst declared. -/
theorem record_of_unpack {relay unpacked : Relay State} {burst : Payload} {record : Bytes}
    (dependable : Dependable relay)
    (within : burst.header.declaredUncompressed.toNat ≤ relay.bound.toNat)
    (unpack : (relay.unpack burst).value = (.record record, unpacked)) :
    record = unpacked.buffer.region.first burst.header.declaredUncompressed.toNat ∧
      burst.header.declaredUncompressed.toNat ≤ unpacked.buffer.region.size := by
  obtain ⟨granted, region, unpacks⟩ :=
    unpack_of_granted (fun requests => dependable.grants requests _ within)
  rw [unpack, record?] at unpacks
  cases outcome : (relay.decompressed burst).outcome with
  | error fault =>
    rw [outcome] at unpacks
    cases unpacks
  | ok produced =>
    rw [outcome] at unpacks
    cases unpacks
    obtain ⟨whole, fits⟩ := checkProduced_eq_ok outcome
    rw [region, ← whole]
    exact ⟨rfl, fits⟩

/-- A record is never longer than its burst declared. -/
theorem length_le_of_unpack {relay unpacked : Relay State} {burst : Payload} {record : Bytes}
    (dependable : Dependable relay)
    (within : burst.header.declaredUncompressed.toNat ≤ relay.bound.toNat)
    (unpack : (relay.unpack burst).value = (.record record, unpacked)) :
    record.length ≤ burst.header.declaredUncompressed.toNat := by
  rw [(record_of_unpack dependable within unpack).1]
  exact length_first_le _ _

theorem Verified.not_stopped {relay after : Relay State} {burst : Payload} {fault : RelayFault}
    (dependable : Dependable relay)
    (within : burst.header.declaredUncompressed.toNat ≤ relay.bound.toNat) :
    ¬ Verified relay burst (.stop fault) after := by
  intro verified
  cases verified with
  | starved unpack =>
    obtain ⟨granted, -, unpacks⟩ :=
      unpack_of_granted (fun requests => dependable.grants requests _ within)
    rw [unpack] at unpacks
    cases result : relay.record? burst with
    | error fault =>
      rw [result] at unpacks
      cases unpacks
    | ok record =>
      rw [result] at unpacks
      cases unpacks
  | torn unpack split _ failure _ =>
    have short := length_le_of_unpack dependable within unpack
    have fits := length_lt_of_records
      (Nat.le_trans short (Nat.le_trans within dependable.bounded)) split
    have succeeds := relay.output.writer.writeEach_of_accepts dependable.accepts
      (fun part member _ => fits part member)
    rw [failure] at succeeds
    cases succeeds

theorem Judged.not_stopped {relay after : Relay State} {payload : Bytes} {fault : RelayFault}
    (dependable : Dependable relay) : ¬ Judged relay payload (.stop fault) after := by
  intro judged
  cases judged with
  | full admitted _ verified =>
    exact Verified.not_stopped dependable (admission_eq_ok.mp admitted).2 verified

/-! ## Acknowledgments do not stop a relay either -/

theorem Concluded.succeeds {relay after : Relay State} {envelope : Envelope}
    {outcome : Bool → Outcome} {result : Except RelayFault Outcome} (dependable : Dependable relay)
    (concluded : Concluded relay envelope outcome result after) :
    result = .ok (outcome relay.role.acknowledges) := by
  cases concluded with
  | withheld passive => rw [passive]
  | sent active _ => rw [active]
  | failed _ send =>
    rw [Channel.value_sendMessage dependable.sends (Acknowledger.reply_ne_nil envelope)] at send
    cases send

/-- The messages that an acknowledgment adds to those sent. -/
def replies (role : Role) (envelope : Envelope) : List Message :=
  if role.acknowledges then [Acknowledger.reply envelope] else []

/-- An acknowledgment goes out as one whole message, unless a part of another one waits. -/
theorem Concluded.sends {relay after : Relay State} {envelope : Envelope}
    {outcome : Bool → Outcome} {result : Except RelayFault Outcome} (dependable : Dependable relay)
    (finished : relay.channel.unfinished = [])
    (concluded : Concluded relay envelope outcome result after) :
    after.channel.sent.toList = relay.channel.sent.toList ++ replies relay.role envelope ∧
      after.channel.unfinished = [] := by
  have send := Channel.value_sendMessage dependable.sends (Acknowledger.reply_ne_nil envelope)
  cases concluded with
  | withheld passive =>
    rw [replies, passive]
    exact ⟨by simp, finished⟩
  | sent active sent =>
    rw [sent] at send
    cases send
    rw [replies, active, finished]
    exact ⟨by simp, rfl⟩
  | failed _ failure =>
    rw [failure] at send
    cases send

/-! ## Calls -/

/-- What a call comes to when nothing around the relay fails and there is a message: the message is
settled without stopping the relay, and acknowledged if that is called for. -/
inductive Served (relay : Relay State) : Outcome → Relay State → Prop
  | silent {outcome : Outcome} {after : Relay State}
      (settled : Settled relay (.silent outcome) after) : Served relay outcome after
  | acknowledged {envelope : Envelope} {outcome : Bool → Outcome} {ready after : Relay State}
      (settled : Settled relay (.acknowledge envelope outcome) ready)
      (concluded : Concluded ready envelope outcome (.ok (outcome relay.role.acknowledges)) after) :
      Served relay (outcome relay.role.acknowledges) after

/-- A message never stops a relay that nothing around it fails. -/
theorem served_of_dependable {relay : Relay State} (dependable : Dependable relay)
    {frames : Message} {rest : List Arrival}
    (taken : (Channel.nextMessage #[] relay.channel.incoming).value = (.ok frames, rest)) :
    ∃ outcome after, relay.step.value = (.ok outcome, after) ∧ Served relay outcome after ∧
      after.channel.incoming = rest := by
  have settled := relay.settled
  have frame := settled.frame.2
  simp only [step, Logged.value_bind]
  cases prepared : relay.prepare.value with
  | mk settlement ready =>
    rw [prepared] at settled frame
    have queue : ready.channel.incoming = rest := by rw [frame, taken]; rfl
    cases settlement with
    | silent outcome => exact ⟨outcome, ready, rfl, .silent settled, queue⟩
    | stop fault =>
      cases settled with
      | lost failed =>
        rw [taken] at failed
        cases failed
      | stopped _ _ judged =>
        exact absurd judged (Judged.not_stopped (dependable.keeps (keeps_taking relay _)))
    | acknowledge envelope outcome =>
      have keeps := settled.frame.1
      have concluded := ready.concluded envelope outcome
      have succeeds := concluded.succeeds (dependable.keeps keeps)
      have sameQueue := concluded.frame.2.2.2.2
      rw [keeps.role] at succeeds
      rw [succeeds] at concluded
      exact ⟨_, _, Prod.ext succeeds rfl, .acknowledged settled concluded,
        sameQueue.trans queue⟩

end Relay

end BurstRelay
