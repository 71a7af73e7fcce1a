import BurstRelay.Proofs.Relay.Reference

/-!
# Calls written out

What a call does, as functions of what it looks at. Unpacking a burst looks at the codec, at its state
and at the buffer, and changes the last two (`value_unpack`); judging an envelope looks at the bound,
at whether the relay stops at headers and at the output as well (`value_judge`); and the role and the
policy on acknowledgments come in behind that (`value_step_of_envelope`). A comparison of two relays is
a comparison of what these functions are applied to.
-/

namespace BurstRelay

variable {State : Type}

/-! ## Unpacking -/

/-- What unpacking a burst comes to: its record or why there is none, the buffer and the state of the
codec afterwards, and the capacity that was reached unless memory was refused. -/
structure Unpacked (State : Type) where
  unpacking : Unpacking
  buffer : Buffer
  codecState : State
  reached : Option Nat

/-- Unpacks a burst with a codec and a buffer. -/
def Codec.unpack (codec : Codec State) (codecState : State) (buffer : Buffer) (burst : Payload) :
    Unpacked State :=
  match (buffer.ensure burst.header.declaredUncompressed.toNat).value with
  | (.error fault, buffer) => ⟨.stop (.allocation fault), buffer, codecState, none⟩
  | (.ok (), buffer) =>
    let decompression := burst.decompress codec codecState buffer.region
    let unpacked := { buffer with region := decompression.region }
    match decompression.outcome with
    | .error fault => ⟨.skip fault, unpacked, decompression.state, some buffer.capacity⟩
    | .ok produced =>
      ⟨.record (unpacked.valid produced), unpacked, decompression.state, some buffer.capacity⟩

namespace Relay

/-- The relay with what unpacking changes. -/
def unpacked (relay : Relay State) (burst : Payload) : Relay State :=
  let core := relay.codec.unpack relay.codecState relay.buffer burst
  { relay with
    buffer := core.buffer
    codecState := core.codecState
    statistics := core.reached.elim relay.statistics relay.statistics.observeCapacity }

theorem value_unpack (relay : Relay State) (burst : Payload) :
    (relay.unpack burst).value =
      ((relay.codec.unpack relay.codecState relay.buffer burst).unpacking, relay.unpacked burst) := by
  simp only [unpack, unpacked, Codec.unpack, Logged.value_bind]
  cases (relay.buffer.ensure burst.header.declaredUncompressed.toNat).value with
  | mk result buffer =>
    cases result with
    | error fault => rfl
    | ok done =>
      dsimp only
      cases (burst.decompress relay.codec relay.codecState buffer.region).outcome with
      | error fault => rfl
      | ok produced => rfl

theorem eq_unpacked {relay unpacked : Relay State} {burst : Payload} {unpacking : Unpacking}
    (unpack : (relay.unpack burst).value = (unpacking, unpacked)) :
    unpacking = (relay.codec.unpack relay.codecState relay.buffer burst).unpacking ∧
      unpacked = relay.unpacked burst := by
  rw [value_unpack] at unpack
  cases unpack
  exact ⟨rfl, rfl⟩

/-- Unpacking a burst counts nothing but the capacity. -/
theorem statistics_unpacked (relay : Relay State) (burst : Payload) :
    ∃ peak, (relay.unpacked burst).statistics = { relay.statistics with peakCapacity := peak } := by
  unfold unpacked
  dsimp only
  cases (relay.codec.unpack relay.codecState relay.buffer burst).reached with
  | none => exact ⟨_, rfl⟩
  | some capacity => exact ⟨_, rfl⟩

/-! ## Judging -/

/-- What comes of the burst in a payload that was unpacked. -/
def verifying (relay : Relay State) (burst : Payload) : Verdict × Relay State :=
  match (relay.codec.unpack relay.codecState relay.buffer burst).unpacking with
  | .record record => (relay.unpacked burst).deliver record
  | .skip fault => (.skip fault, relay.unpacked burst)
  | .stop fault => (.stop fault, relay.unpacked burst)

theorem value_judge (relay : Relay State) (envelope : Envelope) :
    (relay.judge envelope).value =
      match Reference.header relay.bound envelope.payload with
      | .error fault => (.skip fault, relay)
      | .ok burst => if relay.dummy then (.headerOnly, relay) else relay.verifying burst := by
  simp only [judge, Logged.value_bind, Reference.value_admission]
  cases Reference.header relay.bound envelope.payload with
  | error fault => rfl
  | ok burst =>
    dsimp only
    split
    · rfl
    · simp only [verify, verifying, Logged.value_bind, value_unpack]
      cases (relay.codec.unpack relay.codecState relay.buffer burst).unpacking with
      | record record => rfl
      | skip fault => rfl
      | stop fault => rfl

/-! ## Answering -/

/-- The relay behind an acknowledgment that is sent, if its role sends any. -/
def replied (relay : Relay State) (envelope : Envelope) : Relay State :=
  if relay.role.acknowledges then
    { relay with
      acknowledger := { relay.acknowledger with sent := relay.acknowledger.sent + 1 }
      channel := { relay.channel with
        sendInterruptions := 0
        sent := relay.channel.sent.push (relay.channel.unfinished ++ Acknowledger.reply envelope)
        unfinished := [] }
      statistics := { relay.statistics with acksSent := relay.statistics.acksSent + 1 } }
  else relay

theorem value_conclude {relay : Relay State} (sends : relay.channel.sendFault = none)
    (envelope : Envelope) (outcome : Bool → Outcome) :
    (relay.conclude envelope outcome).value =
      (.ok (outcome relay.role.acknowledges), relay.replied envelope) := by
  have concluded := relay.concluded envelope outcome
  have send := Channel.value_sendMessage sends (Acknowledger.reply_ne_nil envelope)
  generalize same : (relay.conclude envelope outcome).value = pair at concluded
  obtain ⟨result, after⟩ := pair
  unfold replied
  cases concluded with
  | withheld passive =>
    rw [passive]
    rfl
  | sent active sent =>
    rw [sent] at send
    cases send
    rw [active]
    rfl
  | failed _ failure =>
    rw [failure] at send
    cases send

/-- What is answered to an envelope that was judged. -/
def answered (relay : Relay State) (envelope : Envelope) :
    Verdict → Except RelayFault Outcome × Relay State
  | .written records => (.ok (.emitted records relay.role.acknowledges), relay.replied envelope)
  | .headerOnly => (.ok (.admitted relay.role.acknowledges), relay.replied envelope)
  | .stop fault => (.error fault, relay)
  | .skip fault =>
    if relay.ackSkipped then
      (.ok (.skipped (.burst fault) relay.role.acknowledges),
        (relay.countSkip fault.kind).replied envelope)
    else (.ok (.skipped (.burst fault) false), relay.countSkip fault.kind)

/-- A burst that is skipped is acknowledged if the role does that and the policy allows it. -/
theorem answered_skip (relay : Relay State) (envelope : Envelope) (fault : BurstFault) :
    (relay.answered envelope (.skip fault)).1 =
      .ok (.skipped (.burst fault) (relay.ackSkipped && relay.role.acknowledges)) := by
  unfold answered
  dsimp only
  cases relay.ackSkipped with
  | true => rfl
  | false => rfl

/-- Only a verdict that stops the relay is answered with a fault. -/
theorem stop_of_answered {relay after : Relay State} {envelope : Envelope} {verdict : Verdict}
    {fault : RelayFault} (answers : relay.answered envelope verdict = (.error fault, after)) :
    verdict = .stop fault ∧ after = relay := by
  cases verdict with
  | written records => cases answers
  | headerOnly => cases answers
  | stop cause =>
    cases answers
    exact ⟨rfl, rfl⟩
  | skip cause =>
    unfold answered at answers
    dsimp only at answers
    split at answers
    · cases answers
    · cases answers

/-- A change of relays that answering does not see. -/
structure Blind {State' : Type} (change : Relay State → Relay State') : Prop where
  role : ∀ relay, (change relay).role = relay.role
  ackSkipped : ∀ relay, (change relay).ackSkipped = relay.ackSkipped
  countSkip : ∀ relay kind, (change relay).countSkip kind = change (relay.countSkip kind)
  replied : ∀ relay envelope, (change relay).replied envelope = change (relay.replied envelope)

/-- What is answered is the same behind such a change, and leaves the relay that is changed alike. -/
theorem Blind.answered {State' : Type} {change : Relay State → Relay State'} (blind : Blind change)
    (relay : Relay State) (envelope : Envelope) (verdict : Verdict) :
    (change relay).answered envelope verdict =
      ((relay.answered envelope verdict).1, change (relay.answered envelope verdict).2) := by
  cases verdict with
  | written records =>
    unfold Relay.answered
    dsimp only
    rw [blind.replied, blind.role]
  | headerOnly =>
    unfold Relay.answered
    dsimp only
    rw [blind.replied, blind.role]
  | stop fault => rfl
  | skip fault =>
    unfold Relay.answered
    dsimp only
    rw [blind.ackSkipped, blind.countSkip, blind.role]
    split
    · rw [blind.replied]
    · rfl

/-! ## Whole calls -/

variable {relay : Relay State} {message : Message} {rest : List Arrival}

/-- A message that is there is settled, and answered if that is called for. -/
theorem value_step_of_taken
    (taken : (Channel.nextMessage #[] relay.channel.incoming).value = (.ok message, rest)) :
    relay.step.value =
      match ((relay.taking rest).treat (Received.classify relay.role message)).value with
      | (.acknowledge envelope outcome, ready) => (ready.conclude envelope outcome).value
      | (.silent outcome, ready) => (.ok outcome, ready)
      | (.stop fault, ready) => (.error fault, ready) := by
  simp only [step, prepare, Logged.value_bind, value_read_of_taken relay.role taken]
  show (match ((relay.taking rest).treat (Received.classify relay.role message)).value with
    | (.acknowledge envelope outcome, ready) => ready.conclude envelope outcome
    | (.silent outcome, ready) => return (.ok outcome, ready)
    | (.stop fault, ready) => return (.error fault, ready)).value = _
  rcases ((relay.taking rest).treat (Received.classify relay.role message)).value with
    ⟨settlement, ready⟩
  cases settlement with
  | acknowledge envelope outcome => rfl
  | silent outcome => rfl
  | stop fault => rfl

theorem value_step_of_acknowledgment {identity : Bytes} {messageId : Option Bytes}
    (taken : (Channel.nextMessage #[] relay.channel.incoming).value = (.ok message, rest))
    (kind : Received.classify relay.role message = .acknowledgment identity messageId) :
    relay.step.value = (.ok .ackEcho, (relay.taking rest).countEcho) := by
  rw [value_step_of_taken taken, kind]
  rfl

theorem value_step_of_rejected {fault : SkipFault}
    (taken : (Channel.nextMessage #[] relay.channel.incoming).value = (.ok message, rest))
    (kind : Received.classify relay.role message = .rejected fault) :
    relay.step.value = (.ok (.skipped fault false), (relay.taking rest).countSkip fault.kind) := by
  rw [value_step_of_taken taken, kind]
  rfl

theorem value_step_of_envelope {envelope : Envelope} (sends : relay.channel.sendFault = none)
    (taken : (Channel.nextMessage #[] relay.channel.incoming).value = (.ok message, rest))
    (kind : Received.classify relay.role message = .envelope envelope) :
    relay.step.value =
      ((relay.taking rest).judge envelope).value.2.answered envelope
        ((relay.taking rest).judge envelope).value.1 := by
  have judged := (relay.taking rest).judged envelope
  have works : ((relay.taking rest).judge envelope).value.2.channel.sendFault = none :=
    judged.frame.1.sendFault.trans sends
  rw [value_step_of_taken taken, kind]
  simp only [treat, settle, Logged.value_bind]
  cases judges : ((relay.taking rest).judge envelope).value with
  | mk verdict ready =>
    rw [judges] at works
    unfold answered
    cases verdict with
    | written records => exact value_conclude works envelope (.emitted records)
    | headerOnly => exact value_conclude works envelope .admitted
    | stop fault => rfl
    | skip fault =>
      have counted : (ready.countSkip fault.kind).channel.sendFault = none := works
      dsimp only [Logged.value_bind]
      cases policy : ready.ackSkipped with
      | true =>
        have same : (ready.countSkip fault.kind).ackSkipped = true := policy
        rw [if_pos same, if_pos rfl]
        exact value_conclude counted envelope (.skipped (.burst fault))
      | false =>
        have same : ¬ (ready.countSkip fault.kind).ackSkipped = true := by
          show ¬ ready.ackSkipped = true
          rw [policy]
          exact Bool.false_ne_true
        rw [if_neg same, if_neg Bool.false_ne_true]
        rfl

end Relay

end BurstRelay
