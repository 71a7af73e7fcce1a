import BurstRelay.Proofs.Buffer.Growth
import BurstRelay.Proofs.Message.Channel
import BurstRelay.Proofs.Record.Delivery
import BurstRelay.Relay.Basic

/-!
# What one call of a relay can do

A call settles one message and then acknowledges it if that is called for. For each stage there is a
relation with one constructor for each thing that can happen in it, together with all that is known
when it does: `Output.Emits`, `Verified`, `Judged`, `Settled`, `Concluded`, and `Called` for the call.
What a call can do is said there once, and an invariant of calls is one case for each constructor.

`Relay.Keeps` is what no call changes, and `Relay.nextRecords` is what the next message is worth to
the output, whatever the sink does.
-/

namespace BurstRelay

/-! ## Output -/

/-- What emitting a verified record can come to. -/
inductive Output.Emits (output : Output) (record : Bytes) : Emission → Output → Prop
  | undecodable {fault : BurstFault} (broken : records output.mode record = .error fault) :
      Emits output record (.undecodable fault) output
  | wrote {parts : List Bytes} {writer : RecordWriter}
      (split : records output.mode record = .ok parts)
      (keeps : output.writer.Keeps writer)
      (counted : writer.written = output.writer.written + parts.length)
      (stored : Stored output.writer.format output.writer.sink parts writer.sink) :
      Emits output record (.wrote parts.length) { output with writer }
  | failed {parts : List Bytes} {writer : RecordWriter} {fault : Fault}
      (split : records output.mode record = .ok parts)
      (keeps : output.writer.Keeps writer)
      (failure : output.writer.writeEach parts = (.error fault, writer))
      (torn : Torn output.writer.format output.writer.sink parts writer.sink) :
      Emits output record (.failed fault) { output with writer }

theorem Output.emits (output : Output) (record : Bytes) :
    Emits output record (output.emit record).1 (output.emit record).2 := by
  unfold emit
  cases split : records output.mode record with
  | error fault => exact .undecodable split
  | ok parts =>
    cases wrote : output.writer.writeEach parts with
    | mk result writer =>
      obtain ⟨keeps, ⟨rfl, counted, stored⟩ | ⟨⟨fault, rfl⟩, torn⟩⟩ :=
        RecordWriter.writeEach_cases wrote
      · simp only [wrote]
        exact .wrote split keeps counted stored
      · simp only [wrote]
        exact .failed split keeps wrote torn

namespace Relay

variable {State : Type}

/-- The sink that a relay writes to. -/
def sink (relay : Relay State) : Sink := relay.output.writer.sink

/-- How a relay frames its records. -/
def format (relay : Relay State) : RecordFormat := relay.output.writer.format

theorem sink_of_output {relay after : Relay State} (same : after.output = relay.output) :
    after.sink = relay.sink := congrArg (fun output => output.writer.sink) same

/-! ## What no call changes -/

/-- What a relay keeps for its whole life. -/
structure Keeps (relay after : Relay State) : Prop where
  codec : after.codec = relay.codec
  bound : after.bound = relay.bound
  ackSkipped : after.ackSkipped = relay.ackSkipped
  dummy : after.dummy = relay.dummy
  role : after.role = relay.role
  mode : after.output.mode = relay.output.mode
  writer : relay.output.writer.Keeps after.output.writer
  allocator : after.buffer.allocator = relay.buffer.allocator
  sendFault : after.channel.sendFault = relay.channel.sendFault

/-- All but the output may change, as long as the same role acknowledges, the same memory is asked
and sends go on as before. -/
theorem keeps_with (relay : Relay State) {codecState : State} {channel : Channel} {buffer : Buffer}
    {acknowledger : Acknowledger} {statistics : Statistics}
    (role : acknowledger.role = relay.acknowledger.role)
    (allocator : buffer.allocator = relay.buffer.allocator)
    (sendFault : channel.sendFault = relay.channel.sendFault) :
    Keeps relay { relay with codecState, channel, buffer, acknowledger, statistics } where
  codec := rfl
  bound := rfl
  ackSkipped := rfl
  dummy := rfl
  role := role
  mode := rfl
  writer := .refl relay.output.writer
  allocator := allocator
  sendFault := sendFault

theorem Keeps.refl (relay : Relay State) : Keeps relay relay := relay.keeps_with rfl rfl rfl

theorem Keeps.trans {relay middle after : Relay State} (first : Keeps relay middle)
    (second : Keeps middle after) : Keeps relay after where
  codec := second.codec.trans first.codec
  bound := second.bound.trans first.bound
  ackSkipped := second.ackSkipped.trans first.ackSkipped
  dummy := second.dummy.trans first.dummy
  role := second.role.trans first.role
  mode := second.mode.trans first.mode
  writer := first.writer.trans second.writer
  allocator := second.allocator.trans first.allocator
  sendFault := second.sendFault.trans first.sendFault

/-! ## Verifying an admitted burst -/

/-- Unpacking a burst touches neither the channel nor the output. -/
theorem frame_of_unpack {relay unpacked : Relay State} {burst : Payload} {unpacking : Unpacking}
    (unpacks : (relay.unpack burst).value = (unpacking, unpacked)) :
    relay.Keeps unpacked ∧ unpacked.channel = relay.channel ∧ unpacked.output = relay.output := by
  have same := relay.buffer.allocator_of_ensure burst.header.declaredUncompressed.toNat
  simp only [unpack, Logged.value_bind] at unpacks
  cases ensured : (relay.buffer.ensure burst.header.declaredUncompressed.toNat).value with
  | mk result buffer =>
    rw [ensured] at unpacks same
    cases result with
    | error fault =>
      cases unpacks
      exact ⟨relay.keeps_with rfl same rfl, rfl, rfl⟩
    | ok done =>
      dsimp only at unpacks
      split at unpacks
      · cases unpacks
        exact ⟨relay.keeps_with rfl same rfl, rfl, rfl⟩
      · cases unpacks
        exact ⟨relay.keeps_with rfl same rfl, rfl, rfl⟩

/-- Only memory can fail while a burst is unpacked. -/
theorem allocation_of_unpack {relay unpacked : Relay State} {burst : Payload} {fault : RelayFault}
    (unpacks : (relay.unpack burst).value = (.stop fault, unpacked)) :
    ∃ cause, fault = .allocation cause := by
  simp only [unpack, Logged.value_bind] at unpacks
  split at unpacks
  · cases unpacks
    exact ⟨_, rfl⟩
  · split at unpacks
    · cases unpacks
    · cases unpacks

/-- What verifying an admitted burst can come to. -/
inductive Verified (relay : Relay State) (burst : Payload) : Verdict → Relay State → Prop
  | starved {fault : BufferFault} {unpacked : Relay State}
      (unpack : (relay.unpack burst).value = (.stop (.allocation fault), unpacked)) :
      Verified relay burst (.stop (.allocation fault)) unpacked
  | unsound {fault : BurstFault} {unpacked : Relay State}
      (unpack : (relay.unpack burst).value = (.skip fault, unpacked)) :
      Verified relay burst (.skip fault) unpacked
  | undecodable {fault : BurstFault} {record : Bytes} {unpacked : Relay State}
      (unpack : (relay.unpack burst).value = (.record record, unpacked))
      (broken : Output.records relay.output.mode record = .error fault) :
      Verified relay burst (.skip fault) unpacked
  | written {record : Bytes} {parts : List Bytes} {unpacked : Relay State} {writer : RecordWriter}
      (unpack : (relay.unpack burst).value = (.record record, unpacked))
      (split : Output.records relay.output.mode record = .ok parts)
      (keeps : relay.output.writer.Keeps writer)
      (counted : writer.written = relay.output.writer.written + parts.length)
      (stored : Stored relay.format relay.sink parts writer.sink) :
      Verified relay burst (.written parts.length)
        { unpacked with
          output := { relay.output with writer }
          statistics := { unpacked.statistics with
            recordsEmitted := unpacked.statistics.recordsEmitted + parts.length } }
  | torn {record : Bytes} {parts : List Bytes} {unpacked : Relay State} {writer : RecordWriter}
      {fault : Fault}
      (unpack : (relay.unpack burst).value = (.record record, unpacked))
      (split : Output.records relay.output.mode record = .ok parts)
      (keeps : relay.output.writer.Keeps writer)
      (failure : relay.output.writer.writeEach parts = (.error fault, writer))
      (torn : Torn relay.format relay.sink parts writer.sink) :
      Verified relay burst (.stop (.sink fault))
        { unpacked with output := { relay.output with writer } }

theorem verified (relay : Relay State) (burst : Payload) :
    Verified relay burst (relay.verify burst).value.1 (relay.verify burst).value.2 := by
  simp only [verify, Logged.value_bind]
  cases unpacks : (relay.unpack burst).value with
  | mk unpacking unpacked =>
    obtain ⟨-, -, output⟩ := frame_of_unpack unpacks
    cases unpacking with
    | stop fault =>
      obtain ⟨cause, rfl⟩ := allocation_of_unpack unpacks
      exact .starved unpacks
    | skip fault => exact .unsound unpacks
    | record record =>
      have emits := unpacked.output.emits record
      simp only [Logged.value_pure, deliver]
      cases emitted : unpacked.output.emit record with
      | mk emission after =>
        rw [emitted, output] at emits
        cases emits with
        | undecodable broken =>
          -- the output that comes back is the one that went in, so the relay is as unpacking left it
          have whole : { unpacked with output := relay.output } = unpacked := by rw [← output]
          show Verified relay burst (.skip _) { unpacked with output := relay.output }
          rw [whole]
          exact .undecodable unpacks broken
        | wrote split keeps counted stored => exact .written unpacks split keeps counted stored
        | failed split keeps failure torn => exact .torn unpacks split keeps failure torn

/-! ## Judging an envelope -/

/-- What judging the burst in a payload can come to. -/
inductive Judged (relay : Relay State) (payload : Bytes) : Verdict → Relay State → Prop
  | refused {fault : BurstFault} (refused : (relay.admission payload).value = .error fault) :
      Judged relay payload (.skip fault) relay
  | header {burst : Payload} (admitted : (relay.admission payload).value = .ok burst)
      (dummy : relay.dummy = true) : Judged relay payload .headerOnly relay
  | full {burst : Payload} {verdict : Verdict} {after : Relay State}
      (admitted : (relay.admission payload).value = .ok burst) (full : relay.dummy = false)
      (verified : Verified relay burst verdict after) : Judged relay payload verdict after

theorem judged (relay : Relay State) (envelope : Envelope) :
    Judged relay envelope.payload (relay.judge envelope).value.1 (relay.judge envelope).value.2 := by
  simp only [judge, Logged.value_bind]
  cases admitted : (relay.admission envelope.payload).value with
  | error fault => exact .refused admitted
  | ok burst =>
    cases dummy : relay.dummy with
    | true => exact .header admitted dummy
    | false => exact .full admitted dummy (relay.verified burst)

/-! ## Settling a message -/

/-- The relay that took a message from its queue and left the rest. -/
def taking (relay : Relay State) (rest : List Arrival) : Relay State :=
  ({ relay with channel := relay.channel.withQueue rest }).countEnvelope

theorem value_read_of_lost {channel : Channel} {fault : TransportFault} {rest : List Arrival}
    (role : Role) (lost : (Channel.nextMessage #[] channel.incoming).value = (.error fault, rest)) :
    (Received.read role channel).value = (.error fault, channel.withQueue rest) := by
  simp only [Received.read, Logged.value_bind, Channel.value_receiveMessage, lost]
  rfl

theorem value_read_of_taken {channel : Channel} {frames : Message} {rest : List Arrival}
    (role : Role) (taken : (Channel.nextMessage #[] channel.incoming).value = (.ok frames, rest)) :
    (Received.read role channel).value =
      (.ok (Received.classify role frames), channel.withQueue rest) := by
  simp only [Received.read, Logged.value_bind, Channel.value_receiveMessage, taken]
  split
  · rfl
  · rfl

/-- What receiving and settling a message can come to. -/
inductive Settled (relay : Relay State) : Settlement → Relay State → Prop
  | lost {fault : TransportFault} {rest : List Arrival}
      (failed : (Channel.nextMessage #[] relay.channel.incoming).value = (.error fault, rest)) :
      Settled relay (.stop (.transport fault))
        { relay with channel := relay.channel.withQueue rest }
  | echo {frames : Message} {rest : List Arrival} {identity : Bytes} {messageId : Option Bytes}
      (taken : (Channel.nextMessage #[] relay.channel.incoming).value = (.ok frames, rest))
      (kind : Received.classify relay.role frames = .acknowledgment identity messageId) :
      Settled relay (.silent .ackEcho) (relay.taking rest).countEcho
  | rejected {frames : Message} {rest : List Arrival} {fault : SkipFault}
      (taken : (Channel.nextMessage #[] relay.channel.incoming).value = (.ok frames, rest))
      (kind : Received.classify relay.role frames = .rejected fault) :
      Settled relay (.silent (.skipped fault false)) ((relay.taking rest).countSkip fault.kind)
  | written {frames : Message} {rest : List Arrival} {envelope : Envelope} {records : Nat}
      {after : Relay State}
      (taken : (Channel.nextMessage #[] relay.channel.incoming).value = (.ok frames, rest))
      (kind : Received.classify relay.role frames = .envelope envelope)
      (judged : Judged (relay.taking rest) envelope.payload (.written records) after) :
      Settled relay (.acknowledge envelope (.emitted records)) after
  | admitted {frames : Message} {rest : List Arrival} {envelope : Envelope} {after : Relay State}
      (taken : (Channel.nextMessage #[] relay.channel.incoming).value = (.ok frames, rest))
      (kind : Received.classify relay.role frames = .envelope envelope)
      (judged : Judged (relay.taking rest) envelope.payload .headerOnly after) :
      Settled relay (.acknowledge envelope .admitted) after
  | stopped {frames : Message} {rest : List Arrival} {envelope : Envelope} {fault : RelayFault}
      {after : Relay State}
      (taken : (Channel.nextMessage #[] relay.channel.incoming).value = (.ok frames, rest))
      (kind : Received.classify relay.role frames = .envelope envelope)
      (judged : Judged (relay.taking rest) envelope.payload (.stop fault) after) :
      Settled relay (.stop fault) after
  | skipped {frames : Message} {rest : List Arrival} {envelope : Envelope} {fault : BurstFault}
      {after : Relay State}
      (taken : (Channel.nextMessage #[] relay.channel.incoming).value = (.ok frames, rest))
      (kind : Received.classify relay.role frames = .envelope envelope)
      (judged : Judged (relay.taking rest) envelope.payload (.skip fault) after)
      (policy : after.ackSkipped = false) :
      Settled relay (.silent (.skipped (.burst fault) false)) (after.countSkip fault.kind)
  | forgiven {frames : Message} {rest : List Arrival} {envelope : Envelope} {fault : BurstFault}
      {after : Relay State}
      (taken : (Channel.nextMessage #[] relay.channel.incoming).value = (.ok frames, rest))
      (kind : Received.classify relay.role frames = .envelope envelope)
      (judged : Judged (relay.taking rest) envelope.payload (.skip fault) after)
      (policy : after.ackSkipped = true) :
      Settled relay (.acknowledge envelope (.skipped (.burst fault))) (after.countSkip fault.kind)

theorem settled_treat {relay : Relay State} {frames : Message} {rest : List Arrival}
    (taken : (Channel.nextMessage #[] relay.channel.incoming).value = (.ok frames, rest)) :
    Settled relay
      ((relay.taking rest).treat (Received.classify relay.role frames)).value.1
      ((relay.taking rest).treat (Received.classify relay.role frames)).value.2 := by
  cases kind : Received.classify relay.role frames with
  | acknowledgment identity messageId => exact .echo taken kind
  | rejected fault => exact .rejected taken kind
  | envelope envelope =>
    have judged := (relay.taking rest).judged envelope
    simp only [treat, settle, Logged.value_bind]
    cases judges : ((relay.taking rest).judge envelope).value with
    | mk verdict after =>
      rw [judges] at judged
      cases verdict with
      | written records => exact .written taken kind judged
      | headerOnly => exact .admitted taken kind judged
      | stop fault => exact .stopped taken kind judged
      | skip fault =>
        cases policy : after.ackSkipped with
        | true =>
          have forgiven := Settled.forgiven taken kind judged policy
          simpa [countSkip, policy] using forgiven
        | false =>
          have skipped := Settled.skipped taken kind judged policy
          simpa [countSkip, policy] using skipped

theorem settled (relay : Relay State) :
    Settled relay relay.prepare.value.1 relay.prepare.value.2 := by
  cases taken : (Channel.nextMessage #[] relay.channel.incoming).value with
  | mk result rest =>
    cases result with
    | error fault =>
      have lost := value_read_of_lost relay.role taken
      simp only [prepare, Logged.value_bind, lost]
      exact .lost taken
    | ok frames =>
      have read := value_read_of_taken relay.role taken
      simp only [prepare, Logged.value_bind, read]
      exact settled_treat taken

/-! ## Acknowledging and the whole call -/

/-- What acknowledging a settled message can come to. -/
inductive Concluded (relay : Relay State) (envelope : Envelope) (outcome : Bool → Outcome) :
    Except RelayFault Outcome → Relay State → Prop
  | withheld (passive : relay.role.acknowledges = false) :
      Concluded relay envelope outcome (.ok (outcome false)) relay
  | sent {channel : Channel} (active : relay.role.acknowledges = true)
      (send : (relay.channel.sendMessage (Acknowledger.reply envelope)).value = (.ok (), channel)) :
      Concluded relay envelope outcome (.ok (outcome true)) { relay with
        channel
        acknowledger := { relay.acknowledger with sent := relay.acknowledger.sent + 1 }
        statistics := { relay.statistics with acksSent := relay.statistics.acksSent + 1 } }
  | failed {fault : TransportFault} {channel : Channel} (active : relay.role.acknowledges = true)
      (send : (relay.channel.sendMessage (Acknowledger.reply envelope)).value =
        (.error fault, channel)) :
      Concluded relay envelope outcome (.error (.transport fault)) { relay with channel }

/-- The delay before an acknowledgment does not show in what is sent. -/
theorem value_acknowledge_of_active {acknowledger : Acknowledger}
    (active : acknowledger.role.acknowledges = true) (channel : Channel) (envelope : Envelope) :
    (acknowledger.acknowledge channel envelope).value =
      match (channel.sendMessage (Acknowledger.reply envelope)).value with
      | (.error fault, channel) => (.error fault, acknowledger, channel)
      | (.ok (), channel) =>
        (.ok true, { acknowledger with sent := acknowledger.sent + 1 }, channel) := by
  have enabled : ¬ (!acknowledger.role.acknowledges) = true := by simp [active]
  unfold Acknowledger.acknowledge
  rw [if_neg enabled]
  cases send : (channel.sendMessage (Acknowledger.reply envelope)).value with
  | mk result after =>
    split
    · simp only [Logged.value_bind, send]
      cases result with
      | error fault => rfl
      | ok done => rfl
    · simp only [Logged.value_bind, send]
      cases result with
      | error fault => rfl
      | ok done => rfl

theorem concluded (relay : Relay State) (envelope : Envelope) (outcome : Bool → Outcome) :
    Concluded relay envelope outcome
      (relay.conclude envelope outcome).value.1 (relay.conclude envelope outcome).value.2 := by
  simp only [conclude, acknowledge, Logged.value_bind]
  cases active : relay.acknowledger.role.acknowledges with
  | false =>
    unfold Acknowledger.acknowledge
    rw [if_pos (by rw [active]; rfl)]
    exact .withheld active
  | true =>
    rw [value_acknowledge_of_active active]
    cases send : (relay.channel.sendMessage (Acknowledger.reply envelope)).value with
    | mk result channel =>
      cases result with
      | error fault => exact .failed active send
      | ok done => exact .sent active send

/-- A call settles a message, and ends there or acknowledges it. -/
theorem step_cases {relay after : Relay State} {result : Except RelayFault Outcome}
    (called : relay.step.value = (result, after)) :
    (∃ fault, relay.prepare.value = (.stop fault, after) ∧ result = .error fault) ∨
      (∃ outcome, relay.prepare.value = (.silent outcome, after) ∧ result = .ok outcome) ∨
      ∃ envelope outcome ready, relay.prepare.value = (.acknowledge envelope outcome, ready) ∧
        (ready.conclude envelope outcome).value = (result, after) := by
  simp only [step, Logged.value_bind] at called
  cases prepared : relay.prepare.value with
  | mk settlement ready =>
    rw [prepared] at called
    cases settlement with
    | stop fault =>
      cases called
      exact .inl ⟨fault, rfl, rfl⟩
    | silent outcome =>
      cases called
      exact .inr (.inl ⟨outcome, rfl, rfl⟩)
    | acknowledge envelope outcome => exact .inr (.inr ⟨envelope, outcome, ready, rfl, called⟩)

/-- What a call can come to. -/
inductive Called (relay : Relay State) : Except RelayFault Outcome → Relay State → Prop
  | stopped {fault : RelayFault} {after : Relay State}
      (settled : Settled relay (.stop fault) after) : Called relay (.error fault) after
  | silent {outcome : Outcome} {after : Relay State}
      (settled : Settled relay (.silent outcome) after) : Called relay (.ok outcome) after
  | concluded {envelope : Envelope} {outcomes : Bool → Outcome} {ready after : Relay State}
      {result : Except RelayFault Outcome}
      (settled : Settled relay (.acknowledge envelope outcomes) ready)
      (concluded : Concluded ready envelope outcomes result after) : Called relay result after

theorem called_of_step {relay after : Relay State} {result : Except RelayFault Outcome}
    (called : relay.step.value = (result, after)) : Called relay result after := by
  have settled := relay.settled
  rcases step_cases called with ⟨fault, prepared, rfl⟩ | ⟨outcome, prepared, rfl⟩ |
    ⟨envelope, outcomes, ready, prepared, concludes⟩
  · rw [prepared] at settled
    exact .stopped settled
  · rw [prepared] at settled
    exact .silent settled
  · have concluded := ready.concluded envelope outcomes
    rw [prepared] at settled
    rw [concludes] at concluded
    exact .concluded settled concluded

/-! ## What each stage leaves as it was -/

theorem Verified.frame {relay after : Relay State} {burst : Payload} {verdict : Verdict}
    (verified : Verified relay burst verdict after) :
    relay.Keeps after ∧ after.channel = relay.channel := by
  cases verified with
  | starved unpack => exact ⟨(frame_of_unpack unpack).1, (frame_of_unpack unpack).2.1⟩
  | unsound unpack => exact ⟨(frame_of_unpack unpack).1, (frame_of_unpack unpack).2.1⟩
  | undecodable unpack _ => exact ⟨(frame_of_unpack unpack).1, (frame_of_unpack unpack).2.1⟩
  | written unpack _ keeps _ _ =>
    obtain ⟨kept, channel, -⟩ := frame_of_unpack unpack
    exact ⟨{ kept with mode := rfl, writer := keeps }, channel⟩
  | torn unpack _ keeps _ _ =>
    obtain ⟨kept, channel, -⟩ := frame_of_unpack unpack
    exact ⟨{ kept with mode := rfl, writer := keeps }, channel⟩

theorem Judged.frame {relay after : Relay State} {payload : Bytes} {verdict : Verdict}
    (judged : Judged relay payload verdict after) :
    relay.Keeps after ∧ after.channel = relay.channel := by
  cases judged with
  | refused _ => exact ⟨.refl relay, rfl⟩
  | header _ _ => exact ⟨.refl relay, rfl⟩
  | full _ _ verified => exact verified.frame

theorem keeps_taking (relay : Relay State) (rest : List Arrival) : relay.Keeps (relay.taking rest) :=
  relay.keeps_with rfl rfl rfl

theorem keeps_countEcho (relay : Relay State) : relay.Keeps relay.countEcho :=
  relay.keeps_with rfl rfl rfl

theorem keeps_countSkip (relay : Relay State) (kind : String) : relay.Keeps (relay.countSkip kind) :=
  relay.keeps_with rfl rfl rfl

/-- Settling a message takes it from the queue and does nothing else to the channel. -/
theorem Settled.frame {relay after : Relay State} {settlement : Settlement}
    (settled : Settled relay settlement after) :
    relay.Keeps after ∧ after.channel = relay.channel.withQueue
      (Channel.nextMessage #[] relay.channel.incoming).value.2 := by
  cases settled with
  | lost failed =>
    rw [failed]
    exact ⟨relay.keeps_with rfl rfl rfl, rfl⟩
  | echo taken _ =>
    rw [taken]
    exact ⟨(keeps_taking relay _).trans (keeps_countEcho _), rfl⟩
  | rejected taken _ =>
    rw [taken]
    exact ⟨(keeps_taking relay _).trans (keeps_countSkip _ _), rfl⟩
  | written taken _ judged =>
    rw [taken]
    exact ⟨(keeps_taking relay _).trans judged.frame.1, judged.frame.2⟩
  | admitted taken _ judged =>
    rw [taken]
    exact ⟨(keeps_taking relay _).trans judged.frame.1, judged.frame.2⟩
  | stopped taken _ judged =>
    rw [taken]
    exact ⟨(keeps_taking relay _).trans judged.frame.1, judged.frame.2⟩
  | skipped taken _ judged _ =>
    rw [taken]
    exact ⟨((keeps_taking relay _).trans judged.frame.1).trans (keeps_countSkip _ _),
      judged.frame.2⟩
  | forgiven taken _ judged _ =>
    rw [taken]
    exact ⟨((keeps_taking relay _).trans judged.frame.1).trans (keeps_countSkip _ _),
      judged.frame.2⟩

/-- Acknowledging a message touches neither the output nor the queue. -/
theorem Concluded.frame {relay after : Relay State} {envelope : Envelope}
    {outcome : Bool → Outcome} {result : Except RelayFault Outcome}
    (concluded : Concluded relay envelope outcome result after) :
    relay.Keeps after ∧ after.output = relay.output ∧ after.buffer = relay.buffer ∧
      after.codecState = relay.codecState ∧ after.channel.incoming = relay.channel.incoming := by
  cases concluded with
  | withheld _ => exact ⟨.refl relay, rfl, rfl, rfl, rfl⟩
  | sent _ send =>
    have sends := relay.channel.frame_of_sendParts (Acknowledger.reply envelope).parts
    rw [← Channel.sendMessage, send] at sends
    exact ⟨relay.keeps_with rfl rfl sends.2, rfl, rfl, rfl, sends.1⟩
  | failed _ send =>
    have sends := relay.channel.frame_of_sendParts (Acknowledger.reply envelope).parts
    rw [← Channel.sendMessage, send] at sends
    exact ⟨relay.keeps_with rfl rfl sends.2, rfl, rfl, rfl, sends.1⟩

theorem keeps_of_step {relay after : Relay State} {result : Except RelayFault Outcome}
    (called : relay.step.value = (result, after)) : relay.Keeps after := by
  cases called_of_step called with
  | stopped settled => exact settled.frame.1
  | silent settled => exact settled.frame.1
  | concluded settled concluded => exact settled.frame.1.trans concluded.frame.1

/-! ## Calls in a row -/

/-- A relay starts with what it is given and with the settings that concern it. -/
theorem eq_of_start {settings : Settings} {allocator : Allocator} {codec : Codec State}
    {codecState : State} {channel : Channel} {sink : Sink} {relay : Relay State}
    (started : (start settings allocator codec codecState channel sink).value = .ok relay) :
    ∃ buffer,
      Buffer.ofCapacity allocator settings.decompression.initialCapacity.toNat = .ok buffer ∧
      relay =
        { codec, codecState, channel, buffer
          bound := settings.bound
          ackSkipped := settings.acknowledgment.ackSkipped
          dummy := settings.acknowledgment.dummy
          output := .ofSink sink settings.output.format
          acknowledger :=
            { role := settings.relay.role, delayMs := settings.acknowledgment.delayMs }
          statistics := ({} : Statistics).observeCapacity buffer.capacity } := by
  unfold start at started
  cases made : Buffer.ofCapacity allocator settings.decompression.initialCapacity.toNat with
  | error fault =>
    rw [made] at started
    cases started
  | ok buffer =>
    rw [made] at started
    refine ⟨buffer, rfl, ?_⟩
    dsimp only at started
    split at started
    · cases started
      rfl
    · cases started
      rfl

/-- Only the buffer of a relay can keep it from starting. -/
theorem start_of_made {settings : Settings} {allocator : Allocator} {buffer : Buffer}
    (codec : Codec State) (codecState : State) (channel : Channel) (sink : Sink)
    (made : Buffer.ofCapacity allocator settings.decompression.initialCapacity.toNat = .ok buffer) :
    ∃ relay, (start settings allocator codec codecState channel sink).value = .ok relay := by
  unfold start
  rw [made]
  dsimp only
  split
  · exact ⟨_, rfl⟩
  · exact ⟨_, rfl⟩

theorem start_of_refused {settings : Settings} {allocator : Allocator} {fault : BufferFault}
    (codec : Codec State) (codecState : State) (channel : Channel) (sink : Sink)
    (refused : Buffer.ofCapacity allocator settings.decompression.initialCapacity.toNat =
      .error fault) :
    (start settings allocator codec codecState channel sink).value = .error (.allocation fault) := by
  unfold start
  rw [refused]
  rfl

/-- Calls in a row that all succeeded: the relay before each with what came of it, from one relay to
another. -/
inductive Serves : Relay State → List (Relay State × Outcome) → Relay State → Prop
  | nothing (relay : Relay State) : Serves relay [] relay
  | call {relay middle after : Relay State} {outcome : Outcome}
      {history : List (Relay State × Outcome)}
      (step : relay.step.value = (.ok outcome, middle)) (others : Serves middle history after) :
      Serves relay ((relay, outcome) :: history) after

theorem Serves.keeps {relay after : Relay State} {history : List (Relay State × Outcome)}
    (serves : Serves relay history after) : relay.Keeps after := by
  induction serves with
  | nothing relay => exact .refl relay
  | call step _ ih => exact (keeps_of_step step).trans ih

/-- Calls in a row, whether they succeed or not: the relay before each with what it gave, from one
relay to another. -/
inductive Calls : Relay State → List (Relay State × Except RelayFault Outcome) → Relay State → Prop
  | nothing (relay : Relay State) : Calls relay [] relay
  | call {relay middle after : Relay State} {result : Except RelayFault Outcome}
      {history : List (Relay State × Except RelayFault Outcome)}
      (step : relay.step.value = (result, middle)) (others : Calls middle history after) :
      Calls relay ((relay, result) :: history) after

theorem Calls.keeps {relay after : Relay State}
    {history : List (Relay State × Except RelayFault Outcome)} (calls : Calls relay history after) :
    relay.Keeps after := by
  induction calls with
  | nothing relay => exact .refl relay
  | call step _ ih => exact (keeps_of_step step).trans ih

/-- Calls that all succeeded are calls. -/
theorem Serves.calls {relay after : Relay State} {history : List (Relay State × Outcome)}
    (serves : Serves relay history after) :
    Calls relay (history.map fun call => (call.1, .ok call.2)) after := by
  induction serves with
  | nothing relay => exact .nothing relay
  | call step _ ih => exact .call step ih

/-! ## What a message is worth -/

/-- The output records of the burst in a payload: none if it is not verified. -/
def recordsOf (relay : Relay State) (payload : Bytes) : List Bytes :=
  match (relay.admission payload).value with
  | .error _ => []
  | .ok burst =>
    if relay.dummy then []
    else
      match (relay.unpack burst).value.1 with
      | .record record => (Output.records relay.output.mode record).toOption.getD []
      | .skip _ | .stop _ => []

/-- The output records of the next message. -/
def nextRecords (relay : Relay State) : List Bytes :=
  match (Channel.nextMessage #[] relay.channel.incoming).value with
  | (.error _, _) => []
  | (.ok frames, rest) =>
    match Received.classify relay.role frames with
    | .envelope envelope => (relay.taking rest).recordsOf envelope.payload
    | .acknowledgment .. | .rejected _ => []

theorem nextRecords_of_envelope {relay : Relay State} {frames : Message} {rest : List Arrival}
    {envelope : Envelope}
    (taken : (Channel.nextMessage #[] relay.channel.incoming).value = (.ok frames, rest))
    (kind : Received.classify relay.role frames = .envelope envelope) :
    relay.nextRecords = (relay.taking rest).recordsOf envelope.payload := by
  simp only [nextRecords, taken, kind]

theorem recordsOf_eq {relay unpacked : Relay State} {payload record : Bytes} {burst : Payload}
    {parts : List Bytes} (admitted : (relay.admission payload).value = .ok burst)
    (full : relay.dummy = false) (unpack : (relay.unpack burst).value = (.record record, unpacked))
    (split : Output.records relay.output.mode record = .ok parts) :
    relay.recordsOf payload = parts := by
  simp [recordsOf, admitted, full, unpack, split, Except.toOption]

/-- The outcomes that a settlement leaves possible. -/
inductive Yields : Settlement → Outcome → Prop
  | acknowledge {envelope : Envelope} {outcome : Bool → Outcome} (acknowledged : Bool) :
      Yields (.acknowledge envelope outcome) (outcome acknowledged)
  | silent {outcome : Outcome} : Yields (.silent outcome) outcome

/-- What a settled message did to the output: a message that was written is stored with all its
records, one that the sink failed is torn, and any other left the output alone. -/
inductive Worth (relay : Relay State) : Settlement → Relay State → Prop
  | written {envelope : Envelope} {after : Relay State}
      (stored : Stored relay.format relay.sink relay.nextRecords after.sink) :
      Worth relay (.acknowledge envelope (.emitted relay.nextRecords.length)) after
  | torn {after : Relay State} {fault : Fault}
      (torn : Torn relay.format relay.sink relay.nextRecords after.sink) :
      Worth relay (.stop (.sink fault)) after
  | untouched {settlement : Settlement} {after : Relay State} (same : after.output = relay.output)
      (unfailed : ∀ fault, settlement ≠ .stop (.sink fault))
      (unwritten : ∀ records acknowledged, ¬ Yields settlement (.emitted records acknowledged)) :
      Worth relay settlement after

theorem Verified.output_eq {relay after : Relay State} {burst : Payload} {fault : BurstFault}
    (verified : Verified relay burst (.skip fault) after) : after.output = relay.output := by
  cases verified with
  | unsound unpack => exact (frame_of_unpack unpack).2.2
  | undecodable unpack _ => exact (frame_of_unpack unpack).2.2

theorem Judged.output_eq {relay after : Relay State} {payload : Bytes} {fault : BurstFault}
    (judged : Judged relay payload (.skip fault) after) : after.output = relay.output := by
  cases judged with
  | refused _ => rfl
  | full _ _ verified => exact verified.output_eq

theorem Judged.stored {relay after : Relay State} {payload : Bytes} {records : Nat}
    (judged : Judged relay payload (.written records) after) :
    records = (relay.recordsOf payload).length ∧
      Stored relay.format relay.sink (relay.recordsOf payload) after.sink := by
  cases judged with
  | full admitted full verified =>
    cases verified with
    | written unpack split _ _ stored =>
      rw [recordsOf_eq admitted full unpack split]
      exact ⟨rfl, stored⟩

theorem Judged.stopped {relay after : Relay State} {payload : Bytes} {fault : RelayFault}
    (judged : Judged relay payload (.stop fault) after) :
    (∃ cause, fault = .allocation cause ∧ after.output = relay.output) ∨
      ∃ cause, fault = .sink cause ∧
        Torn relay.format relay.sink (relay.recordsOf payload) after.sink := by
  cases judged with
  | full admitted full verified =>
    cases verified with
    | starved unpack => exact .inl ⟨_, rfl, (frame_of_unpack unpack).2.2⟩
    | torn unpack split _ _ torn =>
      rw [recordsOf_eq admitted full unpack split]
      exact .inr ⟨_, rfl, torn⟩

theorem Settled.worth {relay after : Relay State} {settlement : Settlement}
    (settled : Settled relay settlement after) : Worth relay settlement after := by
  cases settled with
  | lost _ => exact .untouched rfl (by simp) (by rintro _ _ ⟨⟩)
  | echo _ _ => exact .untouched rfl (by simp) (by rintro _ _ ⟨⟩)
  | rejected _ _ => exact .untouched rfl (by simp) (by rintro _ _ ⟨⟩)
  | written taken kind judged =>
    obtain ⟨rfl, stored⟩ := judged.stored
    rw [← nextRecords_of_envelope taken kind] at stored ⊢
    exact .written stored
  | admitted _ _ judged =>
    cases judged with
    | header _ _ => exact .untouched rfl (by simp) (by rintro _ _ ⟨⟩)
    -- what is verified never stays at its header
    | full _ _ verified => cases verified
  | stopped taken kind judged =>
    rcases judged.stopped with ⟨cause, rfl, same⟩ | ⟨cause, rfl, torn⟩
    · exact .untouched same (by simp) (by rintro _ _ ⟨⟩)
    · rw [← nextRecords_of_envelope taken kind] at torn
      exact .torn torn
  | skipped _ _ judged _ => exact .untouched judged.output_eq (by simp) (by rintro _ _ ⟨⟩)
  | forgiven _ _ judged _ => exact .untouched judged.output_eq (by simp) (by rintro _ _ ⟨⟩)

end Relay

end BurstRelay
