import BurstRelay.Proofs.Burst.Slices
import BurstRelay.Proofs.Relay.Dependable

/-!
# A reference for whole runs

What a relay for compressed blocks does with everything that is queued for it, when nothing around it
fails, said without a relay: the queue is cut into messages (`Reference.messages`), and a fold over
the messages, whose only state is a capacity, gives for each one its outcome, the bytes it adds to
the output and the messages it adds to those sent (`Reference.fold`). The capacity starts as that of
the buffer and rises to the size that an admitted burst declares.

`run_eq_reference` says that a run of the relay comes to its end and is what the reference says. It
is a simulation: `Tracks` relates a relay to a capacity, `call_of_tracks` is the step, and
`runFor_of_tracks` the induction on the steps that are left.
-/

namespace BurstRelay

namespace Reference

/-! ## The queue -/

/-- The whole messages of a queue behind the frames gathered before, and what receiving fails with
behind them. Interruptions do not count, and a message that is cut short is lost. -/
def messages (gathered : Message) : List Arrival → List Message × TransportFault
  | [] => ([], .closed)
  | .interruption :: rest => messages gathered rest
  | .failure fault :: _ => ([], fault)
  | .part part :: rest =>
    if part.more then messages (gathered ++ [part.data]) rest
    else ((gathered ++ [part.data]) :: (messages [] rest).1, (messages [] rest).2)

/-- What a run ends with when receiving fails: the orderly end of the channel ends it well. -/
def ending (fault : TransportFault) : Except RelayFault Unit :=
  if fault = .closed then .ok () else .error (.transport fault)

/-! ## One message -/

/-- What the reference knows of a relay. -/
structure Policy where
  role : Role
  mode : OutputMode
  /-- The bound on declared sizes. -/
  bound : UInt32
  ackSkipped : Bool
  dummy : Bool

/-- The policy that settings describe. -/
def Policy.ofSettings (settings : Settings) : Policy where
  role := settings.relay.role
  mode := settings.output.format
  bound := settings.bound
  ackSkipped := settings.acknowledgment.ackSkipped
  dummy := settings.acknowledgment.dummy

/-- What becomes of a burst. -/
inductive Fate where
  | emitted (records : List Bytes)
  | admitted
  | skipped (fault : BurstFault)

/-- What one message amounts to. -/
structure Effect where
  outcome : Outcome
  /-- The bytes added to the output. -/
  output : Bytes := []
  /-- The messages sent. -/
  sent : List Message := []

/-- The burst in a payload, if its length is the one it declares and the size of its record is
within the bound. -/
def header (bound : UInt32) (payload : Bytes) : Except BurstFault Payload :=
  if payload.length ≤ 8 then
    .error (.malformedHeader payload.length none
      (if payload = [] then .empty else .headerOnly))
  else if payload.length ≠ 8 + Bytes.word payload 4 then
    .error (.lengthMismatch payload.length (.ofNat (Bytes.word payload 4)))
  else if bound.toNat < Bytes.word payload 0 then
    .error (.declaredTooLarge (.ofNat (Bytes.word payload 0)) bound)
  else .ok ⟨⟨.ofNat (Bytes.word payload 0), .ofNat (Bytes.word payload 4)⟩, payload.drop 8⟩

/-- What becomes of a burst that is decoded into a region of so many bytes. -/
def decoded (mode : OutputMode) (burst : Payload) (capacity : Nat) : Fate :=
  match Block.recordIn Block.inputLimit burst.header.declaredUncompressed capacity burst.body with
  | .error fault => .skipped fault
  | .ok record =>
    match Output.records mode record with
    | .error fault => .skipped fault
    | .ok records => .emitted records

/-- What becomes of the burst in a payload, and the capacity afterwards. -/
def fate (policy : Policy) (capacity : Nat) (payload : Bytes) : Fate × Nat :=
  match header policy.bound payload with
  | .error fault => (.skipped fault, capacity)
  | .ok burst =>
    if policy.dummy then (.admitted, capacity)
    else
      let capacity := max capacity burst.header.declaredUncompressed.toNat
      (decoded policy.mode burst capacity, capacity)

/-- Whether a message is the acknowledgment of another that an observer sees. -/
def IsEcho (role : Role) (frames : Message) : Prop :=
  role = .passiveObserver ∧ (frames.length = 2 ∨ frames.length = 3) ∧ frames.getLast? = some []

instance (role : Role) (frames : Message) : Decidable (IsEcho role frames) :=
  inferInstanceAs (Decidable (_ ∧ _))

/-- What a message with a burst amounts to, when it is acknowledged by a message of its own. -/
def effect (policy : Policy) (acknowledgment : Message) : Fate → Effect
  | .emitted records =>
    { outcome := .emitted records.length policy.role.acknowledges
      output := Record.stream policy.mode.format records
      sent := if policy.role.acknowledges then [acknowledgment] else [] }
  | .admitted =>
    { outcome := .admitted policy.role.acknowledges
      sent := if policy.role.acknowledges then [acknowledgment] else [] }
  | .skipped fault =>
    { outcome := .skipped (.burst fault) (policy.ackSkipped && policy.role.acknowledges)
      sent := if policy.ackSkipped && policy.role.acknowledges then [acknowledgment] else [] }

/-- What a message amounts to, and the capacity afterwards. -/
def message (policy : Policy) (capacity : Nat) (frames : Message) : Effect × Nat :=
  if IsEcho policy.role frames then ({ outcome := .ackEcho }, capacity)
  else
    match frames with
    | [identity, messageId, payload] =>
      let (fate, capacity) := fate policy capacity payload
      (effect policy [identity, messageId, []] fate, capacity)
    | frames =>
      let fault : SkipFault :=
        if frames.length < 3 then .shortEnvelope frames.length else .excessFrames frames.length
      ({ outcome := .skipped fault false }, capacity)

/-- What messages amount to, one after the other. -/
def fold (policy : Policy) : Nat → List Message → List Effect
  | _, [] => []
  | capacity, frames :: messages =>
    (message policy capacity frames).1 :: fold policy (message policy capacity frames).2 messages

/-! ## The reference and the parts of a relay -/

theorem messages_of_taken {gathered : Array Bytes} {queue rest : List Arrival} {frames : Message}
    (taken : (Channel.nextMessage gathered queue).value = (.ok frames, rest)) :
    messages gathered.toList queue = (frames :: (messages [] rest).1, (messages [] rest).2) := by
  induction queue generalizing gathered with
  | nil => cases taken
  | cons arrival queue ih =>
    cases arrival with
    | part part =>
      rw [Channel.nextMessage] at taken
      rw [messages]
      cases more : part.more with
      | true =>
        rw [if_pos more] at taken
        rw [if_pos rfl, ← ih taken, Array.toList_push]
      | false =>
        rw [if_neg (by simp [more])] at taken
        cases taken
        rw [if_neg (by simp), Array.toList_push]
    | failure fault => cases taken
    | interruption => exact ih taken

theorem messages_of_lost {gathered : Array Bytes} {queue rest : List Arrival}
    {fault : TransportFault}
    (lost : (Channel.nextMessage gathered queue).value = (.error fault, rest)) :
    messages gathered.toList queue = ([], fault) := by
  induction queue generalizing gathered with
  | nil =>
    cases lost
    rfl
  | cons arrival queue ih =>
    cases arrival with
    | part part =>
      rw [Channel.nextMessage] at lost
      rw [messages]
      cases more : part.more with
      | true =>
        rw [if_pos more] at lost
        rw [if_pos rfl, ← ih lost, Array.toList_push]
      | false =>
        rw [if_neg (by simp [more])] at lost
        cases lost
    | failure fault =>
      cases lost
      rfl
    | interruption => exact ih lost

/-- The reference checks the header as a relay does. -/
theorem value_admission {State : Type} (relay : Relay State) (payload : Bytes) :
    (relay.admission payload).value = header relay.bound payload := by
  unfold Relay.admission header
  by_cases short : payload.length ≤ 8
  · rw [Payload.parse_of_le short, if_pos short]
    simp [BurstFault.shortPayload]
  · have long : Header.size < payload.length := Nat.lt_of_not_le short
    rw [Payload.parse_of_lt long, if_neg short, show Header.size = 8 from rfl]
    by_cases whole : payload.length = 8 + Bytes.word payload 4
    · have declared : (UInt32.ofNat (Bytes.word payload 0)).toNat = Bytes.word payload 0 :=
        UInt32.toNat_ofNat_of_lt' (Bytes.word_lt payload 0)
      have above : relay.bound < UInt32.ofNat (Bytes.word payload 0) ↔
          relay.bound.toNat < Bytes.word payload 0 := by
        rw [UInt32.lt_iff_toNat_lt, declared]
      rw [if_pos whole, if_neg (not_not_intro whole)]
      dsimp only [Header.checkDeclared]
      by_cases beyond : relay.bound.toNat < Bytes.word payload 0
      · rw [if_pos (above.mpr beyond), if_pos beyond]
        rfl
      · rw [if_neg (mt above.mp beyond), if_neg beyond]
        rfl
    · rw [if_neg whole, if_pos whole]
      rfl

/-- A burst whose header passes declares no more than the bound. -/
theorem declared_le_of_header {bound : UInt32} {payload : Bytes} {burst : Payload}
    (checked : header bound payload = .ok burst) :
    burst.header.declaredUncompressed.toNat ≤ bound.toNat := by
  unfold header at checked
  split at checked
  · cases checked
  · split at checked
    · cases checked
    · split at checked
      · cases checked
      · rename_i within
        cases checked
        exact Nat.le_trans (Nat.mod_le _ _) (Nat.le_of_not_lt within)

/-- The reference tells messages apart as a relay does. -/
theorem message_eq (policy : Policy) (capacity : Nat) (frames : Message) :
    message policy capacity frames =
      match Received.classify policy.role frames with
      | .acknowledgment .. => ({ outcome := .ackEcho }, capacity)
      | .rejected fault => ({ outcome := .skipped fault false }, capacity)
      | .envelope envelope =>
        (effect policy (Acknowledger.reply envelope) (fate policy capacity envelope.payload).1,
          (fate policy capacity envelope.payload).2) := by
  match frames with
  | [] => simp [message, IsEcho, Received.classify]
  | [_] => simp [message, IsEcho, Received.classify]
  | [identity, last] =>
    by_cases echo : policy.role = .passiveObserver ∧ last = []
    · simp [message, IsEcho, Received.classify, echo]
    · have other : ¬ IsEcho policy.role [identity, last] := by simpa [IsEcho] using echo
      simp [message, Received.classify, echo, other]
  | [identity, messageId, payload] =>
    by_cases echo : policy.role = .passiveObserver ∧ payload = []
    · simp [message, IsEcho, Received.classify, echo]
    · have other : ¬ IsEcho policy.role [identity, messageId, payload] := by
        simpa [IsEcho] using echo
      simp [message, Received.classify, echo, other, Acknowledger.reply]
  | first :: second :: third :: fourth :: rest =>
    have long : ¬ (first :: second :: third :: fourth :: rest).length < 3 := by simp
    have excess : 3 < (first :: second :: third :: fourth :: rest).length := by simp
    have other : ¬ IsEcho policy.role (first :: second :: third :: fourth :: rest) := by
      simp [IsEcho]
    simp only [message, Received.classify, if_neg other, if_neg long, if_pos excess]

theorem message_of_acknowledgment {policy : Policy} {frames : Message} {identity : Bytes}
    {messageId : Option Bytes} (capacity : Nat)
    (kind : Received.classify policy.role frames = .acknowledgment identity messageId) :
    message policy capacity frames = ({ outcome := .ackEcho }, capacity) := by
  rw [message_eq, kind]

theorem message_of_rejected {policy : Policy} {frames : Message} {fault : SkipFault}
    (capacity : Nat) (kind : Received.classify policy.role frames = .rejected fault) :
    message policy capacity frames = ({ outcome := .skipped fault false }, capacity) := by
  rw [message_eq, kind]

theorem message_of_envelope {policy : Policy} {frames : Message} {envelope : Envelope}
    (capacity : Nat) (kind : Received.classify policy.role frames = .envelope envelope) :
    message policy capacity frames =
      (effect policy (Acknowledger.reply envelope) (fate policy capacity envelope.payload).1,
        (fate policy capacity envelope.payload).2) := by
  rw [message_eq, kind]

/-! ## The simulation -/

/-- The verdict of a relay on a burst of this fate. -/
def Fate.verdict : Fate → Verdict
  | .emitted records => .written records.length
  | .admitted => .headerOnly
  | .skipped fault => .skip fault

/-- The output records of a burst of this fate. -/
def Fate.records : Fate → List Bytes
  | .emitted records => records
  | .admitted | .skipped _ => []

/-- A relay for compressed blocks that nothing around it fails, with this policy and this capacity,
and with no message half sent. -/
structure Tracks (policy : Policy) (capacity : Nat) (relay : Relay Unit) : Prop where
  codec : ∃ leavings, relay.codec = .block leavings
  role : relay.role = policy.role
  mode : relay.output.mode = policy.mode
  bound : relay.bound = policy.bound
  ackSkipped : relay.ackSkipped = policy.ackSkipped
  dummy : relay.dummy = policy.dummy
  capacity : relay.buffer.capacity = capacity
  dependable : relay.Dependable
  finished : relay.channel.unfinished = []

theorem Tracks.keeps {policy : Policy} {small large : Nat} {relay after : Relay Unit}
    (tracks : Tracks policy small relay) (keeps : relay.Keeps after)
    (capacity : after.buffer.capacity = large) (finished : after.channel.unfinished = []) :
    Tracks policy large after where
  codec := tracks.codec.imp fun _ same => keeps.codec.trans same
  role := keeps.role.trans tracks.role
  mode := keeps.mode.trans tracks.mode
  bound := keeps.bound.trans tracks.bound
  ackSkipped := keeps.ackSkipped.trans tracks.ackSkipped
  dummy := keeps.dummy.trans tracks.dummy
  capacity := capacity
  dependable := tracks.dependable.keeps keeps
  finished := finished

/-- A relay verifies a burst as the reference decodes it. -/
theorem decoded_of_verified {relay after : Relay Unit} {burst : Payload} {verdict : Verdict}
    (codec : ∃ leavings, relay.codec = .block leavings)
    (granted : ∀ requests, relay.buffer.allocator requests
      burst.header.declaredUncompressed.toNat = none)
    (verified : relay.Verified burst verdict after) (moving : ∀ fault, verdict ≠ .stop fault) :
    let capacity := max relay.buffer.capacity burst.header.declaredUncompressed.toNat
    verdict = (decoded relay.output.mode burst capacity).verdict ∧
      Stored relay.format relay.sink (decoded relay.output.mode burst capacity).records after.sink ∧
      after.buffer.capacity = capacity := by
  intro capacity
  obtain ⟨leavings, codec⟩ := codec
  -- memory is granted, so there is one way to unpack the burst, and each case below has to be it
  obtain ⟨grown, region, unpacks⟩ := Relay.unpack_of_granted granted
  have size : grown.buffer.capacity = capacity := (congrArg Region.size region).trans rfl
  rw [Relay.record?_block codec] at unpacks
  unfold decoded
  cases verified with
  | starved _ => exact absurd rfl (moving _)
  | torn _ _ _ _ _ => exact absurd rfl (moving _)
  | unsound unpack =>
    have same := Relay.sink_of_output (Relay.frame_of_unpack unpack).2.2
    rw [unpack] at unpacks
    cases recorded : Block.recordIn Block.inputLimit burst.header.declaredUncompressed capacity
        burst.body with
    | error fault =>
      rw [recorded] at unpacks
      cases unpacks
      exact ⟨rfl, by rw [same]; exact .nothing _, size⟩
    | ok record =>
      rw [recorded] at unpacks
      cases unpacks
  | undecodable unpack broken =>
    have same := Relay.sink_of_output (Relay.frame_of_unpack unpack).2.2
    rw [unpack] at unpacks
    cases recorded : Block.recordIn Block.inputLimit burst.header.declaredUncompressed capacity
        burst.body with
    | error fault =>
      rw [recorded] at unpacks
      cases unpacks
    | ok record =>
      rw [recorded] at unpacks
      cases unpacks
      simp only [broken]
      exact ⟨rfl, by rw [same]; exact .nothing _, size⟩
  | written unpack split _ _ stored =>
    rw [unpack] at unpacks
    cases recorded : Block.recordIn Block.inputLimit burst.header.declaredUncompressed capacity
        burst.body with
    | error fault =>
      rw [recorded] at unpacks
      cases unpacks
    | ok record =>
      rw [recorded] at unpacks
      cases unpacks
      simp only [split]
      exact ⟨rfl, stored, size⟩

/-- A relay judges a burst as the reference does. -/
theorem fate_of_judged {policy : Policy} {capacity : Nat} {relay after : Relay Unit}
    {payload : Bytes} {verdict : Verdict} (tracks : Tracks policy capacity relay)
    (judged : relay.Judged payload verdict after) :
    verdict = (fate policy capacity payload).1.verdict ∧
      Stored relay.format relay.sink (fate policy capacity payload).1.records after.sink ∧
      after.buffer.capacity = (fate policy capacity payload).2 := by
  have moving : ∀ fault, verdict ≠ .stop fault := by
    rintro fault rfl
    exact Relay.Judged.not_stopped tracks.dependable judged
  unfold fate
  rw [← tracks.bound, ← value_admission relay payload, ← tracks.dummy, ← tracks.capacity,
    ← tracks.mode]
  cases judged with
  | refused refused =>
    rw [refused]
    exact ⟨rfl, .nothing _, rfl⟩
  | header admitted dummy =>
    rw [admitted, dummy]
    exact ⟨rfl, .nothing _, rfl⟩
  | full admitted full verified =>
    have within := (Relay.admission_eq_ok.mp admitted).2
    rw [admitted, full]
    exact decoded_of_verified tracks.codec
      (fun requests => tracks.dependable.grants requests _ within) verified moving

theorem Fate.eq_skipped {fate : Fate} {fault : BurstFault} (same : .skip fault = fate.verdict) :
    fate = .skipped fault := by
  cases fate with
  | skipped other =>
    cases same
    rfl
  | emitted records => cases same
  | admitted => cases same

theorem Fate.eq_admitted {fate : Fate} (same : .headerOnly = fate.verdict) : fate = .admitted := by
  cases fate with
  | admitted => rfl
  | emitted records => cases same
  | skipped fault => cases same

theorem Fate.eq_emitted {fate : Fate} {count : Nat} (same : .written count = fate.verdict) :
    ∃ records, fate = .emitted records ∧ count = records.length := by
  cases fate with
  | emitted records =>
    cases same
    exact ⟨records, rfl, rfl⟩
  | admitted => cases same
  | skipped fault => cases same

theorem effect_output (policy : Policy) (acknowledgment : Message) (fate : Fate) :
    (effect policy acknowledgment fate).output =
      Record.stream policy.mode.format fate.records := by
  cases fate with
  | emitted records => rfl
  | admitted => rfl
  | skipped fault => rfl

/-- What one message does to a relay that the reference tracks: what the reference says, and the
reference tracks it on. -/
structure Follows (policy : Policy) (effect : Effect × Nat) (relay : Relay Unit)
    (outcome : Outcome) (after : Relay Unit) : Prop where
  outcome : outcome = effect.1.outcome
  output : after.sink.bytes = relay.sink.bytes ++ effect.1.output
  sent : after.channel.sent.toList = relay.channel.sent.toList ++ effect.1.sent
  tracks : Tracks policy effect.2 after

/-- A relay that judged the burst of a message has the verdict that the reference has, and is tracked
on before it acknowledges anything. -/
theorem message_of_judged {policy : Policy} {capacity : Nat} {relay ready : Relay Unit}
    {frames : Message} {rest : List Arrival} {envelope : Envelope} {verdict : Verdict}
    (tracks : Tracks policy capacity relay)
    (kind : Received.classify relay.role frames = .envelope envelope)
    (judged : (relay.taking rest).Judged envelope.payload verdict ready) :
    ∃ fate, verdict = fate.verdict ∧
      (message policy capacity frames).1 = effect policy (Acknowledger.reply envelope) fate ∧
      Tracks policy (message policy capacity frames).2 ready ∧
      ready.sink.bytes = relay.sink.bytes ++ (message policy capacity frames).1.output ∧
      ready.channel = relay.channel.withQueue rest := by
  have taking := tracks.keeps (relay.keeps_taking rest) tracks.capacity tracks.finished
  obtain ⟨same, stored, size⟩ := fate_of_judged taking judged
  obtain ⟨keeps, channel⟩ := judged.frame
  have framing := taking.dependable.framing
  rw [taking.mode] at framing
  rw [framing] at stored
  rw [tracks.role] at kind
  rw [message_of_envelope capacity kind]
  refine ⟨_, same, rfl, taking.keeps keeps size ?_, ?_, channel⟩
  · rw [channel]
    exact taking.finished
  · rw [effect_output]
    exact stored.bytes_eq

/-- What is left of a call when all but the acknowledgment is done follows the reference. -/
theorem follows_of_concluded {policy : Policy} {effect : Effect × Nat}
    {relay ready after : Relay Unit} {rest : List Arrival} {envelope : Envelope}
    {outcome : Bool → Outcome} {result : Except RelayFault Outcome}
    (tracks : Tracks policy effect.2 ready)
    (output : ready.sink.bytes = relay.sink.bytes ++ effect.1.output)
    (channel : ready.channel = relay.channel.withQueue rest)
    (same : outcome policy.role.acknowledges = effect.1.outcome)
    (sent : Relay.replies policy.role envelope = effect.1.sent)
    (concluded : ready.Concluded envelope outcome result after) :
    Follows policy effect relay (outcome policy.role.acknowledges) after := by
  obtain ⟨keeps, unchanged, buffer, -, -⟩ := concluded.frame
  obtain ⟨sends, finished⟩ := concluded.sends tracks.dependable tracks.finished
  refine ⟨same, ?_, ?_, tracks.keeps keeps ?_ finished⟩
  · rw [Relay.sink_of_output unchanged]
    exact output
  · rw [sends, tracks.role, sent, channel]
    rfl
  · rw [buffer]
    exact tracks.capacity

/-- What a relay does with a message follows the reference. -/
theorem follows_of_served {policy : Policy} {capacity : Nat} {relay after : Relay Unit}
    {frames : Message} {rest : List Arrival} {outcome : Outcome}
    (tracks : Tracks policy capacity relay)
    (taken : (Channel.nextMessage #[] relay.channel.incoming).value = (.ok frames, rest))
    (served : relay.Served outcome after) :
    Follows policy (message policy capacity frames) relay outcome after := by
  cases served with
  | silent settled =>
    cases settled with
    | @echo _ rest _ _ taken' kind =>
      cases taken'.symm.trans taken
      rw [tracks.role] at kind
      rw [message_of_acknowledgment capacity kind]
      have keeps := (relay.keeps_taking rest).trans (Relay.keeps_countEcho _)
      exact ⟨rfl, (List.append_nil _).symm, (List.append_nil _).symm,
        tracks.keeps keeps tracks.capacity tracks.finished⟩
    | @rejected _ rest fault taken' kind =>
      cases taken'.symm.trans taken
      rw [tracks.role] at kind
      rw [message_of_rejected capacity kind]
      have keeps := (relay.keeps_taking rest).trans (Relay.keeps_countSkip _ fault.kind)
      exact ⟨rfl, (List.append_nil _).symm, (List.append_nil _).symm,
        tracks.keeps keeps tracks.capacity tracks.finished⟩
    | @skipped _ rest envelope fault ready taken' kind judged unforgiving =>
      cases taken'.symm.trans taken
      obtain ⟨fate, same, worth, tracksReady, bytes, channel⟩ :=
        message_of_judged tracks kind judged
      have policed : policy.ackSkipped = false := tracksReady.ackSkipped.symm.trans unforgiving
      cases Fate.eq_skipped same
      refine ⟨?_, bytes, ?_, tracksReady.keeps (ready.keeps_countSkip _) tracksReady.capacity
        tracksReady.finished⟩
      · simp [worth, effect, policed]
      · show ready.channel.sent.toList = _
        rw [channel, worth]
        simp [effect, policed, Channel.withQueue]
  | @acknowledged envelope outcome ready after settled concluded =>
    rw [tracks.role] at concluded ⊢
    cases settled with
    | written taken' kind judged =>
      cases taken'.symm.trans taken
      obtain ⟨fate, same, worth, tracksReady, bytes, channel⟩ :=
        message_of_judged tracks kind judged
      obtain ⟨records, rfl, rfl⟩ := Fate.eq_emitted same
      refine follows_of_concluded tracksReady bytes channel ?_ ?_ concluded
      · rw [worth]
        rfl
      · rw [worth]
        rfl
    | admitted taken' kind judged =>
      cases taken'.symm.trans taken
      obtain ⟨fate, same, worth, tracksReady, bytes, channel⟩ :=
        message_of_judged tracks kind judged
      cases Fate.eq_admitted same
      refine follows_of_concluded tracksReady bytes channel ?_ ?_ concluded
      · rw [worth]
        rfl
      · rw [worth]
        rfl
    | @forgiven _ _ _ fault ready taken' kind judged forgiving =>
      cases taken'.symm.trans taken
      obtain ⟨fate, same, worth, tracksReady, bytes, channel⟩ :=
        message_of_judged tracks kind judged
      have policed : policy.ackSkipped = true := tracksReady.ackSkipped.symm.trans forgiving
      have counted := tracksReady.keeps (ready.keeps_countSkip fault.kind) tracksReady.capacity
        tracksReady.finished
      cases Fate.eq_skipped same
      refine follows_of_concluded counted bytes channel ?_ ?_ concluded
      · simp [worth, effect, policed]
      · simp [worth, effect, policed, Relay.replies]

/-! ## Runs -/

/-- One call of a relay that the reference tracks. -/
theorem call_of_tracks {policy : Policy} {capacity : Nat} {relay : Relay Unit} {frames : Message}
    {rest : List Arrival} (tracks : Tracks policy capacity relay)
    (taken : (Channel.nextMessage #[] relay.channel.incoming).value = (.ok frames, rest)) :
    ∃ outcome after, relay.step.value = (.ok outcome, after) ∧ after.channel.incoming = rest ∧
      Follows policy (message policy capacity frames) relay outcome after := by
  obtain ⟨outcome, after, called, served, queue⟩ :=
    Relay.served_of_dependable tracks.dependable taken
  exact ⟨outcome, after, called, queue, follows_of_served tracks taken served⟩

/-- The call that receiving fails ends a run, and does nothing else. -/
theorem call_of_lost {State : Type} {relay : Relay State} {fault : TransportFault}
    {rest : List Arrival}
    (lost : (Channel.nextMessage #[] relay.channel.incoming).value = (.error fault, rest)) :
    relay.step.value = (.error (.transport fault),
      { relay with channel := relay.channel.withQueue rest }) := by
  simp only [Relay.step, Relay.prepare, Logged.value_bind, Relay.value_read_of_lost relay.role lost]
  rfl

/-- A run from a channel and a sink comes to what the reference says. -/
structure Agrees (policy : Policy) (capacity : Nat) (channel : Channel) (sink : Sink)
    (run : Relay.Run Unit) : Prop where
  outcomes : run.outcomes =
    (fold policy capacity (messages [] channel.incoming).1).map Effect.outcome
  output : run.relay.sink.bytes =
    sink.bytes ++ (fold policy capacity (messages [] channel.incoming).1).flatMap Effect.output
  sent : run.relay.channel.sent.toList =
    channel.sent.toList ++
      (fold policy capacity (messages [] channel.incoming).1).flatMap Effect.sent
  unfinished : run.relay.channel.unfinished = []
  result : run.result = ending (messages [] channel.incoming).2

/-- A run ends because receiving fails: all calls before succeed, and that one does not. -/
def Stops (relay : Relay Unit) (run : Relay.Run Unit) : Prop :=
  ∃ history last, Relay.Serves relay history last ∧ history.map Prod.snd = run.outcomes ∧
    last.step.value =
      (.error (.transport (messages [] relay.channel.incoming).2), run.relay)

theorem runFor_succ_of_ok {State : Type} {relay after : Relay State} {outcome : Outcome}
    (called : relay.step.value = (.ok outcome, after)) (fuel : Nat) :
    (Relay.runFor (fuel + 1) relay).value =
      { (Relay.runFor fuel after).value with
        outcomes := outcome :: (Relay.runFor fuel after).value.outcomes } := by
  simp only [Relay.runFor, Logged.value_bind, called]
  rfl

theorem runFor_succ_of_lost {State : Type} {relay after : Relay State} {fault : TransportFault}
    (called : relay.step.value = (.error (.transport fault), after)) (fuel : Nat) :
    (Relay.runFor (fuel + 1) relay).value = ⟨[], ending fault, after⟩ := by
  simp only [Relay.runFor, Logged.value_bind, called]
  unfold RelayFault.isClosed TransportFault.isClosed ending
  by_cases closed : fault = .closed
  · simp [closed]
  · simp [closed]

/-- A run with steps enough for its queue comes to what the reference says. -/
theorem runFor_of_tracks {policy : Policy} {capacity fuel : Nat} {relay : Relay Unit}
    (tracks : Tracks policy capacity relay) (enough : relay.channel.incoming.length < fuel) :
    Agrees policy capacity relay.channel relay.sink (Relay.runFor fuel relay).value ∧
      Stops relay (Relay.runFor fuel relay).value := by
  -- each message takes an arrival from the queue, so the steps that are left stay enough
  induction fuel generalizing relay capacity with
  | zero => omega
  | succ fuel ih =>
    cases next : (Channel.nextMessage #[] relay.channel.incoming).value with
    | mk result rest =>
      cases result with
      | error fault =>
        have called := call_of_lost next
        have cut : messages [] relay.channel.incoming = ([], fault) := messages_of_lost next
        rw [runFor_succ_of_lost called]
        refine ⟨⟨?_, ?_, ?_, tracks.finished, ?_⟩, [], relay, .nothing relay, rfl, ?_⟩
        · rw [cut]
          rfl
        · rw [cut]
          exact (List.append_nil _).symm
        · rw [cut]
          exact (List.append_nil _).symm
        · rw [cut]
        · rw [cut]
          exact called
      | ok frames =>
        obtain ⟨outcome, after, called, queue, follows⟩ := call_of_tracks tracks next
        have cut : messages [] relay.channel.incoming =
            (frames :: (messages [] rest).1, (messages [] rest).2) := messages_of_taken next
        have shorter := Channel.length_lt_of_nextMessage next
        obtain ⟨agrees, history, last, serves, outcomes, stops⟩ :=
          ih follows.tracks (by rw [queue]; omega)
        rw [runFor_succ_of_ok called]
        rw [queue] at stops
        refine ⟨⟨?_, ?_, ?_, agrees.unfinished, ?_⟩, (relay, outcome) :: history, last,
          .call called serves, ?_, ?_⟩
        · rw [agrees.outcomes, queue, follows.outcome, cut]
          rfl
        · show (Relay.runFor fuel after).value.relay.sink.bytes = _
          rw [agrees.output, queue, follows.output, cut, List.append_assoc]
          rfl
        · show (Relay.runFor fuel after).value.relay.channel.sent.toList = _
          rw [agrees.sent, queue, follows.sent, cut, List.append_assoc]
          rfl
        · show (Relay.runFor fuel after).value.result = _
          rw [agrees.result, queue, cut]
        · rw [List.map_cons, outcomes]
        · rw [cut]
          exact stops

theorem tracks_of_start {settings : Settings} {allocator : Allocator} {leavings : Codec.Leavings}
    {channel : Channel} {sink : Sink} {relay : Relay Unit}
    (started : (Relay.start settings allocator (.block leavings) () channel sink).value = .ok relay)
    (grants : ∀ requests capacity, capacity ≤ settings.bound.toNat →
      allocator requests capacity = none)
    (sends : channel.sendFault = none) (finished : channel.unfinished = [])
    (accepts : sink.behaviour.Accepts) :
    Tracks (.ofSettings settings) settings.decompression.initialCapacity.toNat relay := by
  have dependable := Relay.dependable_of_start started grants sends accepts
  obtain ⟨buffer, made, rfl⟩ := Relay.eq_of_start started
  exact ⟨⟨leavings, rfl⟩, rfl, rfl, rfl, rfl, rfl, (Buffer.frame_of_ofCapacity made).2, dependable,
    finished⟩

/-- What a run of a started relay comes to, as far as it shows outside. -/
theorem agrees_of_start {settings : Settings} {allocator : Allocator} {leavings : Codec.Leavings}
    {channel : Channel} {sink : Sink} {relay : Relay Unit}
    (started : (Relay.start settings allocator (.block leavings) () channel sink).value = .ok relay)
    (grants : ∀ requests capacity, capacity ≤ settings.bound.toNat →
      allocator requests capacity = none)
    (sends : channel.sendFault = none) (finished : channel.unfinished = [])
    (accepts : sink.behaviour.Accepts) :
    Agrees (.ofSettings settings) settings.decompression.initialCapacity.toNat channel sink
      relay.run.value := by
  have tracks := tracks_of_start started grants sends finished accepts
  have agrees := (runFor_of_tracks tracks (Nat.lt_succ_self relay.channel.incoming.length)).1
  obtain ⟨buffer, made, rfl⟩ := Relay.eq_of_start started
  exact agrees

/-- A relay for compressed blocks that nothing around it fails runs to the end of its queue, and
comes to what the reference says of its settings and of the queue. -/
theorem run_eq_reference {settings : Settings} {allocator : Allocator} {leavings : Codec.Leavings}
    {channel : Channel} {sink : Sink} {relay : Relay Unit}
    (started : (Relay.start settings allocator (.block leavings) () channel sink).value = .ok relay)
    (grants : ∀ requests capacity, capacity ≤ settings.bound.toNat →
      allocator requests capacity = none)
    (sends : channel.sendFault = none) (finished : channel.unfinished = [])
    (accepts : sink.behaviour.Accepts) :
    Agrees (.ofSettings settings) settings.decompression.initialCapacity.toNat channel sink
        relay.run.value ∧
      Stops relay relay.run.value := by
  have tracks := tracks_of_start started grants sends finished accepts
  have run := runFor_of_tracks tracks (Nat.lt_succ_self relay.channel.incoming.length)
  obtain ⟨buffer, made, rfl⟩ := Relay.eq_of_start started
  exact run

/-- A queue of a message that is too short, of a burst that an interruption cuts in two, and of a
message that never ends: one message is skipped, and one written and acknowledged. -/
theorem run_of_small_queue :
    ∃ relay : Relay Unit,
      (Relay.start {} .willing (.block .nothing) ()
        { incoming :=
            [.part ⟨[1], false⟩, .part ⟨[7], true⟩, .interruption, .part ⟨[8], true⟩,
              .part ⟨[2, 0, 0, 0, 3, 0, 0, 0, 32, 65, 66], false⟩, .part ⟨[9], true⟩] }
        (.ofBehaviour .willing)).value = .ok relay ∧
      relay.run.value.outcomes = [.skipped (.shortEnvelope 1) false, .emitted 1 true] ∧
      relay.run.value.relay.sink.bytes = [0, 0, 0, 2, 65, 66] ∧
      relay.run.value.relay.channel.sent.toList = [[[7], [8], []]] ∧
      relay.run.value.result = .ok () := by
  obtain ⟨relay, started⟩ : ∃ relay : Relay Unit,
      (Relay.start {} .willing (.block .nothing) ()
        { incoming :=
            [.part ⟨[1], false⟩, .part ⟨[7], true⟩, .interruption, .part ⟨[8], true⟩,
              .part ⟨[2, 0, 0, 0, 3, 0, 0, 0, 32, 65, 66], false⟩, .part ⟨[9], true⟩] }
        (.ofBehaviour .willing)).value = .ok relay := ⟨_, rfl⟩
  have agrees := (run_eq_reference started (fun _ _ _ => rfl) rfl rfl
    Sink.Behaviour.accepts_willing).1
  exact ⟨relay, started, agrees.outcomes, agrees.output, agrees.sent, agrees.result⟩

end Reference

end BurstRelay
