import BurstRelay.Proofs.Message.Interruptions

/-!
# Where messages end

A queue says where a message ends by the flags of its frames alone. `Channel.Begins` and
`Channel.Carries` say what the beginning of a message and a whole message look like in a queue, with
interruptions between the frames. The message that is taken from a queue is the one that stands at its
front, and what is behind the message stays (`nextMessage_of_carries`, `carries_of_nextMessage`); one
that breaks off takes its frames with it and is not delivered (`nextMessage_of_begins`).
-/

namespace BurstRelay

/-- All frames of a message but the last are followed by more. -/
theorem Message.parts_append_singleton (frames : Message) (last : Bytes) :
    Message.parts (frames ++ [last]) = frames.map (fun data => ⟨data, true⟩) ++ [⟨last, false⟩] := by
  induction frames with
  | nil => rfl
  | cons data frames ih =>
    rw [List.cons_append, List.map_cons, List.cons_append, ← ih]
    cases frames with
    | nil => rfl
    | cons next frames => rfl

namespace Channel

/-- Arrivals that carry the first frames of a message, each followed by more, and any interruptions. -/
def Begins (frames : Message) (arrivals : List Arrival) : Prop :=
  Interspersed (frames.map fun data => .part ⟨data, true⟩) arrivals

/-- Arrivals that carry a message and end with its last frame. -/
def Carries (message : Message) (arrivals : List Arrival) : Prop :=
  ∃ frames last front, message = frames ++ [last] ∧ Begins frames front ∧
    arrivals = front ++ [.part ⟨last, false⟩]

/-- Arrivals that carry messages, one behind the other. -/
inductive CarriesEach : List Message → List Arrival → Prop
  | nothing : CarriesEach [] []
  | message {message : Message} {messages : List Message} {taken behind : List Arrival}
      (first : Carries message taken) (others : CarriesEach messages behind) :
      CarriesEach (message :: messages) (taken ++ behind)

/-- The frames with which a message begins are gathered, and the rest of it is still to come. -/
theorem nextMessage_of_begins {frames : Message} {front : List Arrival} (begins : Begins frames front)
    (gathered : Array Bytes) (queue : List Arrival) :
    (nextMessage gathered (front ++ queue)).value =
      (nextMessage (gathered ++ frames.toArray) queue).value := by
  unfold Begins at begins
  generalize parts : frames.map (fun data => Arrival.part ⟨data, true⟩) = carried at begins
  -- on how the interruptions were put in; they change neither what is gathered nor what is to come
  induction begins generalizing frames gathered with
  | nothing =>
    obtain rfl := List.map_eq_nil_iff.mp parts
    rw [List.nil_append, Array.append_empty]
  | @arrival _ longer _ _ ih =>
    obtain ⟨data, others, rfl, rfl, same⟩ := List.map_eq_cons_iff.mp parts
    rw [List.cons_append, nextMessage, if_pos rfl, ih (gathered.push data) same]
    congr 2
    apply Array.toList_inj.mp
    simp
  | interruption _ ih => exact ih gathered parts

/-- A message is taken from the queue with all its frames and nothing else. -/
theorem nextMessage_of_carries {message : Message} {taken : List Arrival}
    (carries : Carries message taken) (rest : List Arrival) :
    (nextMessage #[] (taken ++ rest)).value = (.ok message, rest) := by
  obtain ⟨frames, last, front, rfl, begins, rfl⟩ := carries
  rw [List.append_assoc, nextMessage_of_begins begins]
  simp [nextMessage]

/-- What is taken from a queue is a message that stands at its front. -/
theorem carries_of_nextMessage {gathered : Array Bytes} {message : Message} {queue rest : List Arrival}
    (next : (nextMessage gathered queue).value = (.ok message, rest)) :
    ∃ others taken, message = gathered.toList ++ others ∧ Carries others taken ∧
      queue = taken ++ rest := by
  induction queue generalizing gathered with
  | nil => cases next
  | cons arrival queue ih =>
    cases arrival with
    | failure fault => cases next
    | interruption =>
      obtain ⟨others, taken, same, ⟨frames, last, front, whole, begins, rfl⟩, rfl⟩ := ih next
      exact ⟨others, _, same, ⟨frames, last, _, whole, .interruption begins, rfl⟩, rfl⟩
    | part part =>
      obtain ⟨data, more⟩ := part
      cases more with
      | true =>
        obtain ⟨others, taken, same, ⟨frames, last, front, rfl, begins, rfl⟩, rfl⟩ := ih next
        refine ⟨data :: (frames ++ [last]), _, ?_,
          ⟨data :: frames, last, _, rfl, .arrival _ begins, rfl⟩, rfl⟩
        rw [same]
        simp
      | false =>
        cases next
        exact ⟨[data], _, by simp, ⟨[], data, [], rfl, .nothing, rfl⟩, rfl⟩

end Channel

end BurstRelay
