import BurstRelay.Proofs.Message.Boundaries

/-!
# Frames grouped into messages

Every frame says whether more frames of its message follow, and nothing else says where a message ends.
`Grouped` is what that comes to for frames in a row, with no channel in it: each message is the frames up
to the first that no other follows, and the frames behind the last such frame are a message that is not
finished. There is one way to group frames (`Grouped.unique`), and the frames of whole messages, with the
flags that their places give them, are grouped into these messages (`grouped_flagged`).
-/

namespace BurstRelay

namespace Message

/-- The frames of a message with the flags that their places give them: all are followed but the one in
the last place. -/
def flagged (message : Message) : List Part :=
  message.mapIdx fun place data => ⟨data, decide (place < message.length - 1)⟩

theorem flagged_append_singleton (frames : Message) (last : Bytes) :
    flagged (frames ++ [last]) = frames.map (fun data => ⟨data, true⟩) ++ [⟨last, false⟩] := by
  unfold flagged
  rw [List.mapIdx_concat]
  congr 1
  · apply List.ext_getElem
    · simp
    · intro place inside _
      rw [List.length_mapIdx] at inside
      simp [inside]
  · simp

/-- The places of its frames tell the flags of a message. -/
theorem parts_eq_flagged (message : Message) : message.parts = message.flagged := by
  rcases List.eq_nil_or_concat message with rfl | ⟨frames, last, rfl⟩
  · rfl
  · rw [List.concat_eq_append, parts_append_singleton, flagged_append_singleton]

end Message

/-- Frames in a row, with the messages that they make up and the frames of a message that is not
finished. -/
inductive Grouped : List Part → List Message → Message → Prop
  | unfinished {parts : List Part} (followed : ∀ part ∈ parts, part.more = true) :
      Grouped parts [] (parts.map Part.data)
  | whole {front behind : List Part} {last : Part} {messages : List Message} {rest : Message}
      (followed : ∀ part ∈ front, part.more = true) (ends : last.more = false)
      (others : Grouped behind messages rest) :
      Grouped (front ++ last :: behind) ((front ++ [last]).map Part.data :: messages) rest

variable {parts others front behind : List Part} {last : Part} {message : Message}
  {messages later : List Message} {rest final : Message}

namespace Part

/-- Frames that others follow are told by their data. -/
theorem map_data_of_followed (followed : ∀ part ∈ parts, part.more = true) :
    (parts.map Part.data).map (fun data => ⟨data, true⟩) = parts := by
  induction parts with
  | nil => rfl
  | cons part parts ih =>
    rw [List.forall_mem_cons] at followed
    rw [List.map_cons, List.map_cons, ih followed.2, ← followed.1]

theorem followed_map (frames : Message) :
    ∀ part ∈ frames.map fun data => (⟨data, true⟩ : Part), part.more = true := by
  intro part member
  obtain ⟨data, -, rfl⟩ := List.mem_map.mp member
  rfl

/-- The first frame that no other follows is told by the frames alone. -/
theorem takeWhile_of_followed (followed : ∀ part ∈ front, part.more = true)
    (ends : last.more = false) (behind : List Part) :
    (front ++ last :: behind).takeWhile Part.more = front := by
  rw [List.takeWhile_append_of_pos followed, List.takeWhile_cons_of_neg (by simp [ends]),
    List.append_nil]

end Part

namespace Grouped

/-- No frame is lost, and none is moved. -/
theorem flatten (grouped : Grouped parts messages rest) :
    messages.flatten ++ rest = parts.map Part.data := by
  induction grouped with
  | unfinished _ => rfl
  | whole _ _ _ ih => simp [ih]

/-- The frames of the first message have the flags that the message would be sent with. -/
theorem split (grouped : Grouped parts (message :: messages) rest) :
    ∃ behind, message ≠ [] ∧ parts = message.parts ++ behind ∧ Grouped behind messages rest := by
  cases grouped with
  | @whole front behind last _ _ followed ends others =>
    refine ⟨behind, by simp, ?_, others⟩
    obtain ⟨data, more⟩ := last
    cases ends
    rw [List.map_append, List.map_singleton, Message.parts_append_singleton,
      Part.map_data_of_followed followed, List.append_assoc, List.singleton_append]

/-- There is one way to group frames. -/
theorem unique (one : Grouped parts messages rest) (two : Grouped parts later final) :
    later = messages ∧ final = rest := by
  induction one generalizing later final with
  | unfinished followed =>
    cases two with
    | unfinished _ => exact ⟨rfl, rfl⟩
    | whole _ ends _ =>
      have more := followed _ (List.mem_append_right _ (List.mem_cons_self ..))
      cases ends.symm.trans more
  | @whole front behind last messages rest followed ends others ih =>
    generalize same : front ++ last :: behind = parts at two
    cases two with
    | unfinished all =>
      have more := all last (same ▸ List.mem_append_right _ (List.mem_cons_self ..))
      cases ends.symm.trans more
    | whole followed' ends' others' =>
      -- both messages end with the first frame that no other follows
      have fronts := congrArg (List.takeWhile Part.more) same
      rw [Part.takeWhile_of_followed followed ends,
        Part.takeWhile_of_followed followed' ends'] at fronts
      subst fronts
      cases List.append_cancel_left same
      obtain ⟨rfl, rfl⟩ := ih others'
      exact ⟨rfl, rfl⟩

/-- More frames go on with the message that is not finished. -/
theorem append (before : Grouped parts messages rest)
    (more : Grouped (rest.map (fun data => ⟨data, true⟩) ++ others) later final) :
    Grouped (parts ++ others) (messages ++ later) final := by
  induction before with
  | unfinished followed =>
    rw [Part.map_data_of_followed followed] at more
    exact more
  | whole followed ends _ ih =>
    rw [List.append_assoc, List.cons_append]
    exact .whole followed ends (ih more)

theorem nothing : Grouped [] [] [] := .unfinished (by simp)

theorem append_nil (grouped : Grouped parts messages rest) : Grouped (parts ++ []) messages rest := by
  rwa [List.append_nil]

/-- One more frame goes behind those of its message, and completes it if no other follows. -/
theorem append_part (before : Grouped parts messages rest) (part : Part) :
    Grouped (parts ++ [part])
      (if part.more then messages else messages ++ [rest ++ [part.data]])
      (if part.more then rest ++ [part.data] else []) := by
  obtain ⟨data, more⟩ := part
  cases more with
  | true =>
    have grouped := unfinished (Part.followed_map (rest ++ [data]))
    rw [List.map_append] at grouped
    simpa [Function.comp_def] using before.append grouped
  | false =>
    have ends : Part.more ⟨data, false⟩ = false := rfl
    have grouped := whole (Part.followed_map rest) ends nothing
    simpa [Function.comp_def] using before.append grouped

/-- The frames of a message complete what was not finished. -/
theorem append_flagged (before : Grouped parts messages rest) (nonempty : message ≠ []) :
    Grouped (parts ++ message.flagged) (messages ++ [rest ++ message]) [] := by
  rcases List.eq_nil_or_concat message with rfl | ⟨frames, last, rfl⟩
  · exact absurd rfl nonempty
  · have ends : Part.more ⟨last, false⟩ = false := rfl
    have grouped := whole (Part.followed_map (rest ++ frames)) ends nothing
    rw [List.map_append, List.append_assoc] at grouped
    rw [List.concat_eq_append, Message.flagged_append_singleton]
    simpa [Function.comp_def] using before.append grouped

end Grouped

/-- Whole messages are grouped into themselves; one without frames leaves nothing. -/
theorem grouped_flagged (messages : List Message) :
    Grouped (messages.flatMap Message.flagged) (messages.filter (· ≠ [])) [] := by
  induction messages with
  | nil => exact .nothing
  | cons message messages ih =>
    rw [List.flatMap_cons]
    by_cases empty : message = []
    · rw [List.filter_cons_of_neg (by simp [empty]), empty]
      exact ih
    · rw [List.filter_cons_of_pos (by simp [empty])]
      exact (Grouped.nothing.append_flagged empty).append ih

end BurstRelay
