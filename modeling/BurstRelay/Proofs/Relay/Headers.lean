import BurstRelay.Proofs.Relay.Explicit

/-!
# In front of the body of a burst

The frames of a message and the header of its burst are checked before the body is looked at. Which
of the two sides of that line a message ended on shows in its outcome (`Outcome.opened`), because no
fault can come from both sides (`behindHeader_of_header`, `behindHeader_of_verified`).
-/

namespace BurstRelay

/-- Whether a burst can have this fault only when its header was accepted. -/
def BurstFault.behindHeader : BurstFault → Bool
  | malformedHeader .. | declaredTooLarge .. => false
  | codecFailure .. | sizeMismatch .. | undecodable .. => true

namespace Outcome

/-- Whether the body of the burst was looked at. -/
def opened : Outcome → Bool
  | emitted .. => true
  | skipped (.burst fault) _ => fault.behindHeader
  | skipped .. | admitted _ | ackEcho => false

theorem ne_emitted_of_unopened {outcome : Outcome} (unopened : outcome.opened = false)
    (records : Nat) (acknowledged : Bool) : outcome ≠ .emitted records acknowledged := by
  rintro rfl
  cases unopened

end Outcome

/-- Whether the body of the burst was looked at for a verdict, if the relay goes on with one. -/
def Verdict.opened? : Verdict → Option Bool
  | written _ => some true
  | headerOnly => some false
  | skip fault => some fault.behindHeader
  | stop _ => none

/-- What the outcome of a message would be if nothing was sent for it. -/
def Settlement.unanswered? : Settlement → Option Outcome
  | acknowledge _ outcome => some (outcome false)
  | silent outcome => some outcome
  | stop _ => none

namespace Received

/-- Only the number of its frames lets a message be rejected. -/
theorem eq_of_rejected {role : Role} {message : Message} {fault : SkipFault}
    (kind : classify role message = .rejected fault) :
    (∃ frames, fault = .shortEnvelope frames) ∨ ∃ frames, fault = .excessFrames frames := by
  unfold classify at kind
  split at kind
  · split at kind
    · cases kind
    · cases kind
  · split at kind
    · cases kind
    · cases kind
      exact .inl ⟨_, rfl⟩
  · split at kind
    · cases kind
      exact .inr ⟨_, rfl⟩
    · cases kind
      exact .inl ⟨_, rfl⟩

theorem opened_of_rejected {role : Role} {message : Message} {fault : SkipFault}
    (kind : classify role message = .rejected fault) :
    (Outcome.skipped fault false).opened = false := by
  rcases eq_of_rejected kind with ⟨frames, rfl⟩ | ⟨frames, rfl⟩
  · rfl
  · rfl

end Received

namespace Relay

variable {State : Type}

/-- A header that is refused is refused with a fault of headers. -/
theorem behindHeader_of_header {bound : UInt32} {payload : Bytes} {fault : BurstFault}
    (refused : Reference.header bound payload = .error fault) : fault.behindHeader = false := by
  unfold Reference.header at refused
  split at refused
  · cases refused
    rfl
  · split at refused
    · cases refused
      rfl
    · split at refused
      · cases refused
        rfl
      · cases refused

/-- A header that is accepted declares no more than the bound. -/
theorem declared_le_of_header {bound : UInt32} {payload : Bytes} {burst : Payload}
    (admitted : Reference.header bound payload = .ok burst) :
    burst.header.declaredUncompressed.toNat ≤ bound.toNat := by
  unfold Reference.header at admitted
  split at admitted
  · cases admitted
  · split at admitted
    · cases admitted
    · split at admitted
      · cases admitted
      · rename_i within
        cases admitted
        show (UInt32.ofNat (Bytes.word payload 0)).toNat ≤ bound.toNat
        rw [UInt32.toNat_ofNat_of_lt' (Bytes.word_lt payload 0)]
        omega

/-- What is produced from a body is refused with a fault of bodies. -/
theorem behindHeader_of_checkProduced {payload : Payload} {codec : String} {room : Nat}
    {reported : Except String Nat} {fault : BurstFault}
    (refused : payload.checkProduced codec room reported = .error fault) :
    fault.behindHeader = true := by
  unfold Payload.checkProduced at refused
  dsimp only at refused
  split at refused
  · cases refused
    rfl
  · split at refused
    · cases refused
      rfl
    · split at refused
      · cases refused
        rfl
      · split at refused
        · cases refused
          rfl
        · cases refused

/-- A record that cannot be split is refused with a fault of bodies. -/
theorem behindHeader_of_records {mode : OutputMode} {record : Bytes} {fault : BurstFault}
    (refused : Output.records mode record = .error fault) : fault.behindHeader = true := by
  cases mode with
  | binary => cases refused
  | hex => cases refused
  | frames =>
    unfold Output.records DataBurst.split DataBurst.ofRecord at refused
    cases decoded : DataBurst.decode record with
    | error cause =>
      rw [decoded] at refused
      cases refused
      rfl
    | ok burst =>
      rw [decoded] at refused
      cases refused

theorem behindHeader_of_unpack {relay unpacked : Relay State} {burst : Payload} {fault : BurstFault}
    (unpack : (relay.unpack burst).value = (.skip fault, unpacked)) : fault.behindHeader = true := by
  simp only [Relay.unpack, Logged.value_bind] at unpack
  split at unpack
  · cases unpack
  · split at unpack
    · rename_i refused
      cases unpack
      exact behindHeader_of_checkProduced refused
    · cases unpack

/-- Behind an accepted header only the body can be at fault. -/
theorem behindHeader_of_verified {relay after : Relay State} {burst : Payload} {fault : BurstFault}
    (verified : Verified relay burst (.skip fault) after) : fault.behindHeader = true := by
  cases verified with
  | unsound unpack => exact behindHeader_of_unpack unpack
  | undecodable _ broken => exact behindHeader_of_records broken

/-- No verdict on a burst whose header was accepted is one on its header. -/
theorem Verified.opened_ne {relay after : Relay State} {burst : Payload} {verdict : Verdict}
    (verified : Verified relay burst verdict after) : verdict.opened? ≠ some false := by
  cases verdict with
  | written records => nofun
  | headerOnly => cases verified
  | stop fault => nofun
  | skip fault =>
    have behind := behindHeader_of_verified verified
    show some fault.behindHeader ≠ some false
    rw [behind]
    simp

/-- Whether a body was looked at does not depend on the acknowledgment. -/
theorem Settled.opened_eq {relay ready : Relay State} {envelope : Envelope}
    {outcome : Bool → Outcome} (settled : Settled relay (.acknowledge envelope outcome) ready)
    (acknowledged : Bool) : (outcome acknowledged).opened = (outcome false).opened := by
  cases settled with
  | written _ _ _ => rfl
  | admitted _ _ _ => rfl
  | forgiven _ _ _ _ => rfl

end Relay

end BurstRelay
