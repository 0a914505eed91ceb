import RadioBoard.Link
import RadioBoard.Proofs.Packet

/-!
Which responses an access takes for a success.

A response that is too short is filled up with zeros before its length is looked at, so the missing bytes
count as zeros and only a response that is too long is refused for its length. Main statement: an access
succeeds exactly on the responses that are no longer than a packet and have the magic of the format and the
success bit, and a read gives what is there of the data field.
-/

namespace RadioBoard.Link

open Packet (Address Data)

variable {f : Packet.Format}

/-- No more bytes than a packet has, with the magic of the format and the success bit. -/
structure Accepted (f : Packet.Format) (response : List UInt8) : Prop where
  fits : response.length ≤ Packet.size
  magic : response.getD 0 0 = f.magic
  success : response.getD 2 0 &&& Packet.successFlag ≠ 0

/-- A whole packet with the magic of the format and the success bit. -/
structure WellFormed (f : Packet.Format) (response : List UInt8) : Prop where
  length : response.length = Packet.size
  magic : response.getD 0 0 = f.magic
  success : response.getD 2 0 &&& Packet.successFlag ≠ 0

theorem accepted_iff (f : Packet.Format) (response : List UInt8) :
    Accepted f response ↔
      (Packet.ofBytes f response).isValid = true ∧ (Packet.ofBytes f response).isSuccess = true := by
  have length : (Packet.ofBytes f response).bytes.length = Packet.size ↔
      response.length ≤ Packet.size := by
    simp only [Packet.ofBytes, List.length_append, List.length_replicate]
    omega
  have valid : (Packet.ofBytes f response).isValid = true ↔
      response.length ≤ Packet.size ∧ response.getD 0 0 = f.magic := by
    rw [Packet.isValid, Bool.and_eq_true, beq_iff_eq, beq_iff_eq, length, Packet.magic,
      Packet.byte_ofBytes]
  have success : (Packet.ofBytes f response).isSuccess = true ↔
      response.getD 2 0 &&& Packet.successFlag ≠ 0 := by
    rw [Packet.isSuccess, bne_iff_ne, Packet.flags, Packet.byte_ofBytes]
  rw [valid, success]
  constructor
  · intro accepted
    exact ⟨⟨accepted.fits, accepted.magic⟩, accepted.success⟩
  · rintro ⟨⟨fits, magic⟩, success⟩
    exact ⟨fits, magic, success⟩

instance (f : Packet.Format) (response : List UInt8) : Decidable (Accepted f response) :=
  decidable_of_iff _ (accepted_iff f response).symm

theorem wellFormed_iff (f : Packet.Format) (response : List UInt8) :
    WellFormed f response ↔ Accepted f response ∧ response.length = Packet.size := by
  constructor
  · intro whole
    exact ⟨⟨whole.length.le, whole.magic, whole.success⟩, whole.length⟩
  · rintro ⟨accepted, length⟩
    exact ⟨length, accepted.magic, accepted.success⟩

section Runs

variable {σ α β : Type} (h : Handler interface σ) (s : σ)

/-- An error skips what comes after it. -/
theorem result_bind (act : Action α) (k : α → Action β) :
    ((act >>= k).run.run h s).result = match (act.run.run h s).result with
      | .ok a => ((k a).run.run h (act.run.run h s).state).result
      | .error cause => .error cause := by
  have split : (act >>= k).run = act.run.bind fun r => match r with
      | .ok a => (k a).run
      | .error cause => .done (.error cause) := by
    change Program.bind _ _ = _
    congr 1
    funext r
    cases r <;> rfl
  rw [split, Program.run_bind]
  dsimp only
  cases (act.run.run h s).result <;> rfl

variable (e : Endpoints)

/-- What a link answers to a request. -/
def answerTo (request : Packet f) : Except Error (List UInt8) :=
  (h ⟨e.input, e.output, request.bytes⟩ s).1

theorem received_result (response : List UInt8) :
    ((received f response).run.run h s).result = .ok (Packet.ofBytes f response) := by
  by_cases short : response.length < Packet.size
  · rw [received, if_pos short]
    rfl
  · rw [received, if_neg short]
    rfl

/-- An access ends with what was answered, or with an error. -/
theorem access_result (request : Packet f) :
    ((access e request).run.run h s).result = match answerTo h s e request with
      | .error cause => .error cause
      | .ok response =>
        if Accepted f response then .ok (Packet.ofBytes f response) else .error .unexpected := by
  have asked : ((ExceptT.mk (Program.ask (I := interface) ⟨e.input, e.output, request.bytes⟩) :
      Action (List UInt8)).run.run h s).result = answerTo h s e request := rfl
  rw [access, result_bind, asked]
  cases answerTo h s e request with
  | error cause => rfl
  | ok response =>
    dsimp only
    rw [result_bind, received_result]
    simp only [accepted_iff]
    cases valid : (Packet.ofBytes f response).isValid with
    | false => rfl
    | true => cases success : (Packet.ofBytes f response).isSuccess <;> rfl

/-- What follows an access that succeeds cannot fail any more. -/
theorem result_after_access (request : Packet f) (finish : Packet f → α) (a : α) :
    ((do return finish (← access e request) : Action α).run.run h s).result = .ok a ↔
      ∃ response, answerTo h s e request = .ok response ∧ Accepted f response ∧
        a = finish (Packet.ofBytes f response) := by
  rw [result_bind, access_result]
  cases answerTo h s e request with
  | error cause => simp
  | ok response =>
    by_cases accepted : Accepted f response
    · simp [accepted, eq_comm, Program.run]
    · simp [accepted]

end Runs

/-- An access succeeds exactly if the link gives an accepted response, and a read then tells the number in
its data field. Where no byte is missing, the accepted responses are the well-formed ones. -/
theorem access_accepts {σ : Type} (h : Handler interface σ) (s : σ) (e : Endpoints) (f : Packet.Format)
    (request : Packet f) (target : UInt8) (address : Address f) (data : Data f) :
    (∀ p, ((access e request).run.run h s).result = .ok p ↔
      ∃ response, answerTo h s e request = .ok response ∧ Accepted f response ∧
        p = Packet.ofBytes f response) ∧
    (∀ value, ((read f e target address).run.run h s).result = .ok value ↔
      ∃ response, answerTo h s e (Packet.readRequest f target address) = .ok response ∧
        Accepted f response ∧
        value = BitVec.ofNat _ (LittleEndian.decode ((response.drop f.dataOffset).take f.dataBytes))) ∧
    (((write f e target address data).run.run h s).result = .ok () ↔
      ∃ response, answerTo h s e (Packet.writeRequest f target address data) = .ok response ∧
        Accepted f response) ∧
    ∀ response, WellFormed f response ↔ Accepted f response ∧ response.length = Packet.size := by
  refine ⟨?_, ?_, ?_, wellFormed_iff f⟩
  · intro p
    have identity := result_after_access h s e request (fun p => p) p
    rwa [bind_pure] at identity
  · intro value
    rw [read, result_after_access]
    simp only [Packet.data_ofBytes]
  · rw [write, result_after_access h s e _ (fun _ => ())]
    simp

/-- Three bytes are enough for a read to succeed, with a value that was never sent. -/
theorem truncated_response_accepted :
    ((read .a8d8 ⟨0x82, 0x02⟩ 4 0).run.run (fun _ s => (Except.ok [0x41, 0x04, 0x02], s)) ()).result = .ok 0 ∧
      ¬WellFormed .a8d8 [0x41, 0x04, 0x02] := by
  refine ⟨rfl, ?_⟩
  intro whole
  exact absurd whole.length (by decide)

end RadioBoard.Link
