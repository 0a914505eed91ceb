import RadioBoard.Proofs.Routine
import RadioBoard.Proofs.Session

/-!
What the board hands over: images to the transport and to the flash, and message sizes to streams.

Main statement: in a session, whatever fails, every image that is handed over is one that the board lets
through, and every stream gets the message size that the board was opened with.
-/

namespace RadioBoard.Board

/-- What a call hands over goes with what the board knows of its make. -/
@[simp] def Suits (setup : Setup) (b : Board) : boardInterface.Call → Prop
  | .inl (.loadFpga image) | .inr (.flash (.writeBitstream image)) => accepts setup b image = true
  | .inr (.flash (.writeFirmware image)) =>
    setup.config.skipFirmwareSizeCheck = false → Flash.fitsFirmware image.size = true
  | .inr (.streaming (.create config _)) => config.messageSize = b.messageSize
  | .inr (.streaming (.startSync config)) => config.messageSize = b.messageSize
  | _ => True

/-- What has a part in that. -/
def scale (b : Board) : FpgaSize × Nat := (b.fpgaSize, b.messageSize)

theorem scale_withSync (b : Board) (h : Option Streaming.SyncHandle) (d : Direction) :
    (b.withSync h d).scale = b.scale := by
  cases d <;> rfl

variable {setup : Setup} {b b' : Board}

theorem suits_congr (same : scale b' = scale b) : Suits setup b' = Suits setup b := by
  have size : b'.fpgaSize = b.fpgaSize := congrArg Prod.fst same
  have message : b'.messageSize = b.messageSize := congrArg Prod.snd same
  funext c
  unfold Suits accepts
  rw [size, message]

theorem suits_of_routine (c : boardInterface.Call) (routine : Routine c) : Suits setup b c := by
  unfold Suits
  split
  all_goals first | exact routine.elim | trivial

/-- Setting up is routine but for the version of the FPGA. -/
theorem setUp_scale {C : boardInterface.Call → Prop} (asked : C (.inl .fpgaVersion))
    (routine : ∀ c, Routine c → C c) : Leaves scale C setUp := by
  rw [setUp_eq]
  refine .bind ?_ fun _ => furnish_leaves.mono (fun c made => routine c made.2) fun p => (p.2.1, p.2.2.1)
  intro setup b
  simp [identifyFpga, scale, asked]

theorem loadFpga_suits (image : ByteArray) :
    Meets (.only (Suits setup b)) setup (loadFpga image) b () (fun _ b' _ => scale b' = scale b)
      fun _ b' _ => scale b' = scale b := by
  rw [loadFpga, meets_bind, meets_expect]
  refine ⟨fun _ => ?_, fun _ => rfl⟩
  rw [meets_bind, meets_expectBitstream]
  refine ⟨fun accepted => ?_, fun _ => rfl⟩
  rw [meets_bind, meets_transport]
  refine ⟨accepted, fun _ _ _ => ?_, fun _ _ _ => rfl⟩
  rw [meets_bind, meets_modify, meets_step]
  exact setUp_scale trivial suits_of_routine setup _

/-- An operation hands over what suits the board, and leaves it with what it goes by. -/
theorem perform_suits (o : Operation) (setup : Setup) (b : Board) :
    Meets (.only (Suits setup b)) setup o.perform b () (fun _ b' _ => scale b' = scale b)
      fun _ b' _ => scale b' = scale b := by
  cases routine : o.isRoutine with
  | true =>
    have leaves : Leaves scale (Suits setup b) o.perform :=
      (perform_routineOn o routine).mono (fun c routine => suits_of_routine c routine.1) scale
    exact leaves setup b
  | false =>
    cases o
    case loadFpga image => exact loadFpga_suits image
    case storeFpga image => simp [Operation.perform, storeFpga]
    case storeFirmware image => simp [Operation.perform, storeFirmware]
    case createStream => simp [Operation.perform, createStream]
    case configureSync => simp [Operation.perform, configureSync, scale_withSync]
    all_goals cases routine

theorem session_suits (setup : Setup) (ops : List Operation) (b : Board) :
    (session setup ops b).Meets (.only (Suits setup b)) () fun b' _ => scale b' = scale b := by
  have step (o : Operation) (b' : Board) (_ : Unit) (same : scale b' = scale b) :
      Meets (.only (Suits setup b)) setup o.perform b' () (fun _ b'' _ => scale b'' = scale b)
        fun _ b'' _ => scale b'' = scale b := by
    rw [← suits_congr same, ← same]
    exact perform_suits o setup b'
  exact session_meets step ops rfl

end RadioBoard.Board
