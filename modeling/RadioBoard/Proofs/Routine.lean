import RadioBoard.Proofs.BringUp

/-!
What the operations have in common that neither provide an image nor start a stream.

Main statement: all but five operations are confined to routine calls, of which they name one channel at
most, and they leave the board as it is but for its synchronous streams. What is said of versions, images
and message sizes is therefore only a matter of the other five.
-/

namespace RadioBoard.Board

variable {α : Type} {n? : Option UInt8}

/-- A board apart from its synchronous streams. -/
def bare (b : Board) : Board := { b with rxSync := none, txSync := none }

theorem bare_withSync (b : Board) (h : Option Streaming.SyncHandle) (d : Direction) :
    (b.withSync h d).bare = b.bare := by
  cases d <;> rfl

theorem routineOn_of_moving {c : boardInterface.Call} (moving : Moving c) : RoutineOn n? c := by
  cases c with
  | inl c => cases moving
  | inr c =>
    cases c with
    | streaming c =>
      cases c with
      | transmit | receive => exact ⟨trivial, fun _ named => absurd named (Option.some_ne_none _).symm⟩
      | _ => cases moving
    | _ => cases moving

theorem setPortFor_routine (d : Direction) (enabled : Bool) (hz : UInt64) :
    Confined (RoutineOn n?) (setPortFor d enabled hz) := by
  intro setup b
  simp [setPortFor]

theorem selectBand_routine (d : Direction) (hz : UInt64) : Confined (RoutineOn n?) (selectBand d hz) := by
  refine .after _ (.bind ?_ fun register => .bind ?_ fun register => ?_)
  · intro setup b
    simp
  · intro setup b
    simp
  · refine .bind ((setPortFor_routine _ _ _).step _ _) fun _ => ?_
    intro setup b
    simp

theorem setFrequency_routine (channel : UInt8) (hz : UInt64) :
    Confined (RoutineOn n?) (setFrequency channel hz) := by
  refine .after _ ?_
  dsimp only
  have tuned : Confined (RoutineOn n?) (do
      transceiver "set_frequency" (.setLo (Direction.ofChannel channel) hz)
      step "set_frequency" "select_band" (selectBand (Direction.ofChannel channel) hz)) := by
    refine .bind ?_ fun _ => (selectBand_routine _ _).step _ _
    intro setup b
    simp
  cases inside : (frequencyRange (Direction.ofChannel channel)).contains hz.toInt64 with
  | true => exact tuned
  | false =>
    intro setup b
    simp

theorem setPort_routine (channel : UInt8) (name : String) : Confined (RoutineOn n?) (setPort channel name) := by
  refine .after _ ?_
  dsimp only
  cases Rfic.Port.ofName? (Direction.ofChannel channel) name with
  | none => exact fun _ _ => rfl
  | some id =>
    intro setup b
    simp

theorem stopSync_routine (d : Direction) : Leaves bare (RoutineOn n?) (stopSync d) := by
  intro setup b
  simp [bare_withSync]

theorem switchModule_routine (d : Direction) (on : Bool) (hz : UInt64) :
    Confined (RoutineOn n?) (switchModule d on hz) := by
  intro setup b
  simp [switchModule]

theorem enableModule_routine (channel : UInt8) (on : Bool) :
    Leaves bare (RoutineOn n?) (enableModule channel on) := by
  have switched (on : Bool) (hz : UInt64) :
      Leaves bare (RoutineOn n?) (switchModule (Direction.ofChannel channel) on hz) :=
    (switchModule_routine _ _ _).mono (fun _ => id) bare
  refine .after _ ?_
  cases on with
  | true =>
    have tuned : Confined (RoutineOn n?) (getFrequency channel) := by
      intro setup b
      simp [getFrequency]
    have routed (hz : UInt64) : Confined (RoutineOn n?) (setPortFor (Direction.ofChannel channel) true hz) :=
      setPortFor_routine _ _ _
    refine .bind ((tuned.mono (fun _ => id) bare).step _ _) fun hz => ?_
    exact .bind (((routed hz).mono (fun _ => id) bare).step _ _) fun _ => switched _ _
  | false => exact .bind (stopSync_routine _) fun _ => switched _ _

/-- An operation without images and without a stream to start makes routine calls only, and leaves all of
the board but its streams. -/
theorem perform_routineOn (o : Operation) (routine : o.isRoutine = true) :
    Leaves bare (RoutineOn o.driverChannel?) o.perform := by
  cases active : o.isActive with
  | false => exact (perform_quiet o active routine).mono (fun _ quiet => quiet.2) bare
  | true =>
    cases o
    case setFrequency channel hz => exact (setFrequency_routine channel hz).mono (fun _ => id) bare
    case setPort channel name => exact (setPort_routine channel name).mono (fun _ => id) bare
    case enableModule channel on => exact enableModule_routine channel on
    case transmit samples metadata timeoutMs =>
      exact (transmit_moving _ _ _).mono (fun _ => routineOn_of_moving) bare
    case receive size metadata timeoutMs =>
      exact (receive_moving _ _ _).mono (fun _ => routineOn_of_moving) bare
    case loadFpga | configureSync => cases routine
    all_goals cases active

end RadioBoard.Board
