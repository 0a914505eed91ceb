import RadioBoard.Proofs.Course
import RadioBoard.Proofs.Tuning

/-!
The oscillators stay within the ranges of their directions.

A frequency outside of its range is refused, and a driver that starts tunes to the configuration. Main
statement: if the configured frequencies are within their ranges, so are those of every board at the last
stage, whatever was asked of it before.
-/

namespace RadioBoard

/-- Both oscillators are tuned to what can be asked of them. -/
def Hardware.InRange (w : Hardware) : Prop :=
  ∀ d, (Board.frequencyRange d).contains (w.lo d).toInt64 = true

/-- The board starts with frequencies that could also be asked for. -/
def Setup.InRange (setup : Setup) : Prop :=
  ∀ d, (Board.frequencyRange d).contains (setup.config.rfic.loHz d).toInt64 = true

namespace Board

variable {setup : Setup} {b : Board} {w : Hardware}

theorem inRange_hardware {t : Tuning} (accepted : t.Accepted b) (h : w.InRange) :
    (t.hardware w).InRange := by
  cases t with
  | frequency channel hz =>
    intro d
    by_cases own : d = Direction.ofChannel channel
    · subst own
      simpa [Tuning.hardware] using accepted.1
    · simpa [Tuning.hardware, own] using h d
  | enable channel on =>
    cases on with
    | true => exact h
    | false => exact h

/-- At the last stage the oscillators are in range. -/
def Tuned (b : Board) (w : Hardware) : Prop := b.stage = .initialized → w.InRange

theorem tuning_tuned (h : Tuned b w) (t : Tuning) :
    Meets Hardware.contract setup t.operation.perform b w (fun _ => Tuned) fun _ => Tuned := by
  by_cases last : b.stage = .initialized
  · apply (tuning_meets last t).mono
    · intro _ b' w' post _
      have hardware : w' = t.hardware w := congrArg Prod.snd post.2
      rw [hardware]
      exact inRange_hardware post.1 (h last)
    · intro _ b' w' post
      obtain ⟨_, rfl, rfl⟩ := post
      exact h
  · have needs : t.operation.requires = some .initialized := by cases t <;> rfl
    obtain ⟨act, guarded⟩ := perform_of_requires needs
    rw [guarded, meets_bind, meets_expect_initialized]
    exact ⟨fun reached => absurd reached last, fun _ => h⟩

theorem setPort_tuned (h : Tuned b w) (channel : UInt8) (name : String) :
    Meets Hardware.contract setup (setPort channel name) b w (fun _ => Tuned) fun _ => Tuned := by
  rw [setPort, meets_bind, meets_expect]
  refine ⟨fun _ => ?_, fun _ => h⟩
  dsimp only
  cases Rfic.Port.ofName? (Direction.ofChannel channel) name with
  | none => exact h
  | some id =>
    cases driver : b.rfic with
    | none =>
      rw [meets_transceiver_of_none driver]
      exact h
    | some handle =>
      rw [Hardware.meets_setPort (by rw [driver]; rfl)]
      exact h

theorem configureSync_tuned (h : Tuned b w) (layout : Layout) (format : SampleFormat)
    (buffers bufferSize transfers : UInt32) (timeoutMs : Nat) :
    Meets Hardware.contract setup
      (configureSync layout format buffers bufferSize transfers timeoutMs) b w
      (fun _ => Tuned) fun _ => Tuned := by
  have stopped : Tuned (b.withSync none layout.direction) w := by
    rw [Tuned, (withSync_keeps b none layout.direction).1]
    exact h
  rw [configureSync, meets_bind, meets_expect]
  refine ⟨fun _ => ?_, fun _ => h⟩
  dsimp only
  rw [meets_bind, meets_get, meets_bind, meets_stopSync_hardware, meets_bind, meets_streaming]
  refine ⟨trivial, ?_, ?_⟩
  · intro handle t answer
    rw [Hardware.answers_streaming_ok] at answer
    subst answer
    rw [meets_modify, Tuned, (withSync_keeps _ (some handle) layout.direction).1]
    exact stopped
  · intro e t answer
    exact absurd answer (Hardware.answers_streaming_error _ _ _ _)

theorem Fresh.tuned (fresh : Fresh setup b w) (configured : setup.InRange) : Tuned b w := by
  intro _ d
  rw [fresh.lo]
  exact configured d

theorem loadFpga_tuned (configured : setup.InRange) (h : Tuned b w) (image : ByteArray) :
    Meets Hardware.contract setup (loadFpga image) b w (fun _ => Tuned) fun _ => Tuned := by
  rw [loadFpga, meets_bind, meets_expect]
  refine ⟨fun _ => ?_, fun _ => h⟩
  rw [meets_bind, meets_expectBitstream]
  refine ⟨fun _ => ?_, fun _ => h⟩
  rw [meets_bind, Hardware.meets_transport]
  intro _ t _
  rw [meets_bind, meets_modify, meets_step]
  apply (setUp_meets _ _ rfl).mono
  · intro _ b' t fresh
    exact fresh.tuned configured
  · intro _ b' t post last
    rw [post.1] at last
    exact absurd last (by decide)

theorem perform_tuned (configured : setup.InRange) (o : Operation) (h : Tuned b w) :
    Meets Hardware.contract setup o.perform b w (fun _ => Tuned) fun _ => Tuned := by
  cases o
  case setFrequency channel hz => exact tuning_tuned h (.frequency channel hz)
  case enableModule channel on => exact tuning_tuned h (.enable channel on)
  case setPort channel name => exact setPort_tuned h channel name
  case loadFpga image => exact loadFpga_tuned configured h image
  case configureSync layout format buffers bufferSize transfers timeoutMs =>
    exact configureSync_tuned h layout format buffers bufferSize transfers timeoutMs
  -- What is left tunes nothing and does not change the stage.
  all_goals
    apply (perform_still _ rfl).imp
    intro b' t post last
    obtain ⟨rfl, still⟩ := post
    intro d
    rw [still.lo]
    exact h last d

/-- Whatever was asked of a board that was opened with frequencies in range. -/
theorem session_tuned {σ : Type} {h : Handler boardInterface σ} {view : σ → Hardware}
    (like : Hardware.IsView h view) (configured : setup.InRange) (world : σ) {b : Board}
    (opened : ((start setup).run h world).result = .ok b) (ops : List Operation) :
    let final := (session setup ops b).run h ((start setup).run h world).state
    Tuned final.result (view final.state) := by
  intro final
  obtain ⟨w, _, fresh, same⟩ := Program.Meets.run like (t := world) rfl (start_meets (view world))
  have begun : Tuned b w := fun last => (fresh b opened last).tuned configured last
  obtain ⟨w', _, tuned, same'⟩ := Program.Meets.run like same
    (session_meets (fun o _ _ => perform_tuned configured o) ops begun)
  rwa [same'] at tuned

end Board
end RadioBoard
