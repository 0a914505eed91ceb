import RadioBoard.Proofs.Course
import RadioBoard.Proofs.Routing

/-!
Choosing a band where calls may fail.

The port of the transceiver is chosen first, the antenna switch is set last, and nothing is taken back. Main
statement: with collaborators like registers, any of whose calls may fail, a band that is chosen has its
switch and its port; where the choice fails, the front end is as before, and so is the port, unless the
call that failed is the write of the front end.
-/

namespace RadioBoard

open Function (update)

namespace Hardware

/-- Collaborators like registers whose calls may fail. A call that fails changes nothing. -/
def faltering : Contract boardInterface Hardware where
  allows _ _ := True
  answers w c x w' := contract.answers w c x w' ∨ (failure? c x).isSome ∧ w' = w

/-- What is seen of the collaborators behaves like registers as long as no call fails. -/
def Falters {σ : Type} (h : Handler boardInterface σ) (view : σ → Hardware) : Prop :=
  faltering.KeptBy h fun s w => w = view s

section Answers

variable (w w' : Hardware)

theorem faltering_transport_ok (c : Transport.Call) (reply : c.Reply) :
    faltering.answers w (.inl c) (.ok reply) w' ↔ w.transport c reply w' := by
  simp [faltering]

theorem faltering_transport_error (c : Transport.Call) (e : Error) :
    faltering.answers w (.inl c) (.error e) w' ↔ w' = w := by
  simp [faltering]

theorem faltering_rfic_ok (d : Rfic.Handle) (c : Rfic.Call) (reply : c.Reply) :
    faltering.answers w (.inr (.rfic d c)) (.ok reply) w' ↔ w.rfic c reply w' := by
  simp [faltering]

theorem faltering_rfic_error (d : Rfic.Handle) (c : Rfic.Call) (code : Int32) :
    faltering.answers w (.inr (.rfic d c)) (.error code) w' ↔ w' = w := by
  simp [faltering]

end Answers

end Hardware

namespace Board

section Rules

variable {setup : Setup} {b : Board} {w : Hardware} {trace : List (Event boardInterface)}
  {fail : Error → Board → Hardware × List (Event boardInterface) → Prop}

theorem meets_transport_faltering (operation : String) (c : Transport.Call) (detail : String)
    {ok : c.Reply → Board → Hardware × List (Event boardInterface) → Prop}
    (good : ∀ reply w', w.transport c reply w' → ok reply b (w', trace ++ [.called (.inl c) (.ok reply)]))
    (bad : ∀ e, fail e b (w, trace ++ [.called (.inl c) (.error e)])) :
    Meets (Hardware.faltering.both .tracing) setup (transport operation c detail) b (w, trace) ok fail := by
  rw [meets_transport]
  refine ⟨⟨trivial, trivial⟩, ?_, ?_⟩
  · rintro reply ⟨w', t⟩ ⟨answer, next⟩
    cases next
    exact good reply w' ((Hardware.faltering_transport_ok w w' c reply).mp answer)
  · rintro e ⟨w', t⟩ ⟨answer, next⟩
    cases next
    obtain rfl := (Hardware.faltering_transport_error w w' c e).mp answer
    exact bad e

theorem meets_rfic_faltering (d : Rfic.Handle) (c : Rfic.Call)
    {ok : c.Reply → Board → Hardware × List (Event boardInterface) → Prop}
    (good : ∀ reply w', w.rfic c reply w' → ok reply b (w', trace ++ [.called (.inr (.rfic d c)) (.ok reply)]))
    (bad : ∀ code, fail (.ofStatus code) b (w, trace ++ [.called (.inr (.rfic d c)) (.error code)])) :
    Meets (Hardware.faltering.both .tracing) setup (do throwIfStatus (← peer (.rfic d c))) b (w, trace)
      ok fail := by
  rw [meets_bind, meets_rfic]
  refine ⟨⟨trivial, trivial⟩, ?_, ?_⟩
  · rintro reply ⟨w', t⟩ ⟨answer, next⟩
    cases next
    exact good reply w' ((Hardware.faltering_rfic_ok w w' d c reply).mp answer)
  · rintro code ⟨w', t⟩ ⟨answer, next⟩
    cases next
    obtain rfl := (Hardware.faltering_rfic_error w w' d c code).mp answer
    exact bad code

end Rules

/-- A write of the front end that failed. -/
def refuses (value : UInt32) : Event boardInterface → Bool
  | .called (.inl (.writeFrontEnd written)) (.error _) => written == value
  | _ => false

/-- Choosing a band, call by call. -/
theorem selectBand_faltering (setup : Setup) {b : Board} (stage : .fpgaLoaded ≤ b.stage)
    (driver : b.rfic.isSome) (d : Direction) (hz : UInt64) (w : Hardware) :
    let path := SignalPath.inUse d (FrontEnd.isEnabled w.frontEnd d) hz
    let register := FrontEnd.withSwitch w.frontEnd d path.switch
    let ported := { w with port := update w.port d path.port }
    Meets (Hardware.faltering.both .tracing) setup (selectBand d hz) b (w, [])
      (fun _ b' t => b' = b ∧ t.1 = { ported with frontEnd := register })
      fun _ b' t => b' = b ∧ t.1 = if t.2.any (refuses register) then ported else w := by
  intro path register ported
  obtain ⟨handle, held⟩ := Option.isSome_iff_exists.mp driver
  rw [selectBand, meets_bind, meets_expect_of_le stage, meets_bind]
  apply meets_transport_faltering
  · rintro value w' ⟨rfl, rfl⟩
    dsimp only
    rw [meets_bind, meets_switchFor, meets_bind, meets_step, setPortFor, meets_bind,
      meets_expect_of_le stage, meets_bind, meets_pathInUse, meets_bind, meets_driver_of_some held, meets_step]
    apply meets_rfic_faltering
    · intro _ w'' chosen
      obtain rfl : w'' = ported := chosen
      apply meets_transport_faltering
      · intro _ w' written
        exact ⟨rfl, written⟩
      · intro e
        -- The one failure that leaves something behind: the port is chosen already.
        refine ⟨rfl, (if_pos ?_).symm⟩
        simp [refuses, register, path]
    · intro code
      exact ⟨rfl, rfl⟩
  · intro e
    exact ⟨rfl, rfl⟩

/-- A band that is chosen has its switch and its port. Where the choice fails, all is as before, except that
the port has been chosen if it is the front end that refused to be written. -/
theorem selectBand_outcome {σ : Type} {h : Handler boardInterface σ} {view : σ → Hardware}
    (falters : Hardware.Falters h view) (setup : Setup) {b : Board} (stage : .fpgaLoaded ≤ b.stage)
    (driver : b.rfic.isSome) (d : Direction) (hz : UInt64) (world : σ) :
    let run := ((selectBand d hz setup).run b).run h world
    let before := view world
    let path := SignalPath.inUse d (FrontEnd.isEnabled before.frontEnd d) hz
    let register := FrontEnd.withSwitch before.frontEnd d path.switch
    let ported := { before with port := update before.port d path.port }
    run.result.2 = b ∧
    (run.result.1 = .ok () → view run.state = { ported with frontEnd := register }) ∧
    ∀ e, run.result.1 = .error e →
      view run.state = if (calls run.events).any (refuses register) then ported else before := by
  intro run before path register ported
  obtain ⟨w, rfl, ended⟩ := (selectBand_faltering setup stage driver d hz before).traced falters rfl
  obtain ⟨_, result, same, chosen⟩ | ⟨_, result, same, left⟩ := ended
  · refine ⟨same, fun _ => chosen, fun e failed => ?_⟩
    cases (congrArg Prod.fst result).symm.trans failed
  · refine ⟨same, fun succeeded => ?_, fun _ _ => left⟩
    cases (congrArg Prod.fst result).symm.trans succeeded

/-- A bench with a front end that cannot be written. -/
def stuck : Handler boardInterface Bench
  | .inl (.writeFrontEnd _), world => (.error .io, world)
  | c, world => Bench.handler c world

theorem stuck_falters : Hardware.Falters stuck Bench.view := by
  rintro world _ c rfl
  by_cases write : ∃ value, c = .inl (.writeFrontEnd value)
  · obtain ⟨value, rfl⟩ := write
    exact ⟨world.view, .inr ⟨rfl, rfl⟩, rfl⟩
  · have works : stuck c world = Bench.handler c world := by
      unfold stuck
      split
      · exact absurd ⟨_, rfl⟩ write
      · rfl
    obtain ⟨w, answered, seen⟩ := Bench.isView world _ c rfl
    rw [works]
    exact ⟨w, .inl answered, seen⟩

/-- The low band for a receiver that is enabled, where the front end cannot be written. -/
theorem selectBand_outcome_bench :
    let board : Board := { stage := .fpgaLoaded, rfic := some ⟨1⟩ }
    let world : Bench := { Bench.configured with frontEnd := 2 }
    let run := ((selectBand .rx 2400000000 .plain).run board).run stuck world
    let path := SignalPath.inUse .rx (FrontEnd.isEnabled world.view.frontEnd .rx) 2400000000
    let register := FrontEnd.withSwitch world.view.frontEnd .rx path.switch
    .fpgaLoaded ≤ board.stage ∧ board.rfic.isSome = true ∧ run.result.1 = .error .io ∧
      (calls run.events).any (refuses register) = true ∧
      run.state.view = { world.view with port := update world.view.port .rx path.port } := by
  intro board world run path register
  have stage : .fpgaLoaded ≤ board.stage := by decide
  have failed : run.result.1 = .error .io := by decide +kernel
  have refused : (calls run.events).any (refuses register) = true := by decide +kernel
  have outcome := (selectBand_outcome stuck_falters .plain stage rfl .rx 2400000000 world).2.2 .io failed
  exact ⟨stage, rfl, failed, refused, outcome.trans (if_pos refused)⟩

/-- The receiver keeps the port of a band that was never switched to: the front end cannot be written, the
choice fails, and the port has changed. -/
theorem port_of_failed_selection :
    let board : Board := { stage := .fpgaLoaded, rfic := some ⟨1⟩ }
    let world : Bench := { Bench.configured with frontEnd := 2 }
    let run := ((selectBand .rx 2400000000 .plain).run board).run stuck world
    Hardware.Falters stuck Bench.view ∧ .fpgaLoaded ≤ board.stage ∧ board.rfic.isSome = true ∧
      run.result.1 = .error .io ∧ world.view.port .rx = 0 ∧ run.state.view.port .rx = 1 := by
  refine ⟨stuck_falters, ?_⟩
  decide +kernel

end Board
end RadioBoard
