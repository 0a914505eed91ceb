import RadioBoard.Proofs.FailStop
import RadioBoard.Proofs.StreamLifetime

/-!
What a board has to be ready for.

Main statements: an operation is refused exactly below the stage that it needs, with nothing done, and no
other refusal is its own; and a board at the last stage has a driver, whatever it was asked before and
whatever has failed, so that a missing driver is never the cause of an error.
-/

namespace RadioBoard.Board

open Contract

variable {σ : Type}

/-! Stages. -/

/-- Below the stage that it needs, an operation is refused before it does or looks at anything. From that
stage on it is refused only where a collaborator refuses. -/
theorem gated (h : Handler boardInterface σ) (setup : Setup) (world : σ) (o : Operation) (b : Board) :
    let run := (o.attempt setup b).run h world
    (∀ required, o.requires = some required → b.stage < required →
      run.result = (.error (.notReady required.name b.stage.name), b) ∧ run.state = world ∧
        calls run.events = []) ∧
    (Admits o b → ∀ required actual, run.result.1 = .error (.notReady required actual) →
      ∃ c x, .called c x ∈ run.events ∧ failure? c x = some (.notReady required actual)) := by
  intro run
  refine ⟨fun required needs below => run_of_lt needs below setup h world, ?_⟩
  intro admits required actual refused
  obtain ⟨_, ended⟩ := (perform_brings o b admits).run ⟨rfl, rfl⟩ setup h world
  obtain ⟨_, result, _⟩ | ⟨e, result, _, accounted⟩ := ended
  · exact absurd (result.symm.trans refused) nofun
  obtain rfl : e = .notReady required actual := Except.error.inj (result.symm.trans refused)
  obtain failed | ⟨_, own, _⟩ := accounted
  · exact Course.exists_failure failed
  · exact absurd rfl (own required actual)

/-- Before the last stage even a denominator of zero is not looked at. -/
theorem gated_bench :
    let rate : RationalRate := ⟨1000000, 0, 0⟩
    let early : Board := { stage := .fpgaLoaded }
    let last : Board := { stage := .initialized, rfic := some ⟨1⟩ }
    let before := ((Operation.setRationalSampleRate 0 rate).attempt .plain early).run Bench.handler .configured
    let run := ((Operation.setRationalSampleRate 0 rate).attempt .plain last).run Bench.handler .configured
    (before.result = (.error (.notReady "Initialized" "FPGA Loaded"), early) ∧ before.state = .configured ∧
      calls before.events = []) ∧
    ∀ required actual, run.result.1 = .error (.notReady required actual) →
      ∃ c x, .called c x ∈ run.events ∧ failure? c x = some (.notReady required actual) :=
  ⟨(gated Bench.handler .plain .configured (.setRationalSampleRate 0 ⟨1000000, 0, 0⟩) _).1 .initialized rfl
      (by decide),
    (gated Bench.handler .plain .configured (.setRationalSampleRate 0 ⟨1000000, 0, 0⟩) _).2
      (admits_iff.mpr (le_of_initialized rfl _))⟩

/-! The driver. -/

/-- An operation leaves a board with a driver if it finds it with one. -/
theorem ready_of_attempt {b : Board} (ready : b.Ready) (o : Operation) (setup : Setup)
    (h : Handler boardInterface σ) (world : σ) : ((o.attempt setup b).run h world).result.2.Ready := by
  by_cases admits : Admits o b
  · obtain ⟨_, ended⟩ := (perform_brings o b admits).run ⟨rfl, rfl⟩ setup h world
    obtain ⟨_, _, kept, _⟩ | ⟨_, _, ended, _⟩ := ended
    · exact kept ready
    · exact ended.ready ready
  · obtain ⟨required, needs, below⟩ := exists_lt_of_not_admits admits
    rw [(run_of_lt needs below setup h world).1]
    exact ready

theorem ready_of_session {b : Board} (ready : b.Ready) (ops : List Operation) (setup : Setup)
    (h : Handler boardInterface σ) (world : σ) : ((session setup ops b).run h world).result.Ready := by
  induction ops generalizing b world with
  | nil => exact ready
  | cons o ops ih =>
    rw [session, Program.bind_eq, Program.run_bind]
    exact ih (ready_of_attempt ready o setup h world) _

theorem ready_of_start {setup : Setup} {h : Handler boardInterface σ} {world : σ} {b : Board}
    (opened : ((start setup).run h world).result = .ok b) : b.Ready := by
  obtain ⟨up, _, result⟩ | ⟨e, _, _, result⟩ := run_start setup h world
  · obtain rfl := Except.ok.inj (result.symm.trans opened)
    obtain ⟨_, ended⟩ := bringUp_brings.run (b := {}) nofun setup h world
    obtain ⟨_, _, ready, _⟩ | ⟨e, failed, _⟩ := ended
    · exact ready
    · exact absurd (up.symm.trans failed) nofun
  · exact absurd (result.symm.trans opened) nofun

/-- On a board with a driver, an unexpected error was brought about by an answer. -/
theorem unexpected_of_attempt {b : Board} (ready : b.Ready) {o : Operation} {setup : Setup}
    {h : Handler boardInterface σ} {world : σ}
    (unexpected : ((o.attempt setup b).run h world).result.1 = .error .unexpected) :
    ∃ c x, .called c x ∈ ((o.attempt setup b).run h world).events ∧
      (failure? c x = some .unexpected ∨ o.unlisted c x = true) := by
  by_cases admits : Admits o b
  · obtain ⟨_, ended⟩ := (perform_brings o b admits).run ⟨rfl, rfl⟩ setup h world
    obtain ⟨_, result, _⟩ | ⟨e, result, ended, accounted⟩ := ended
    · exact absurd (result.symm.trans unexpected) nofun
    obtain rfl : e = .unexpected := Except.error.inj (result.symm.trans unexpected)
    obtain failed | ⟨_, _, missing⟩ := accounted
    · obtain ⟨c, x, made, fails⟩ := Course.exists_failure failed
      exact ⟨c, x, made, .inl fails⟩
    obtain lost | strange := missing rfl
    · exact absurd (ended.ready ready) lost
    · obtain ⟨c, x, made, odd⟩ := Course.exists_odd strange
      exact ⟨c, x, made, .inr odd⟩
  · obtain ⟨required, needs, below⟩ := exists_lt_of_not_admits admits
    rw [(run_of_lt needs below setup h world).1] at unexpected
    cases unexpected

/-- So it is while a board is opened, where the speed of the bus may be unknown. -/
theorem unexpected_of_start {setup : Setup} {h : Handler boardInterface σ} {world : σ}
    (unexpected : ((start setup).run h world).result = .error .unexpected) :
    ∃ c x, .called c x ∈ ((start setup).run h world).events ∧
      (failure? c x = some .unexpected ∨ unknownSpeed c x = true) := by
  obtain ⟨_, _, result⟩ | ⟨e, up, events, result⟩ := run_start setup h world
  · exact absurd (result.symm.trans unexpected) nofun
  obtain rfl : e = .unexpected := Except.error.inj (result.symm.trans unexpected)
  obtain ⟨_, ended⟩ := bringUp_brings.run (b := {}) nofun setup h world
  obtain ⟨_, done, _⟩ | ⟨e, failed, early, accounted⟩ := ended
  · exact absurd (done.symm.trans up) nofun
  obtain rfl : e = .unexpected := Except.error.inj (failed.symm.trans up)
  rw [events]
  obtain failed | ⟨_, _, missing⟩ := accounted
  · obtain ⟨c, x, made, fails⟩ := Course.exists_failure failed
    exact ⟨c, x, List.mem_append_left _ made, .inl fails⟩
  obtain lost | strange := missing rfl
  · exact absurd (fun last => absurd last early) lost
  · obtain ⟨c, x, made, odd⟩ := Course.exists_odd strange
    exact ⟨c, x, List.mem_append_left _ made, .inr odd⟩

/-- Whatever is asked of a board that was opened, and whatever fails on the way: at the last stage it has a
driver. So an unexpected error always comes from a collaborator, which failed with it or gave an answer that
is in no table, and never from a driver that is missing. -/
theorem session_ready (h : Handler boardInterface σ) (setup : Setup) (world : σ) :
    let begun := (start setup).run h world
    (begun.result = .error .unexpected →
      ∃ c x, .called c x ∈ begun.events ∧ (failure? c x = some .unexpected ∨ unknownSpeed c x = true)) ∧
    ∀ b, begun.result = .ok b → ∀ ops : List Operation,
      let final := (session setup ops b).run h begun.state
      (final.result.stage = .initialized → final.result.rfic ≠ none) ∧
      ∀ o : Operation,
        let next := (o.attempt setup final.result).run h final.state
        next.result.1 = .error .unexpected →
          ∃ c x, .called c x ∈ next.events ∧ (failure? c x = some .unexpected ∨ o.unlisted c x = true) := by
  refine ⟨unexpected_of_start, ?_⟩
  intro b opened ops final
  have ready : final.result.Ready := ready_of_session (ready_of_start opened) ops setup h _
  exact ⟨ready, fun o => unexpected_of_attempt ready⟩

/-- A bus of unknown speed, and a multiplexer that was set to nothing known. -/
theorem session_ready_bench :
    let slow := (start .plain).run Bench.handler { Bench.configured with speed := .unknown }
    let begun := (start .plain).run Bench.handler .configured
    let final := (session .plain [.writeGpio 0x300] (onBench .plain)).run Bench.handler begun.state
    let next := (Operation.rxSource.attempt .plain final.result).run Bench.handler final.state
    (∃ c x, .called c x ∈ slow.events ∧ (failure? c x = some .unexpected ∨ unknownSpeed c x = true)) ∧
    final.result.rfic ≠ none ∧
    ∃ c x, .called c x ∈ next.events ∧
      (failure? c x = some .unexpected ∨ Operation.rxSource.unlisted c x = true) := by
  intro slow begun final next
  have opened : begun.result = .ok (onBench .plain) := rfl
  have ready := (session_ready Bench.handler .plain .configured).2 _ opened [.writeGpio 0x300]
  exact ⟨(session_ready Bench.handler .plain _).1 rfl, ready.1 rfl, ready.2 .rxSource rfl⟩

end RadioBoard.Board
