import RadioBoard.Proofs.Hardware
import RadioBoard.Proofs.Trading

/-!
Fail-stop.

What is shown of an action is read off the events of its runs. Main statement: a call that fails is the last
one of its operation and its error is that of the operation, which leaves the board at the last stage only
if it found it there and the FPGA was left alone. Opening a board stops in the same way, but for the driver,
which it releases.
-/

namespace RadioBoard

/-! What the events of a run tell. -/

namespace Course

open Contract

variable {odd : (c : boardInterface.Call) → boardInterface.Answer c → Bool}
  {C : boardInterface.Call → Prop} {s : Course} {events : List (Event boardInterface)}

theorem calls_eq_nil_of_failed (along : Along (after odd) (fun t c => t.failed = none ∧ C c) s events)
    {e : Error} (failed : s.failed = some e) : calls events = [] := by
  induction events with
  | nil => rfl
  | cons event events ih =>
    cases event with
    | said n => exact ih along
    | called c x =>
      rw [along.1.1] at failed
      cases failed

/-- A call that failed is the last one, and its error is noted. -/
theorem last_of_failed (along : Along (after odd) (fun t c => t.failed = none ∧ C c) s events) {k : Nat}
    {c : boardInterface.Call} {x : boardInterface.Answer c} (here : events[k]? = some (.called c x)) {e : Error}
    (fails : failure? c x = some e) :
    calls (events.drop (k + 1)) = [] ∧ (record (after odd) s events).failed = some e := by
  obtain ⟨⟨clear, _⟩, rest⟩ := along.at here
  have failed : ((record (after odd) s (events.take k)).after odd c x).failed = some e := by
    rw [after_failed, clear, fails]
    rfl
  have last := calls_eq_nil_of_failed rest failed
  refine ⟨last, ?_⟩
  rw [split_at here, record_append, record, record_of_calls_eq_nil _ last]
  exact failed

theorem exists_failure {e : Error} (failed : (record (after odd) {} events).failed = some e) :
    ∃ c x, .called c x ∈ events ∧ failure? c x = some e := by
  obtain never | ⟨t, c, x, made, clear, now⟩ := exists_of_record (Q := fun t : Course => t.failed = some e) failed
  · cases never
  · refine ⟨c, x, made, ?_⟩
    rw [after_failed] at now
    cases before : t.failed with
    | none =>
      rw [before] at now
      exact now
    | some e' =>
      rw [before] at now clear
      exact absurd now clear

theorem exists_odd (strange : (record (after odd) {} events).strange = true) :
    ∃ c x, .called c x ∈ events ∧ odd c x = true := by
  obtain never | ⟨t, c, x, made, clear, now⟩ := exists_of_record (Q := fun t : Course => t.strange = true) strange
  · cases never
  · refine ⟨c, x, made, ?_⟩
    simpa [clear] using now

/-- The FPGA was left alone by each call, if it was left alone by all. -/
theorem configures_eq_false (clean : (record (after odd) s events).configured = false)
    {c : boardInterface.Call} {x : boardInterface.Answer c} (made : .called c x ∈ events) :
    configures c x = false := by
  obtain ⟨before, rest, rfl⟩ := List.append_of_mem made
  rw [record_append, record] at clean
  obtain now | ⟨t, c', x', _, was, is⟩ := exists_of_record (Q := fun t : Course => t.configured = false) clean
  · simp only [after_configured, Bool.or_eq_false_iff] at now
    exact now.2
  · simp only [after_configured, Bool.or_eq_false_iff] at is
    exact absurd is.1 was

end Course

namespace Board

open Contract

variable {α σ : Type} {odd : (c : boardInterface.Call) → boardInterface.Answer c → Bool}
  {P Q R : Board → Bool → Prop}

theorem Brings.run {act : Action α} (brings : Brings odd P Q R act) {b : Board} (holds : P b false)
    (setup : Setup) (h : Handler boardInterface σ) (world : σ) :
    let run := ((act setup).run b).run h world
    let course := record (Course.after odd) {} run.events
    Along (Course.after odd) (fun s _ => s.failed = none ∧ True) {} run.events ∧
      ((∃ a, run.result.1 = .ok a ∧ Q run.result.2 course.configured ∧ course.failed = none) ∨
        ∃ e, run.result.1 = .error e ∧ R run.result.2 course.configured ∧
          Accounted run.result.2 e course) := by
  obtain ⟨along, post⟩ := Program.Meets.recorded (brings setup b {} holds rfl) h world
  refine ⟨along, ?_⟩
  generalize (((act setup).run b).run h world).result = result at post ⊢
  rcases result with ⟨e | a, b'⟩
  · exact .inr ⟨e, rfl, post⟩
  · exact .inl ⟨a, rfl, post⟩

/-- What a board gives back at its end. -/
def closing (b : Board) : List (Event boardInterface) :=
  ((b.sync .rx).toList.map fun x => .called (.inr (.stopSync x)) ()) ++
    ((b.sync .tx).toList.map fun x => .called (.inr (.stopSync x)) ()) ++
    b.rfic.toList.map fun d => .called (.inr (.releaseRfic d)) ()

theorem run_release (setup : Setup) (b : Board) (h : Handler boardInterface σ) (world : σ) :
    (((release setup).run b).run h world).events = b.closing := by
  obtain ⟨_, _, _, _, _, _, rfic, rx, tx⟩ := b
  cases rx <;> cases tx <;> cases rfic <;> rfl

theorem closing_calls_do_not_fail {b : Board} {c : boardInterface.Call} {x : boardInterface.Answer c}
    (made : .called c x ∈ b.closing) : failure? c x = none := by
  simp only [closing, List.mem_append, List.mem_map] at made
  obtain (⟨y, _, same⟩ | ⟨y, _, same⟩) | ⟨d, _, same⟩ := made
  all_goals
    cases same
    rfl

theorem calls_closing_of_idle {b : Board} (idle : streams b = (none, none)) :
    calls b.closing = b.rfic.toList.map fun d => .called (.inr (.releaseRfic d)) () := by
  obtain ⟨_, _, _, _, _, _, rfic, rx, tx⟩ := b
  cases idle
  cases rfic <;> rfl

/-- Opening a board is a run of the way up, and the end of the board if that failed. -/
theorem run_start (setup : Setup) (h : Handler boardInterface σ) (world : σ) :
    let up := ((bringUp setup).run {}).run h world
    let run := (start setup).run h world
    (up.result.1 = .ok () ∧ run.events = up.events ∧ run.result = .ok up.result.2) ∨
      ∃ e, up.result.1 = .error e ∧ run.events = up.events ++ up.result.2.closing ∧ run.result = .error e := by
  have both : start setup = ((bringUp setup).run {}).bind _ := rfl
  simp only [both, Program.run_bind]
  generalize ((bringUp setup).run {}).run h world = up
  rcases up with ⟨events, ⟨e | _, b⟩, state⟩
  · right
    refine ⟨e, rfl, ?_, ?_⟩
    · simp only [Program.bind_eq, Program.run_bind, run_release, Program.pure_eq, Program.run, List.append_nil]
    · simp only [Program.bind_eq, Program.run_bind, Program.pure_eq, Program.run]
  · exact .inl ⟨rfl, List.append_nil _, rfl⟩

theorem streams_of_bringUp (setup : Setup) (h : Handler boardInterface σ) (world : σ) :
    streams (((bringUp setup).run {}).run h world).result.2 = (none, none) := by
  have kept : (Contract.only Upward).KeptBy h fun _ _ => True := fun _ _ _ _ => ⟨(), trivial, trivial⟩
  obtain ⟨_, _, _, post⟩ := Meets.run (t := world) kept trivial (bringUp_leaves setup {})
  obtain ⟨_, _, same⟩ | ⟨_, _, same⟩ := post
  · exact same
  · exact same

variable {k : Nat} {c : boardInterface.Call} {x : boardInterface.Answer c} {e : Error}

/-- An action that stops at the first call that fails ends with its error. -/
theorem Brings.stops {act : Action α} (brings : Brings odd P Q R act) {b : Board} (holds : P b false)
    (setup : Setup) (h : Handler boardInterface σ) (world : σ) :
    let run := ((act setup).run b).run h world
    run.events[k]? = some (.called c x) → failure? c x = some e →
      calls (run.events.drop (k + 1)) = [] ∧ run.result.1 = .error e ∧
        R run.result.2 (record (Course.after odd) {} run.events).configured := by
  intro run here fails
  obtain ⟨along, ended⟩ := brings.run holds setup h world
  obtain ⟨last, failed⟩ := Course.last_of_failed along here fails
  refine ⟨last, ?_⟩
  obtain ⟨a, _, _, clear⟩ | ⟨e', result, final, noted | ⟨clear, _⟩⟩ := ended
  · exact absurd (clear.symm.trans failed) nofun
  · obtain rfl : e' = e := Option.some.inj (noted.symm.trans failed)
    exact ⟨result, final⟩
  · exact absurd (clear.symm.trans failed) nofun

/-- A call that fails is the last one of its operation, and its error is that of the operation. The last
stage is only kept, and only if the FPGA was not configured before. The same holds for the opening of a
board, up to the release of its driver. -/
theorem fail_stop (h : Handler boardInterface σ) (setup : Setup) (world : σ) :
    (∀ (o : Operation) (b : Board) k c x e,
      let run := (o.attempt setup b).run h world
      run.events[k]? = some (.called c x) → failure? c x = some e →
        calls (run.events.drop (k + 1)) = [] ∧ run.result.1 = .error e ∧
          (run.result.2.stage = .initialized → b.stage = .initialized ∧
            ∀ image, .called (.inl (.loadFpga image)) (.ok ()) ∉ run.events.take k)) ∧
    ∀ k c x e,
      let run := (start setup).run h world
      run.events[k]? = some (.called c x) → failure? c x = some e →
        (∃ driver : Option Rfic.Handle, calls (run.events.drop (k + 1)) =
          driver.toList.map fun d => .called (.inr (.releaseRfic d)) ()) ∧ run.result = .error e := by
  constructor
  · intro o b k c x e run here fails
    by_cases admits : Admits o b
    · obtain ⟨last, result, final⟩ := (perform_brings o b admits).stops ⟨rfl, rfl⟩ setup h world here fails
      refine ⟨last, result, fun initialized => ?_⟩
      obtain ⟨before, clean⟩ := final.stage initialized
      refine ⟨before, fun image made => ?_⟩
      exact absurd (Course.configures_eq_false clean (List.mem_of_mem_take made)) nofun
    · obtain ⟨required, needs, below⟩ := exists_lt_of_not_admits admits
      have made : .called c x ∈ calls run.events := mem_calls (List.mem_of_getElem? here)
      rw [(run_of_lt needs below setup h world).2.2] at made
      cases made
  · intro k c x e run here fails
    have stops := bringUp_brings.stops (b := {}) (k := k) (x := x) (e := e) nofun setup h world
    obtain ⟨up, events, _⟩ | ⟨e', up, events, result⟩ := run_start setup h world
    · rw [show run.events = _ from events] at here
      obtain ⟨_, failed, _⟩ := stops here fails
      exact absurd (up.symm.trans failed) nofun
    · rw [show run.events = _ from events] at here ⊢
      obtain within | beyond := Nat.lt_or_ge k (((bringUp setup).run {}).run h world).events.length
      · rw [List.getElem?_append_left within] at here
        obtain ⟨last, failed, _⟩ := stops here fails
        obtain rfl : e' = e := Except.error.inj (up.symm.trans failed)
        refine ⟨⟨(((bringUp setup).run {}).run h world).result.2.rfic, ?_⟩, result⟩
        rw [List.drop_append_of_le_length within, calls_append, last]
        exact calls_closing_of_idle (streams_of_bringUp setup h world)
      · rw [List.getElem?_append_right beyond] at here
        have none := closing_calls_do_not_fail (List.mem_of_getElem? here)
        exact absurd (none.symm.trans fails) nofun

/-- A bench with a front end that cannot be read. -/
def blind : Handler boardInterface Bench
  | .inl .readFrontEnd, world => (.error .io, world)
  | c, world => Bench.handler c world

/-- Disabling a direction, and opening a board: the driver that was started is released again. -/
theorem fail_stop_blind :
    let board : Board := { stage := .initialized, rfic := some ⟨1⟩, rxSync := some ⟨2⟩ }
    let disabled := ((Operation.enableModule 0 false).attempt .plain board).run blind .configured
    let opened := (start .plain).run blind .configured
    (calls (disabled.events.drop 2) = [] ∧ disabled.result.1 = .error .io ∧
      (disabled.result.2.stage = .initialized → board.stage = .initialized ∧
        ∀ image, .called (.inl (.loadFpga image)) (.ok ()) ∉ disabled.events.take 1)) ∧
    (∃ driver : Option Rfic.Handle, calls (opened.events.drop 16) =
      driver.toList.map fun d => .called (.inr (.releaseRfic d)) ()) ∧ opened.result = .error .io := by
  intro board disabled opened
  have both := fail_stop blind .plain .configured
  have unread : failure? (.inl .readFrontEnd) (.error .io) = some .io := rfl
  exact ⟨both.1 _ board 1 (.inl .readFrontEnd) (.error .io) .io rfl unread,
    both.2 15 (.inl .readFrontEnd) (.error .io) .io rfl unread⟩

end Board
end RadioBoard
