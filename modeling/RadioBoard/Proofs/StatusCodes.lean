import Mathlib.Algebra.Order.Group.Unbundled.Int
import RadioBoard.Proofs.FailStop

/-!
Status codes of the transceiver driver.

A code stands for a cause by its magnitude. Main statement: an operation in whose run the driver fails ends
with the cause that the magnitude of the code stands for, and so does the opening of a board. The lowest code
is the only one whose absolute value is no code: taking it overflows, and where overflows are checked the
program ends there.
-/

namespace RadioBoard

namespace Error

/-- The cause that a magnitude stands for. -/
def cause : Int → Error
  | 5 => io
  | 11 => wouldBlock
  | 12 => outOfMemory
  | 14 => unexpected
  | 19 => noDevice
  | 22 => invalid
  | 110 => timeout
  | _ => unexpected

/-- The magnitudes with a cause of their own. -/
def mapped : List Int := [5, 11, 12, 14, 19, 22, 110]

theorem cause_of_unmapped {magnitude : Int} (unmapped : magnitude ∉ mapped) : cause magnitude = unexpected := by
  simp only [mapped, List.mem_cons, List.not_mem_nil, or_false, not_or] at unmapped
  unfold cause
  split <;> simp_all

/-! Absolute values. -/

theorem abs_minValue : Int32.minValue.abs = Int32.minValue := by decide

/-- The absolute value of every other code is that of the number it stands for. -/
theorem abs_of_ne {code : Int32} (other : code ≠ Int32.minValue) : code.abs.toInt = |code.toInt| := by
  have word : code.toBitVec ≠ BitVec.intMin 32 := fun same => other (Int32.toBitVec_inj.mp same)
  have magnitude := BitVec.toInt_abs_eq_natAbs_of_ne_intMin word
  rw [← Int32.toBitVec_abs, Int.natCast_natAbs] at magnitude
  exact magnitude

/-- A code is translated by its absolute value as a code. -/
theorem ofStatus_eq_abs (code : Int32) : ofStatus code = cause code.abs.toInt := rfl

/-- The magnitude of a code is all that its cause depends on. The lowest code comes out of the overflow as it
was, which is as unmapped as its magnitude. -/
theorem ofStatus_eq_cause (code : Int32) : ofStatus code = cause |code.toInt| := by
  rw [ofStatus_eq_abs]
  by_cases lowest : code = Int32.minValue
  · subst lowest
    rw [abs_minValue, cause_of_unmapped (by decide), cause_of_unmapped (by decide)]
  · rw [abs_of_ne lowest]

/-- Where overflows are checked, the lowest code is the only one without a cause. -/
theorem ofStatus?_eq (code : Int32) :
    ofStatus? code = if code = Int32.minValue then none else some (cause |code.toInt|) := by
  by_cases lowest : code = Int32.minValue
  · subst lowest
    decide
  · have exact := abs_of_ne lowest
    rw [← Int.natCast_natAbs] at exact
    rw [if_neg lowest, ofStatus?, if_pos exact, ofStatus_eq_cause]

end Error

namespace Board

variable {σ : Type} {c : boardInterface.Call} {x : boardInterface.Answer c} {code : Int32} {e : Error}

/-- The status code that a call to the transceiver driver has failed with. -/
def status? : (c : boardInterface.Call) → boardInterface.Answer c → Option Int32
  | .inr (.startRfic _), .error code => some code
  | .inr (.rfic _ _), .error code => some code
  | _, _ => none

theorem failure?_of_status (status : status? c x = some code) : failure? c x = some (.ofStatus code) := by
  unfold status? at status
  split at status
  · cases status
    rfl
  · cases status
    rfl
  · cases status

section Failures

variable (h : Handler boardInterface σ) (setup : Setup) (world : σ)

/-- The error of a call that fails is that of its operation. -/
theorem attempt_of_failure (o : Operation) (b : Board) (fails : failure? c x = some e) :
    let run := (o.attempt setup b).run h world
    .called c x ∈ run.events → run.result.1 = .error e := by
  intro run made
  by_cases admits : Admits o b
  · obtain ⟨k, here⟩ := List.getElem?_of_mem made
    obtain ⟨_, result, _⟩ := (perform_brings o b admits).stops ⟨rfl, rfl⟩ setup h world here fails
    exact result
  · obtain ⟨required, needs, below⟩ := exists_lt_of_not_admits admits
    have called : .called c x ∈ calls run.events := mem_calls made
    rw [(run_of_lt needs below setup h world).2.2] at called
    cases called

theorem start_of_failure (fails : failure? c x = some e) :
    let run := (start setup).run h world
    .called c x ∈ run.events → run.result = .error e := by
  intro run made
  have stops (within : .called c x ∈ (((bringUp setup).run {}).run h world).events) :
      (((bringUp setup).run {}).run h world).result.1 = .error e := by
    obtain ⟨k, here⟩ := List.getElem?_of_mem within
    obtain ⟨_, result, _⟩ := bringUp_brings.stops (b := {}) nofun setup h world here fails
    exact result
  obtain ⟨up, events, _⟩ | ⟨e', up, events, result⟩ := run_start setup h world
  · rw [show run.events = _ from events] at made
    exact absurd (up.symm.trans (stops made)) nofun
  · rw [show run.events = _ from events, List.mem_append] at made
    obtain within | closing := made
    · obtain rfl : e' = e := Except.error.inj (up.symm.trans (stops within))
      exact result
    · have none := closing_calls_do_not_fail closing
      exact absurd (none.symm.trans fails) nofun

end Failures

/-- Each operation in whose run the driver fails ends with the cause behind the magnitude of the code, and so
does the opening of a board. Magnitudes without a cause of their own are unexpected. With the lowest code this
is so because its absolute value wraps; where overflows are checked, it is the only one without a cause. -/
theorem status_translated (h : Handler boardInterface σ) (setup : Setup) (world : σ) :
    (∀ (o : Operation) (b : Board) c x code, status? c x = some code →
      let run := (o.attempt setup b).run h world
      .called c x ∈ run.events → run.result.1 = .error (.cause |code.toInt|)) ∧
    (∀ c x code, status? c x = some code →
      let run := (start setup).run h world
      .called c x ∈ run.events → run.result = .error (.cause |code.toInt|)) ∧
    (∀ code : Int32, Error.ofStatus code = .cause code.abs.toInt ∧ Error.ofStatus code = .cause |code.toInt|) ∧
    (∀ magnitude ∉ Error.mapped, Error.cause magnitude = .unexpected) ∧
    ∀ code, Error.ofStatus? code = if code = Int32.minValue then none else some (.cause |code.toInt|) := by
  have fails {c : boardInterface.Call} {x : boardInterface.Answer c} {code : Int32}
      (status : status? c x = some code) : failure? c x = some (.cause |code.toInt|) := by
    rw [← Error.ofStatus_eq_cause]
    exact failure?_of_status status
  refine ⟨fun o b c x code status => ?_, fun c x code status => ?_, fun code => ?_, ?_, Error.ofStatus?_eq⟩
  · exact attempt_of_failure h setup world o b (fails status)
  · exact start_of_failure h setup world (fails status)
  · exact ⟨Error.ofStatus_eq_abs code, Error.ofStatus_eq_cause code⟩
  · exact fun magnitude => Error.cause_of_unmapped

/-- A bench with a transceiver driver that fails with a code, whatever it is asked for. -/
def failing (code : Int32) : Handler boardInterface Bench
  | .inr (.startRfic _), world => (.error code, world)
  | .inr (.rfic _ _), world => (.error code, world)
  | c, world => Bench.handler c world

/-- A code and its negative. -/
theorem status_translated_failing :
    let board : Board := { stage := .initialized, rfic := some ⟨1⟩ }
    let read (code : Int32) := ((Operation.frequency 0).attempt .plain board).run (failing code) .configured
    let opened := (start .plain).run (failing 22) .configured
    (read (-110)).result.1 = .error .timeout ∧ (read 110).result.1 = .error .timeout ∧
      (read 7).result.1 = .error .unexpected ∧ opened.result = .error .invalid := by
  intro board read opened
  have translated (code : Int32) := status_translated (failing code) .plain .configured
  have reads (code : Int32) : (read code).result.1 = .error (.cause |code.toInt|) :=
    (translated code).1 (.frequency 0) board (.inr (.rfic ⟨1⟩ (.lo .rx))) (.error code) code rfl (.head _)
  have opens := (translated 22).2.1 (.inr (.startRfic Setup.plain.config.rfic)) (.error 22) 22 rfl
  refine ⟨reads (-110), reads 110, reads 7, opens ?_⟩
  exact List.mem_of_getElem? (show opened.events[11]? = some _ from rfl)

/-- The lowest code is one that an operation can meet. The absolute value it is translated by is the code itself,
so a negative number; where overflows are checked, no cause is found. -/
theorem lowest_status_overflows :
    let board : Board := { stage := .initialized, rfic := some ⟨1⟩ }
    let run := ((Operation.frequency 0).attempt .plain board).run (failing Int32.minValue) .configured
    .called (.inr (.rfic ⟨1⟩ (.lo .rx))) (.error Int32.minValue) ∈ run.events ∧
      run.result.1 = .error (.cause Int32.minValue.abs.toInt) ∧ Int32.minValue.abs.toInt = -2147483648 ∧
      |Int32.minValue.toInt| = 2147483648 ∧ Error.ofStatus? Int32.minValue = none := by
  intro board run
  exact ⟨.head _, rfl, by decide, by decide, by decide⟩

end Board
end RadioBoard
