import RadioBoard.Proofs.Corrections
import RadioBoard.Proofs.Layout
import RadioBoard.Proofs.Passive
import RadioBoard.Proofs.Tuning

/-!
Sessions that set corrections.

A correction is set in the bank behind the port in use, so operations that have a part in that port belong to
such a session, too. Main statement: each correction that is set changes its own bits and its force bit, and a
session leaves what all of these leave in turn.
-/

namespace RadioBoard.Board

open Function (update)
open Correction

variable {setup : Setup} {b : Board} {w : Hardware}

/-- Operations on corrections, and all that have a part in which port is in use. -/
def Operation.adjusts : Operation → Bool
  | setCorrection _ _ _ | correction _ _ | setPort _ _ | port _ => true
  | setFrequency _ _ | frequency _ | enableModule _ _ => true
  | _ => false

/-- The correction that an operation sets if it succeeds, in the bank behind the port in use. -/
def Operation.sets (w : Hardware) : Operation → List (Target × Int16)
  | setCorrection channel c value =>
    let d := Direction.ofChannel channel
    ((Bank.ofPort? d (w.port d)).map fun bank => (Target.ofChannel channel c bank, value)).toList
  | _ => []

/-- Corrections were set, the registers are as before otherwise, and the board stays operable. -/
structure Adjusted (ws : List (Target × Int16)) (b : Board) (w : Hardware) (b' : Board) (w' : Hardware) :
    Prop where
  stage : b'.stage = b.stage
  rfic : b'.rfic = b.rfic
  registers : w'.registers = Target.writeAll ws w.registers

theorem Adjusted.idle {w' : Hardware} (registers : w'.registers = w.registers) : Adjusted [] b w b w' :=
  ⟨rfl, rfl, registers⟩

theorem tuning_adjusted (last : b.stage = .initialized) (t : Tuning) :
    Meets Hardware.contract setup t.operation.perform b w (fun _ => Adjusted [] b w) fun _ => Adjusted [] b w := by
  apply (tuning_meets last t).mono
  · intro _ b' w' post
    obtain ⟨_, effect⟩ := post
    cases effect
    have keeps := t.board_keeps b
    refine ⟨keeps.1, keeps.2, ?_⟩
    cases t with
    | frequency channel hz => rfl
    | enable channel on => cases on <;> rfl
  · rintro _ b' w' ⟨_, rfl, rfl⟩
    exact .idle rfl

theorem setCorrection_adjusted (channel : UInt8) (c : Correction) (value : Int16) :
    Meets Hardware.contract setup (setCorrection channel c value) b w
      (fun _ => Adjusted ((Operation.setCorrection channel c value).sets w) b w) fun _ => Adjusted [] b w := by
  apply (meets_setCorrection setup b w channel c value).mono
  · rintro _ b' w' ⟨rfl, t, place, rfl⟩
    obtain ⟨_, _, _, bank, used, rfl⟩ := of_target? place
    refine ⟨rfl, rfl, ?_⟩
    simp [Operation.sets, used, Target.writeAll]
  · rintro _ b' w' ⟨rfl, rfl, _⟩
    exact .idle rfl

theorem setPort_adjusted (last : b.stage = .initialized) (driver : b.rfic.isSome = true) (channel : UInt8)
    (name : String) : Meets Hardware.contract setup (setPort channel name) b w (fun _ => Adjusted [] b w)
      fun _ => Adjusted [] b w := by
  rw [setPort, meets_past_expect last]
  dsimp only
  cases Rfic.Port.ofName? (Direction.ofChannel channel) name with
  | none => exact .idle rfl
  | some id =>
    rw [Hardware.meets_setPort driver]
    exact .idle rfl

theorem getPort_adjusted (last : b.stage = .initialized) (driver : b.rfic.isSome = true) (channel : UInt8) :
    Meets Hardware.contract setup (getPort channel) b w (fun _ => Adjusted [] b w) fun _ => Adjusted [] b w := by
  rw [getPort, meets_past_expect last]
  dsimp only
  rw [meets_bind, Hardware.meets_port driver]
  cases Rfic.Port.name? (Direction.ofChannel channel) (w.port (Direction.ofChannel channel)) with
  | none => exact .idle rfl
  | some name => exact .idle rfl

theorem perform_adjusted (last : b.stage = .initialized) (driver : b.rfic.isSome = true) (o : Operation)
    (adjusts : o.adjusts = true) :
    Meets Hardware.contract setup o.perform b w (fun _ => Adjusted (o.sets w) b w) fun _ => Adjusted [] b w := by
  cases o
  case setCorrection channel c value => exact setCorrection_adjusted channel c value
  case correction channel c =>
    apply (meets_getCorrection setup b w channel c).mono
    · rintro _ _ _ ⟨rfl, rfl, _⟩
      exact .idle rfl
    · rintro _ _ _ ⟨rfl, rfl, _⟩
      exact .idle rfl
  case setPort channel name => exact setPort_adjusted last driver channel name
  case port channel => exact getPort_adjusted last driver channel
  case frequency channel =>
    have told : Meets Hardware.contract setup (getFrequency channel) b w (fun _ => Adjusted [] b w)
        fun _ => Adjusted [] b w := (meets_getFrequency last driver channel).mpr (.idle rfl)
    exact told
  case setFrequency channel hz => exact tuning_adjusted last (.frequency channel hz)
  case enableModule channel on => exact tuning_adjusted last (.enable channel on)
  all_goals cases adjusts

theorem Adjusted.trans {b' b'' : Board} {w' w'' : Hardware} {ws us : List (Target × Int16)}
    (first : Adjusted ws b w b' w') (second : Adjusted us b' w' b'' w'') :
    Adjusted (ws ++ us) b w b'' w'' where
  stage := second.stage.trans first.stage
  rfic := second.rfic.trans first.rfic
  registers := by rw [second.registers, first.registers, Target.writeAll_append]

/-! Sessions. -/

section Session

variable {σ : Type} (h : Handler boardInterface σ) (view : σ → Hardware) (setup : Setup)

/-- The corrections that a session sets, in turn: those of the operations that succeed. -/
def corrected : List Operation → Board → σ → List (Target × Int16)
  | [], _, _ => []
  | o :: ops, b, s =>
    let run := (o.attempt setup b).run h s
    (if run.result.1.isOk = true then o.sets (view s) else []) ++ corrected ops run.result.2 run.state

theorem corrected_append (earlier later : List Operation) (b : Board) (s : σ) :
    corrected h view setup (earlier ++ later) b s =
      let first := (session setup earlier b).run h s
      corrected h view setup earlier b s ++ corrected h view setup later first.result first.state := by
  induction earlier generalizing b s with
  | nil => rfl
  | cons o ops ih =>
    rw [run_session_cons]
    simp only [List.cons_append, corrected, ih, List.append_assoc]

variable {h view} (like : Hardware.IsView h view)

include like

theorem attempt_adjusted {b : Board} (last : b.stage = .initialized) (driver : b.rfic.isSome = true) (s : σ)
    {o : Operation} (adjusts : o.adjusts = true) :
    let run := (o.attempt setup b).run h s
    Adjusted (if run.result.1.isOk = true then o.sets (view s) else []) b (view s) run.result.2
      (view run.state) := by
  intro run
  have met : Meets Hardware.contract setup o.perform b (view s) _ _ := perform_adjusted last driver o adjusts
  obtain ⟨w, _, same, ended⟩ := met.run (t := s) like rfl
  subst same
  obtain ⟨a, result, adjusted⟩ | ⟨e, result, adjusted⟩ := ended
  · have done : run.result.1.isOk = true := congrArg (fun r => r.1.isOk) result
    rw [if_pos done]
    exact adjusted
  · have failed : run.result.1.isOk = false := congrArg (fun r => r.1.isOk) result
    rw [if_neg (by simp [failed])]
    exact adjusted

theorem session_adjusted {b : Board} (last : b.stage = .initialized) (driver : b.rfic.isSome = true) (s : σ)
    {ops : List Operation} (adjusting : ∀ o ∈ ops, o.adjusts = true) :
    let run := (session setup ops b).run h s
    Adjusted (corrected h view setup ops b s) b (view s) run.result (view run.state) := by
  induction ops generalizing b s with
  | nil => exact .idle rfl
  | cons o ops ih =>
    have first := attempt_adjusted setup like last driver s (adjusting o List.mem_cons_self)
    have rest := ih (first.stage.trans last) ((congrArg Option.isSome first.rfic).trans driver)
      ((o.attempt setup b).run h s).state fun u later => adjusting u (List.mem_cons_of_mem o later)
    rw [run_session_cons]
    exact first.trans rest

end Session

/-- Calls that ask for a port or for a register and change nothing. -/
def Consults : boardInterface.Call → Prop
  | .inr (.rfic _ (.port _)) | .inr (.rfic _ (.readRegister _)) => True
  | _ => False

theorem getCorrection_consults (channel : UInt8) (c : Correction) :
    Confined Consults (getCorrection channel c) := by
  refine .after _ (.bind (expectChannel_confined channel) ?_)
  intro _
  refine .bind (.bind ?_ ?_) ?_
  · intro setup b
    simp [Consults]
  · intro port setup b
    cases Bank.ofPort? (Direction.ofChannel channel) port <;> simp
  · intro bank
    refine .map _ ?_
    intro setup b
    cases field (Direction.ofChannel channel) c (Chain.ofChannel channel) bank <;> simp [readField, Consults]

/-- Setting corrections, in turn and through any ports, changes nothing but their own bits and their force
bits, and these gather. Asking for one changes nothing. -/
theorem corrections_accumulate {σ : Type} {h : Handler boardInterface σ} {view : σ → Hardware}
    (like : Hardware.IsView h view) (setup : Setup) {b : Board} (last : b.stage = .initialized)
    (driver : b.rfic.isSome = true) (s : σ) {ops : List Operation}
    (adjusting : ∀ o ∈ ops, o.adjusts = true) :
    let registers (earlier : List Operation) := (view ((session setup earlier b).run h s).state).registers
    let written := corrected h view setup ops b s
    (∀ earlier channel c value later, ops = earlier ++ .setCorrection channel c value :: later →
      let before := (session setup earlier b).run h s
      let set := ((Operation.setCorrection channel c value).attempt setup before.result).run h before.state
      set.result.1 = .ok () →
        ∃ bank, let t := Target.ofChannel channel c bank
          Bank.ofPort? t.direction ((view before.state).port t.direction) = some bank ∧
          (t, value) ∈ written ∧
          t.Sets value (view before.state).registers (view set.state).registers ∧
          ∃ i < 8, t.forceBit.toNat = 2 ^ i) ∧
    Target.Gathers written (registers []) (registers ops) ∧
    (∀ earlier later, ops = earlier ++ later → ∀ d i,
      (registers earlier (forceRegister d)).toNat.testBit i = true →
        (registers ops (forceRegister d)).toNat.testBit i = true) ∧
    ∀ (τ : Type) (h' : Handler boardInterface τ) (b' : Board) (t : τ) channel c call answer,
      .called call answer ∈ (((Operation.correction channel c).attempt setup b').run h' t).events →
        Consults call := by
  intro registers written
  have adjusted (part : List Operation) (within : ∀ o ∈ part, o ∈ ops) :=
    session_adjusted setup like last driver s fun o here => adjusting o (within o here)
  have whole : registers ops = Target.writeAll written (registers []) := (adjusted ops fun _ => id).registers
  refine ⟨?_, ?_, ?_, ?_⟩
  · rintro earlier channel c value later cut before set succeeded
    obtain ⟨t, place⟩ := target_of_setCorrection like setup succeeded
    obtain ⟨_, _, _, bank, used, rfl⟩ := of_target? place
    refine ⟨bank, used, ?_, ?_, Target.forceBit_single _⟩
    · have done : set.result.1.isOk = true := congrArg Except.isOk succeeded
      have sets : (Operation.setCorrection channel c value).sets (view before.state) =
          [(Target.ofChannel channel c bank, value)] := by
        simp [Operation.sets, used]
      have here : written = corrected h view setup earlier b s ++
          ((if set.result.1.isOk = true then (Operation.setCorrection channel c value).sets (view before.state)
            else []) ++ corrected h view setup later set.result.2 set.state) := by
        have split := corrected_append h view setup earlier (.setCorrection channel c value :: later) b s
        rw [← cut] at split
        exact split
      rw [here, if_pos done, sets]
      simp
    · rw [(run_setCorrection like setup value place).2]
      exact Target.sets_write _ _ _
  · rw [whole]
    exact Target.gathers_writeAll _ _
  · intro earlier later cut d i set
    have first := adjusted earlier fun o here => cut ▸ List.mem_append_left later here
    have split := corrected_append h view setup earlier later b s
    rw [← cut] at split
    have rest : registers ops = Target.writeAll (corrected h view setup later
        ((session setup earlier b).run h s).result ((session setup earlier b).run h s).state)
        (registers earlier) := by
      rw [whole, show registers earlier = _ from first.registers, ← Target.writeAll_append, ← split]
      rfl
    rw [rest, Target.writeAll_forceRegister, UInt8.toNat_or, Nat.testBit_or, set, Bool.true_or]
  · intro τ h' b' t channel c call answer made
    exact Program.called_of_meets (getCorrection_consults channel c setup b') made

theorem corrections_accumulate_bench :
    let opened := (start .plain).run Bench.handler .configured
    let ops : List Operation := [.setCorrection 2 .offsetI 1000, .setPort 0 "B_BALANCED",
      .setCorrection 0 .gain (-640), .setCorrection 1 .phase 64]
    let before := (Bench.view opened.state).registers
    let after :=
      (Bench.view ((session .plain ops (onBench .plain)).run Bench.handler opened.state).state).registers
    (onBench .plain).stage = .initialized ∧ (onBench .plain).rfic.isSome = true ∧
      (∀ o ∈ ops, o.adjusts = true) ∧
      after 0x182 = before 0x182 ||| 0x81 ∧ after 0x09f = before 0x09f ||| 0x10 ∧
      after 0x172 = before 0x172 := by
  intro opened ops before after
  have last : (onBench .plain).stage = .initialized := by decide +kernel
  have driver : (onBench .plain).rfic.isSome = true := by decide +kernel
  have adjusting : ∀ o ∈ ops, o.adjusts = true := by decide
  have written : corrected Bench.handler Bench.view .plain ops (onBench .plain) opened.state =
      [(⟨.rx, .offsetI, .second, .high⟩, 1000), (⟨.rx, .gain, .first, .low⟩, -640),
        (⟨.tx, .phase, .first, .high⟩, 64)] := by
    decide +kernel
  have gathered := (corrections_accumulate Bench.isView .plain last driver opened.state adjusting).2.1
  rw [written] at gathered
  refine ⟨last, driver, adjusting, ?_, ?_, ?_⟩
  · exact gathered.force .rx
  · exact gathered.force .tx
  · refine gathered.registers _ ?_ (by decide)
    intro d
    cases d <;> decide

end RadioBoard.Board
