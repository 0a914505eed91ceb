import RadioBoard.Proofs.Routing
import RadioBoard.Proofs.Session

/-!
Tuning and switching the directions.

With register-like collaborators, setting a frequency and enabling or disabling a direction have one way
to end well, and whether they do depends on their arguments and on the presence of a driver alone. Main
statement: a session of them is a fold of their effects.
-/

namespace RadioBoard

open Function (update)

/-- What tunes or switches one direction. -/
inductive Tuning
  | frequency (channel : UInt8) (hz : UInt64)
  | enable (channel : UInt8) (on : Bool)

namespace Tuning

def direction : Tuning → Direction
  | frequency channel _ | enable channel _ => Direction.ofChannel channel

def operation : Tuning → Board.Operation
  | frequency channel hz => .setFrequency channel hz
  | enable channel on => .enableModule channel on

/-- The operation is not refused: only a frequency can be out of range, and only disabling a direction
needs no driver. -/
def Accepted (b : Board) : Tuning → Prop
  | frequency channel hz =>
    (Board.frequencyRange (Direction.ofChannel channel)).contains hz.toInt64 = true ∧ b.rfic.isSome = true
  | enable _ true => b.rfic.isSome = true
  | enable _ false => True

/-- What the operation leaves of a board, once it is accepted: disabling gives up the stream. -/
def board (b : Board) : Tuning → Board
  | enable channel false => b.withSync none (Direction.ofChannel channel)
  | _ => b

/-- What it leaves of the collaborators. -/
def hardware (w : Hardware) : Tuning → Hardware
  | frequency channel hz =>
    let d := Direction.ofChannel channel
    let on := FrontEnd.isEnabled w.frontEnd d
    { w.switched d on hz with
      lo := update w.lo d hz
      port := update w.port d (SignalPath.inUse d on hz).port }
  | enable channel true =>
    let d := Direction.ofChannel channel
    { w.switched d true (w.lo d) with
      port := update w.port d (SignalPath.inUse d true (w.lo d)).port }
  | enable channel false => w.switched (Direction.ofChannel channel) false 0

def effect (t : Tuning) (x : Board × Hardware) : Board × Hardware := (t.board x.1, t.hardware x.2)

def effects (ts : List Tuning) (x : Board × Hardware) : Board × Hardware :=
  ts.foldl (fun x t => t.effect x) x

@[simp] theorem effects_cons (t : Tuning) (ts : List Tuning) (x : Board × Hardware) :
    effects (t :: ts) x = effects ts (t.effect x) := rfl

/-- Neither the stage nor the driver is touched. -/
theorem board_keeps (t : Tuning) (b : Board) : (t.board b).stage = b.stage ∧ (t.board b).rfic = b.rfic := by
  cases t with
  | frequency channel hz => exact ⟨rfl, rfl⟩
  | enable channel on =>
    cases on with
    | true => exact ⟨rfl, rfl⟩
    | false => exact Board.withSync_keeps b none _

theorem accepted_board (t u : Tuning) (b : Board) : u.Accepted (t.board b) ↔ u.Accepted b := by
  have same := (t.board_keeps b).2
  cases u with
  | frequency channel hz => rw [Accepted, Accepted, same]
  | enable channel on =>
    cases on with
    | true => rw [Accepted, Accepted, same]
    | false => exact Iff.rfl

end Tuning

namespace Board

section Hardware

variable {setup : Setup} {b : Board} {w : Hardware}

theorem meets_transceiver_of_none (missing : b.rfic = none) {σ : Type} {K : Contract boardInterface σ}
    {s : σ} (operation : String) (c : Rfic.Call) (detail : String) {ok : c.Reply → Board → σ → Prop}
    {fail : Error → Board → σ → Prop} :
    Meets K setup (transceiver operation c detail) b s ok fail ↔ fail .unexpected b s := by
  simp [missing]

theorem setFrequency_meets (last : b.stage = .initialized) (channel : UInt8) (hz : UInt64) :
    let t := Tuning.frequency channel hz
    Meets Hardware.contract setup (setFrequency channel hz) b w
      (fun _ b' w' => t.Accepted b ∧ (b', w') = t.effect (b, w))
      fun _ b' w' => ¬t.Accepted b ∧ b' = b ∧ w' = w := by
  intro t
  rw [setFrequency, meets_past_expect last]
  dsimp only
  rw [meets_ite]
  refine ⟨?_, ?_⟩
  · intro outside
    refine ⟨?_, rfl, rfl⟩
    intro accepted
    rw [accepted.1] at outside
    exact absurd outside (by decide)
  · intro inside
    have contained : (frequencyRange (Direction.ofChannel channel)).contains hz.toInt64 = true := by
      simpa using inside
    rw [meets_bind]
    cases driver : b.rfic with
    | none =>
      rw [meets_transceiver_of_none driver]
      exact ⟨fun accepted => absurd accepted.2 (by simp [driver]), rfl, rfl⟩
    | some handle =>
      have present : b.rfic.isSome = true := by rw [driver]; rfl
      rw [Hardware.meets_setLo present, meets_step, meets_selectBand (le_of_initialized last _) present]
      exact ⟨⟨contained, present⟩, rfl⟩

theorem enable_meets (last : b.stage = .initialized) (channel : UInt8) :
    let t := Tuning.enable channel true
    Meets Hardware.contract setup (enableModule channel true) b w
      (fun _ b' w' => t.Accepted b ∧ (b', w') = t.effect (b, w))
      fun _ b' w' => ¬t.Accepted b ∧ b' = b ∧ w' = w := by
  intro t
  rw [enableModule, meets_past_expect last]
  dsimp only
  rw [if_pos rfl, meets_bind, meets_step]
  cases driver : b.rfic with
  | none =>
    rw [getFrequency, meets_past_expect last, meets_transceiver_of_none driver]
    refine ⟨?_, rfl, rfl⟩
    intro accepted
    rw [Tuning.Accepted, driver] at accepted
    exact absurd accepted Bool.false_ne_true
  | some handle =>
    have present : b.rfic.isSome = true := by rw [driver]; rfl
    rw [meets_getFrequency last present, meets_bind, meets_step,
      meets_setPortFor (le_of_initialized last _) present, meets_switchModule]
    exact ⟨present, rfl⟩

theorem disable_meets (last : b.stage = .initialized) (channel : UInt8) :
    let t := Tuning.enable channel false
    Meets Hardware.contract setup (enableModule channel false) b w
      (fun _ b' w' => t.Accepted b ∧ (b', w') = t.effect (b, w))
      fun _ b' w' => ¬t.Accepted b ∧ b' = b ∧ w' = w := by
  intro t
  rw [enableModule, meets_past_expect last]
  dsimp only
  rw [if_neg Bool.false_ne_true, meets_bind, meets_stopSync_hardware, meets_switchModule]
  exact ⟨trivial, rfl⟩

theorem tuning_meets (last : b.stage = .initialized) (t : Tuning) :
    Meets Hardware.contract setup t.operation.perform b w
      (fun _ b' w' => t.Accepted b ∧ (b', w') = t.effect (b, w))
      fun _ b' w' => ¬t.Accepted b ∧ b' = b ∧ w' = w := by
  cases t with
  | frequency channel hz => exact setFrequency_meets last channel hz
  | enable channel on =>
    cases on with
    | true => exact enable_meets last channel
    | false => exact disable_meets last channel

end Hardware

section Session

variable {σ : Type} {h : Handler boardInterface σ} {view : σ → Hardware}

theorem attempt_tuning (like : Hardware.IsView h view) (setup : Setup) {b : Board}
    (last : b.stage = .initialized) (s : σ) (t : Tuning) :
    let run := (t.operation.attempt setup b).run h s
    (run.result.1.isOk = true ↔ t.Accepted b) ∧
    (t.Accepted b → (run.result.2, view run.state) = t.effect (b, view s)) := by
  intro run
  have met : Meets Hardware.contract setup t.operation.perform b (view s) _ _ := tuning_meets last t
  obtain ⟨w, _, same, ended⟩ := met.run (t := s) like rfl
  obtain ⟨a, result, accepted, effect⟩ | ⟨e, result, refused, _⟩ := ended
  · have done : run.result.1.isOk = true := congrArg (fun r => r.1.isOk) result
    subst same
    exact ⟨⟨fun _ => accepted, fun _ => done⟩, fun _ => effect⟩
  · have failed : run.result.1.isOk = false := congrArg (fun r => r.1.isOk) result
    constructor
    · simp [failed, refused]
    · exact fun accepted => absurd accepted refused

/-- A session that tunes and switches succeeds if each of its operations is acceptable to begin with, and
is then a fold of their effects. -/
theorem session_tuning (like : Hardware.IsView h view) (setup : Setup) {b : Board}
    (last : b.stage = .initialized) (s : σ) (ts : List Tuning) :
    let run := (session setup (ts.map Tuning.operation) b).run h s
    (Succeeds h setup (ts.map Tuning.operation) b s ↔ ∀ t ∈ ts, t.Accepted b) ∧
    ((∀ t ∈ ts, t.Accepted b) →
      (run.result, view run.state) = Tuning.effects ts (b, view s)) := by
  induction ts generalizing b s with
  | nil => exact ⟨by simp [Succeeds], fun _ => rfl⟩
  | cons t ts ih =>
    obtain ⟨accepts, effect⟩ := attempt_tuning like setup last s t
    simp only [List.map_cons, run_session_cons, Succeeds, List.mem_cons, forall_eq_or_imp,
      Tuning.effects_cons]
    by_cases accepted : t.Accepted b
    · -- No operation touches the driver, so what is acceptable to begin with stays so.
      have board : ((t.operation.attempt setup b).run h s).result.2 = t.board b :=
        congrArg Prod.fst (effect accepted)
      have stage := (t.board_keeps b).1.trans last
      rw [← board] at stage
      obtain ⟨succeeds, folds⟩ := ih stage ((t.operation.attempt setup b).run h s).state
      have rest : (∀ u ∈ ts, u.Accepted ((t.operation.attempt setup b).run h s).result.2) ↔
          ∀ u ∈ ts, u.Accepted b := by
        rw [board]
        exact forall₂_congr fun u _ => Tuning.accepted_board t u b
      rw [rest] at succeeds folds
      rw [effect accepted] at folds
      exact ⟨and_congr accepts succeeds, fun all => folds all.2⟩
    · have refused := mt accepts.mp accepted
      simp [accepted, refused]

end Session

end Board
end RadioBoard
