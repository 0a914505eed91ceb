import RadioBoard.Proofs.Tuning

/-!
The two directions do not interfere.

Both share the control register of the front end, which every operation reads, changes and writes back.
An operation for one direction leaves the lane of the other as it is, and changes its own by what is in
that lane alone. Main statement: after a session that tunes and switches, each lane is what the operations
for its direction make of it, so that their order among those for the other direction does not matter.
-/

namespace RadioBoard

open Function (update)

/-- All that belongs to one direction: its bits of the front end, its oscillator, its port and its
synchronous stream. -/
structure Lane where
  enabled : Bool
  switch : UInt32
  lo : UInt64
  port : UInt32
  sync : Option Streaming.SyncHandle

namespace Lane

def of (d : Direction) (x : Board × Hardware) : Lane where
  enabled := FrontEnd.isEnabled x.2.frontEnd d
  switch := FrontEnd.switch x.2.frontEnd d
  lo := x.2.lo d
  port := x.2.port d
  sync := x.1.sync d

/-- What an operation for its direction makes of a lane. -/
def after (d : Direction) (l : Lane) : Tuning → Lane
  | .frequency _ hz =>
    let path := SignalPath.inUse d l.enabled hz
    { l with lo := hz, switch := path.switch, port := path.port }
  | .enable _ true =>
    let path := SignalPath.inUse d true l.lo
    { l with enabled := true, switch := path.switch, port := path.port }
  | .enable _ false => { l with enabled := false, switch := SignalPath.disconnected, sync := none }

end Lane

theorem SignalPath.switch_inUse_false (d : Direction) (hz : UInt64) :
    (SignalPath.inUse d false hz).switch = SignalPath.disconnected := by
  rw [inUse_false]
  cases d <;> rfl

namespace Tuning

theorem lane_effect_self (t : Tuning) (x : Board × Hardware) :
    Lane.of t.direction (t.effect x) = (Lane.of t.direction x).after t.direction t := by
  cases t with
  | frequency channel hz => simp [Lane.of, Lane.after, effect, board, hardware, direction]
  | enable channel on =>
    cases on with
    | true => simp [Lane.of, Lane.after, effect, board, hardware, direction]
    | false =>
      simp [Lane.of, Lane.after, effect, board, hardware, direction, Board.sync_withSync,
        SignalPath.switch_inUse_false]

theorem lane_effect_of_ne (t : Tuning) {d : Direction} (other : d ≠ t.direction) (x : Board × Hardware) :
    Lane.of d (t.effect x) = Lane.of d x := by
  cases t with
  | frequency channel hz =>
    rw [direction] at other
    simp [Lane.of, effect, board, hardware, other]
  | enable channel on =>
    rw [direction] at other
    cases on with
    | true => simp [Lane.of, effect, board, hardware, other]
    | false => simp [Lane.of, effect, board, hardware, other, Board.sync_withSync]

end Tuning

/-! What belongs to neither direction. -/

/-- Apart from its lanes, all of it is as it was. -/
structure SameBesides (x y : Board × Hardware) : Prop where
  board : y.1 = { x.1 with rxSync := y.1.rxSync, txSync := y.1.txSync }
  unused : y.2.frontEnd &&& ~~~FrontEnd.used = x.2.frontEnd &&& ~~~FrontEnd.used
  registers : y.2.registers = x.2.registers
  due : y.2.due = x.2.due

namespace SameBesides

theorem refl (x : Board × Hardware) : SameBesides x x := ⟨rfl, rfl, rfl, rfl⟩

theorem trans {x y z : Board × Hardware} (first : SameBesides x y) (second : SameBesides y z) :
    SameBesides x z where
  board := by
    rw [second.board, first.board]
  unused := second.unused.trans first.unused
  registers := second.registers.trans first.registers
  due := second.due.trans first.due

theorem effect (t : Tuning) (x : Board × Hardware) : SameBesides x (t.effect x) := by
  cases t with
  | frequency channel hz => exact ⟨rfl, Hardware.unused_switched .., rfl, rfl⟩
  | enable channel on =>
    cases on with
    | true => exact ⟨rfl, Hardware.unused_switched .., rfl, rfl⟩
    | false =>
      refine ⟨?_, Hardware.unused_switched .., rfl, rfl⟩
      cases d : Direction.ofChannel channel <;> simp [Tuning.effect, Tuning.board, d, Board.withSync]

/-- Board and collaborators are known once their lanes are. -/
theorem eq_of_lanes {x y z : Board × Hardware} (left : SameBesides x y) (right : SameBesides x z)
    (lanes : ∀ d, Lane.of d y = Lane.of d z) : y = z := by
  obtain ⟨b, w⟩ := y
  obtain ⟨c, v⟩ := z
  simp only [Lane.of, Lane.mk.injEq] at lanes
  have boards : b = c := by
    have rx : b.rxSync = c.rxSync := (lanes .rx).2.2.2.2
    have tx : b.txSync = c.txSync := (lanes .tx).2.2.2.2
    calc
      b = { x.1 with rxSync := b.rxSync, txSync := b.txSync } := left.board
      _ = { x.1 with rxSync := c.rxSync, txSync := c.txSync } := by rw [rx, tx]
      _ = c := right.board.symm
  have frontEnd : w.frontEnd = v.frontEnd :=
    FrontEnd.eq_of_parts (fun d => (lanes d).1) (fun d => (lanes d).2.1)
      (left.unused.trans right.unused.symm)
  have lo : w.lo = v.lo := funext fun d => (lanes d).2.2.1
  have port : w.port = v.port := funext fun d => (lanes d).2.2.2.1
  have registers : w.registers = v.registers := left.registers.trans right.registers.symm
  have due : w.due = v.due := left.due.trans right.due.symm
  cases w
  cases v
  simp_all

end SameBesides

/-! Sequences of operations. -/

namespace Tuning

/-- The operations for one direction, in their order. -/
def toward (d : Direction) (ts : List Tuning) : List Tuning := ts.filter (·.direction = d)

theorem sameBesides_effects (ts : List Tuning) (x : Board × Hardware) :
    SameBesides x (effects ts x) := by
  induction ts generalizing x with
  | nil => exact .refl x
  | cons t ts ih => exact (SameBesides.effect t x).trans (ih (t.effect x))

/-- A lane becomes what the operations for its direction make of it. -/
theorem lane_effects (ts : List Tuning) (x : Board × Hardware) (d : Direction) :
    Lane.of d (effects ts x) = (toward d ts).foldl (Lane.after d) (Lane.of d x) := by
  induction ts generalizing x with
  | nil => rfl
  | cons t ts ih =>
    -- An operation for the other direction is not in the filtered list, and leaves this lane to the rest.
    have rest := ih (t.effect x)
    by_cases own : t.direction = d
    · subst own
      rw [lane_effect_self] at rest
      simpa [toward] using rest
    · rw [lane_effect_of_ne t (Ne.symm own)] at rest
      simpa [toward, own] using rest

theorem mem_toward (t : Tuning) (ts : List Tuning) : t ∈ toward t.direction ts ↔ t ∈ ts := by
  simp [toward]

/-- Sequences that agree in each direction have the same operations. -/
theorem mem_iff_of_toward {ts us : List Tuning} (same : ∀ d, toward d us = toward d ts) (t : Tuning) :
    t ∈ us ↔ t ∈ ts := by
  rw [← mem_toward t us, same, mem_toward]

/-- The order between operations for different directions has no effect. -/
theorem effects_congr {ts us : List Tuning} (same : ∀ d, toward d us = toward d ts) (x : Board × Hardware) :
    effects us x = effects ts x := by
  apply (sameBesides_effects us x).eq_of_lanes (sameBesides_effects ts x)
  intro d
  rw [lane_effects, lane_effects, same]

end Tuning

namespace Board

variable {σ : Type}

/-- After a session that tunes and switches, all that belongs to a direction is what the operations for
that direction have made of it, and what belongs to neither is as it was, the other bits of the front end
among it. So any other order that keeps the two sequences also succeeds and ends in the same state. -/
theorem directions_independent {h : Handler boardInterface σ} {view : σ → Hardware}
    (like : Hardware.IsView h view) (setup : Setup) {b : Board} (last : b.stage = .initialized) (s : σ)
    (ts : List Tuning) (good : Succeeds h setup (ts.map Tuning.operation) b s) :
    let run (us : List Tuning) := (session setup (us.map Tuning.operation) b).run h s
    let final (us : List Tuning) := ((run us).result, view (run us).state)
    (∀ d, Lane.of d (final ts) = (Tuning.toward d ts).foldl (Lane.after d) (Lane.of d (b, view s))) ∧
    SameBesides (b, view s) (final ts) ∧
    ∀ us : List Tuning, (∀ d, Tuning.toward d us = Tuning.toward d ts) →
      Succeeds h setup (us.map Tuning.operation) b s ∧ final us = final ts := by
  intro run final
  obtain ⟨succeeds, effect⟩ := session_tuning like setup last s ts
  have accepted := succeeds.mp good
  have ended : final ts = Tuning.effects ts (b, view s) := effect accepted
  rw [ended]
  refine ⟨Tuning.lane_effects ts _, Tuning.sameBesides_effects ts _, ?_⟩
  intro us same
  obtain ⟨succeeds', effect'⟩ := session_tuning like setup last s us
  have accepted' : ∀ t ∈ us, t.Accepted b :=
    fun t asked => accepted t ((Tuning.mem_iff_of_toward same t).mp asked)
  exact ⟨succeeds'.mpr accepted', (effect' accepted').trans (Tuning.effects_congr same _)⟩

/-- Two orders, on a front end with all kinds of bits set. -/
theorem directions_independent_bench :
    let world := { ((start .plain).run Bench.handler .configured).state with frontEnd := 0xdeadbeef }
    let ts : List Tuning := [.frequency 0 5800000000, .enable 3 true, .enable 2 true,
      .frequency 1 100000000, .enable 0 false]
    let us : List Tuning := [.enable 3 true, .frequency 1 100000000, .frequency 0 5800000000,
      .enable 2 true, .enable 0 false]
    let run (us : List Tuning) := (session .plain (us.map Tuning.operation) (onBench .plain)).run
      Bench.handler world
    Succeeds Bench.handler .plain (ts.map Tuning.operation) (onBench .plain) world ∧
    (∀ d, Tuning.toward d us = Tuning.toward d ts) ∧
    ((run us).result, (run us).state.view) = ((run ts).result, (run ts).state.view) ∧
    (run ts).state.frontEnd &&& ~~~FrontEnd.used = 0xdead8429 := by
  intro world ts us run
  have good : Succeeds Bench.handler .plain (ts.map Tuning.operation) (onBench .plain) world := by
    decide +kernel
  have same : ∀ d, Tuning.toward d us = Tuning.toward d ts := by
    intro d
    cases d <;> rfl
  obtain ⟨_, besides, others⟩ := directions_independent Bench.isView .plain rfl world ts good
  have begun : world.view.frontEnd &&& ~~~FrontEnd.used = 0xdead8429 := by decide
  exact ⟨good, same, (others us same).2, besides.unused.trans begun⟩

end Board
end RadioBoard
