import RadioBoard.Proofs.BringUp
import RadioBoard.Proofs.FrontEnd
import RadioBoard.Proofs.Hardware

/-!
Antenna switches and ports follow the frequencies.

Three actions move them, each in its own way: bringing the board up, choosing a band, and enabling or
disabling a direction. Each leaves its direction routed as its enable bit and its frequency want it, and
the other direction alone. Main statement: with register-like collaborators this holds after every
operation, whatever was done before.
-/

namespace RadioBoard

open Function (update)

namespace Hardware

/-- The path that serves a direction, as it is enabled and tuned. -/
def path (w : Hardware) (d : Direction) : SignalPath :=
  SignalPath.inUse d (FrontEnd.isEnabled w.frontEnd d) (w.lo d)

/-- The switch of every direction stands where its path wants it, and so does the port of every enabled
direction, except where a port was chosen by name. No other bit of the front end is set. -/
structure Routed (w : Hardware) (named : Direction → Bool) : Prop where
  switch : ∀ d, FrontEnd.switch w.frontEnd d = (w.path d).switch
  unused : w.frontEnd &&& ~~~FrontEnd.used = 0
  port : ∀ d, FrontEnd.isEnabled w.frontEnd d = true → named d = false → w.port d = (w.path d).port

/-- A direction turned on or off, with its switch set for a frequency. -/
def switched (w : Hardware) (d : Direction) (on : Bool) (hz : UInt64) : Hardware :=
  { w with frontEnd :=
      FrontEnd.withSwitch (FrontEnd.turn w.frontEnd d on) d (SignalPath.inUse d on hz).switch }

@[simp] theorem switched_lo (w : Hardware) (d : Direction) (on : Bool) (hz : UInt64) :
    (w.switched d on hz).lo = w.lo := rfl

@[simp] theorem switched_port (w : Hardware) (d : Direction) (on : Bool) (hz : UInt64) :
    (w.switched d on hz).port = w.port := rfl

@[simp] theorem isEnabled_switched (w : Hardware) (d e : Direction) (on : Bool) (hz : UInt64) :
    FrontEnd.isEnabled (w.switched d on hz).frontEnd e =
      if e = d then on else FrontEnd.isEnabled w.frontEnd e := by
  rw [switched, FrontEnd.isEnabled_withSwitch _ _ _ (SignalPath.switch_lt d on hz), FrontEnd.isEnabled_turn]

@[simp] theorem switch_switched (w : Hardware) (d e : Direction) (on : Bool) (hz : UInt64) :
    FrontEnd.switch (w.switched d on hz).frontEnd e =
      if e = d then (SignalPath.inUse d on hz).switch else FrontEnd.switch w.frontEnd e := by
  have small := SignalPath.switch_lt d on hz
  by_cases he : e = d
  · subst he
    rw [if_pos rfl, switched, FrontEnd.switch_withSwitch_self _ _ small]
  · rw [if_neg he, switched, FrontEnd.switch_withSwitch_of_ne _ he small, FrontEnd.switch_turn]

@[simp] theorem unused_switched (w : Hardware) (d : Direction) (on : Bool) (hz : UInt64) :
    (w.switched d on hz).frontEnd &&& ~~~FrontEnd.used = w.frontEnd &&& ~~~FrontEnd.used := by
  rw [switched, FrontEnd.unused_withSwitch _ _ (SignalPath.switch_lt d on hz), FrontEnd.unused_turn]

/-- Switching a direction routes it, provided that its frequency and its port go with the switch. -/
theorem Routed.switched {w w' : Hardware} {named named' : Direction → Bool} (h : w.Routed named)
    (d : Direction) (on : Bool) (hz : UInt64) (frontEnd : w'.frontEnd = (w.switched d on hz).frontEnd)
    (lo : on = true → w'.lo d = hz) (port : on = true → w'.port d = (SignalPath.inUse d on hz).port)
    (otherLo : ∀ e, e ≠ d → w'.lo e = w.lo e) (otherPort : ∀ e, e ≠ d → w'.port e = w.port e)
    (otherNamed : ∀ e, e ≠ d → named' e = named e) : w'.Routed named' := by
  have enabled (e : Direction) : FrontEnd.isEnabled w'.frontEnd e =
      if e = d then on else FrontEnd.isEnabled w.frontEnd e := by
    rw [frontEnd, isEnabled_switched]
  have ownPath : w'.path d = SignalPath.inUse d on hz := by
    rw [path, enabled, if_pos rfl]
    cases on with
    | false => rw [SignalPath.inUse_false, SignalPath.inUse_false]
    | true => rw [lo rfl]
  have otherPath (e : Direction) (he : e ≠ d) : w'.path e = w.path e := by
    rw [path, path, enabled, if_neg he, otherLo e he]
  refine ⟨?_, ?_, ?_⟩
  · intro e
    rw [frontEnd, switch_switched]
    by_cases he : e = d
    · rw [if_pos he, he, ownPath]
    · rw [if_neg he, otherPath e he, h.switch e]
  · rw [frontEnd, unused_switched, h.unused]
  · intro e isOn notNamed
    by_cases he : e = d
    · subst he
      rw [enabled, if_pos rfl] at isOn
      rw [ownPath, port isOn]
    · rw [enabled, if_neg he] at isOn
      rw [otherNamed e he] at notNamed
      rw [otherPort e he, otherPath e he, h.port e isOn notNamed]

/-- A port chosen by name changes nothing else. -/
theorem Routed.rename {w : Hardware} {named : Direction → Bool} (h : w.Routed named) (d : Direction)
    (id : UInt32) : { w with port := update w.port d id }.Routed (update named d true) := by
  refine ⟨h.switch, h.unused, ?_⟩
  intro e isOn notNamed
  by_cases he : e = d
  · subst he
    simp at notNamed
  · rw [Function.update_of_ne he] at notNamed
    have kept : update w.port d id e = w.port e := Function.update_of_ne he _ _
    exact kept.trans (h.port e isOn notNamed)

theorem Routed.still {w w' : Hardware} {named : Direction → Bool} (h : w.Routed named)
    (same : w.Still w') : w'.Routed named := by
  have path (d : Direction) : w'.path d = w.path d := by
    rw [Hardware.path, Hardware.path, same.frontEnd, same.lo]
  refine ⟨?_, ?_, ?_⟩
  · intro d
    rw [same.frontEnd, path]
    exact h.switch d
  · rw [same.frontEnd]
    exact h.unused
  · intro d isOn notNamed
    rw [same.frontEnd] at isOn
    rw [same.port, path]
    exact h.port d isOn notNamed

/-- With everything turned off there is nothing to route. -/
theorem routed_of_frontEnd_eq_zero {w : Hardware} (h : w.frontEnd = 0) (named : Direction → Bool) :
    w.Routed named := by
  have off (d : Direction) : FrontEnd.isEnabled w.frontEnd d = false := by
    rw [h, FrontEnd.isEnabled_zero]
  refine ⟨?_, ?_, ?_⟩
  · intro d
    rw [path, off, h, SignalPath.inUse_false]
    cases d <;> rfl
  · rw [h]
    decide
  · intro d isOn
    rw [off] at isOn
    exact absurd isOn Bool.false_ne_true

end Hardware

namespace Board

variable {σ α : Type} {K : Contract boardInterface σ} {setup : Setup} {b : Board} {s : σ}
  {fail : Error → Board → σ → Prop}

section Hardware

variable {w : Hardware} {ok : Unit → Board → Hardware → Prop} {fail : Error → Board → Hardware → Prop}

theorem meets_setPortFor (stage : .fpgaLoaded ≤ b.stage) (driver : b.rfic.isSome) (d : Direction)
    (enabled : Bool) (hz : UInt64) :
    Meets Hardware.contract setup (setPortFor d enabled hz) b w ok fail ↔
      ok () b { w with port := update w.port d (SignalPath.inUse d enabled hz).port } := by
  obtain ⟨handle, held⟩ := Option.isSome_iff_exists.mp driver
  rw [setPortFor, meets_bind, meets_expect_of_le stage, meets_bind, meets_pathInUse, meets_bind,
    meets_driver_of_some held, meets_step, Hardware.meets_rfic]
  exact Hardware.forall_outcome fun _ _ => (and_iff_right rfl).symm

theorem meets_selectBand (stage : .fpgaLoaded ≤ b.stage) (driver : b.rfic.isSome) (d : Direction)
    (hz : UInt64) :
    Meets Hardware.contract setup (selectBand d hz) b w ok fail ↔
      let on := FrontEnd.isEnabled w.frontEnd d
      ok () b { w.switched d on hz with port := update w.port d (SignalPath.inUse d on hz).port } := by
  rw [selectBand, meets_bind, meets_expect_of_le stage, meets_bind, Hardware.meets_readFrontEnd,
    meets_bind, meets_switchFor, meets_bind, meets_step, meets_setPortFor stage driver,
    Hardware.meets_writeFrontEnd]
  simp only [Hardware.switched, FrontEnd.turn_isEnabled]

theorem meets_getFrequency (stage : b.stage = .initialized) (driver : b.rfic.isSome) (channel : UInt8)
    {ok : UInt64 → Board → Hardware → Prop} :
    Meets Hardware.contract setup (getFrequency channel) b w ok fail ↔
      ok (w.lo (Direction.ofChannel channel)) b w := by
  rw [getFrequency, meets_past_expect stage, Hardware.meets_lo driver]

theorem meets_stopSync_hardware (d : Direction) :
    Meets Hardware.contract setup (stopSync d) b w ok fail ↔ ok () (b.withSync none d) w := by
  rw [meets_stopSync]
  cases stream : b.sync d with
  | none => simp [withSync_of_sync stream]
  | some handle => simp

theorem meets_switchModule (d : Direction) (on : Bool) (hz : UInt64) :
    Meets Hardware.contract setup (switchModule d on hz) b w ok fail ↔ ok () b (w.switched d on hz) := by
  rw [switchModule, meets_bind, Hardware.meets_readFrontEnd]
  dsimp only
  rw [meets_bind, meets_switchFor, meets_bind, Hardware.meets_writeFrontEnd, Hardware.meets_enablePath]
  rfl

/-- A prompt power monitor is awaited for as long as it takes. -/
theorem awaitReset_meets (n : Nat) (b : Board) (w : Hardware) :
    Meets Hardware.contract setup (onTransport (PowerMonitor.awaitReset n)) b w
      (fun _ b' t => b' = b ∧ t.Prompt ∧ w.Still t)
      (fun _ b' _ => b' = b ∧ (w.Prompt → n ≤ w.due)) := by
  induction n generalizing w with
  | zero => simp [PowerMonitor.awaitReset]
  | succ n ih =>
    simp only [PowerMonitor.awaitReset, PowerMonitor.read, onTransport_bind, meets_bind,
      meets_onTransport_perform, onTransport_ite, meets_ite, Hardware.answers_transport_ok,
      Hardware.answers_transport_error]
    refine ⟨trivial, ?_, ?_⟩
    · intro contents t answer
      have read : w.Still t := Hardware.transport_passive (c := .readMonitor _) trivial answer
      obtain ⟨_, _, told⟩ := answer
      obtain ⟨counts, wakes⟩ := told rfl
      refine ⟨?_, ?_⟩
      · intro isClear
        exact ⟨rfl, wakes isClear, read⟩
      · intro isSet
        have next : Meets Hardware.contract setup (onTransport (PowerMonitor.awaitReset n)) b t
            (fun _ b' u => b' = b ∧ u.Prompt ∧ w.Still u)
            (fun _ b' _ => b' = b ∧ (w.Prompt → n + 1 ≤ w.due)) := by
          apply (ih t).mono
          · intro _ b' u post
            obtain ⟨same, inTime, still⟩ := post
            exact ⟨same, inTime, read.trans still⟩
          · intro _ b' u post
            refine ⟨post.1, ?_⟩
            intro prompt
            -- The poll that found the bit set is one of those that were due.
            have fewer : t.due < w.due := (counts prompt).resolve_left isSet
            have left : n ≤ t.due := post.2 (read.prompt prompt)
            omega
        simp only [meets_pause, onTransport_pause]
        exact ⟨fun _ => next, fun _ => next⟩
    · intro e t never
      exact never.elim

theorem meets_writeMonitor (r : PowerMonitor.Register) (value : UInt16)
    (next : ∀ t, w.Still t → ok () b t) :
    Meets Hardware.contract setup (onTransport (PowerMonitor.write r value)) b w ok fail := by
  rw [PowerMonitor.write, meets_onTransport_perform]
  refine ⟨trivial, ?_, ?_⟩
  · intro _ t answer
    rw [Hardware.answers_transport_ok] at answer
    exact next t (Hardware.transport_passive (c := .writeMonitor _ _) trivial answer)
  · intro e t answer
    exact absurd answer (Hardware.answers_transport_error w t _ e)

theorem startMonitor_meets (shunt : Float32) (b : Board) (w : Hardware) :
    Meets Hardware.contract setup (onTransport (PowerMonitor.start shunt)) b w
      (fun _ b' t => b' = b ∧ t.Prompt ∧ w.Still t)
      (fun _ b' _ => b' = b ∧ ¬w.Prompt) := by
  simp only [PowerMonitor.start, onTransport_bind, meets_bind]
  apply meets_writeMonitor
  intro w₁ still₁
  apply (awaitReset_meets _ b w₁).mono
  · intro _ b' w₂ post
    obtain ⟨rfl, inTime, still₂⟩ := post
    apply meets_writeMonitor
    intro w₃ still₃
    apply meets_writeMonitor
    intro w₄ still₄
    have after := still₃.trans still₄
    exact ⟨rfl, after.prompt inTime, still₁.trans (still₂.trans after)⟩
  · intro _ b' w₂ post
    obtain ⟨same, late⟩ := post
    refine ⟨same, ?_⟩
    intro prompt
    have inTime : w₁.Prompt := still₁.prompt prompt
    exact Nat.not_le_of_lt inTime (late inTime)

/-- A driver that starts decides the frequencies, whether or not it takes the place of another. -/
theorem startRfic_meets (b : Board) (w : Hardware) :
    Meets Hardware.contract setup startRfic b w
      (fun _ b' t => (∃ handle, b' = { b with rfic := some handle }) ∧ t.frontEnd = w.frontEnd ∧
        t.lo = setup.config.rfic.loHz ∧ t.due = w.due)
      (fun _ _ _ => False) := by
  simp only [startRfic, meets_bind, meets_releaseRfic, meets_read, meets_step, meets_startRfic,
    meets_modify, meets_transceiver, throwIfStatus_ok, throwIfStatus_error, meets_pure, meets_throw,
    ExceptT.stM_eq, Hardware.allows_all, Hardware.answers_releaseRfic, Hardware.answers_startRfic_ok,
    Hardware.answers_startRfic_error, Hardware.answers_rfic_ok, Hardware.answers_rfic_error,
    Hardware.rfic, Option.some.injEq, mk.injEq, forall_exists_index, forall_eq_apply_imp_iff,
    forall_const, imp_self, implies_true, and_true, true_and, imp_false, exists_and_left, ↓existsAndEq,
    forall_eq', reduceCtorEq, not_false_eq_true, and_self]
  refine ⟨?_, ?_⟩
  · intro _ _ _ _ w₁ _ released _ _ w₂ _ started
    rw [started, released]
    exact ⟨rfl, rfl, rfl⟩
  · intro _ _ _ w₁ _ started
    rw [started]
    exact ⟨rfl, rfl, rfl⟩

/-- A board that was just set up: everything is turned off, and tuned as it was configured. -/
structure Fresh (setup : Setup) (b : Board) (w : Hardware) : Prop where
  last : b.stage = .initialized
  driver : b.rfic.isSome
  prompt : w.Prompt
  off : w.frontEnd = 0
  lo : w.lo = setup.config.rfic.loHz

/-- Setting up ends with a fresh board, unless the power monitor is late. -/
theorem setUp_meets (b : Board) (w : Hardware) (stage : b.stage = .fpgaLoaded) :
    Meets Hardware.contract setup setUp b w (fun _ b' t => Fresh setup b' t)
      (fun _ b' _ => b'.stage = .fpgaLoaded ∧ ¬w.Prompt) := by
  simp only [setUp, identifyFpga, bind_assoc, meets_bind, meets_modify, meets_step, meets_transport,
    meets_read, meets_warnIncompatible, Hardware.allows_all, Hardware.answers_transport_ok,
    Hardware.answers_transport_error, Hardware.transport, IsEmpty.forall_iff, implies_true, and_true,
    true_and, and_imp, forall_eq, forall_eq_apply_imp_iff, forall_const]
  intro version
  apply (startMonitor_meets _ _ _).mono
  · intro _ b₁ w₁ post
    obtain ⟨rfl, inTime, still⟩ := post
    apply (startRfic_meets _ w₁).mono
    · intro _ b₂ w₂ post
      obtain ⟨⟨handle, rfl⟩, frontEnd, lo, due⟩ := post
      have loaded : Stage.fpgaLoaded ≤ b.stage := by
        rw [stage]
        decide
      have both : w₂.frontEnd = FrontEnd.bothEnabled := frontEnd.trans still.frontEnd
      dsimp only
      rw [meets_selectBand, meets_selectBand]
      · have prompt : w₂.Prompt := by
          rw [Hardware.Prompt, due]
          exact inTime
        refine ⟨rfl, rfl, prompt, ?_, lo⟩
        have cleared : FrontEnd.disable (FrontEnd.disable w₂.frontEnd .tx) .rx = 0 := by
          rw [both]
          rfl
        simp only [Hardware.switched, FrontEnd.turn_isEnabled, cleared, FrontEnd.withSwitch_zero]
      · exact loaded
      · rfl
      · exact loaded
      · rfl
    · intro e b₂ w₂ never
      exact never.elim
  · intro _ b₁ w₁ post
    obtain ⟨rfl, late⟩ := post
    exact ⟨stage, late⟩

end Hardware

/-- A board that was set up, with hardware that is routed. -/
structure Settled (b : Board) (w : Hardware) (named : Direction → Bool) : Prop where
  driver : b.rfic.isSome
  prompt : w.Prompt
  routed : w.Routed named

theorem Fresh.settled {w : Hardware} (fresh : Fresh setup b w) (named : Direction → Bool) :
    Settled b w named :=
  ⟨fresh.driver, fresh.prompt, Hardware.routed_of_frontEnd_eq_zero fresh.off named⟩

/-- What holds after every operation: a board at the last stage is settled, and it stays there. -/
structure Kept (before : Stage) (named : Direction → Bool) (b : Board) (w : Hardware) : Prop where
  settled : b.stage = .initialized → Settled b w named
  stays : before = .initialized → b.stage = .initialized

/-- For which directions the port was last chosen by name, once an operation has succeeded. -/
def Operation.named (named : Direction → Bool) : Operation → Direction → Bool
  | setPort channel _ => update named (Direction.ofChannel channel) true
  | setFrequency channel _ | enableModule channel true => update named (Direction.ofChannel channel) false
  | loadFpga _ => fun _ => false
  | _ => named

section Operations

variable {w : Hardware} {named : Direction → Bool}

/-- An operation for boards at the last stage may assume that its board is settled. -/
theorem meets_initialized {act : Action α} {ok : α → Board → Hardware → Prop}
    (h : b.stage = .initialized → Settled b w named)
    (next : b.stage = .initialized → Settled b w named →
      Meets Hardware.contract setup act b w ok fun _ b' t => Kept b.stage named b' t) :
    Meets Hardware.contract setup (do expect .initialized; act) b w ok
      fun _ b' t => Kept b.stage named b' t := by
  rw [meets_bind, meets_expect_initialized]
  refine ⟨?_, ?_⟩
  · intro last
    exact next last (h last)
  · intro _
    exact ⟨h, id⟩

theorem setFrequency_kept (h : b.stage = .initialized → Settled b w named) (channel : UInt8)
    (hz : UInt64) :
    Meets Hardware.contract setup (setFrequency channel hz) b w
      (fun _ b' t => Kept b.stage (update named (Direction.ofChannel channel) false) b' t)
      (fun _ b' t => Kept b.stage named b' t) := by
  apply meets_initialized h
  intro last settled
  dsimp only
  rw [meets_ite]
  refine ⟨?_, ?_⟩
  · intro _
    exact ⟨h, id⟩
  · intro _
    rw [meets_bind, Hardware.meets_setLo settled.driver, meets_step,
      meets_selectBand (le_of_initialized last _) settled.driver]
    refine ⟨fun _ => ⟨settled.driver, settled.prompt, ?_⟩, fun _ => last⟩
    apply settled.routed.switched (Direction.ofChannel channel) _ hz
    · rfl
    · intro _
      exact Function.update_self _ _ _
    · intro _
      exact Function.update_self _ _ _
    all_goals
      intro e he
      exact Function.update_of_ne he _ _

theorem setPort_kept (h : b.stage = .initialized → Settled b w named) (channel : UInt8) (name : String) :
    Meets Hardware.contract setup (setPort channel name) b w
      (fun _ b' t => Kept b.stage (update named (Direction.ofChannel channel) true) b' t)
      (fun _ b' t => Kept b.stage named b' t) := by
  apply meets_initialized h
  intro last settled
  dsimp only
  cases Rfic.Port.ofName? (Direction.ofChannel channel) name with
  | none => exact ⟨h, id⟩
  | some id =>
    rw [Hardware.meets_setPort settled.driver]
    exact ⟨fun _ => ⟨settled.driver, settled.prompt, settled.routed.rename _ id⟩, fun _ => last⟩

theorem enable_kept (h : b.stage = .initialized → Settled b w named) (channel : UInt8) :
    Meets Hardware.contract setup (enableModule channel true) b w
      (fun _ b' t => Kept b.stage (update named (Direction.ofChannel channel) false) b' t)
      (fun _ b' t => Kept b.stage named b' t) := by
  apply meets_initialized h
  intro last settled
  dsimp only
  rw [if_pos rfl, meets_bind, meets_step, meets_getFrequency last settled.driver, meets_bind, meets_step,
    meets_setPortFor (le_of_initialized last _) settled.driver, meets_switchModule]
  refine ⟨fun _ => ⟨settled.driver, settled.prompt, ?_⟩, fun _ => last⟩
  apply settled.routed.switched (Direction.ofChannel channel) true (w.lo (Direction.ofChannel channel))
  · rfl
  · intro _
    rfl
  · intro _
    exact Function.update_self _ _ _
  · intro e he
    rfl
  all_goals
    intro e he
    exact Function.update_of_ne he _ _

theorem disable_kept (h : b.stage = .initialized → Settled b w named) (channel : UInt8) :
    Meets Hardware.contract setup (enableModule channel false) b w
      (fun _ b' t => Kept b.stage named b' t) (fun _ b' t => Kept b.stage named b' t) := by
  apply meets_initialized h
  intro last settled
  have off : (w.switched (Direction.ofChannel channel) false 0).Routed named := by
    apply settled.routed.switched (Direction.ofChannel channel) false 0
    · rfl
    · intro on
      exact absurd on Bool.false_ne_true
    · intro on
      exact absurd on Bool.false_ne_true
    all_goals
      intro e he
      rfl
  dsimp only
  rw [if_neg Bool.false_ne_true, meets_bind, meets_stopSync_hardware, meets_switchModule]
  have keeps := withSync_keeps b none (Direction.ofChannel channel)
  refine ⟨fun _ => ⟨?_, settled.prompt, off⟩, fun _ => ?_⟩
  · rw [keeps.2]
    exact settled.driver
  · rw [keeps.1]
    exact last

theorem configureSync_kept (h : b.stage = .initialized → Settled b w named) (layout : Layout)
    (format : SampleFormat) (buffers bufferSize transfers : UInt32) (timeoutMs : Nat) :
    Meets Hardware.contract setup
      (configureSync layout format buffers bufferSize transfers timeoutMs) b w
      (fun _ b' t => Kept b.stage named b' t) (fun _ b' t => Kept b.stage named b' t) := by
  apply meets_initialized h
  intro last settled
  have same (b' : Board) (stage : b'.stage = b.stage) (rfic : b'.rfic = b.rfic) :
      Kept b.stage named b' w := by
    refine ⟨fun _ => ⟨?_, settled.prompt, settled.routed⟩, fun _ => stage.trans last⟩
    rw [rfic]
    exact settled.driver
  dsimp only
  rw [meets_bind, meets_get, meets_bind, meets_stopSync_hardware, meets_bind, meets_streaming]
  have stopped := withSync_keeps b none layout.direction
  refine ⟨trivial, ?_, ?_⟩
  · intro handle t answer
    have started := withSync_keeps (b.withSync none layout.direction) (some handle) layout.direction
    rw [Hardware.answers_streaming_ok] at answer
    subst answer
    rw [meets_modify]
    exact same _ (started.1.trans stopped.1) (started.2.trans stopped.2)
  · intro e t answer
    exact absurd answer (Hardware.answers_streaming_error _ _ _ _)

theorem loadFpga_kept (h : b.stage = .initialized → Settled b w named) (image : ByteArray) :
    Meets Hardware.contract setup (loadFpga image) b w
      (fun _ b' t => Kept b.stage (fun _ => false) b' t)
      (fun _ b' t => Kept b.stage named b' t) := by
  have refused : Kept b.stage named b w := ⟨h, id⟩
  rw [loadFpga, meets_bind, meets_expect]
  refine ⟨?_, fun _ => refused⟩
  intro _
  rw [meets_bind, meets_expectBitstream]
  refine ⟨?_, fun _ => refused⟩
  intro _
  rw [meets_bind, Hardware.meets_transport]
  intro _ t answer
  obtain ⟨value, rfl⟩ := answer
  rw [meets_bind, meets_modify, meets_step]
  apply (setUp_meets _ _ rfl).mono
  · intro _ b' t fresh
    exact ⟨fun _ => fresh.settled _, fun _ => fresh.last⟩
  · intro _ b' t post
    obtain ⟨loaded, late⟩ := post
    refine ⟨?_, ?_⟩
    · intro last
      rw [loaded] at last
      exact absurd last (by decide)
    · intro last
      exact absurd (h last).prompt late

/-- The operations that may change the front end, a frequency, a port or a stream of the board. -/
def Operation.steers : Operation → Bool
  | setFrequency _ _ | setPort _ _ | enableModule _ _ | loadFpga _ | configureSync _ _ _ _ _ _ => true
  | _ => false

theorem meets_of_confined {C : boardInterface.Call → Prop} {act : Action α} (confined : Confined C act)
    (still : ∀ c, C c → ∀ w x t, Hardware.contract.answers w c x t → w.Still t) :
    Meets Hardware.contract setup act b w (fun _ b' t => b' = b ∧ w.Still t)
      fun _ b' t => b' = b ∧ w.Still t := by
  have unmoving : ∀ c, C c → ∀ s, w.Still s → Hardware.contract.allows s c ∧
      ∀ x t, Hardware.contract.answers s c x t → w.Still t := by
    intro c quiet s same
    exact ⟨trivial, fun x t answer => same.trans (still c quiet s x t answer)⟩
  exact confined.under w.Still (.refl w) unmoving setup b

/-- All other operations leave the board as it is and hold the hardware still. -/
theorem perform_still (o : Operation) (h : o.steers = false) :
    Meets Hardware.contract setup o.perform b w (fun _ b' t => b' = b ∧ w.Still t)
      fun _ b' t => b' = b ∧ w.Still t := by
  cases o
  case setFrequency | setPort | enableModule | loadFpga | configureSync => cases h
  case transmit samples metadata timeoutMs =>
    exact meets_of_confined (transmit_moving samples metadata timeoutMs)
      fun _ moving _ _ _ => Hardware.answers_moving moving
  case receive size metadata timeoutMs =>
    exact meets_of_confined (receive_moving size metadata timeoutMs)
      fun _ moving _ _ _ => Hardware.answers_moving moving
  all_goals
    exact meets_of_confined (perform_passive _ rfl) fun _ passive _ _ _ => Hardware.answers_passive passive

theorem kept_of_still (h : b.stage = .initialized → Settled b w named) {b' : Board} {t : Hardware}
    (post : b' = b ∧ w.Still t) : Kept b.stage named b' t := by
  obtain ⟨rfl, unmoved⟩ := post
  refine ⟨?_, id⟩
  intro last
  have settled := h last
  exact ⟨settled.driver, unmoved.prompt settled.prompt, settled.routed.still unmoved⟩

theorem perform_kept (o : Operation) (h : b.stage = .initialized → Settled b w named) :
    Meets Hardware.contract setup o.perform b w
      (fun _ b' t => Kept b.stage (o.named named) b' t) (fun _ b' t => Kept b.stage named b' t) := by
  cases o
  case setFrequency channel hz => exact setFrequency_kept h channel hz
  case setPort channel name => exact setPort_kept h channel name
  case enableModule channel on =>
    cases on with
    | false => exact disable_kept h channel
    | true => exact enable_kept h channel
  case loadFpga image => exact loadFpga_kept h image
  case configureSync layout format buffers bufferSize transfers timeoutMs =>
    exact configureSync_kept h layout format buffers bufferSize transfers timeoutMs
  all_goals exact (perform_still _ rfl).imp fun _ _ => kept_of_still h

end Operations

/-! Bringing a board up. -/

section BringUp

variable {w : Hardware}

/-- A board that is brought up is at an earlier stage, or it is fresh. -/
theorem bringUp_meets (b : Board) (w : Hardware) :
    Meets Hardware.contract setup bringUp b w
      (fun _ b' t => b'.stage = .initialized → Fresh setup b' t) (fun _ _ _ => True) := by
  rw [meets_bringUp]
  apply ((greet_meets setup b).of_only fun _ _ _ => trivial).mono _ fun _ _ _ _ => trivial
  rintro _ b₁ w₁ ⟨stage, -⟩
  -- Whatever ends before the set-up ends at this early stage.
  have early : b₁.stage ≠ .initialized := by
    rw [stage]
    decide
  refine ⟨fun _ last => absurd last early, fun _ => ?_⟩
  have provided : Confined (fun _ => True) provideFpga := provideFpga_confined trivial fun _ => trivial
  apply ((provided setup _).of_only fun _ _ _ => trivial).mono _ fun _ _ _ _ => trivial
  rintro configured _ w₂ rfl
  refine ⟨fun _ => ?_, fun _ last => absurd last early⟩
  exact (setUp_meets _ _ rfl).mono (fun _ _ _ fresh _ => fresh) fun _ _ _ _ => trivial

theorem start_meets (w : Hardware) :
    (start setup).Meets Hardware.contract w fun r t =>
      ∀ b, r = .ok b → b.stage = .initialized → Fresh setup b t := by
  apply meets_start
  exact (bringUp_meets {} w).mono (fun _ _ _ fresh => fresh) fun _ _ _ _ => meets_true (fun _ _ => trivial) _

theorem start_settled (w : Hardware) :
    (start setup).Meets Hardware.contract w fun r t =>
      ∀ b, r = .ok b → b.stage = .initialized → ∀ named, Settled b t named := by
  apply (start_meets w).mono
  intro r t fresh b opened last named
  exact (fresh b opened last).settled named

end BringUp

/-- A session under way: the board, its collaborators, and the directions whose port was last chosen by
name. -/
structure Scene (σ : Type) where
  board : Board
  world : σ
  named : Direction → Bool

def Scene.after (h : Handler boardInterface σ) (setup : Setup) (x : Scene σ) (o : Operation) : Scene σ :=
  let run := (o.attempt setup x.board).run h x.world
  ⟨run.result.2, run.state, if run.result.1.isOk then o.named x.named else x.named⟩

/-- Board and collaborators are those that the session ends with. -/
theorem foldl_after (h : Handler boardInterface σ) (setup : Setup) (ops : List Operation) (x : Scene σ) :
    let final := ops.foldl (Scene.after h setup) x
    let run := (session setup ops x.board).run h x.world
    run.result = final.board ∧ run.state = final.world := by
  induction ops generalizing x with
  | nil => exact ⟨rfl, rfl⟩
  | cons o ops ih =>
    have next := ih (x.after h setup o)
    rw [session, Program.bind_eq, Program.run_bind]
    exact next

theorem after_kept {h : Handler boardInterface σ} {view : σ → Hardware} (like : Hardware.IsView h view)
    (setup : Setup) (x : Scene σ) (o : Operation)
    (settled : x.board.stage = .initialized → Settled x.board (view x.world) x.named) :
    Kept x.board.stage (x.after h setup o).named (x.after h setup o).board
      (view (x.after h setup o).world) := by
  have met : Meets Hardware.contract setup o.perform x.board (view x.world) _ _ := perform_kept o settled
  obtain ⟨t, _, post, same⟩ := Program.Meets.run (p := o.attempt setup x.board) like rfl met
  subst same
  rw [Scene.after]
  generalize (o.attempt setup x.board).run h x.world = run at post ⊢
  obtain ⟨events, ⟨result, b⟩, state⟩ := run
  cases result with
  | ok a => exact post
  | error e => exact post

theorem foldl_after_kept {h : Handler boardInterface σ} {view : σ → Hardware}
    (like : Hardware.IsView h view) (setup : Setup) (ops : List Operation) (x : Scene σ)
    (settled : x.board.stage = .initialized → Settled x.board (view x.world) x.named) :
    let final := ops.foldl (Scene.after h setup) x
    Kept x.board.stage final.named final.board (view final.world) := by
  induction ops generalizing x with
  | nil => exact ⟨settled, id⟩
  | cons o ops ih =>
    have one := after_kept like setup x o settled
    have rest := ih (x.after h setup o) one.settled
    exact ⟨rest.settled, fun last => rest.stays (one.stays last)⟩

/-- Whatever is asked of a board that was opened, it stays at the last stage once it is there, and then
every antenna switch and every port follows its direction's enable bit and frequency. -/
theorem session_routed {h : Handler boardInterface σ} {view : σ → Hardware}
    (like : Hardware.IsView h view) (setup : Setup) (world : σ) {b : Board}
    (opened : ((start setup).run h world).result = .ok b) (ops : List Operation) :
    let begun : Scene σ := ⟨b, ((start setup).run h world).state, fun _ => false⟩
    let final := ops.foldl (Scene.after h setup) begun
    (b.stage = .initialized → final.board.stage = .initialized) ∧
    (final.board.stage = .initialized → (view final.world).Routed final.named) := by
  intro begun final
  obtain ⟨t, _, post, same⟩ := Program.Meets.run like (t := world) rfl
    (start_settled (view world))
  subst same
  have settled : b.stage = .initialized → Settled b (view begun.world) begun.named :=
    fun last => post b opened last _
  have kept := foldl_after_kept like setup ops begun settled
  exact ⟨kept.stays, fun last => (kept.settled last).routed⟩

theorem session_routed_bench :
    ∃ b, ((start .plain).run Bench.handler .configured).result = .ok b ∧ b.stage = .initialized ∧
      let final := [.enableModule 0 true, .setFrequency 0 5800000000, .setPort 1 "TXB",
        .setFrequency 1 1].foldl (Scene.after Bench.handler .plain)
          ⟨b, ((start .plain).run Bench.handler .configured).state, fun _ => false⟩
      final.board.stage = .initialized ∧ final.world.view.Routed final.named := by
  obtain ⟨b, opened, last⟩ : ∃ b, ((start .plain).run Bench.handler .configured).result = .ok b ∧
      b.stage = .initialized := ⟨_, rfl, rfl⟩
  have routed := session_routed Bench.isView .plain .configured opened
    [.enableModule 0 true, .setFrequency 0 5800000000, .setPort 1 "TXB", .setFrequency 1 1]
  exact ⟨b, opened, last, routed.1 last, routed.2 (routed.1 last)⟩

end Board

end RadioBoard
