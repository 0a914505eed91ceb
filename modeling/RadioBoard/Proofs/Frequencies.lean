import RadioBoard.Proofs.FrontEnd
import RadioBoard.Proofs.Ranges
import RadioBoard.Proofs.Transceiver

/-!
The tables of frequencies agree.

What a direction can be tuned to lies in one of its two bands, and on receive in a range of frequencies that
has a gain. Main statement: only a frequency outside of the tuning range is refused, and then without a call;
every other one has a band whose path is connected, and tuning to it leaves a receiver whose gain is in reach.
-/

namespace RadioBoard

open Function (update)
open Contract (tracing)

/-- The band of a frequency that can be tuned to. -/
def Band.split (hz : UInt64) : Band := if hz.toNat < 3000000000 then .low else .high

theorem Band.ofFrequency_eq (d : Direction) {hz : UInt64} (lowest : 70000000 ≤ hz.toNat)
    (highest : hz.toNat ≤ 6000000000) : Band.ofFrequency d hz = Band.split hz := by
  have within (low high : Int64) (positive : 0 ≤ low.toInt) :
      (⟨low, high, 2, 1⟩ : ScaledRange Rat).contains hz.toInt64 =
        decide (low.toInt ≤ hz.toNat ∧ (hz.toNat : Int) ≤ high.toInt) :=
    ScaledRange.contains_frequency_eq rfl positive hz
  have edges : (70000000 : Int64).toInt = 70000000 ∧ (46875000 : Int64).toInt = 46875000 ∧
      (2999999999 : Int64).toInt = 2999999999 ∧ (3000000000 : Int64).toInt = 3000000000 ∧
      (6000000000 : Int64).toInt = 6000000000 := by
    decide
  have rows (start : Int64) (positive : 0 ≤ start.toInt) (least : start.toInt ≤ 70000000) :
      (⟨start, 2999999999, 2, 1⟩ : ScaledRange Rat).contains hz.toInt64 = decide (hz.toNat < 3000000000) ∧
      (⟨3000000000, 6000000000, 2, 1⟩ : ScaledRange Rat).contains hz.toInt64 =
        decide (3000000000 ≤ hz.toNat) := by
    rw [within start _ positive, within 3000000000 _ (by decide), edges.2.2.1, edges.2.2.2.1, edges.2.2.2.2]
    exact ⟨decide_eq_decide.mpr (by omega), decide_eq_decide.mpr (by omega)⟩
  obtain ⟨rxLow, high⟩ := rows 70000000 (by decide) (by rw [edges.1])
  obtain ⟨txLow, _⟩ := rows 46875000 (by decide) (by rw [edges.2.1]; decide)
  rw [Band.ofFrequency, Band.ofFrequency?, Band.split]
  by_cases low : hz.toNat < 3000000000
  · cases d <;> simp [Band.table, rxLow, txLow, low]
  · have above : 3000000000 ≤ hz.toNat := by omega
    cases d <;> simp [Band.table, rxLow, txLow, high, low, above]

/-- Either band is connected. -/
theorem SignalPath.switch_ne_disconnected (d : Direction) (hz : UInt64) :
    (SignalPath.ofBand d (Band.split hz)).switch ≠ SignalPath.disconnected := by
  rw [Band.split]
  split_ifs <;> cases d <;> decide

/-- The path of a direction that is enabled at a frequency that it can be tuned to. -/
theorem SignalPath.inUse_tunable (d : Direction) {hz : UInt64} (lowest : 70000000 ≤ hz.toNat)
    (highest : hz.toNat ≤ 6000000000) : SignalPath.inUse d true hz = SignalPath.ofBand d (Band.split hz) := by
  rw [SignalPath.inUse, Band.inUse, if_pos rfl, Band.ofFrequency_eq d lowest highest]

theorem Error.ofStatus_ne_outOfRange (code : Int32) : Error.ofStatus code ≠ .outOfRange := by
  unfold Error.ofStatus
  split <;> exact nofun

/-- Oscillators that keep and tell what they were tuned to. Any call may fail, and of the calls that tuning
comes with none has a part in them. -/
def oscillators : Contract boardInterface (Direction → UInt64) where
  allows _ _ := True
  answers lo
    | .inr (.rfic _ (.lo d)), x, lo' => (∀ hz, x = .ok hz → hz = lo d) ∧ lo' = lo
    | .inr (.rfic _ (.setLo d hz)), x, lo' => x = .ok () → lo' = update lo d hz
    | .inr (.rfic _ (.setPort _ _)), _, lo' | .inl .readFrontEnd, _, lo' => lo' = lo
    | .inl (.writeFrontEnd _), _, lo' => lo' = lo
    | _, _, _ => True

def ReadsBack {σ : Type} (h : Handler boardInterface σ) (lo : σ → Direction → UInt64) : Prop :=
  oscillators.KeptBy h fun s f => f = lo s

theorem Hardware.IsView.readsBack {σ : Type} {h : Handler boardInterface σ} {view : σ → Hardware}
    (like : Hardware.IsView h view) : ReadsBack h fun s => (view s).lo := by
  rintro s _ c rfl
  obtain ⟨w, answers, seen⟩ := like s _ c rfl
  refine ⟨_, ?_, rfl⟩
  subst seen
  cases c with
  | inl c =>
    obtain ⟨_, _, answers⟩ := answers
    cases c
    case readFrontEnd => exact congrArg Hardware.lo answers.2
    case writeFrontEnd value => exact (congrArg Hardware.lo answers).trans rfl
    all_goals trivial
  | inr c =>
    cases c
    case rfic handle c =>
      obtain ⟨reply, told, answers⟩ := answers
      cases c
      case lo d =>
        obtain ⟨rfl, still⟩ := answers
        exact ⟨fun hz same => Except.ok.inj (same.symm.trans told), congrArg Hardware.lo still⟩
      case setLo d hz => exact fun _ => congrArg Hardware.lo answers
      case setPort d id => exact (congrArg Hardware.lo answers).trans rfl
      all_goals trivial
    all_goals trivial

namespace Board

section Tracing

variable {setup : Setup} {b : Board} {trace : List (Event boardInterface)} {fail : Error → Board →
  List (Event boardInterface) → Prop}

theorem meets_transport_tracing (operation : String) (c : Transport.Call) (detail : String)
    {ok : c.Reply → Board → List (Event boardInterface) → Prop}
    (good : ∀ reply, ok reply b (trace ++ [.called (.inl c) (.ok reply)]))
    (bad : ∀ e, fail e b (trace ++ [.called (.inl c) (.error e)])) :
    Meets tracing setup (transport operation c detail) b trace ok fail := by
  rw [meets_transport]
  refine ⟨trivial, ?_, ?_⟩
  · rintro reply _ rfl
    exact good reply
  · rintro e _ rfl
    exact bad e

theorem meets_rfic_tracing (handle : Rfic.Handle) (c : Rfic.Call)
    {ok : c.Reply → Board → List (Event boardInterface) → Prop}
    (good : ∀ reply, ok reply b (trace ++ [answered handle c reply]))
    (bad : ∀ code, fail (.ofStatus code) b (trace ++ [.called (.inr (.rfic handle c)) (.error code)])) :
    Meets tracing setup (do throwIfStatus (← peer (.rfic handle c))) b trace ok fail := by
  rw [meets_bind, meets_rfic]
  refine ⟨trivial, ?_, ?_⟩
  · rintro reply _ rfl
    exact good reply
  · rintro code _ rfl
    exact bad code

end Tracing

/-- The calls of a tuning that succeeds. -/
def tuningCalls (handle : Rfic.Handle) (d : Direction) (hz : UInt64) (register : UInt32) :
    List (Event boardInterface) :=
  let path := SignalPath.inUse d (FrontEnd.isEnabled register d) hz
  [answered handle (.setLo d hz) (), .called (.inl .readFrontEnd) (.ok register),
    answered handle (.setPort d path.port) (),
    .called (.inl (.writeFrontEnd (FrontEnd.withSwitch register d path.switch))) (.ok ())]

/-- Tuning, call by call. -/
theorem setFrequency_traced (setup : Setup) {b : Board} (last : b.stage = .initialized) (channel : UInt8)
    (hz : UInt64) :
    let d := Direction.ofChannel channel
    let tunable := 70000000 ≤ hz.toNat ∧ hz.toNat ≤ 6000000000
    Meets tracing setup (setFrequency channel hz) b []
      (fun _ b' t => b' = b ∧ tunable ∧ ∃ handle register, b.rfic = some handle ∧
        t = tuningCalls handle d hz register)
      fun e _ t => ¬tunable ∧ e = .outOfRange ∧ t = [] ∨ tunable ∧ (e ≠ .outOfRange ∨ t ≠ []) := by
  intro d tunable
  have contained := frequencyRange_contains d hz
  rw [setFrequency, meets_past_expect last]
  dsimp only
  rw [meets_ite]
  refine ⟨?_, ?_⟩
  · intro outside
    refine .inl ⟨fun inside => ?_, rfl, rfl⟩
    rw [contained.mpr inside] at outside
    exact absurd outside (by decide)
  · intro inside
    have inside : tunable := by
      apply contained.mp
      simpa using inside
    rw [meets_bind]
    cases held : b.rfic with
    | none =>
      rw [meets_transceiver_of_none held]
      exact .inr ⟨inside, .inl (by simp)⟩
    | some handle =>
      rw [transceiver, meets_bind, meets_driver_of_some held, meets_step]
      apply meets_rfic_tracing
      · intro _
        rw [meets_step, selectBand, meets_bind, meets_expect_of_le (le_of_initialized last _), meets_bind]
        apply meets_transport_tracing
        · intro register
          rw [meets_bind, meets_switchFor, meets_bind, meets_step, setPortFor, meets_bind,
            meets_expect_of_le (le_of_initialized last _), meets_bind, meets_pathInUse, meets_bind,
            meets_driver_of_some held, meets_step]
          apply meets_rfic_tracing
          · intro _
            apply meets_transport_tracing
            · intro _
              exact ⟨rfl, inside, handle, register, rfl, rfl⟩
            · intro _
              exact .inr ⟨inside, .inr (by simp)⟩
          · intro _
            exact .inr ⟨inside, .inr (by simp)⟩
        · intro _
          exact .inr ⟨inside, .inr (by simp)⟩
      · intro _
        exact .inr ⟨inside, .inr (by simp)⟩

/-! What is told of the gain after tuning. -/

section Oscillators

variable {setup : Setup} {b : Board} {lo : Direction → UInt64}

/-- The driver fails for reasons of its own. -/
theorem meets_transceiver_inRange (operation : String) (c : Rfic.Call) (detail : String)
    {ok : c.Reply → Board → (Direction → UInt64) → Prop} {fail : Error → Board → (Direction → UInt64) → Prop}
    (good : ∀ handle reply lo', oscillators.answers lo (.inr (.rfic handle c)) (.ok reply) lo' → ok reply b lo')
    (bad : ∀ e lo', e ≠ .outOfRange → fail e b lo') :
    Meets oscillators setup (transceiver operation c detail) b lo ok fail := by
  rw [meets_transceiver]
  refine ⟨fun handle _ => ⟨trivial, good handle, ?_⟩, fun _ => bad _ _ nofun⟩
  intro code lo' _
  exact bad _ lo' (Error.ofStatus_ne_outOfRange code)

/-- An oscillator stays tuned while the rest is switched. -/
theorem setFrequency_tunes (last : b.stage = .initialized) (channel : UInt8) (hz : UInt64) :
    Meets oscillators setup (setFrequency channel hz) b lo
      (fun _ b' lo' => b' = b ∧ lo' (Direction.ofChannel channel) = hz) fun _ _ _ => True := by
  rw [setFrequency, meets_past_expect last]
  dsimp only
  rw [meets_ite]
  refine ⟨fun _ => trivial, fun _ => ?_⟩
  rw [meets_bind]
  apply meets_transceiver_inRange
  · intro handle _ lo' tuned
    obtain rfl := tuned rfl
    rw [meets_step]
    simp [selectBand, setPortFor, oscillators]
  · exact fun _ _ _ => trivial

theorem getGainRange_inRange (last : b.stage = .initialized) {channel : UInt8}
    (tunable : (frequencyRange (Direction.ofChannel channel)).contains
      (lo (Direction.ofChannel channel)).toInt64 = true) :
    Meets oscillators setup (getGainRange channel) b lo (fun _ b' _ => b' = b) fun e _ _ => e ≠ .outOfRange := by
  rw [getGainRange, meets_past_expect last]
  cases own : Direction.ofChannel channel with
  | tx => rfl
  | rx =>
    dsimp only
    rw [meets_bind, meets_step, getFrequency, meets_past_expect last, own]
    apply meets_transceiver_inRange
    · rintro handle hz lo' ⟨told, rfl⟩
      obtain rfl := told hz rfl
      rw [own] at tunable
      obtain ⟨r, range⟩ := Option.isSome_iff_exists.mp (rxGainRange?_isSome tunable)
      rw [range]
      rfl
    · exact fun _ _ other => other

/-- Whatever comes after the range of a gain, as far as it is not refused. -/
theorem setGain_inRange (last : b.stage = .initialized) {channel : UInt8}
    (tunable : (frequencyRange (Direction.ofChannel channel)).contains
      (lo (Direction.ofChannel channel)).toInt64 = true) (db : Int32) :
    Meets oscillators setup (setGain channel db) b lo (fun _ _ _ => True) fun e _ _ => e ≠ .outOfRange := by
  rw [setGain, meets_past_expect last, meets_bind, meets_step]
  apply (getGainRange_inRange last tunable).mono _ fun _ _ _ => id
  rintro r b' lo' rfl
  rw [meets_bind, meets_clampTo]
  cases Direction.ofChannel channel with
  | tx =>
    apply meets_transceiver_inRange
    · exact fun _ _ _ _ => trivial
    · exact fun _ _ other => other
  | rx =>
    apply meets_transceiver_inRange
    · exact fun _ _ _ _ => trivial
    · exact fun _ _ other => other

theorem getGain_inRange (last : b.stage = .initialized) {channel : UInt8}
    (tunable : (frequencyRange (Direction.ofChannel channel)).contains
      (lo (Direction.ofChannel channel)).toInt64 = true) :
    Meets oscillators setup (getGain channel) b lo (fun _ _ _ => True) fun e _ _ => e ≠ .outOfRange := by
  rw [getGain, meets_past_expect last, meets_bind, meets_step]
  apply (getGainRange_inRange last tunable).mono _ fun _ _ _ => id
  rintro r b' lo' rfl
  cases Direction.ofChannel channel with
  | tx =>
    rw [meets_bind]
    apply meets_transceiver_inRange
    · exact fun _ _ _ _ => trivial
    · exact fun _ _ other => other
  | rx =>
    rw [meets_bind]
    apply meets_transceiver_inRange
    · exact fun _ _ _ _ => trivial
    · exact fun _ _ other => other

end Oscillators

section Runs

variable {σ : Type} (h : Handler boardInterface σ) (setup : Setup) {b : Board} (last : b.stage = .initialized)
  (channel : UInt8) (hz : UInt64) (s : σ)

include last

/-- What is refused without a call is what lies outside of the tuning range. -/
theorem refused_iff :
    let run := ((Operation.setFrequency channel hz).attempt setup b).run h s
    run.result.1 = .error .outOfRange ∧ calls run.events = [] ↔
      ¬(70000000 ≤ hz.toNat ∧ hz.toNat ≤ 6000000000) := by
  intro run
  obtain ⟨_, result, _, inside, _⟩ | ⟨e, result, refused⟩ :=
    Meets.recorded (setFrequency_traced setup last channel hz) h s
  · have done : run.result.1 = .ok () := congrArg Prod.fst result
    refine ⟨fun refused => ?_, fun outside => absurd inside outside⟩
    cases done.symm.trans refused.1
  · have failed : run.result.1 = .error e := congrArg Prod.fst result
    rw [failed]
    obtain ⟨outside, rfl, silent⟩ | ⟨inside, other⟩ := refused
    · exact ⟨fun _ => outside, fun _ => ⟨rfl, silent⟩⟩
    · refine ⟨fun refused => ?_, fun outside => absurd inside outside⟩
      rcases other with other | other
      · exact absurd (Except.error.inj refused.1) other
      · exact absurd refused.2 other

/-- A direction that is tuned while it is enabled is connected. -/
theorem tuned_path
    (done : (((Operation.setFrequency channel hz).attempt setup b).run h s).result.1 = .ok ()) :
    let d := Direction.ofChannel channel
    let run := ((Operation.setFrequency channel hz).attempt setup b).run h s
    ∃ handle register, b.rfic = some handle ∧ calls run.events = tuningCalls handle d hz register ∧
      (FrontEnd.isEnabled register d = true →
        let path := SignalPath.ofBand d (Band.split hz)
        SignalPath.inUse d (FrontEnd.isEnabled register d) hz = path ∧
        FrontEnd.switch (FrontEnd.withSwitch register d path.switch) d ≠ SignalPath.disconnected) := by
  intro d run
  obtain ⟨_, _, _, inside, handle, register, held, made⟩ | ⟨e, result, _⟩ :=
    Meets.recorded (setFrequency_traced setup last channel hz) h s
  · refine ⟨handle, register, held, made, fun on => ?_⟩
    have path := SignalPath.inUse_tunable d inside.1 inside.2
    have fits := SignalPath.switch_lt d true hz
    rw [path] at fits
    rw [on]
    refine ⟨path, ?_⟩
    rw [FrontEnd.switch_withSwitch_self _ _ fits]
    exact SignalPath.switch_ne_disconnected d hz
  · cases done.symm.trans (congrArg Prod.fst result)

variable {h} {lo : σ → Direction → UInt64} (reads : ReadsBack h lo)

include reads

/-- After tuning, the oscillator is where it can be tuned to. -/
theorem tuned_in_range
    (done : (((Operation.setFrequency channel hz).attempt setup b).run h s).result.1 = .ok ()) :
    let d := Direction.ofChannel channel
    let run := ((Operation.setFrequency channel hz).attempt setup b).run h s
    run.result.2 = b ∧ (frequencyRange d).contains (lo run.state d).toInt64 = true := by
  intro d run
  have tunable : (frequencyRange d).contains hz.toInt64 = true := by
    rw [frequencyRange_contains]
    by_contra outside
    cases done.symm.trans ((refused_iff h setup last channel hz s).mpr outside).1
  have tunes : Meets oscillators setup (setFrequency channel hz) b (lo s) _ _ := setFrequency_tunes last channel hz
  obtain ⟨f, _, rfl, ended⟩ := tunes.run reads (t := s) rfl
  obtain ⟨_, _, same, tuned⟩ | ⟨e, result, _⟩ := ended
  · refine ⟨same, ?_⟩
    rw [show lo run.state d = hz from tuned]
    exact tunable
  · cases done.symm.trans (congrArg Prod.fst result)

end Runs

/-- Only what lies outside of the tuning range is refused, without a call. Everything within it has one of two
bands, to which the front end is switched if the direction is enabled, and on receive a range of the gain, so
that after tuning the gain is in reach. -/
theorem tuning_tables_agree (setup : Setup) {b : Board} (last : b.stage = .initialized) (channel : UInt8)
    (hz : UInt64) :
    let d := Direction.ofChannel channel
    let tunable := 70000000 ≤ hz.toNat ∧ hz.toNat ≤ 6000000000
    let band : Band := if hz.toNat < 3000000000 then .low else .high
    (tunable → Band.ofFrequency d hz = band ∧
      (SignalPath.inUse d true hz).switch ≠ SignalPath.disconnected ∧
      (d = .rx → ∃ r, rxGainRange? hz = some r)) ∧
    ∀ (σ : Type) (h : Handler boardInterface σ) (s : σ),
      let run := ((Operation.setFrequency channel hz).attempt setup b).run h s
      (run.result.1 = .error .outOfRange ∧ calls run.events = [] ↔ ¬tunable) ∧
      (run.result.1 = .ok () →
        (∃ handle register, b.rfic = some handle ∧ calls run.events = tuningCalls handle d hz register ∧
          (FrontEnd.isEnabled register d = true →
            let path := SignalPath.ofBand d band
            SignalPath.inUse d (FrontEnd.isEnabled register d) hz = path ∧
            FrontEnd.switch (FrontEnd.withSwitch register d path.switch) d ≠ SignalPath.disconnected)) ∧
        ∀ lo : σ → Direction → UInt64, ReadsBack h lo →
          (((Operation.gainRange channel).attempt setup run.result.2).run h run.state).result.1 ≠
            .error .outOfRange ∧
          (((Operation.gain channel).attempt setup run.result.2).run h run.state).result.1 ≠
            .error .outOfRange ∧
          ∀ db, (((Operation.setGain channel db).attempt setup run.result.2).run h run.state).result.1 ≠
            .error .outOfRange) := by
  intro d tunable band
  refine ⟨?_, fun σ h s => ⟨refused_iff h setup last channel hz s, fun done => ?_⟩⟩
  · rintro ⟨lowest, highest⟩
    refine ⟨Band.ofFrequency_eq d lowest highest, ?_, fun _ => ?_⟩
    · rw [SignalPath.inUse_tunable d lowest highest]
      exact SignalPath.switch_ne_disconnected d hz
    · exact Option.isSome_iff_exists.mp (rxGainRange?_isSome ((frequencyRange_contains d hz).mpr ⟨lowest, highest⟩))
  · refine ⟨tuned_path h setup last channel hz s done, fun lo reads => ?_⟩
    obtain ⟨board, inRange⟩ := tuned_in_range setup last channel hz s reads done
    rw [board]
    have never {α : Type} {act : Action α} {ok : α → Board → (Direction → UInt64) → Prop} {t : σ}
        (met : Meets oscillators setup act b (lo t) ok fun e _ _ => e ≠ .outOfRange) :
        (((act setup).run b).run h t).result.1 ≠ .error .outOfRange := by
      intro refused
      obtain ⟨_, _, _, ⟨a, result, _⟩ | ⟨e, result, other⟩⟩ := met.run reads rfl
      · cases refused.symm.trans (congrArg Prod.fst result)
      · exact other (Except.error.inj ((congrArg Prod.fst result).symm.trans refused))
    exact ⟨never (getGainRange_inRange last inRange), never (getGain_inRange last inRange),
      fun db => never (setGain_inRange last inRange db)⟩

/-- A frequency that would count as one within the range if its highest bit were left out, and the lowest one of
the high band. -/
theorem tuning_tables_agree_bench :
    let s := ((start .plain).run Bench.handler .configured).state
    let b := onBench .plain
    let set (hz : UInt64) := ((Operation.setFrequency 0 hz).attempt .plain b).run Bench.handler s
    b.stage = .initialized ∧
      ((set 9223372037954775808).result.1 = .error .outOfRange ∧ calls (set 9223372037954775808).events = []) ∧
      (set 3000000000).result.1 = .ok () ∧ Band.ofFrequency .rx 3000000000 = .high ∧
      (((Operation.gain 0).attempt .plain (set 3000000000).result.2).run Bench.handler
        (set 3000000000).state).result.1 ≠ .error .outOfRange := by
  intro s b set
  have last : b.stage = .initialized := by decide +kernel
  have wrapped := (tuning_tables_agree .plain last 0 9223372037954775808).2 Bench Bench.handler s
  have edge := tuning_tables_agree .plain last 0 3000000000
  have done : (set 3000000000).result.1 = .ok () := by decide +kernel
  refine ⟨last, wrapped.1.mpr (by decide), done, (edge.1 (by decide)).1, ?_⟩
  exact (((edge.2 Bench Bench.handler s).2 done).2 _ Bench.isView.readsBack).2.1

end Board
end RadioBoard
