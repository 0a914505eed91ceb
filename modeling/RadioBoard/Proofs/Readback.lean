import RadioBoard.Proofs.Readiness
import RadioBoard.Proofs.Session
import RadioBoard.Proofs.Settings

/-!
What was set last is what is read back.

On a board at the last stage every query answers what the panel tells, and every setter that succeeds has
its effect on the panel. Main statement: after any sequence of setters, each query answers what the last
setter of the same setting has made of it, and what it answered before where there was none.
-/

namespace RadioBoard.Board

open Function (update)

/-- A board at the last stage, with a driver and with its oscillators in range. -/
structure Operating (b : Board) (w : Hardware) : Prop where
  last : b.stage = .initialized
  driver : b.rfic.isSome
  inRange : w.InRange

section Rules

variable {setup : Setup} {b : Board} {w : Hardware} {k : Dials} {x : Panel}
  {fail : Error → Board → Panel → Prop}

/-- Calls that neither tune nor switch are about the dials. -/
theorem meets_dial (driver : b.rfic.isSome) (operation : String) (c : Rfic.Call) (detail : String)
    (passive : ∀ handle, Passive (.inr (.rfic handle c))) {ok : c.Reply → Board → Panel → Prop}
    (next : ∀ reply w' k', x.1.Still w' → x.2.rfic c reply k' → ok reply b (w', k')) :
    Meets Panel.contract setup (transceiver operation c detail) b x ok fail := by
  rw [Panel.meets_transceiver driver]
  intro reply y hardware dials
  exact next reply y.1 y.2 (Hardware.rfic_passive (passive ⟨0⟩) hardware) dials

theorem meets_dialTransport (operation : String) (c : Transport.Call) (detail : String)
    (passive : Passive (.inl c)) {ok : c.Reply → Board → Panel → Prop}
    (next : ∀ reply w' k', x.1.Still w' → x.2.transport c reply k' → ok reply b (w', k')) :
    Meets Panel.contract setup (transport operation c detail) b x ok fail := by
  rw [Panel.meets_transport]
  intro reply y hardware dials
  exact next reply y.1 y.2 (Hardware.transport_passive passive hardware) dials

theorem meets_gainModeChannel {σ : Type} {K : Contract boardInterface σ} {s : σ} (operation : String)
    (channel : UInt8) {ok : UInt8 → Board → σ → Prop} {fail : Error → Board → σ → Prop} :
    Meets K setup (gainModeChannel operation channel) b s ok fail ↔
      match gainModePair? channel with
      | some pair => ok pair b s
      | none => fail .unsupported b s := by
  unfold gainModeChannel gainModePair?
  split_ifs <;> simp

/-- The range of the gain, for the frequency that the receivers are tuned to. -/
def gainRange? (w : Hardware) (channel : UInt8) : Option (ScaledRange Rat) :=
  match Direction.ofChannel channel with
  | .tx => some txGainRange
  | .rx => rxGainRange? (w.lo .rx)

theorem meets_getGainRange (ready : Operating b x.1) (channel : UInt8)
    {ok : ScaledRange Rat → Board → Panel → Prop}
    (next : ∀ r, gainRange? x.1 channel = some r → ok r b x) :
    Meets Panel.contract setup (getGainRange channel) b x ok fail := by
  rw [getGainRange, meets_past_expect ready.last]
  cases d : Direction.ofChannel channel with
  | tx => exact next txGainRange (by rw [gainRange?, d])
  | rx =>
    dsimp only
    rw [meets_bind, meets_step, getFrequency, meets_past_expect ready.last, Panel.meets_transceiver ready.driver]
    intro hz y first second
    obtain ⟨tuned, hardware⟩ := first
    obtain ⟨r, range⟩ := Option.isSome_iff_exists.mp (rxGainRange?_isSome (ready.inRange .rx))
    obtain rfl : y = x := Prod.ext hardware second
    rw [d] at tuned
    subst tuned
    simp only [range, meets_pure]
    exact next r (by rw [gainRange?, d, range])

end Rules

/-! Setters. -/

/-- A setter was accepted and has had its effect. -/
structure Turned (setup : Setup) (t : Setter) (b : Board) (x : Panel) (b' : Board) (y : Panel) : Prop where
  accepted : t.Accepted b
  stage : b'.stage = b.stage
  rfic : b'.rfic = b.rfic
  hardware : (t.hardware x.1).Still y.1
  dials : y.2 = t.dials setup x.1 x.2

section Setters

variable {setup : Setup} {b : Board} {x : Panel} (ready : Operating b x.1)

include ready

theorem tune_turned (t : Tuning) :
    Meets Panel.contract setup t.operation.perform b x
      (fun _ => Turned setup (.tune t) b x) fun _ _ _ => True := by
  apply (Panel.tuning_meets ready.last t).mono _ fun _ _ _ => id
  intro _ b' y post
  obtain ⟨accepted, rfl, rfl⟩ := post
  have keeps := t.board_keeps b
  exact ⟨accepted, keeps.1, keeps.2, .refl _, rfl⟩

theorem setSampleRate_turned (channel : UInt8) (hz : UInt32) :
    Meets Panel.contract setup (setSampleRate channel hz) b x
      (fun _ => Turned setup (.sampleRate channel hz) b x) fun _ _ _ => True := by
  rw [setSampleRate, meets_past_expect ready.last, meets_bind,
    meets_clampWord, sampleRateRange_clamp, meets_bind]
  apply meets_dial ready.driver
  · exact fun _ => trivial
  intro _ w' k' still set
  obtain rfl : k' = _ := set
  rw [getSampleRate, meets_past_expect ready.last]
  apply meets_dial ready.driver
  · exact fun _ => trivial
  intro _ w'' k'' still' told
  exact ⟨trivial, rfl, rfl, still.trans still', told.2⟩

theorem setBandwidth_turned (channel : UInt8) (hz : UInt32) :
    Meets Panel.contract setup (setBandwidth channel hz) b x
      (fun _ => Turned setup (.bandwidth channel hz) b x) fun _ _ _ => True := by
  rw [setBandwidth, meets_past_expect ready.last, meets_bind,
    meets_clampWord, bandwidthRange_clamp, meets_bind]
  apply meets_dial ready.driver
  · exact fun _ => trivial
  intro _ w' k' still set
  obtain rfl : k' = _ := set
  rw [getBandwidth, meets_past_expect ready.last]
  apply meets_dial ready.driver
  · exact fun _ => trivial
  intro _ w'' k'' still' told
  exact ⟨trivial, rfl, rfl, still.trans still', told.2⟩

theorem setGain_turned (channel : UInt8) (db : Int32) :
    Meets Panel.contract setup (setGain channel db) b x
      (fun _ => Turned setup (.gain channel db) b x) fun _ _ _ => True := by
  rw [setGain, meets_past_expect ready.last, meets_bind, meets_step]
  apply meets_getGainRange ready
  intro r range
  rw [meets_bind, meets_clampTo]
  cases d : Direction.ofChannel channel with
  | tx =>
    apply meets_dial ready.driver
    · exact fun _ => trivial
    intro _ w' k' still set
    obtain rfl : k' = _ := set
    obtain rfl : txGainRange = r := by simpa [gainRange?, d] using range
    exact ⟨trivial, rfl, rfl, still, by simp [Setter.dials, d]⟩
  | rx =>
    apply meets_dial ready.driver
    · exact fun _ => trivial
    intro _ w' k' still set
    obtain rfl : k' = _ := set
    have known : rxGainRange? (x.1.lo .rx) = some r := by simpa [gainRange?, d] using range
    obtain ⟨unscaled, least, most, order⟩ := rxGainRange?_unscaled known
    refine ⟨trivial, rfl, rfl, still, ?_⟩
    simp [Setter.dials, d, known, gainFor_clamp unscaled least most order]

theorem setGainMode_turned (channel : UInt8) (mode : GainMode) :
    Meets Panel.contract setup (setGainMode channel mode) b x
      (fun _ => Turned setup (.gainMode channel mode) b x) fun _ _ _ => True := by
  rw [setGainMode, meets_past_expect ready.last, meets_bind, meets_gainModeChannel]
  cases known : gainModePair? channel with
  | none => trivial
  | some pair =>
    dsimp only
    rw [meets_bind, meets_read]
    apply meets_dial ready.driver
    · exact fun _ => trivial
    intro _ w' k' still set
    obtain rfl : k' = _ := set
    exact ⟨by simp [Setter.Accepted, known], rfl, rfl, still, by simp [Setter.dials, known, configuredControl]⟩

theorem setPort_turned (channel : UInt8) (name : String) :
    Meets Panel.contract setup (setPort channel name) b x
      (fun _ => Turned setup (.port channel name) b x) fun _ _ _ => True := by
  rw [setPort, meets_past_expect ready.last]
  dsimp only
  cases known : Rfic.Port.ofName? (Direction.ofChannel channel) name with
  | none => trivial
  | some id =>
    rw [Panel.meets_setPort ready.driver]
    refine ⟨by simp [Setter.Accepted, known], rfl, rfl, ?_, rfl⟩
    simp only [Setter.hardware, known, Option.getD_some]
    exact .refl _

theorem setLoopback_turned (l : Loopback) :
    Meets Panel.contract setup (setLoopback l) b x
      (fun _ => Turned setup (.loopback l) b x) fun _ _ _ => True := by
  rw [setLoopback, meets_past_expect ready.last]
  dsimp only
  rw [meets_ite]
  refine ⟨fun _ => trivial, fun supported => ?_⟩
  rw [meets_bind]
  apply meets_dial ready.driver
  · exact fun _ => trivial
  intro _ w' k' still set
  obtain rfl : k' = _ := set
  apply meets_dialTransport
  · trivial
  intro _ w'' k'' still' set'
  obtain rfl : k'' = _ := set'
  exact ⟨by simpa [Setter.Accepted] using supported, rfl, rfl, still.trans still', rfl⟩

theorem setRxSource_turned (s : RxSource) :
    Meets Panel.contract setup (setRxSource s) b x
      (fun _ => Turned setup (.rxSource s) b x) fun _ _ _ => True := by
  rw [setRxSource, meets_past_expect ready.last, meets_bind]
  apply meets_dialTransport
  · trivial
  intro gpio w' k' still told
  obtain ⟨rfl, rfl⟩ := told
  apply meets_dialTransport
  · trivial
  intro _ w'' k'' still' set
  obtain rfl : k'' = _ := set
  exact ⟨trivial, rfl, rfl, still.trans still', rfl⟩

theorem writeTrim_turned (value : UInt16) :
    Meets Panel.contract setup (writeTrim value) b x
      (fun _ => Turned setup (.trim value) b x) fun _ _ _ => True := by
  rw [writeTrim, meets_past_expect ready.last]
  apply meets_dialTransport
  · trivial
  intro _ w' k' still set
  exact ⟨trivial, rfl, rfl, still, set⟩

theorem setter_turned (t : Setter) :
    Meets Panel.contract setup t.operation.perform b x (fun _ => Turned setup t b x) fun _ _ _ => True := by
  cases t with
  | tune t => exact tune_turned ready t
  | sampleRate channel hz => exact setSampleRate_turned ready channel hz
  | bandwidth channel hz => exact setBandwidth_turned ready channel hz
  | gain channel db => exact setGain_turned ready channel db
  | gainMode channel mode => exact setGainMode_turned ready channel mode
  | port channel name => exact setPort_turned ready channel name
  | loopback l => exact setLoopback_turned ready l
  | rxSource s => exact setRxSource_turned ready s
  | trim value => exact writeTrim_turned ready value

end Setters

/-! Queries. -/

section Queries

variable {setup : Setup} {b : Board} {x : Panel} (ready : Operating b x.1)

include ready

theorem getFrequency_tells (channel : UInt8) :
    Meets Panel.contract setup (getFrequency channel) b x
      (fun a _ _ => (Setting.frequency channel).tell x.1 x.2 = .ok a)
      fun e _ _ => (Setting.frequency channel).tell x.1 x.2 = .error e := by
  rw [getFrequency, meets_past_expect ready.last, Panel.meets_transceiver ready.driver]
  intro hz y told _
  exact congrArg Except.ok told.1.symm

theorem getSampleRate_tells (channel : UInt8) :
    Meets Panel.contract setup (getSampleRate channel) b x
      (fun a _ _ => (Setting.sampleRate channel).tell x.1 x.2 = .ok a)
      fun e _ _ => (Setting.sampleRate channel).tell x.1 x.2 = .error e := by
  rw [getSampleRate, meets_past_expect ready.last, Panel.meets_transceiver ready.driver]
  intro hz y _ told
  exact congrArg Except.ok told.1.symm

theorem getBandwidth_tells (channel : UInt8) :
    Meets Panel.contract setup (getBandwidth channel) b x
      (fun a _ _ => (Setting.bandwidth channel).tell x.1 x.2 = .ok a)
      fun e _ _ => (Setting.bandwidth channel).tell x.1 x.2 = .error e := by
  rw [getBandwidth, meets_past_expect ready.last, Panel.meets_transceiver ready.driver]
  intro hz y _ told
  exact congrArg Except.ok told.1.symm

theorem getGain_tells (channel : UInt8) :
    Meets Panel.contract setup (getGain channel) b x
      (fun a _ _ => (Setting.gain channel).tell x.1 x.2 = .ok a)
      fun e _ _ => (Setting.gain channel).tell x.1 x.2 = .error e := by
  rw [getGain, meets_past_expect ready.last, meets_bind, meets_step]
  apply meets_getGainRange ready
  intro r range
  cases d : Direction.ofChannel channel with
  | tx =>
    rw [meets_bind]
    apply meets_dial ready.driver
    · exact fun _ => trivial
    intro mdb w' k' _ told
    obtain rfl : mdb = _ := told.1
    obtain rfl : txGainRange = r := by simpa [gainRange?, d] using range
    simp [Setting.tell, d]
  | rx =>
    rw [meets_bind]
    apply meets_dial ready.driver
    · exact fun _ => trivial
    intro db w' k' _ told
    obtain rfl : db = _ := told.1
    have known : rxGainRange? (x.1.lo .rx) = some r := by simpa [gainRange?, d] using range
    simp [Setting.tell, d, gainOfReading_eq (rxGainRange?_unscaled known).1]

theorem getGainMode_tells (channel : UInt8) :
    Meets Panel.contract setup (getGainMode channel) b x
      (fun a _ _ => (Setting.gainMode channel).tell x.1 x.2 = .ok a)
      fun e _ _ => (Setting.gainMode channel).tell x.1 x.2 = .error e := by
  rw [getGainMode, meets_past_expect ready.last, meets_bind, meets_gainModeChannel]
  cases known : gainModePair? channel with
  | none => simp [Setting.tell, known]
  | some pair =>
    dsimp only
    rw [meets_bind]
    apply meets_dial ready.driver
    · exact fun _ => trivial
    intro code w' k' _ told
    obtain rfl : code = _ := told.1
    simp [Setting.tell, known]

theorem getPort_tells (channel : UInt8) :
    Meets Panel.contract setup (getPort channel) b x
      (fun a _ _ => (Setting.port channel).tell x.1 x.2 = .ok a)
      fun e _ _ => (Setting.port channel).tell x.1 x.2 = .error e := by
  rw [getPort, meets_past_expect ready.last]
  dsimp only
  rw [meets_bind, Panel.meets_transceiver ready.driver]
  intro id y told _
  obtain rfl : id = _ := told.1
  cases named : Rfic.Port.name? (Direction.ofChannel channel) (x.1.port (Direction.ofChannel channel)) <;>
    simp [Setting.tell, named]

theorem getLoopback_tells :
    Meets Panel.contract setup getLoopback b x
      (fun a _ _ => Setting.loopback.tell x.1 x.2 = .ok a)
      fun e _ _ => Setting.loopback.tell x.1 x.2 = .error e := by
  rw [getLoopback, meets_past_expect ready.last, meets_bind]
  apply meets_dialTransport
  · trivial
  intro looped w' k' _ told
  obtain ⟨rfl, rfl⟩ := told
  rw [meets_ite]
  refine ⟨fun on => ?_, fun off => ?_⟩
  · simp [Setting.tell, on]
  · rw [meets_bind]
    apply meets_dial ready.driver
    · exact fun _ => trivial
    intro mode w'' k'' _ told
    obtain rfl : mode = _ := told.1
    simp [Setting.tell, off]

theorem getRxSource_tells :
    Meets Panel.contract setup getRxSource b x
      (fun a _ _ => Setting.rxSource.tell x.1 x.2 = .ok a)
      fun e _ _ => Setting.rxSource.tell x.1 x.2 = .error e := by
  rw [getRxSource, meets_past_expect ready.last, meets_bind]
  apply meets_dialTransport
  · trivial
  intro gpio w' k' _ told
  obtain rfl : gpio = _ := told.1
  cases known : RxSource.ofCode? (RxSource.ofGpio x.2.gpio) <;> simp [Setting.tell, known]

theorem readTrim_tells :
    Meets Panel.contract setup readTrim b x
      (fun a _ _ => Setting.trim.tell x.1 x.2 = .ok a)
      fun e _ _ => Setting.trim.tell x.1 x.2 = .error e := by
  rw [readTrim, meets_past_expect ready.last, Panel.meets_transport]
  intro value y _ told
  exact congrArg Except.ok told.1.symm

theorem query_tells (q : Setting) :
    Meets Panel.contract setup q.query.perform b x (fun a _ _ => q.tell x.1 x.2 = .ok a)
      fun e _ _ => q.tell x.1 x.2 = .error e := by
  cases q
  case frequency channel => exact getFrequency_tells ready channel
  case sampleRate channel => exact getSampleRate_tells ready channel
  case bandwidth channel => exact getBandwidth_tells ready channel
  case gain channel => exact getGain_tells ready channel
  case gainMode channel => exact getGainMode_tells ready channel
  case port channel => exact getPort_tells ready channel
  case loopback => exact getLoopback_tells ready
  case rxSource => exact getRxSource_tells ready
  case trim => exact readTrim_tells ready

end Queries

/-! Sequences of setters. -/

theorem Turned.operating {setup : Setup} {t : Setter} {b b' : Board} {x y : Panel}
    (turned : Turned setup t b x b' y) (ready : Operating b x.1) : Operating b' y.1 where
  last := turned.stage.trans ready.last
  driver := by
    rw [turned.rfic]
    exact ready.driver
  inRange d := by
    rw [turned.hardware.lo]
    exact Setter.inRange_hardware turned.accepted ready.inRange d

theorem Turned.tell {setup : Setup} {t : Setter} {b b' : Board} {x y : Panel}
    (turned : Turned setup t b x b' y) (q : Setting) :
    q.tell y.1 y.2 = q.tell (t.hardware x.1) (t.dials setup x.1 x.2) := by
  rw [turned.dials]
  exact Setting.tell_still turned.hardware

theorem Turned.tell_of_sets {setup : Setup} {t : Setter} {b b' : Board} {x y : Panel}
    (turned : Turned setup t b x b' y) (ready : Operating b x.1) {q : Setting} (own : t.sets q = true) :
    ∃ v, t.value setup x.1 q = some v ∧ q.tell y.1 y.2 = .ok v := by
  rw [turned.tell]
  exact Setting.tell_of_sets turned.accepted ready.inRange own

section Runs

variable {σ : Type} {h : Handler boardInterface σ} {view : σ → Panel} (like : Panel.IsView h view)
  {setup : Setup} {b : Board} {s : σ} (ready : Operating b (view s).1)

include like ready

/-- A query answers what the panel tells. -/
theorem answer_eq (q : Setting) :
    ((q.query.attempt setup b).run h s).result.1 = q.tell (view s).1 (view s).2 := by
  have met : Meets Panel.contract setup q.query.perform b (view s) _ _ := query_tells ready q
  obtain ⟨_, _, _, ⟨a, result, told⟩ | ⟨e, result, told⟩⟩ := met.run (t := s) like rfl
  · exact (congrArg Prod.fst result).trans told.symm
  · exact (congrArg Prod.fst result).trans told.symm

theorem attempt_turned (t : Setter) :
    let run := (t.operation.attempt setup b).run h s
    run.result.1.isOk = true → Turned setup t b (view s) run.result.2 (view run.state) := by
  intro run good
  have met : Meets Panel.contract setup t.operation.perform b (view s) _ _ := setter_turned ready t
  obtain ⟨_, _, same, ⟨_, _, turned⟩ | ⟨e, result, _⟩⟩ := met.run (t := s) like rfl
  · rwa [same] at turned
  · have failed : run.result.1.isOk = false := congrArg (fun r => r.1.isOk) result
    rw [failed] at good
    exact absurd good Bool.false_ne_true

/-- Setters that succeed leave a board that can be set again, and do not touch what they do not set. -/
theorem session_turned (ts : List Setter) (good : Succeeds h setup (ts.map Setter.operation) b s) :
    let run := (session setup (ts.map Setter.operation) b).run h s
    Operating run.result (view run.state).1 ∧
    ∀ q : Setting, (∀ t ∈ ts, t.sets q = false) →
      q.tell (view run.state).1 (view run.state).2 = q.tell (view s).1 (view s).2 := by
  induction ts generalizing b s with
  | nil => exact ⟨ready, fun _ _ => rfl⟩
  | cons t ts ih =>
    have turned := attempt_turned like ready t good.1
    obtain ⟨kept, same⟩ := ih (turned.operating ready) good.2
    rw [List.map_cons, run_session_cons]
    refine ⟨kept, ?_⟩
    intro q others
    have rest := same q fun u mem => others u (List.mem_cons_of_mem t mem)
    rw [rest, turned.tell q, Setting.tell_of_not_sets (others t List.mem_cons_self)]

/-- The last setter of a setting makes of it what is told in the end. -/
theorem session_tells (earlier : List Setter) (t : Setter) (later : List Setter)
    (good : Succeeds h setup ((earlier ++ t :: later).map Setter.operation) b s) (q : Setting)
    (own : t.sets q = true) (others : ∀ u ∈ later, u.sets q = false) :
    let run us := (session setup (us.map Setter.operation) b).run h s
    let final := run (earlier ++ t :: later)
    ∃ v, t.value setup (view (run earlier).state).1 q = some v ∧
      q.tell (view final.state).1 (view final.state).2 = .ok v := by
  intro run final
  -- Cut at the setter: what comes before leaves the board in range, what comes after has no part in this.
  rw [List.map_append, List.map_cons, succeeds_append] at good
  obtain ⟨first, second, third⟩ := good
  have kept := (session_turned like ready earlier first).1
  have turned := attempt_turned like kept t second
  obtain ⟨v, value, told⟩ := turned.tell_of_sets kept own
  obtain ⟨_, rest⟩ := session_turned like (turned.operating kept) later third
  refine ⟨v, value, ?_⟩
  simp only [final, run, List.map_append, List.map_cons, run_session_append, run_session_cons]
  exact (rest q others).trans told

end Runs

/-- On a board that is opened, used and left at the last stage, every query answers what the last setter of
its setting has made of it, and what it answered to begin with if there was none. -/
theorem getters_tell_last_set {σ : Type} {h : Handler boardInterface σ} {view : σ → Panel}
    (like : Panel.IsView h view) (setup : Setup) (configured : setup.InRange) (world : σ) {b : Board}
    (opened : ((start setup).run h world).result = .ok b) (ops : List Operation) :
    let begun := (session setup ops b).run h ((start setup).run h world).state
    let run (ts : List Setter) := (session setup (ts.map Setter.operation) begun.result).run h begun.state
    let answer (ts : List Setter) (q : Setting) :=
      ((q.query.attempt setup (run ts).result).run h (run ts).state).result.1
    begun.result.stage = .initialized →
    ∀ ts, Succeeds h setup (ts.map Setter.operation) begun.result begun.state →
    ∀ q : Setting,
      ((∀ t ∈ ts, t.sets q = false) → answer ts q = answer [] q) ∧
      ∀ earlier t later, ts = earlier ++ t :: later → t.sets q = true →
        (∀ u ∈ later, u.sets q = false) →
        ∃ v, t.value setup (view (run earlier).state).1 q = some v ∧ answer ts q = .ok v := by
  intro begun run answer last ts good q
  have ready : Operating begun.result (view begun.state).1 := by
    refine ⟨last, ?_, session_tuned like.hardware configured world opened ops last⟩
    rw [Option.isSome_iff_ne_none]
    exact ready_of_session (ready_of_start opened) ops setup h _ last
  have kept := session_turned like ready ts good
  have told : answer ts q = q.tell (view (run ts).state).1 (view (run ts).state).2 := answer_eq like kept.1 q
  refine ⟨fun others => ?_, ?_⟩
  · have first : answer [] q = q.tell (view begun.state).1 (view begun.state).2 := answer_eq like ready q
    rw [told, first]
    exact kept.2 q others
  · rintro earlier t later rfl own others
    obtain ⟨v, value, tells⟩ := session_tells like ready earlier t later good q own others
    exact ⟨v, value, told.trans tells⟩

/-- A gain that is set and then outside of the range of the new frequency, and a direction that is shared. -/
theorem getters_tell_last_set_bench :
    let world : Bench.Fine := ⟨.configured, rfl⟩
    let begun := (session .plain [] (onBench .plain)).run Bench.Fine.handler
      ((start .plain).run Bench.Fine.handler world).state
    let ts : List Setter := [.gain 0 100, .sampleRate 2 1, .tune (.frequency 2 5000000000), .gain 1 (-100),
      .gainMode 2 .default]
    let run := (session .plain (ts.map Setter.operation) begun.result).run Bench.Fine.handler begun.state
    let answer (q : Setting) :=
      ((q.query.attempt .plain run.result).run Bench.Fine.handler run.state).result.1
    Setup.plain.InRange ∧ begun.result.stage = .initialized ∧
    Succeeds Bench.Fine.handler .plain (ts.map Setter.operation) begun.result begun.state ∧
    answer (.gain 0) = .ok 71 ∧ answer (.sampleRate 0) = .ok 2083334 := by
  intro world begun ts run answer
  have configured : Setup.plain.InRange := by
    intro d
    cases d <;> decide +kernel
  have opened : ((start .plain).run Bench.Fine.handler world).result = .ok (onBench .plain) := by
    decide +kernel
  have last : begun.result.stage = .initialized := by decide +kernel
  have good : Succeeds Bench.Fine.handler .plain (ts.map Setter.operation) begun.result begun.state := by
    decide +kernel
  have told := getters_tell_last_set Bench.Fine.isView .plain configured world opened [] last ts good
  dsimp only at told
  dsimp only [answer, run, begun]
  refine ⟨configured, last, good, ?_, ?_⟩
  · obtain ⟨v, value, answered⟩ := (told (.gain 0)).2 [] _ _ rfl rfl (by decide)
    obtain rfl : 71 = v := by
      apply Option.some.inj
      rw [← value]
      decide +kernel
    exact answered
  · obtain ⟨v, value, answered⟩ := (told (.sampleRate 0)).2 [.gain 0 100] _ _ rfl rfl (by decide)
    obtain rfl : 2083334 = v := Option.some.inj value
    exact answered

end RadioBoard.Board
