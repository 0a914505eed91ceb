import RadioBoard.Proofs.Dials
import RadioBoard.Proofs.Ranges

/-!
Settings: what can be set and asked for again.

`Setter.hardware` and `Setter.dials` are what a setter makes of a panel, and `Setting.tell` is what a panel
answers. Main statements: after a setter of a setting the panel tells what `Setter.value` says, and a
setter of anything else does not change what it tells. The port of a direction is the only setting that
more than one kind of setter sets: setting a frequency and enabling the direction choose it anew.
-/

namespace RadioBoard.Board

open Function (update)

/-- What can be asked for. Frequency, rate, bandwidth and port are shared by the channels of a direction. -/
inductive Setting
  | frequency (channel : UInt8)
  | sampleRate (channel : UInt8)
  | bandwidth (channel : UInt8)
  | gain (channel : UInt8)
  | gainMode (channel : UInt8)
  | port (channel : UInt8)
  | loopback
  | rxSource
  | trim

/-- What can be set. -/
inductive Setter
  | tune (t : Tuning)
  | sampleRate (channel : UInt8) (hz : UInt32)
  | bandwidth (channel : UInt8) (hz : UInt32)
  | gain (channel : UInt8) (db : Int32)
  | gainMode (channel : UInt8) (mode : GainMode)
  | port (channel : UInt8) (name : String)
  | loopback (l : Loopback)
  | rxSource (s : RxSource)
  | trim (value : UInt16)

/-- The transceiver's number of a channel that has a gain mode. -/
def gainModePair? (channel : UInt8) : Option UInt8 :=
  if channel = Channel.rx0 then some 0 else if channel = Channel.rx1 then some 1 else none

/-- Who controls the gain of a receiver from the start. -/
def configuredControl (setup : Setup) (pair : UInt8) : Rfic.GainControl :=
  if pair = 0 then setup.config.rfic.rx1GainControl else setup.config.rfic.rx2GainControl

namespace Setting

abbrev query : Setting → Operation
  | frequency channel => .frequency channel
  | sampleRate channel => .sampleRate channel
  | bandwidth channel => .bandwidth channel
  | gain channel => .gain channel
  | gainMode channel => .gainMode channel
  | port channel => .port channel
  | loopback => .loopback
  | rxSource => .rxSource
  | trim => .readTrim

/-- What is answered to the query, provided that the oscillators are in range. -/
def tell (w : Hardware) (k : Dials) : (x : Setting) → Except Error x.query.Result
  | frequency channel => .ok (w.lo (Direction.ofChannel channel))
  | sampleRate channel => .ok (k.sampleRate (Direction.ofChannel channel))
  | bandwidth channel => .ok (k.bandwidth (Direction.ofChannel channel))
  | gain channel =>
    match Direction.ofChannel channel with
    | .tx => .ok (gainOfAttenuation txGainRange (k.attenuation (Channel.pair channel)))
    | .rx => .ok (k.rxGain (Channel.pair channel))
  | gainMode channel =>
    match gainModePair? channel with
    | some pair =>
      .ok (((Rfic.GainControl.ofCode? (k.gainControl pair)).map GainMode.ofControl).getD .default)
    | none => .error .unsupported
  | port channel =>
    match Rfic.Port.name? (Direction.ofChannel channel) (w.port (Direction.ofChannel channel)) with
    | some name => .ok name
    | none => .error .unexpected
  | loopback =>
    .ok (if k.isLooped then .firmware else if k.selfTest = selfTestLoopback then .selfTest else .none)
  | rxSource =>
    match RxSource.ofCode? (RxSource.ofGpio k.gpio) with
    | some s => .ok s
    | none => .error .unexpected
  | trim => .ok k.trim

end Setting

namespace Setter

def operation : Setter → Operation
  | tune t => t.operation
  | sampleRate channel hz => .setSampleRate channel hz
  | bandwidth channel hz => .setBandwidth channel hz
  | gain channel db => .setGain channel db
  | gainMode channel mode => .setGainMode channel mode
  | port channel name => .setPort channel name
  | loopback l => .setLoopback l
  | rxSource s => .setRxSource s
  | trim value => .writeTrim value

def sameDirection (c c' : UInt8) : Bool := Direction.ofChannel c' = Direction.ofChannel c

/-- Whether a setter is one of a setting. -/
def sets : Setter → Setting → Bool
  | tune (.frequency channel _), .frequency channel' => sameDirection channel channel'
  | tune (.frequency channel _), .port channel' => sameDirection channel channel'
  | tune (.enable channel true), .port channel' => sameDirection channel channel'
  | sampleRate channel _, .sampleRate channel' => sameDirection channel channel'
  | bandwidth channel _, .bandwidth channel' => sameDirection channel channel'
  | gain channel _, .gain channel' => channel' = channel
  | gainMode channel _, .gainMode channel' => channel' = channel
  | port channel _, .port channel' => sameDirection channel channel'
  | loopback _, .loopback => true
  | rxSource _, .rxSource => true
  | trim _, .trim => true
  | _, _ => false

/-- What a setter makes of a setting that it sets, with the hardware as it is when it does. -/
def value (setup : Setup) (w : Hardware) : Setter → (x : Setting) → Option x.query.Result
  | tune (.frequency _ hz), .frequency _ => some hz
  | tune (.frequency channel hz), .port _ =>
    let d := Direction.ofChannel channel
    Rfic.Port.name? d (SignalPath.inUse d (FrontEnd.isEnabled w.frontEnd d) hz).port
  | tune (.enable channel true), .port _ =>
    let d := Direction.ofChannel channel
    Rfic.Port.name? d (SignalPath.inUse d true (w.lo d)).port
  | sampleRate _ hz, .sampleRate _ => some (max 2083334 (min hz 61440000))
  | bandwidth _ hz, .bandwidth _ => some (max 200000 (min hz 56000000))
  | gain channel db, .gain _ =>
    match Direction.ofChannel channel with
    | .tx => some (max (-89) (min db 0))
    | .rx => (rxGainRange? (w.lo .rx)).map fun r => max r.min.toInt32 (min db r.max.toInt32)
  | gainMode _ .default, .gainMode channel =>
    (gainModePair? channel).map fun pair => GainMode.ofControl (configuredControl setup pair)
  | gainMode _ mode, .gainMode _ => some mode
  | port _ name, .port _ => some name
  | loopback l, .loopback => some l
  | rxSource s, .rxSource => some s
  | trim value, .trim => some value
  | _, _ => none

/-- Whether a board with a driver, its oscillators in range, accepts a setter. -/
def Accepted (b : Board) : Setter → Prop
  | tune t => t.Accepted b
  | gainMode channel _ => (gainModePair? channel).isSome = true
  | port channel name => (Rfic.Port.ofName? (Direction.ofChannel channel) name).isSome = true
  | loopback l => l.isSupported = true
  | _ => True

def hardware (w : Hardware) : Setter → Hardware
  | tune t => t.hardware w
  | port channel name =>
    let d := Direction.ofChannel channel
    { w with port := update w.port d ((Rfic.Port.ofName? d name).getD (w.port d)) }
  | _ => w

def dials (setup : Setup) (w : Hardware) (k : Dials) : Setter → Dials
  | sampleRate channel hz =>
    let clamped := max 2083334 (min hz 61440000)
    { k with sampleRate := update k.sampleRate (Direction.ofChannel channel) clamped }
  | bandwidth channel hz =>
    let clamped := max 200000 (min hz 56000000)
    { k with bandwidth := update k.bandwidth (Direction.ofChannel channel) clamped }
  | gain channel db =>
    let mdb := attenuationFor txGainRange (txGainRange.clamp db.toInt64)
    { k with
      attenuation :=
        match Direction.ofChannel channel with
        | .tx => update k.attenuation (Channel.pair channel) mdb
        | .rx => k.attenuation
      rxGain :=
        match Direction.ofChannel channel, rxGainRange? (w.lo .rx) with
        | .rx, some r => update k.rxGain (Channel.pair channel) (max r.min.toInt32 (min db r.max.toInt32))
        | _, _ => k.rxGain }
  | gainMode channel mode =>
    { k with
      gainControl :=
        match gainModePair? channel with
        | some pair => update k.gainControl pair (mode.control?.getD (configuredControl setup pair)).code
        | none => k.gainControl }
  | loopback l =>
    { k with selfTest := if l = .selfTest then selfTestLoopback else 0, isLooped := l = .firmware }
  | rxSource s => { k with gpio := RxSource.inGpio k.gpio s }
  | trim value => { k with trim := value }
  | _ => k

end Setter

/-! Tables that settings pass through. -/

/-- A channel is known by its direction and by the transceiver's number. -/
theorem channel_ext {c c' : UInt8} (direction : Direction.ofChannel c = Direction.ofChannel c')
    (pair : Channel.pair c = Channel.pair c') : c = c' := by
  have low (n : UInt8) : (n &&& 1 = 0) ↔ n.toNat % 2 = 0 := by
    rw [← UInt8.toNat_inj, UInt8.toNat_and]
    exact iff_of_eq (congrArg (· = 0) (Nat.and_one_is_mod _))
  have parity : (c &&& 1 = 0) ↔ (c' &&& 1 = 0) := by
    unfold Direction.ofChannel at direction
    split_ifs at direction <;> simp_all
  rw [low, low] at parity
  have half : c.toNat / 2 = c'.toNat / 2 := by
    have shifted (n : UInt8) : (Channel.pair n).toNat = n.toNat / 2 := by
      rw [Channel.pair, UInt8.toNat_shiftRight]
      exact Nat.shiftRight_succ _ 0
    rw [← shifted, ← shifted, pair]
  apply UInt8.toNat_inj.mp
  omega

theorem gainModePair?_injective {c c' pair : UInt8} (h : gainModePair? c = some pair)
    (h' : gainModePair? c' = some pair) : c = c' := by
  unfold gainModePair? at h h'
  grind

/-- Every path ends at a port with a name. -/
theorem port_inUse_named (d : Direction) (on : Bool) (hz : UInt64) :
    ∃ name, Rfic.Port.name? d (SignalPath.inUse d on hz).port = some name := by
  apply Option.isSome_iff_exists.mp
  rw [SignalPath.inUse]
  cases d <;> cases Band.inUse _ on hz <;> rfl

theorem name?_of_ofName? {d : Direction} {name : String} {id : UInt32}
    (h : Rfic.Port.ofName? d name = some id) : Rfic.Port.name? d id = some name := by
  obtain ⟨row, found, rfl⟩ := Option.map_eq_some_iff.mp h
  have matching := List.find?_some found
  rw [← beq_iff_eq.mp matching]
  exact (Rfic.Port.name?_of_mem d row (List.mem_of_find?_eq_some found)).1

theorem ofGpio_inGpio (gpio : UInt32) (s : RxSource) : RxSource.ofGpio (RxSource.inGpio gpio s) = s.code := by
  have replaced (m y : UInt32) : (gpio &&& ~~~m ||| y) &&& m = y &&& m := by
    apply UInt32.toBitVec_inj.mp
    ext i h
    simp only [UInt32.toBitVec_and, UInt32.toBitVec_or, UInt32.toBitVec_not, BitVec.getElem_and,
      BitVec.getElem_or, BitVec.getElem_not]
    cases m.toBitVec[i] <;> simp
  rw [RxSource.ofGpio, RxSource.inGpio, replaced]
  cases s <;> decide

/-! What a panel tells after a setter. -/

namespace Setting

variable {setup : Setup} {b : Board} {w : Hardware} {k : Dials} {t : Setter} {x : Setting}

theorem tell_gain_self {channel : UInt8} {db : Int32} (tuned : w.InRange) :
    ∃ v, (Setter.gain channel db).value setup w (.gain channel) = some v ∧
      (Setting.gain channel).tell w ((Setter.gain channel db).dials setup w k) = .ok v := by
  cases d : Direction.ofChannel channel with
  | tx =>
    refine ⟨max (-89) (min db 0), by simp [Setter.value, d], ?_⟩
    simp [tell, Setter.dials, d, txGain_round_trip]
  | rx =>
    obtain ⟨r, range⟩ := Option.isSome_iff_exists.mp (rxGainRange?_isSome (tuned .rx))
    refine ⟨max r.min.toInt32 (min db r.max.toInt32), by simp [Setter.value, d, range], ?_⟩
    simp [tell, Setter.dials, d, range]

/-- The gains of the four channels are kept apart. -/
theorem tell_gain_of_ne {channel channel' : UInt8} {db : Int32} (apart : channel' ≠ channel) :
    (Setting.gain channel').tell w ((Setter.gain channel db).dials setup w k) =
      (Setting.gain channel').tell w k := by
  have pairs (same : Direction.ofChannel channel' = Direction.ofChannel channel) :
      Channel.pair channel' ≠ Channel.pair channel := fun pair => apart (channel_ext same pair)
  cases d : Direction.ofChannel channel with
  | tx =>
    cases d' : Direction.ofChannel channel' with
    | tx => simp [tell, Setter.dials, d, d', pairs (d'.trans d.symm)]
    | rx => simp [tell, Setter.dials, d, d']
  | rx =>
    cases d' : Direction.ofChannel channel' with
    | tx => cases range : rxGainRange? (w.lo .rx) <;> simp [tell, Setter.dials, d, d', range]
    | rx =>
      cases range : rxGainRange? (w.lo .rx) <;>
        simp [tell, Setter.dials, d, d', range, pairs (d'.trans d.symm)]

/-- The default reads back as the mode that the channel was configured for. -/
theorem tell_gainMode_self {channel : UInt8} {mode : GainMode}
    (accepted : (gainModePair? channel).isSome = true) :
    ∃ v, (Setter.gainMode channel mode).value setup w (.gainMode channel) = some v ∧
      (Setting.gainMode channel).tell w ((Setter.gainMode channel mode).dials setup w k) = .ok v := by
  obtain ⟨pair, known⟩ := Option.isSome_iff_exists.mp accepted
  cases mode <;>
    simp [Setter.value, tell, Setter.dials, known, GainMode.control?, Rfic.GainControl.ofCode?_code,
      GainMode.ofControl]

theorem tell_gainMode_of_ne {channel channel' : UInt8} {mode : GainMode} (apart : channel' ≠ channel) :
    (Setting.gainMode channel').tell w ((Setter.gainMode channel mode).dials setup w k) =
      (Setting.gainMode channel').tell w k := by
  cases known : gainModePair? channel with
  | none => simp [tell, Setter.dials, known]
  | some pair =>
    cases known' : gainModePair? channel' with
    | none => simp [tell, known']
    | some pair' =>
      have pairs : pair' ≠ pair := by
        rintro rfl
        exact apart (gainModePair?_injective known' known)
      simp [tell, Setter.dials, known, known', pairs]

theorem tell_port {channel : UInt8} {name : String}
    (named : Rfic.Port.name? (Direction.ofChannel channel) (w.port (Direction.ofChannel channel)) = some name) :
    (Setting.port channel).tell w k = .ok name := by
  simp only [tell, named]

/-- A setter of something else does not change what is told. -/
theorem tell_of_not_sets (other : t.sets x = false) :
    x.tell (t.hardware w) (t.dials setup w k) = x.tell w k := by
  -- Where they differ in kind they rest on different parts of the panel. What is left for each setter is
  -- its own kind, on a channel that it does not set.
  cases t with
  | tune t =>
    cases t with
    | frequency channel hz =>
      cases x
      case frequency channel' =>
        have apart : Direction.ofChannel channel' ≠ Direction.ofChannel channel :=
          of_decide_eq_false other
        simp [tell, Setter.hardware, Tuning.hardware, apart]
      case port channel' =>
        have apart : Direction.ofChannel channel' ≠ Direction.ofChannel channel :=
          of_decide_eq_false other
        simp [tell, Setter.hardware, Tuning.hardware, apart]
      all_goals rfl
    | enable channel on =>
      cases on with
      | false => cases x <;> rfl
      | true =>
        cases x
        case port channel' =>
          have apart : Direction.ofChannel channel' ≠ Direction.ofChannel channel :=
            of_decide_eq_false other
          simp [tell, Setter.hardware, Tuning.hardware, apart]
        all_goals rfl
  | sampleRate channel hz =>
    cases x
    case sampleRate channel' =>
      have apart : Direction.ofChannel channel' ≠ Direction.ofChannel channel :=
        of_decide_eq_false other
      simp [tell, Setter.dials, apart]
    all_goals rfl
  | bandwidth channel hz =>
    cases x
    case bandwidth channel' =>
      have apart : Direction.ofChannel channel' ≠ Direction.ofChannel channel :=
        of_decide_eq_false other
      simp [tell, Setter.dials, apart]
    all_goals rfl
  | gain channel db =>
    cases x
    case gain channel' =>
      exact tell_gain_of_ne (of_decide_eq_false other)
    all_goals rfl
  | gainMode channel mode =>
    cases x
    case gainMode channel' =>
      exact tell_gainMode_of_ne (of_decide_eq_false other)
    all_goals rfl
  | port channel name =>
    cases x
    case port channel' =>
      have apart : Direction.ofChannel channel' ≠ Direction.ofChannel channel :=
        of_decide_eq_false other
      simp [tell, Setter.hardware, apart]
    all_goals rfl
  | loopback l =>
    cases x
    case loopback => cases other
    all_goals rfl
  | rxSource s =>
    cases x
    case rxSource => cases other
    all_goals rfl
  | trim value =>
    cases x
    case trim => cases other
    all_goals rfl

/-- A setter of a setting makes of it what it should. -/
theorem tell_of_sets (accepted : t.Accepted b) (tuned : w.InRange) (own : t.sets x = true) :
    ∃ v, t.value setup w x = some v ∧ x.tell (t.hardware w) (t.dials setup w k) = .ok v := by
  cases t with
  | tune t =>
    cases t with
    | frequency channel hz =>
      cases x
      case frequency channel' =>
        have same : Direction.ofChannel channel' = Direction.ofChannel channel := of_decide_eq_true own
        exact ⟨hz, rfl, by simp [tell, Setter.hardware, Tuning.hardware, same]⟩
      case port channel' =>
        have same : Direction.ofChannel channel' = Direction.ofChannel channel := of_decide_eq_true own
        obtain ⟨name, named⟩ := port_inUse_named (Direction.ofChannel channel)
          (FrontEnd.isEnabled w.frontEnd (Direction.ofChannel channel)) hz
        refine ⟨name, named, tell_port ?_⟩
        rw [same]
        simpa [Setter.hardware, Tuning.hardware] using named
      all_goals cases own
    | enable channel on =>
      cases on with
      | false => cases x <;> cases own
      | true =>
        cases x
        case port channel' =>
          have same : Direction.ofChannel channel' = Direction.ofChannel channel := of_decide_eq_true own
          obtain ⟨name, named⟩ := port_inUse_named (Direction.ofChannel channel) true
            (w.lo (Direction.ofChannel channel))
          refine ⟨name, named, tell_port ?_⟩
          rw [same]
          simpa [Setter.hardware, Tuning.hardware] using named
        all_goals cases own
  | sampleRate channel hz =>
    cases x
    case sampleRate channel' =>
      have same : Direction.ofChannel channel' = Direction.ofChannel channel := of_decide_eq_true own
      exact ⟨_, rfl, by simp [tell, Setter.dials, same]⟩
    all_goals cases own
  | bandwidth channel hz =>
    cases x
    case bandwidth channel' =>
      have same : Direction.ofChannel channel' = Direction.ofChannel channel := of_decide_eq_true own
      exact ⟨_, rfl, by simp [tell, Setter.dials, same]⟩
    all_goals cases own
  | gain channel db =>
    cases x
    case gain channel' =>
      obtain rfl : channel' = channel := of_decide_eq_true own
      exact tell_gain_self tuned
    all_goals cases own
  | gainMode channel mode =>
    cases x
    case gainMode channel' =>
      obtain rfl : channel' = channel := of_decide_eq_true own
      exact tell_gainMode_self accepted
    all_goals cases own
  | port channel name =>
    cases x
    case port channel' =>
      have same : Direction.ofChannel channel' = Direction.ofChannel channel := of_decide_eq_true own
      obtain ⟨id, known⟩ := Option.isSome_iff_exists.mp accepted
      refine ⟨name, rfl, tell_port ?_⟩
      rw [same]
      simpa [Setter.hardware, known] using name?_of_ofName? known
    all_goals cases own
  | loopback l =>
    cases x
    case loopback =>
      refine ⟨l, rfl, ?_⟩
      cases l
      case none | firmware | selfTest => rfl
      all_goals cases accepted
    all_goals cases own
  | rxSource s =>
    cases x
    case rxSource => exact ⟨s, rfl, by simp [tell, Setter.dials, ofGpio_inGpio, RxSource.ofCode?_code]⟩
    all_goals cases own
  | trim value =>
    cases x
    case trim => exact ⟨value, rfl, rfl⟩
    all_goals cases own

/-- What is told depends on the hardware through its frequencies and ports alone. -/
theorem tell_still {w' : Hardware} (still : w.Still w') : x.tell w' k = x.tell w k := by
  cases x
  case frequency channel => rw [tell, tell, still.lo]
  case port channel => rw [tell, tell, still.port]
  all_goals rfl

end Setting

theorem Setter.inRange_hardware {b : Board} {w : Hardware} {t : Setter} (accepted : t.Accepted b)
    (h : w.InRange) : (t.hardware w).InRange := by
  cases t with
  | tune t => exact Board.inRange_hardware accepted h
  | _ => exact h

end RadioBoard.Board
