import RadioBoard.Board.Operation
import RadioBoard.Proofs.Action

/-!
What an operation leaves alone.

An action is confined to a set of calls if it makes no others and leaves the board as it is, whatever the
answers. All but seven operations are confined to calls that are passive: they neither switch the front
end nor choose frequencies or ports, and they have no part in synchronous streams. An invariant of the
board that the passive calls keep is therefore kept by all of these operations at once. Of these calls
only those for gains and gain modes name a channel, and each operation names one at most. But for three of
the operations the calls are routine, too: they have no part in images, versions and message sizes.
-/

namespace RadioBoard.Board

variable {α β γ : Type} {C : boardInterface.Call → Prop} {part : Board → γ}

/-- Only certain calls are made, and a part of the board is left as it is. -/
def Leaves (part : Board → γ) (C : boardInterface.Call → Prop) (act : Action α) : Prop :=
  ∀ setup b, Meets (.only C) setup act b () (fun _ b' _ => part b' = part b)
    fun _ b' _ => part b' = part b

abbrev Confined (C : boardInterface.Call → Prop) (act : Action α) : Prop := Leaves (fun b => b) C act

@[simp] theorem only_allows (C : boardInterface.Call → Prop) (u : Unit) (c : boardInterface.Call) :
    (Contract.only C).allows u c ↔ C c := Iff.rfl

@[simp] theorem only_answers (C : boardInterface.Call → Prop) (u v : Unit) (c : boardInterface.Call)
    (x : boardInterface.Answer c) : (Contract.only C).answers u c x v ↔ True := Iff.rfl

/-- An invariant that the calls of an action keep holds at the end, beside what the action does under every
answer. -/
theorem Meets.under {σ : Type} {K : Contract boardInterface σ} {setup : Setup} {act : Action α} {b : Board}
    {s : σ} {ok : α → Board → Prop} {fail : Error → Board → Prop}
    (h : Meets (.only C) setup act b () (fun a b' _ => ok a b') fun e b' _ => fail e b') (inv : σ → Prop)
    (start : inv s)
    (keeps : ∀ c, C c → ∀ s, inv s → K.allows s c ∧ ∀ x t, K.answers s c x t → inv t) :
    Meets K setup act b s (fun a b' t => ok a b' ∧ inv t) fun e b' t => fail e b' ∧ inv t := by
  have ends : Program.Meets (.only C) ((act setup).run b) () fun r _ =>
      (∀ a, r.1 = .ok a → ok a r.2) ∧ ∀ e, r.1 = .error e → fail e r.2 := by
    apply Program.Meets.mono h
    rintro ⟨e | a, b'⟩ _ post
    · exact ⟨nofun, fun _ same => Except.error.inj same ▸ post⟩
    · exact ⟨fun _ same => Except.ok.inj same ▸ post, nofun⟩
  apply Program.Meets.mono (Program.Meets.under ends start keeps)
  rintro ⟨e | a, b'⟩ t ⟨⟨good, bad⟩, kept⟩
  · exact ⟨bad e rfl, kept⟩
  · exact ⟨good a rfl, kept⟩

/-- What an action does under every answer it also does under a contract that allows its calls. -/
theorem Meets.of_only {σ : Type} {K : Contract boardInterface σ} {setup : Setup} {act : Action α} {b : Board}
    {s : σ} {ok : α → Board → Prop} {fail : Error → Board → Prop}
    (h : Meets (.only C) setup act b () (fun a b' _ => ok a b') fun e b' _ => fail e b')
    (allowed : ∀ c, C c → ∀ s, K.allows s c) :
    Meets K setup act b s (fun a b' _ => ok a b') fun e b' _ => fail e b' := by
  have keeps (c : boardInterface.Call) (made : C c) (t : σ) (_ : True) :
      K.allows t c ∧ ∀ x t', K.answers t c x t' → True := ⟨allowed c made t, fun _ _ _ => trivial⟩
  apply (h.under _ trivial keeps).mono
  · exact fun _ _ _ post => post.1
  · exact fun _ _ _ post => post.1

namespace Leaves

theorem bind {act : Action α} {f : α → Action β} (first : Leaves part C act)
    (rest : ∀ a, Leaves part C (f a)) : Leaves part C (act >>= f) := by
  intro setup b
  rw [meets_bind]
  apply (first setup b).mono
  · intro a b' u same
    rw [← same]
    exact rest a setup b'
  · intro e b' u same
    exact same

theorem step {act : Action α} (operation what : String) (h : Leaves part C act) :
    Leaves part C (step operation what act) := by
  intro setup b
  rw [meets_step]
  exact h setup b

theorem map {act : Action α} (f : α → β) (h : Leaves part C act) : Leaves part C (f <$> act) := by
  intro setup b
  rw [meets_map]
  exact h setup b

theorem after {act : Action α} (required : Stage) (h : Leaves part C act) :
    Leaves part C (do expect required; act) := by
  apply bind
  · intro setup b
    simp
  · intro _
    exact h

/-- An invariant that the calls keep is kept by the action, and so is the part of the board. -/
theorem under {σ : Type} {K : Contract boardInterface σ} {act : Action α} {s : σ}
    (h : Leaves part C act) (inv : σ → Prop) (start : inv s)
    (keeps : ∀ c, C c → ∀ s, inv s → K.allows s c ∧ ∀ x t, K.answers s c x t → inv t)
    (setup : Setup) (b : Board) :
    Meets K setup act b s (fun _ b' t => part b' = part b ∧ inv t)
      fun _ b' t => part b' = part b ∧ inv t :=
  (h setup b).under inv start keeps

/-- More calls, and less of the board. -/
theorem mono {δ : Type} {C' : boardInterface.Call → Prop} {act : Action α} (h : Leaves part C act)
    (calls : ∀ c, C c → C' c) (less : γ → δ) : Leaves (fun b => less (part b)) C' act := by
  intro setup b
  apply ((h setup b).of_only fun c made _ => calls c made).imp
  intro b' _ same
  exact congrArg less same

end Leaves

/-- Calls that switch nothing, tune nothing, choose no port, and have no part in synchronous streams. -/
def Passive : boardInterface.Call → Prop
  | .inl (.writeFrontEnd _) | .inl (.loadFpga _) => False
  | .inr (.startRfic _) | .inr (.releaseRfic _) => False
  | .inr (.rfic _ (.setLo _ _)) | .inr (.rfic _ (.setPort _ _)) => False
  | .inr (.streaming (.startSync _)) | .inr (.stopSync _) => False
  | .inr (.streaming (.transmit _ _ _ _)) | .inr (.streaming (.receive _ _ _ _)) => False
  | _ => True

/-- The channel that a call names to the driver. A receiver is a channel counted from one. -/
@[simp] def driverChannel? : boardInterface.Call → Option UInt8
  | .inr (.rfic _ (.rxGain channel)) | .inr (.rfic _ (.setRxGain channel _)) => some channel
  | .inr (.rfic _ (.attenuation channel)) | .inr (.rfic _ (.setAttenuation channel _)) => some channel
  | .inr (.rfic _ (.gainControl channel)) | .inr (.rfic _ (.setGainControl channel _)) => some channel
  | .inr (.rfic _ (.receiverGain receiver)) => some (receiver - 1)
  | _ => none

/-- Calls that name this channel to the driver, or none. -/
@[simp] def Names (n? : Option UInt8) (c : boardInterface.Call) : Prop :=
  ∀ n, driverChannel? c = some n → n? = some n

/-- Calls that neither configure the FPGA nor ask for its version, store no image and start no stream. -/
@[simp] def Routine : boardInterface.Call → Prop
  | .inl .fpgaVersion | .inl (.loadFpga _) => False
  | .inr (.flash (.writeFirmware _)) | .inr (.flash (.writeBitstream _)) => False
  | .inr (.streaming (.create _ _)) | .inr (.streaming (.startSync _)) => False
  | _ => True

/-- Routine calls that name this channel to the driver, or none. -/
@[simp] def RoutineOn (n? : Option UInt8) (c : boardInterface.Call) : Prop := Routine c ∧ Names n? c

/-- Passive calls that are routine on this channel. -/
@[simp] def Quiet (n? : Option UInt8) (c : boardInterface.Call) : Prop := Passive c ∧ RoutineOn n? c

/-- Calls that move samples through a synchronous stream. -/
def Moving : boardInterface.Call → Prop
  | .inr (.streaming (.transmit _ _ _ _)) | .inr (.streaming (.receive _ _ _ _)) => True
  | _ => False

/-! Steps that make no calls. -/

section Pure

variable {σ : Type} {K : Contract boardInterface σ} {setup : Setup} {b : Board} {s : σ}
  {fail : Error → Board → σ → Prop}

@[simp] theorem meets_bandOf (d : Direction) (hz : UInt64) {ok : Band → Board → σ → Prop} :
    Meets K setup (bandOf d hz) b s ok fail ↔ ok (Band.ofFrequency d hz) b s := by
  by_cases known : (Band.ofFrequency? d hz).isNone
  · simp [bandOf, known]
  · simp [bandOf, known]

@[simp] theorem meets_pathInUse (d : Direction) (enabled : Bool) (hz : UInt64)
    {ok : SignalPath → Board → σ → Prop} :
    Meets K setup (pathInUse d enabled hz) b s ok fail ↔ ok (SignalPath.inUse d enabled hz) b s := by
  cases enabled <;> simp [pathInUse, SignalPath.inUse, Band.inUse]

@[simp] theorem meets_switchFor (register : UInt32) (d : Direction) (enabled : Bool) (hz : UInt64)
    {ok : UInt32 → Board → σ → Prop} :
    Meets K setup (switchFor register d enabled hz) b s ok fail ↔
      ok (FrontEnd.withSwitch register d (SignalPath.inUse d enabled hz).switch) b s := by
  simp [switchFor]

@[simp] theorem meets_clampTo (r : ScaledRange Rat) (value : Int64) {ok : Int64 → Board → σ → Prop} :
    Meets K setup (clampTo r value) b s ok fail ↔ ok (r.clamp value) b s := by
  unfold clampTo
  cases r.place value <;> simp

@[simp] theorem meets_clampWord (r : ScaledRange Rat) (value : UInt32) {ok : UInt32 → Board → σ → Prop} :
    Meets K setup (clampWord r value) b s ok fail ↔
      ok (r.clamp value.toUInt64.toInt64).toUInt64.toUInt32 b s := by
  simp [clampWord]

@[simp] theorem meets_warnIncompatible (v : Version) {ok : Unit → Board → σ → Prop} :
    Meets K setup (warnIncompatible v) b s ok fail ↔ ok () b s := by
  simp only [warnIncompatible, meets_bind, meets_get, meets_read]
  cases setup.classifier.check b.firmwareVersion v <;> simp

/-- Whether an image is let through to the FPGA. -/
def accepts (setup : Setup) (b : Board) (image : ByteArray) : Bool :=
  setup.config.skipFpgaSizeCheck || Flash.fitsBitstream b.fpgaSize image.size

@[simp] theorem meets_expectBitstream (operation : String) (image : ByteArray)
    {ok : Unit → Board → σ → Prop} :
    Meets K setup (expectBitstream operation image) b s ok fail ↔
      (accepts setup b image = true → ok () b s) ∧
      (accepts setup b image = false → fail .invalid b s) := by
  cases skipped : setup.config.skipFpgaSizeCheck with
  | true => simp [expectBitstream, accepts, skipped]
  | false =>
    cases fits : Flash.fitsBitstream b.fpgaSize image.size <;>
      simp [expectBitstream, accepts, skipped, fits]

end Pure

theorem bandOf_confined (d : Direction) (hz : UInt64) : Confined C (bandOf d hz) := by
  intro setup b
  simp [bandOf]

theorem clampTo_confined (r : ScaledRange Rat) (value : Int64) : Confined C (clampTo r value) := by
  intro setup b
  simp

theorem clampWord_confined (r : ScaledRange Rat) (value : UInt32) : Confined C (clampWord r value) :=
  (clampTo_confined r _).map _

theorem expectChannel_confined (channel : UInt8) : Confined C (expectChannel channel) := by
  intro setup b
  simp [expectChannel]

/-- The channel whose gain mode an operation on a channel reaches, if it reaches one. -/
def modeChannel? (channel : UInt8) : Option UInt8 :=
  if channel = Channel.rx0 then some 0 else if channel = Channel.rx1 then some 1 else none

/-- What comes after `gainModeChannel` is only reached on a channel that has a gain mode. -/
theorem gainModeChannel_bind (operation : String) (channel : UInt8) {f : UInt8 → Action α}
    (rest : ∀ pair, modeChannel? channel = some pair → Confined C (f pair)) :
    Confined C (gainModeChannel operation channel >>= f) := by
  intro setup b
  unfold gainModeChannel
  by_cases first : channel = Channel.rx0
  · have next := rest 0 (if_pos first) setup b
    simp [first, next]
  by_cases second : channel = Channel.rx1
  · have next := rest 1 ((if_neg first).trans (if_pos second)) setup b
    have apart : Channel.rx1 ≠ Channel.rx0 := by decide
    simp [second, apart, next]
  · simp [first, second]

section Passive

variable {n? : Option UInt8} (channel : UInt8)

theorem getFrequency_quiet : Confined (Quiet n?) (getFrequency channel) := by
  intro setup b
  simp [getFrequency, Passive]

theorem setBandwidth_quiet (hz : UInt32) : Confined (Quiet n?) (setBandwidth channel hz) := by
  refine .after _ (.bind (clampWord_confined _ _) ?_)
  intro hz setup b
  simp [getBandwidth, Passive]

theorem setSampleRate_quiet (hz : UInt32) : Confined (Quiet n?) (setSampleRate channel hz) := by
  refine .after _ (.bind (clampWord_confined _ _) ?_)
  intro hz setup b
  simp [getSampleRate, Passive]

theorem getRationalSampleRate_quiet : Confined (Quiet n?) (getRationalSampleRate channel) := by
  intro setup b
  simp [getRationalSampleRate, getSampleRate, Passive]

theorem setRationalSampleRate_quiet (rate : RationalRate) :
    Confined (Quiet n?) (setRationalSampleRate channel rate) := by
  have set := (@setSampleRate_quiet n? channel rate.floor).step "set_rational_sample_rate"
    "set_sample_rate"
  have both := set.bind fun _ => getRationalSampleRate_quiet channel
  refine .after _ ?_
  by_cases zero : rate.den = 0
  · intro setup b
    simp [zero]
  · simpa [zero] using both

theorem getGainRange_quiet : Confined (Quiet n?) (getGainRange channel) := by
  refine .after _ ?_
  cases d : Direction.ofChannel channel with
  | tx =>
    intro setup b
    simp
  | rx =>
    refine .bind ((getFrequency_quiet channel).step _ _) ?_
    intro hz setup b
    cases rxGainRange? hz <;> simp

theorem setGain_quiet (gain : Int32) :
    Confined (Quiet (some (Channel.pair channel))) (setGain channel gain) := by
  refine .after _ (.bind ((getGainRange_quiet channel).step _ _) ?_)
  intro range
  refine .bind (clampTo_confined _ _) ?_
  intro clamped setup b
  cases Direction.ofChannel channel <;> simp [Passive]

theorem getGain_quiet : Confined (Quiet (some (Channel.pair channel))) (getGain channel) := by
  refine .after _ (.bind ((getGainRange_quiet channel).step _ _) ?_)
  intro range setup b
  cases Direction.ofChannel channel <;> simp [Passive]

theorem setGainMode_quiet (mode : GainMode) :
    Confined (Quiet (modeChannel? channel)) (setGainMode channel mode) := by
  refine .after _ (gainModeChannel_bind _ _ ?_)
  intro pair reached setup b
  simp [Passive, reached]

theorem getGainMode_quiet : Confined (Quiet (modeChannel? channel)) (getGainMode channel) := by
  refine .after _ (gainModeChannel_bind _ _ ?_)
  intro pair reached setup b
  simp [Passive, reached]

theorem getGainStageRange_quiet (name : String) :
    Confined (Quiet n?) (getGainStageRange channel name) := by
  intro setup b
  unfold getGainStageRange
  split <;> simp

theorem noGainStage_confined (name : String) : Confined C (noGainStage name) := by
  intro setup b
  simp [noGainStage]

theorem setGainStage_quiet (name : String) (gain : Int32) :
    Confined (Quiet (some (Channel.pair channel))) (setGainStage channel name gain) := by
  refine .after _ ?_
  split
  · exact setGain_quiet channel gain
  · exact setGain_quiet channel gain
  · intro setup b
    simp
  · intro setup b
    simp

theorem getGainStage_quiet (name : String) :
    Confined (Quiet (some (Channel.pair channel))) (getGainStage channel name) := by
  refine .after _ ?_
  cases Direction.ofChannel channel with
  | tx =>
    by_cases dsa : name = "dsa"
    · simpa [dsa] using getGain_quiet channel
    · simpa [dsa] using noGainStage_confined name
  | rx =>
    refine .bind ?_ ?_
    · intro setup b
      simp [Passive]
    · intro gain
      split
      · exact fun _ _ => rfl
      · exact fun _ _ => rfl
      · exact noGainStage_confined name

theorem getRxSource_quiet : Confined (Quiet n?) getRxSource := by
  refine .after _ (.bind ?_ ?_)
  · intro setup b
    simp [Passive]
  · intro gpio setup b
    cases RxSource.ofCode? (RxSource.ofGpio gpio) <;> simp

theorem getPort_quiet : Confined (Quiet n?) (getPort channel) := by
  refine .after _ (.bind ?_ ?_)
  · intro setup b
    simp [Passive]
  · intro id setup b
    cases Rfic.Port.name? (Direction.ofChannel channel) id <;> simp

theorem correctionBank_quiet (operation : String) (d : Direction) :
    Confined (Quiet n?) (correctionBank operation d) := by
  refine .bind ?_ ?_
  · intro setup b
    simp [Passive]
  · intro port setup b
    cases Correction.Bank.ofPort? d port <;> simp

theorem readField_quiet (operation : String) (f : Correction.Field) :
    Confined (Quiet n?) (readField operation f) := by
  intro setup b
  cases f <;> simp [readField, Passive]

theorem writeField_quiet (operation : String) (bits : Nat) (f : Correction.Field) :
    Confined (Quiet n?) (writeField operation bits f) := by
  intro setup b
  cases f <;> simp [writeField, Passive]

theorem getCorrection_quiet (c : Correction) : Confined (Quiet n?) (getCorrection channel c) := by
  refine .after _ (.bind (expectChannel_confined channel) ?_)
  intro _
  refine .bind (correctionBank_quiet _ _) ?_
  intro bank
  exact (readField_quiet _ _).map _

theorem setCorrection_quiet (c : Correction) (value : Int16) :
    Confined (Quiet n?) (setCorrection channel c value) := by
  refine .after _ (.bind (expectChannel_confined channel) ?_)
  intro _
  refine .bind (correctionBank_quiet _ _) ?_
  intro bank
  refine .bind (writeField_quiet _ _ _) ?_
  intro _ setup b
  simp [Passive]

theorem transmit_moving (samples : ByteArray) (metadata : Option Metadata) (timeoutMs : Nat) :
    Confined Moving (transmit samples metadata timeoutMs) := by
  intro setup b
  cases stream : b.sync .tx <;> simp [transmit, stream, Moving]

theorem receive_moving (size : Nat) (metadata : Option Metadata) (timeoutMs : Nat) :
    Confined Moving (receive size metadata timeoutMs) := by
  intro setup b
  cases stream : b.sync .rx <;> simp [receive, stream, Moving]

theorem readMonitor_quiet (r : PowerMonitor.Register) : Confined (Quiet n?) (readMonitor r) := by
  intro setup b
  cases r <;> simp [readMonitor, PowerMonitor.readRegister, PowerMonitor.readShuntVoltage,
    PowerMonitor.readBusVoltage, PowerMonitor.readPower, PowerMonitor.readCurrent, PowerMonitor.read,
    Passive]

end Passive

/-- The operations that do more than the passive calls. -/
def Operation.isActive : Operation → Bool
  | setFrequency _ _ | setPort _ _ | enableModule _ _ | loadFpga _
  | configureSync _ _ _ _ _ _ | transmit _ _ _ | receive _ _ _ => true
  | _ => false

/-- The operations all of whose calls are routine. -/
def Operation.isRoutine : Operation → Bool
  | loadFpga _ | storeFpga _ | storeFirmware _ | createStream _ _ _ _ _ | configureSync _ _ _ _ _ _ => false
  | _ => true

/-- The channel that an operation names to the driver: a channel's number without its direction, for the
gain modes only if the channel has one. -/
def Operation.driverChannel? : Operation → Option UInt8
  | gain channel | setGain channel _ | gainStage channel _ | setGainStage channel _ _ =>
    some (Channel.pair channel)
  | gainMode channel | setGainMode channel _ => modeChannel? channel
  | _ => none

theorem perform_quiet (o : Operation) (passive : o.isActive = false) (routine : o.isRoutine = true) :
    Confined (Quiet o.driverChannel?) o.perform := by
  cases o
  case setFrequency | setPort | enableModule | loadFpga | configureSync | transmit | receive =>
    simp [Operation.isActive] at passive
  case storeFpga | storeFirmware | createStream => simp [Operation.isRoutine] at routine
  case setBandwidth channel hz => exact setBandwidth_quiet channel hz
  case setSampleRate channel hz => exact setSampleRate_quiet channel hz
  case setRationalSampleRate channel rate => exact setRationalSampleRate_quiet channel rate
  case rationalSampleRate channel => exact getRationalSampleRate_quiet channel
  case gainRange channel => exact getGainRange_quiet channel
  case gain channel => exact getGain_quiet channel
  case setGain channel db => exact setGain_quiet channel db
  case gainMode channel => exact getGainMode_quiet channel
  case setGainMode channel mode => exact setGainMode_quiet channel mode
  case gainStageRange channel name => exact getGainStageRange_quiet channel name
  case gainStage channel name => exact getGainStage_quiet channel name
  case setGainStage channel name db => exact setGainStage_quiet channel name db
  case rxSource => exact getRxSource_quiet
  case port channel => exact getPort_quiet channel
  case correction channel c => exact getCorrection_quiet channel c
  case setCorrection channel c value => exact setCorrection_quiet channel c value
  case readMonitor r => exact readMonitor_quiet r
  case frequency channel => exact getFrequency_quiet channel
  case band channel hz => exact bandOf_confined _ hz
  -- What is left asks at most for a stage and then makes calls one after the other.
  all_goals
    intro setup b
    simp [Operation.perform, linkSpeed, getFpgaSize, isFpgaConfigured, getFpgaVersion,
      getFirmwareVersion, getBandwidth, getSampleRate, getLoopback, setLoopback, setRxSource,
      runStream, submitBuffer, removeStream, getTimestamp, describeTrigger, armTrigger,
      fireTrigger, triggerStatus, readTrigger, writeTrigger, readRfic, writeRfic, readPll, writePll,
      getTrim, readTrim, writeTrim, readGpio, writeGpio, eraseStoredFpga, eraseFlash, readFlash, writeFlash,
      resetDevice, Passive]

theorem perform_passive (o : Operation) (h : o.isActive = false) : Confined Passive o.perform := by
  cases o
  case loadFpga | configureSync => simp [Operation.isActive] at h
  case storeFpga | storeFirmware | createStream =>
    intro setup b
    simp [Operation.perform, storeFpga, storeFirmware, createStream, Passive]
  all_goals exact (perform_quiet _ h rfl).mono (fun _ quiet => quiet.1) id

end RadioBoard.Board
