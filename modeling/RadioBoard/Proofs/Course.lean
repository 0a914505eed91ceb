import RadioBoard.Proofs.History
import RadioBoard.Proofs.Passive

/-!
The course of an action: what has become of the calls so far.

A course notes the first call that failed, whether an answer was out of all tables, and whether the FPGA
was configured. Main statement: an operation that neither takes nor gives back a handle leaves the board as
it is, makes no call after one that failed, and ends with the error of that call, or with one of its own
that says what was wrong.
-/

namespace RadioBoard

/-- The error in an answer. -/
@[simp] def errorOf {ε α : Type} : Except ε α → Option ε
  | .ok _ => none
  | .error e => some e

/-- The error that a call has failed with. A release cannot fail. -/
@[simp] def failure? : (c : boardInterface.Call) → boardInterface.Answer c → Option Error
  | .inl _, x => errorOf x
  | .inr (.startRfic _), x => (errorOf x).map .ofStatus
  | .inr (.rfic _ _), x => (errorOf x).map .ofStatus
  | .inr (.streaming _), x => errorOf x
  | .inr (.flash _), x => errorOf x
  | .inr (.trigger _), x => errorOf x
  | .inr (.releaseRfic _), _ | .inr (.removeStream _), _ | .inr (.stopSync _), _ => none

/-- The FPGA was configured by a call. -/
@[simp] def configures : (c : boardInterface.Call) → boardInterface.Answer c → Bool
  | .inl (.loadFpga _), .ok _ => true
  | _, _ => false

/-- What has become of the calls so far. -/
structure Course where
  /-- The error of the first call that failed. -/
  failed : Option Error := none
  /-- An answer was odd. -/
  strange : Bool := false
  /-- The FPGA was configured. -/
  configured : Bool := false

namespace Course

variable (odd : (c : boardInterface.Call) → boardInterface.Answer c → Bool)

def after (s : Course) (c : boardInterface.Call) (x : boardInterface.Answer c) : Course :=
  ⟨s.failed <|> failure? c x, s.strange || odd c x, s.configured || configures c x⟩

/-- Some calls may be made, as long as none has failed. -/
def contract (C : boardInterface.Call → Prop) : Contract boardInterface Course :=
  .recording (fun s c => s.failed = none ∧ C c) (after odd)

variable {odd} {C : boardInterface.Call → Prop} {s t : Course} {c : boardInterface.Call}
  {x : boardInterface.Answer c}

@[simp] theorem contract_allows : (contract odd C).allows s c ↔ s.failed = none ∧ C c := Iff.rfl

@[simp] theorem contract_answers : (contract odd C).answers s c x t ↔ t = s.after odd c x :=
  Iff.rfl

@[simp] theorem after_failed : (s.after odd c x).failed = (s.failed <|> failure? c x) := rfl

@[simp] theorem after_strange : (s.after odd c x).strange = (s.strange || odd c x) := rfl

@[simp] theorem after_configured :
    (s.after odd c x).configured = (s.configured || configures c x) := rfl

end Course

theorem Stage.not_lt {a b : Stage} : ¬a < b ↔ b ≤ a := Nat.not_lt

namespace Board

/-- Calls for which a board needs no more than it has, and which leave it with what it has. -/
@[simp] def Modest (b : Board) : boardInterface.Call → Prop
  | .inl (.loadFpga _) => False
  | .inl _ => True
  | .inr (.rfic h _) => b.rfic = some h
  | .inr (.streaming (.transmit x _ _ _)) => b.sync .tx = some x
  | .inr (.streaming (.receive x _ _ _)) => b.sync .rx = some x
  | .inr (.streaming (.startSync _)) => False
  | .inr (.startRfic _) | .inr (.releaseRfic _) | .inr (.stopSync _) => False
  | .inr _ => True

/-- A board at the last stage has a driver. -/
def Ready (b : Board) : Prop := b.stage = .initialized → b.rfic ≠ none

/-- What stands behind an error that an action ends with: a call that failed with it; or none, and then it
is no refusal, and unexpected only for want of a driver or after an odd answer. -/
def Accounted (b : Board) (e : Error) (s : Course) : Prop :=
  s.failed = some e ∨ s.failed = none ∧ (∀ required actual, e ≠ .notReady required actual) ∧
    (e = .unexpected → ¬b.Ready ∨ s.strange = true)

variable {α β : Type} (odd : (c : boardInterface.Call) → boardInterface.Answer c → Bool)

/-- On boards with `P`, an action gets along with what the board has, leaves the board as it is and makes
no call after one that failed. -/
def Orderly (P : Board → Prop) (act : Action α) : Prop :=
  ∀ setup b s, P b → s.failed = none → Meets (Course.contract odd b.Modest) setup act b s
    (fun _ b' t => b' = b ∧ t.failed = none ∧ t.configured = s.configured)
    fun e b' t => b' = b ∧ t.configured = s.configured ∧ Accounted b e t

variable {odd} {P Q : Board → Prop}

namespace Orderly

theorem pure (a : α) : Orderly odd P (pure a) := fun _ _ _ _ clear => ⟨rfl, clear, rfl⟩

theorem bind {act : Action α} {f : α → Action β} (first : Orderly odd P act)
    (rest : ∀ a, Orderly odd P (f a)) : Orderly odd P (act >>= f) := by
  intro setup b s holds clear
  rw [meets_bind]
  apply (first setup b s holds clear).mono
  · intro a b' t post
    obtain ⟨rfl, clear', same⟩ := post
    rw [← same]
    exact rest a setup b' t holds clear'
  · intro e b' t post
    exact post

theorem step {act : Action α} (operation what : String) (h : Orderly odd P act) :
    Orderly odd P (Board.step operation what act) := by
  intro setup b s holds clear
  rw [meets_step]
  exact h setup b s holds clear

theorem map {act : Action α} (f : α → β) (h : Orderly odd P act) : Orderly odd P (f <$> act) := by
  intro setup b s holds clear
  rw [meets_map]
  exact h setup b s holds clear

theorem mono {act : Action α} (h : Orderly odd P act) (less : ∀ b, Q b → P b) : Orderly odd Q act :=
  fun setup b s holds clear => h setup b s (less b holds) clear

theorem expect {required : Stage} (reached : ∀ b, P b → required ≤ b.stage) :
    Orderly odd P (Board.expect required) := by
  intro setup b s holds clear
  rw [meets_expect_of_le (reached b holds)]
  exact ⟨rfl, clear, rfl⟩

theorem after {act : Action α} {required : Stage} (reached : ∀ b, P b → required ≤ b.stage)
    (h : Orderly odd P act) : Orderly odd P (do Board.expect required; act) :=
  .bind (.expect reached) fun _ => h

end Orderly

abbrev Last (b : Board) : Prop := b.stage = .initialized

theorem Last.reached {b : Board} {required : Stage} (last : b.Last) : required ≤ b.stage :=
  le_of_initialized last required

theorem Last.lost {b : Board} (last : b.Last) (none : b.rfic = none) : ¬b.Ready :=
  fun ready => ready last none

theorem transceiver_orderly (lost : ∀ b, P b → b.rfic = none → ¬b.Ready) (operation : String) (c : Rfic.Call)
    (detail : String) : Orderly odd P (transceiver operation c detail) := by
  intro setup b s holds clear
  have lost := lost b holds
  simp +contextual [clear, Accounted, lost]

theorem call_orderly (operation : String) (c : Rfic.Call) (detail : String) :
    Orderly odd Last (transceiver operation c detail) :=
  transceiver_orderly (fun _ => Last.lost) operation c detail

theorem Orderly.last {act : Action α} (h : Orderly odd Last act) :
    Orderly odd Last (do Board.expect .initialized; act) := h.after fun _ => Last.reached

theorem transport_orderly (operation : String) (c : Transport.Call) (detail : String)
    (within : Modest {} (.inl c)) : Orderly odd P (transport operation c detail) := by
  intro setup b s holds clear
  cases c
  case loadFpga image => exact within.elim
  all_goals simp [clear, Accounted]

theorem bandOf_orderly (d : Direction) (hz : UInt64) : Orderly odd P (bandOf d hz) := by
  intro setup b s holds clear
  simp [clear]

theorem switchFor_orderly (register : UInt32) (d : Direction) (enabled : Bool) (hz : UInt64) :
    Orderly odd P (switchFor register d enabled hz) := by
  intro setup b s holds clear
  simp [clear]

theorem clampTo_orderly (r : ScaledRange Rat) (value : Int64) : Orderly odd P (clampTo r value) := by
  intro setup b s holds clear
  unfold clampTo
  cases r.place value <;> simp [clear]

theorem clampWord_orderly (r : ScaledRange Rat) (value : UInt32) : Orderly odd P (clampWord r value) :=
  (clampTo_orderly r _).map _

theorem expectChannel_orderly (channel : UInt8) : Orderly odd P (expectChannel channel) := by
  intro setup b s holds clear
  simp [expectChannel, clear, Accounted]

theorem gainModeChannel_orderly (operation : String) (channel : UInt8) :
    Orderly odd P (gainModeChannel operation channel) := by
  intro setup b s holds clear
  unfold gainModeChannel
  by_cases first : channel = Channel.rx0
  · simp [first, clear]
  by_cases second : channel = Channel.rx1
  · simp [second, clear]
  · simp [first, second, clear, Accounted]

theorem setPortFor_orderly (reached : ∀ b, P b → .fpgaLoaded ≤ b.stage)
    (lost : ∀ b, P b → b.rfic = none → ¬b.Ready) (d : Direction) (enabled : Bool) (hz : UInt64) :
    Orderly odd P (setPortFor d enabled hz) := by
  refine .after reached ?_
  intro setup b s holds clear
  have lost := lost b holds
  simp +contextual [clear, Accounted, lost]

theorem selectBand_orderly (reached : ∀ b, P b → .fpgaLoaded ≤ b.stage)
    (lost : ∀ b, P b → b.rfic = none → ¬b.Ready) (d : Direction) (hz : UInt64) :
    Orderly odd P (selectBand d hz) := by
  refine .after reached (.bind (transport_orderly _ _ _ trivial) fun register => ?_)
  refine .bind (switchFor_orderly _ d _ hz) fun register => ?_
  exact .bind ((setPortFor_orderly reached lost d _ hz).step _ _) fun _ => transport_orderly _ _ _ trivial

variable (channel : UInt8)

theorem getFrequency_orderly : Orderly odd Last (getFrequency channel) :=
  .last (call_orderly _ _ _)

theorem setFrequency_orderly (hz : UInt64) : Orderly odd Last (setFrequency channel hz) := by
  refine .last ?_
  by_cases within : (frequencyRange (Direction.ofChannel channel)).contains hz.toInt64 = true
  · simp only [within]
    refine .bind (call_orderly _ _ _) fun _ => .step _ _ ?_
    exact selectBand_orderly (fun _ => Last.reached) (fun _ => Last.lost) _ _
  · intro setup b s holds clear
    simp [within, clear, Accounted]

theorem getBandwidth_orderly : Orderly odd Last (getBandwidth channel) :=
  .last (call_orderly _ _ _)

theorem setBandwidth_orderly (hz : UInt32) : Orderly odd Last (setBandwidth channel hz) := by
  refine .last (.bind (clampWord_orderly _ _) fun hz => ?_)
  exact .bind (call_orderly _ _ _) fun _ => getBandwidth_orderly channel

theorem getSampleRate_orderly : Orderly odd Last (getSampleRate channel) :=
  .last (call_orderly _ _ _)

theorem setSampleRate_orderly (hz : UInt32) : Orderly odd Last (setSampleRate channel hz) := by
  refine .last (.bind (clampWord_orderly _ _) fun hz => ?_)
  exact .bind (call_orderly _ _ _) fun _ => getSampleRate_orderly channel

theorem getRationalSampleRate_orderly : Orderly odd Last (getRationalSampleRate channel) :=
  .last (((getSampleRate_orderly channel).step _ _).map _)

theorem setRationalSampleRate_orderly (rate : RationalRate) :
    Orderly odd Last (setRationalSampleRate channel rate) := by
  refine .last ?_
  by_cases zero : rate.den = 0
  · intro setup b s holds clear
    simp [zero, clear, Accounted]
  · simp only [zero]
    exact .bind ((setSampleRate_orderly channel _).step _ _) fun _ => getRationalSampleRate_orderly channel

theorem getGainRange_orderly : Orderly odd Last (getGainRange channel) := by
  refine .last ?_
  cases Direction.ofChannel channel with
  | tx => exact .pure _
  | rx =>
    refine .bind ((getFrequency_orderly channel).step _ _) fun hz => ?_
    intro setup b s holds clear
    cases rxGainRange? hz <;> simp [clear, Accounted]

theorem setGain_orderly (gain : Int32) : Orderly odd Last (setGain channel gain) := by
  refine .last (.bind ((getGainRange_orderly channel).step _ _) fun range => ?_)
  refine .bind (clampTo_orderly _ _) fun clamped => ?_
  cases Direction.ofChannel channel <;> exact call_orderly _ _ _

theorem getGain_orderly : Orderly odd Last (getGain channel) := by
  refine .last (.bind ((getGainRange_orderly channel).step _ _) fun range => ?_)
  cases Direction.ofChannel channel <;> exact .map _ (call_orderly _ _ _)

theorem setGainMode_orderly (mode : GainMode) : Orderly odd Last (setGainMode channel mode) := by
  refine .last (.bind (gainModeChannel_orderly _ _) fun pair => ?_)
  refine .bind ?_ fun config => call_orderly _ _ _
  intro setup b s holds clear
  simp [clear]

theorem getGainMode_orderly : Orderly odd Last (getGainMode channel) :=
  .last (.bind (gainModeChannel_orderly _ _) fun _ => .map _ (call_orderly _ _ _))

theorem getGainStageRange_orderly (name : String) : Orderly odd P (getGainStageRange channel name) := by
  intro setup b s holds clear
  unfold getGainStageRange
  split <;> simp [clear, Accounted]

theorem noGainStage_orderly (name : String) : Orderly odd P (noGainStage name) := by
  intro setup b s holds clear
  simp [noGainStage, clear]

theorem setGainStage_orderly (name : String) (gain : Int32) :
    Orderly odd Last (setGainStage channel name gain) := by
  refine .last ?_
  split
  · exact setGain_orderly channel gain
  · exact setGain_orderly channel gain
  · intro setup b s holds clear
    simp [clear]
  · intro setup b s holds clear
    simp [clear]

theorem getGainStage_orderly (name : String) : Orderly odd Last (getGainStage channel name) := by
  refine .last ?_
  cases Direction.ofChannel channel with
  | tx =>
    by_cases dsa : name = "dsa"
    · simpa [dsa] using getGain_orderly channel
    · simpa [dsa] using noGainStage_orderly name
  | rx =>
    refine .bind (call_orderly _ _ _) fun gain => ?_
    split
    · exact .pure _
    · exact .pure _
    · exact noGainStage_orderly name

theorem correctionBank_orderly (operation : String) (d : Direction) :
    Orderly odd Last (correctionBank operation d) := by
  refine .bind (call_orderly _ _ _) fun port => ?_
  intro setup b s holds clear
  cases Correction.Bank.ofPort? d port <;> simp [clear, Accounted]

theorem readField_orderly (operation : String) (f : Correction.Field) :
    Orderly odd Last (readField operation f) := by
  cases f with
  | whole register => exact .map _ (call_orderly _ _ _)
  | split top bottom => exact .bind (call_orderly _ _ _) fun high => .map _ (call_orderly _ _ _)

theorem writeField_orderly (operation : String) (bits : Nat) (f : Correction.Field) :
    Orderly odd Last (writeField operation bits f) := by
  cases f with
  | whole register => exact call_orderly _ _ _
  | split top bottom =>
    refine .bind (call_orderly _ _ _) fun high => .bind (call_orderly _ _ _) fun low => ?_
    exact .bind (call_orderly _ _ _) fun _ => call_orderly _ _ _

theorem getCorrection_orderly (c : Correction) : Orderly odd Last (getCorrection channel c) :=
  .last (.bind (expectChannel_orderly channel) fun _ =>
    .bind (correctionBank_orderly _ _) fun _ => .map _ (readField_orderly _ _))

theorem setCorrection_orderly (c : Correction) (value : Int16) :
    Orderly odd Last (setCorrection channel c value) := by
  refine .last (.bind (expectChannel_orderly channel) fun _ => ?_)
  refine .bind (correctionBank_orderly _ _) fun bank => .bind (writeField_orderly _ _ _) fun _ => ?_
  exact .bind (call_orderly _ _ _) fun force => call_orderly _ _ _

theorem getLoopback_orderly : Orderly odd Last getLoopback := by
  refine .last (.bind (transport_orderly _ _ _ trivial) fun looped => ?_)
  cases looped with
  | true => exact .pure _
  | false => exact .map _ (call_orderly _ _ _)

theorem setLoopback_orderly (l : Loopback) : Orderly odd Last (setLoopback l) := by
  refine .last ?_
  cases supported : l.isSupported with
  | true => exact .bind (call_orderly _ _ _) fun _ => transport_orderly _ _ _ trivial
  | false =>
    intro setup b s last clear
    simp [clear, Accounted]

theorem setPort_orderly (name : String) : Orderly odd Last (setPort channel name) := by
  refine .last ?_
  dsimp only
  cases Rfic.Port.ofName? (Direction.ofChannel channel) name with
  | none =>
    intro setup b s holds clear
    simp [clear, Accounted]
  | some id => exact call_orderly _ _ _

theorem transmit_orderly (samples : ByteArray) (metadata : Option Metadata) (timeoutMs : Nat) :
    Orderly odd P (transmit samples metadata timeoutMs) := by
  intro setup b s holds clear
  cases stream : b.sync .tx <;> simp [transmit, stream, clear, Accounted]

theorem receive_orderly (size : Nat) (metadata : Option Metadata) (timeoutMs : Nat) :
    Orderly odd P (receive size metadata timeoutMs) := by
  intro setup b s holds clear
  cases stream : b.sync .rx <;> simp [receive, stream, clear, Accounted]

theorem readMonitor_orderly (r : PowerMonitor.Register) :
    Orderly odd (.fpgaLoaded ≤ ·.stage) (readMonitor r) := by
  refine .after (fun _ => id) ?_
  intro setup b s holds clear
  cases r <;> simp [PowerMonitor.readRegister, PowerMonitor.readShuntVoltage,
    PowerMonitor.readBusVoltage, PowerMonitor.readPower, PowerMonitor.readCurrent, PowerMonitor.read,
    clear, Accounted]

theorem switchModule_orderly (d : Direction) (on : Bool) (hz : UInt64) :
    Orderly odd P (switchModule d on hz) := by
  refine .bind (transport_orderly _ _ _ trivial) fun register => ?_
  refine .bind (switchFor_orderly _ d on hz) fun register => ?_
  exact .bind (transport_orderly _ _ _ trivial) fun _ => transport_orderly _ _ _ trivial

/-- What the hardware can answer an operation that no table of the board holds. -/
@[simp] def Operation.unlisted : Operation → (c : boardInterface.Call) → boardInterface.Answer c → Bool
  | .port _, .inr (.rfic _ (.port d)), .ok id => (Rfic.Port.name? d id).isNone
  | .rxSource, .inl .readGpio, .ok gpio => (RxSource.ofCode? (RxSource.ofGpio gpio)).isNone
  | _, _, _ => false

theorem getPort_orderly : Orderly (Operation.port channel).unlisted Last (getPort channel) := by
  refine .last ?_
  intro setup b s last clear
  rw [meets_bind, meets_transceiver]
  refine ⟨fun d held => ⟨⟨clear, held⟩, fun id t answer => ?_, fun code t answer => ?_⟩, fun none => ?_⟩
  · rw [Course.contract_answers] at answer
    cases listed : Rfic.Port.name? (Direction.ofChannel channel) id <;>
      simp [answer, listed, clear, Accounted]
  · rw [Course.contract_answers] at answer
    simp [answer, clear, Accounted]
  · simp [clear, Accounted, last.lost none]

theorem getRxSource_orderly : Orderly Operation.rxSource.unlisted Last getRxSource := by
  refine .last ?_
  intro setup b s last clear
  rw [meets_bind, meets_transport]
  refine ⟨⟨clear, trivial⟩, fun gpio t answer => ?_, fun e t answer => ?_⟩
  · rw [Course.contract_answers] at answer
    cases listed : RxSource.ofCode? (RxSource.ofGpio gpio) <;> simp [answer, listed, clear, Accounted]
  · rw [Course.contract_answers] at answer
    simp [answer, clear, Accounted]

/-- The operations that take or give back handles. -/
def Operation.isTrading : Operation → Bool
  | enableModule _ _ | loadFpga _ | configureSync _ _ _ _ _ _ => true
  | _ => false

/-- The board has been brought up far enough for an operation. -/
def Admits (o : Operation) (b : Board) : Prop := ∀ required, o.requires = some required → required ≤ b.stage

theorem admits_iff {o : Operation} {b : Board} :
    Admits o b ↔ match o.requires with
      | none => True
      | some required => required ≤ b.stage := by
  cases needs : o.requires <;> simp [Admits, needs]

theorem perform_orderly (o : Operation) (h : o.isTrading = false) :
    Orderly o.unlisted (Admits o) o.perform := by
  have last {o : Operation} (needs : o.requires = some .initialized) (b : Board) (admits : Admits o b) :
      b.Last := (initialized_le_iff _).mp (admits _ needs)
  cases o
  case enableModule | loadFpga | configureSync => simp [Operation.isTrading] at h
  case setFrequency channel hz => exact (setFrequency_orderly channel hz).mono (last rfl)
  case setPort channel name => exact (setPort_orderly channel name).mono (last rfl)
  case transmit samples metadata timeoutMs => exact transmit_orderly samples metadata timeoutMs
  case receive size metadata timeoutMs => exact receive_orderly size metadata timeoutMs
  case setBandwidth channel hz => exact (setBandwidth_orderly channel hz).mono (last rfl)
  case setSampleRate channel hz => exact (setSampleRate_orderly channel hz).mono (last rfl)
  case setRationalSampleRate channel rate => exact (setRationalSampleRate_orderly channel rate).mono (last rfl)
  case rationalSampleRate channel => exact (getRationalSampleRate_orderly channel).mono (last rfl)
  case gainRange channel => exact (getGainRange_orderly channel).mono (last rfl)
  case gain channel => exact (getGain_orderly channel).mono (last rfl)
  case setGain channel db => exact (setGain_orderly channel db).mono (last rfl)
  case gainMode channel => exact (getGainMode_orderly channel).mono (last rfl)
  case setGainMode channel mode => exact (setGainMode_orderly channel mode).mono (last rfl)
  case gainStageRange channel name => exact getGainStageRange_orderly channel name
  case gainStage channel name => exact (getGainStage_orderly channel name).mono (last rfl)
  case setGainStage channel name db => exact (setGainStage_orderly channel name db).mono (last rfl)
  case rxSource => exact getRxSource_orderly.mono (last rfl)
  case port channel => exact (getPort_orderly channel).mono (last rfl)
  case correction channel c => exact (getCorrection_orderly channel c).mono (last rfl)
  case setCorrection channel c value => exact (setCorrection_orderly channel c value).mono (last rfl)
  case readMonitor r => exact (readMonitor_orderly r).mono fun b admits => admits _ rfl
  case frequency channel => exact (getFrequency_orderly channel).mono (last rfl)
  case sampleRate channel => exact (getSampleRate_orderly channel).mono (last rfl)
  case band channel hz => exact bandOf_orderly _ hz
  case bandwidth channel => exact (getBandwidth_orderly channel).mono (last rfl)
  case loopback => exact getLoopback_orderly.mono (last rfl)
  case setLoopback l => exact (setLoopback_orderly l).mono (last rfl)
  -- What is left asks at most for a stage and then makes calls one after the other.
  all_goals
    intro setup b s admits clear
    have reached := admits_iff.mp admits
    simp only [Operation.requires] at reached
    simp [Operation.perform, linkSpeed, getFpgaSize, isFpgaConfigured, getFpgaVersion,
      getFirmwareVersion, setRxSource, runStream, submitBuffer, removeStream, createStream, getTimestamp,
      describeTrigger, armTrigger, fireTrigger, triggerStatus, readTrigger, writeTrigger, readRfic,
      writeRfic, readPll, writePll, getTrim, readTrim, writeTrim, readGpio, writeGpio, storeFpga,
      eraseStoredFpga, storeFirmware, eraseFlash, readFlash, writeFlash, resetDevice, expectBitstream,
      clear, Accounted, Stage.not_lt, reached]

/-! Operations that are refused. -/

variable {σ : Type}

/-- A guarded operation asks for its stage before anything else. -/
theorem perform_of_requires {o : Operation} {required : Stage} (needs : o.requires = some required) :
    ∃ act : Action o.Result, o.perform = (do Board.expect required; act) := by
  cases o
  case expect stage =>
    cases needs
    exact ⟨pure (), (bind_pure _).symm⟩
  all_goals cases needs <;> exact ⟨_, rfl⟩

theorem run_expect_of_lt {b : Board} {required : Stage} (below : b.stage < required) (setup : Setup) :
    (expect required setup).run b = .say (.log .error
      s!"Board state insufficient for operation (current \"{b.stage.name}\", requires \"{required.name}\")")
      (.done (.error (.notReady required.name b.stage.name), b)) := by
  change ((ite (b.stage < required) _ _ : Action Unit) setup).run b = _
  rw [if_pos below]
  rfl

/-- A refused operation says so and does nothing else. -/
theorem attempt_of_lt {o : Operation} {b : Board} {required : Stage} (needs : o.requires = some required)
    (below : b.stage < required) (setup : Setup) :
    o.attempt setup b = .say (.log .error
      s!"Board state insufficient for operation (current \"{b.stage.name}\", requires \"{required.name}\")")
      (.done (.error (.notReady required.name b.stage.name), b)) := by
  obtain ⟨act, guarded⟩ := perform_of_requires needs
  rw [Operation.attempt, guarded, run_bind, run_expect_of_lt below]
  rfl

theorem run_of_lt {o : Operation} {b : Board} {required : Stage} (needs : o.requires = some required)
    (below : b.stage < required) (setup : Setup) (h : Handler boardInterface σ) (world : σ) :
    let run := (o.attempt setup b).run h world
    run.result = (.error (.notReady required.name b.stage.name), b) ∧ run.state = world ∧
      calls run.events = [] := by
  dsimp only
  rw [attempt_of_lt needs below]
  exact ⟨rfl, rfl, rfl⟩

theorem exists_lt_of_not_admits {o : Operation} {b : Board} (short : ¬Admits o b) :
    ∃ required, o.requires = some required ∧ b.stage < required := by
  rw [admits_iff] at short
  cases needs : o.requires with
  | none =>
    rw [needs] at short
    exact absurd trivial short
  | some required =>
    rw [needs] at short
    exact ⟨required, rfl, Nat.not_le.mp short⟩

end Board
end RadioBoard
