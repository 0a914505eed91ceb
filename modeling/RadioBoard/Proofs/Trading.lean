import RadioBoard.Proofs.BringUp
import RadioBoard.Proofs.Course

/-!
Actions that change what the board has.

Some operations take or give back handles, and so does the way up. Each of them still makes no call after
one that failed. Main statement: an operation of any kind leaves a board that has a driver at the last stage
with one there, and if it fails, it leaves the board at the last stage only if it found it there and the
FPGA was left alone.
-/

namespace RadioBoard

namespace Board

variable {α β : Type} (odd : (c : boardInterface.Call) → boardInterface.Answer c → Bool)

/-- From a board and a course with `P` an action comes to `Q`, or fails and comes to `R`, and makes no
call after one that failed. Of the course, only whether the FPGA was configured can be spoken of. -/
def Brings (P Q R : Board → Bool → Prop) (act : Action α) : Prop :=
  ∀ setup b s, P b s.configured → s.failed = none →
    Meets (Course.contract odd fun _ => True) setup act b s
      (fun _ b' t => Q b' t.configured ∧ t.failed = none)
      fun e b' t => R b' t.configured ∧ Accounted b' e t

/-- The same where the course is not spoken of at all. -/
abbrev Lifts (P Q R : Board → Prop) (act : Action α) : Prop :=
  Brings odd (fun b _ => P b) (fun b _ => Q b) (fun b _ => R b) act

variable {odd} {P P' Q R S : Board → Bool → Prop}

/-- More calls may be made. -/
theorem meets_widen {C : boardInterface.Call → Prop} {setup : Setup} {act : Action α} {b : Board} {s : Course}
    {ok : α → Board → Course → Prop} {fail : Error → Board → Course → Prop}
    (met : Meets (Course.contract odd C) setup act b s ok fail) :
    Meets (Course.contract odd fun _ => True) setup act b s ok fail := by
  have same := Program.Meets.simulate (L := Course.contract odd fun _ => True) Eq met rfl
    fun s t c same allowed => ⟨⟨same ▸ allowed.1, trivial⟩, fun x t' answer => ⟨t', same ▸ answer, rfl⟩⟩
  apply Program.Meets.mono same
  intro r t post
  obtain ⟨_, rfl, post⟩ := post
  exact post

theorem Orderly.brings {act : Action α} {p : Board → Prop} (h : Orderly odd p act)
    (inside : ∀ b c, P b c → p b ∧ R b c) : Brings odd P P R act := by
  intro setup b s holds clear
  apply (meets_widen (h setup b s (inside _ _ holds).1 clear)).mono
  · intro _ b' t post
    obtain ⟨rfl, clear', same⟩ := post
    rw [same]
    exact ⟨holds, clear'⟩
  · intro e b' t post
    obtain ⟨rfl, same, accounted⟩ := post
    rw [same]
    exact ⟨(inside _ _ holds).2, accounted⟩

namespace Brings

theorem bind {act : Action α} {f : α → Action β} (first : Brings odd P Q R act)
    (rest : ∀ a, Brings odd Q S R (f a)) : Brings odd P S R (act >>= f) := by
  intro setup b s holds clear
  rw [meets_bind]
  apply (first setup b s holds clear).mono
  · intro a b' t post
    exact rest a setup b' t post.1 post.2
  · intro e b' t post
    exact post

theorem step {act : Action α} (operation what : String) (h : Brings odd P Q R act) :
    Brings odd P Q R (Board.step operation what act) := by
  intro setup b s holds clear
  rw [meets_step]
  exact h setup b s holds clear

theorem modify {f : Board → Board} (turns : ∀ b c, P b c → Q (f b) c) :
    Brings odd P Q R (modify f : Action Unit) :=
  fun _ b _ holds clear => ⟨turns b _ holds, clear⟩

theorem read : Brings odd P P R (MonadReader.read : Action Setup) :=
  fun _ _ _ holds clear => ⟨holds, clear⟩

theorem mono {act : Action α} {Q' R' : Board → Bool → Prop} (h : Brings odd P Q R act)
    (before : ∀ b c, P' b c → P b c) (good : ∀ b c, Q b c → Q' b c) (bad : ∀ b c, R b c → R' b c) :
    Brings odd P' Q' R' act := by
  intro setup b s holds clear
  apply (h setup b s (before _ _ holds) clear).mono
  · intro _ b' t post
    exact ⟨good _ _ post.1, post.2⟩
  · intro _ b' t post
    exact ⟨bad _ _ post.1, post.2⟩

end Brings

theorem stopSync_brings (d : Direction) (turns : ∀ b c, P b c → P (b.withSync none d) c) :
    Brings odd P P R (stopSync d) := by
  intro setup b s holds clear
  simp [clear, holds, turns]

theorem releaseRfic_brings (turns : ∀ b c, P b c → P { b with rfic := none } c) :
    Brings odd P P R releaseRfic := by
  intro setup b s holds clear
  simp [clear, holds, turns]

/-- The FPGA is configured, and the board is not set up yet. -/
@[simp] def Loaded (b : Board) : Prop := b.stage = .fpgaLoaded

/-- The driver runs, and the board is not set up yet. -/
@[simp] def Driven (b : Board) : Prop := b.stage = .fpgaLoaded ∧ b.rfic ≠ none

theorem Driven.lost {b : Board} (here : b.Driven) (none : b.rfic = none) : ¬b.Ready := absurd none here.2

theorem readMonitorRegister_orderly {p : Board → Prop} (r : PowerMonitor.Register) :
    Orderly odd p (onTransport (PowerMonitor.read r)) := by
  intro setup b s holds clear
  simp [PowerMonitor.read, clear, Accounted]

theorem writeMonitorRegister_orderly {p : Board → Prop} (r : PowerMonitor.Register) (value : UInt16) :
    Orderly odd p (onTransport (PowerMonitor.write r value)) := by
  intro setup b s holds clear
  simp [PowerMonitor.write, clear, Accounted]

theorem awaitReset_orderly {p : Board → Prop} (n : Nat) :
    Orderly odd p (onTransport (PowerMonitor.awaitReset n)) := by
  induction n with
  | zero =>
    intro setup b s holds clear
    simp [PowerMonitor.awaitReset, clear, Accounted]
  | succ n ih =>
    rw [PowerMonitor.awaitReset, onTransport_bind]
    refine .bind (readMonitorRegister_orderly _) fun contents => ?_
    rw [onTransport_ite]
    split
    · exact .pure ()
    · intro setup b s holds clear
      have next := ih setup b s holds clear
      simp [next]

theorem startMonitor_orderly {p : Board → Prop} (shunt : Float32) :
    Orderly odd p (onTransport (PowerMonitor.start shunt)) := by
  simp only [PowerMonitor.start, onTransport_bind]
  refine .bind (writeMonitorRegister_orderly _ _) fun _ => .bind (awaitReset_orderly _) fun _ => ?_
  exact .bind (writeMonitorRegister_orderly _ _) fun _ => writeMonitorRegister_orderly _ _

theorem startRfic_brings : Lifts odd Loaded Driven Loaded startRfic := by
  have driven (operation : String) (c : Rfic.Call) (detail : String) :
      Lifts odd Driven Driven Loaded (transceiver operation c detail) :=
    (transceiver_orderly (fun _ => Driven.lost) operation c detail).brings fun b _ here => ⟨here, here.1⟩
  refine .bind (releaseRfic_brings fun b _ here => here) fun _ => .bind .read fun setup => ?_
  refine .bind (Q := fun b _ => b.Loaded) ?_ fun handle => ?_
  · intro setup b s here clear
    have stage : b.stage = .fpgaLoaded := here
    simp [stage, clear, Accounted]
  refine .bind (Q := fun b _ => b.Driven) (.modify fun b _ here => ⟨here, Option.some_ne_none _⟩) fun _ => ?_
  exact .bind (driven _ _ _) fun _ => .bind (driven _ _ _) fun _ => driven _ _ _

/-- Setting up ends with a driver, or fails before the last stage. -/
theorem setUp_brings : Lifts odd Loaded (·.rfic ≠ none) Loaded setUp := by
  have identified : Lifts odd Loaded Loaded Loaded identifyFpga := by
    intro setup b s here clear
    have stage : b.stage = .fpgaLoaded := here
    simp [identifyFpga, stage, clear, Accounted]
  have loaded {γ : Type} {act : Action γ} (h : Orderly odd Loaded act) : Lifts odd Loaded Loaded Loaded act :=
    h.brings fun b _ here => ⟨here, here⟩
  have driven {γ : Type} {act : Action γ} (h : Orderly odd Driven act) : Lifts odd Driven Driven Loaded act :=
    h.brings fun b _ here => ⟨here, here.1⟩
  have reached (b : Board) (here : b.Driven) : .fpgaLoaded ≤ b.stage :=
    Nat.le_of_eq (congrArg Stage.rank here.1.symm)
  refine .bind identified fun _ => ?_
  refine .bind (loaded (transport_orderly _ _ _ trivial)) fun _ => ?_
  refine .bind (loaded (transport_orderly _ _ _ trivial)) fun _ => .bind .read fun setup => ?_
  refine .bind (.step _ _ (loaded (startMonitor_orderly _))) fun _ => .bind startRfic_brings fun _ => ?_
  refine .bind (driven (transport_orderly _ _ _ trivial)) fun register => ?_
  refine .bind (driven (transport_orderly _ _ _ trivial)) fun _ => ?_
  refine .bind (.step _ _ (driven (selectBand_orderly reached (fun _ => Driven.lost) .tx _))) fun _ => ?_
  refine .bind (.step _ _ (driven (selectBand_orderly reached (fun _ => Driven.lost) .rx _))) fun _ => ?_
  exact .modify fun b _ here => here.2

/-- What a board still has that an operation on `b₀` has ended on. The last stage is only kept, and only
if the FPGA was left alone. -/
structure Ended (b₀ b : Board) (configured : Bool) : Prop where
  ready : b₀.Ready → b.Ready
  stage : b.stage = .initialized → b₀.stage = .initialized ∧ configured = false

/-- The stage and the driver of `b₀`, and the FPGA as it was. -/
@[simp] def Alike (b₀ b : Board) (configured : Bool) : Prop :=
  b.stage = b₀.stage ∧ b.rfic = b₀.rfic ∧ configured = false

variable {b₀ : Board}

theorem Alike.ended {b : Board} {configured : Bool} (alike : b₀.Alike b configured) :
    Ended b₀ b configured := by
  obtain ⟨stage, rfic, clean⟩ := alike
  refine ⟨?_, fun last => ⟨stage.symm.trans last, clean⟩⟩
  intro ready last
  rw [rfic]
  exact ready (stage.symm.trans last)

theorem Orderly.alike {act : Action α} (h : Orderly odd Last act) (last : b₀.Last) :
    Brings odd b₀.Alike b₀.Alike b₀.Alike act :=
  h.brings fun _ _ alike => ⟨alike.1.trans last, alike⟩

theorem alike_withSync {b : Board} {configured : Bool} (alike : b₀.Alike b configured)
    (x : Option Streaming.SyncHandle) (d : Direction) : b₀.Alike (b.withSync x d) configured := by
  cases d <;> exact alike

theorem enableModule_brings (last : b₀.Last) (channel : UInt8) (on : Bool) :
    Brings odd b₀.Alike b₀.Alike b₀.Alike (enableModule channel on) := by
  refine .bind ((Orderly.expect fun _ => Last.reached).alike last) fun _ => ?_
  cases on with
  | true =>
    refine .bind (((getFrequency_orderly channel).step _ _).alike last) fun hz => ?_
    refine .bind (.step _ _ (Orderly.alike ?_ last)) fun _ => (switchModule_orderly _ _ _).alike last
    exact setPortFor_orderly (fun _ => Last.reached) (fun _ => Last.lost) _ _ _
  | false =>
    refine .bind (stopSync_brings _ ?_) fun _ => (switchModule_orderly _ _ _).alike last
    exact fun b c alike => alike_withSync alike none _

theorem configureSync_brings (last : b₀.Last) (layout : Layout) (format : SampleFormat)
    (buffers bufferSize transfers : UInt32) (timeoutMs : Nat) :
    Brings odd b₀.Alike b₀.Alike b₀.Alike
      (configureSync layout format buffers bufferSize transfers timeoutMs) := by
  refine .bind ((Orderly.expect fun _ => Last.reached).alike last) fun _ => ?_
  refine .bind (fun _ _ _ alike clear => ⟨alike, clear⟩) fun board => ?_
  refine .bind (stopSync_brings _ fun b c alike => alike_withSync alike none _) fun _ => ?_
  refine .bind (Q := b₀.Alike) ?_ fun x => .modify fun b c alike => alike_withSync alike (some x) _
  rintro setup b s ⟨stage, rfic, clean⟩ clear
  simp [stage, rfic, clean, clear, Accounted]

theorem loadFpga_brings (reached : .firmwareLoaded ≤ b₀.stage) (image : ByteArray) :
    Brings odd (fun b c => b = b₀ ∧ c = false) (fun b _ => b₀.Ready → b.Ready) b₀.Ended
      (loadFpga image) := by
  have unchanged : b₀.Ended b₀ false := ⟨id, fun last => ⟨last, rfl⟩⟩
  have still {act : Action Unit} (h : Orderly odd (· = b₀) act) :
      Brings odd (fun b c => b = b₀ ∧ c = false) (fun b c => b = b₀ ∧ c = false) b₀.Ended act := by
    apply h.brings
    rintro b c ⟨rfl, rfl⟩
    exact ⟨rfl, unchanged⟩
  have early (b : Board) (configured : Bool) (here : b.Loaded) : b₀.Ended b configured := by
    have before : b.stage ≠ .initialized := by
      rw [here]
      decide
    exact ⟨fun _ last => absurd last before, fun last => absurd last before⟩
  refine .bind (still (.expect ?_)) fun _ => .bind (still ?_) fun _ => ?_
  · rintro b rfl
    exact reached
  · intro setup b s same clear
    simp [clear, Accounted]
  refine .bind (Q := fun _ _ => True) ?_ fun _ => ?_
  · rintro setup b s ⟨rfl, clean⟩ clear
    simp [clear, clean, Accounted, unchanged]
  refine .bind (Q := fun b _ => b.Loaded) (.modify fun _ _ _ => rfl) fun _ => .step _ _ ?_
  exact setUp_brings.mono (fun _ _ => id) (fun b _ driver _ _ => driver) early

theorem perform_brings (o : Operation) (b₀ : Board) (admits : Admits o b₀) :
    Brings o.unlisted (fun b c => b = b₀ ∧ c = false) (fun b _ => b₀.Ready → b.Ready) b₀.Ended
      o.perform := by
  have alike {act : Action o.Result} (h : Brings o.unlisted b₀.Alike b₀.Alike b₀.Alike act) :
      Brings o.unlisted (fun b c => b = b₀ ∧ c = false) (fun b _ => b₀.Ready → b.Ready) b₀.Ended act := by
    refine h.mono ?_ (fun b c alike => alike.ended.ready) (fun b c alike => alike.ended)
    rintro b c ⟨rfl, rfl⟩
    exact ⟨rfl, rfl, rfl⟩
  cases trading : o.isTrading with
  | false =>
    refine ((perform_orderly o trading).brings fun b c start => ?_).mono (fun _ _ => id) ?_ fun _ _ => id
    · obtain ⟨rfl, rfl⟩ := start
      exact ⟨admits, id, fun last => ⟨last, rfl⟩⟩
    · rintro b c ⟨rfl, -⟩
      exact id
  | true =>
    cases o
    case enableModule channel on =>
      exact alike (enableModule_brings ((initialized_le_iff _).mp (admits _ rfl)) channel on)
    case configureSync layout format buffers bufferSize transfers timeoutMs =>
      exact alike (configureSync_brings ((initialized_le_iff _).mp (admits _ rfl)) layout format buffers
        bufferSize transfers timeoutMs)
    case loadFpga image => exact loadFpga_brings (admits _ rfl) image
    all_goals cases trading

/-! The way up. -/

/-- A speed of the bus that no message size goes with. -/
@[simp] def unknownSpeed : (c : boardInterface.Call) → boardInterface.Answer c → Bool
  | .inl .speed, .ok .unknown => true
  | _, _ => false

/-- The board is not set up yet. -/
@[simp] def Early (b : Board) : Prop := b.stage ≠ .initialized

theorem awaitReady_orderly {p : Board → Prop} (polls left : Nat) : Orderly odd p (awaitReady polls left) := by
  induction left with
  | zero =>
    intro setup b s holds clear
    simp [awaitReady, clear, Accounted]
  | succ left ih =>
    refine .bind (transport_orderly _ _ _ trivial) fun ready => ?_
    cases ready with
    | true => exact .pure _
    | false =>
      intro setup b s holds clear
      have next := ih setup b s holds clear
      simp [next]

theorem checkFirmware_orderly {p : Board → Prop} (v : Version) : Orderly odd p (checkFirmware v) := by
  intro setup b s holds clear
  simp only [checkFirmware, meets_bind, meets_read]
  cases setup.classifier.checkFirmware v <;> simp [clear, Accounted]

theorem identifyBus_brings : Lifts unknownSpeed Early Early Early identifyBus := by
  intro setup b s early clear
  have stage : b.stage ≠ .initialized := early
  rw [identifyBus, meets_bind, meets_transport]
  refine ⟨⟨clear, trivial⟩, fun speed t answer => ?_, fun e t answer => ?_⟩
  · rw [Course.contract_answers] at answer
    cases speed <;> simp [answer, clear, stage, Accounted]
  · rw [Course.contract_answers] at answer
    simp [answer, clear, stage, Accounted]

theorem loadFromFiles_brings : Lifts odd Early Early Early loadFromFiles := by
  intro setup b s early clear
  have stage : b.stage ≠ .initialized := early
  rw [loadFromFiles, meets_bind, meets_read]
  split <;> simp [clear, stage, Accounted]

/-- Bringing a board up ends with a driver if it ends at the last stage, and else before it. -/
theorem bringUp_brings : Lifts unknownSpeed Early Ready Early bringUp := by
  have along {γ : Type} {act : Action γ} (h : Orderly unknownSpeed Early act) :
      Lifts unknownSpeed Early Early Early act := h.brings fun b _ early => ⟨early, early⟩
  refine .bind (Q := fun b _ => b.Early) ?_ fun version => .bind .read fun setup => ?_
  · intro setup b s early clear
    have stage : b.stage ≠ .initialized := early
    simp [identifyFirmware, clear, stage, Accounted]
  refine .bind (along (awaitReady_orderly _ _)) fun _ => .bind identifyBus_brings fun _ => ?_
  refine .bind (along (checkFirmware_orderly _)) fun _ => ?_
  refine .bind (Q := fun b _ => b.Early) (.modify fun _ _ early => early) fun _ => ?_
  have provided : Lifts unknownSpeed Early Ready Early (do
      if ← provideFpga then
        modify ({ · with stage := .fpgaLoaded })
        step "open" "initialize" setUp) := by
    refine .bind (Q := fun b _ => b.Early) ?_ fun configured => ?_
    · refine .bind (along (transport_orderly _ _ _ trivial)) fun configured => ?_
      cases configured with
      | true => exact along (.pure _)
      | false => exact loadFromFiles_brings
    cases configured with
    | false => exact fun setup b s early clear => ⟨fun last => absurd last early, clear⟩
    | true =>
      refine .bind (Q := fun b _ => b.Loaded) (.modify fun _ _ _ => rfl) fun _ => .step _ _ ?_
      refine setUp_brings.mono (fun _ _ => id) (fun b _ driver _ => driver) fun b _ here => ?_
      rw [Early, here]
      decide
  intro _ b s early clear
  rw [meets_ite]
  exact ⟨fun _ => ⟨fun last => absurd last early, clear⟩, fun _ => provided _ b s early clear⟩

end Board
end RadioBoard
