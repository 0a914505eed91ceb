import RadioBoard.Proofs.FailStop
import RadioBoard.Proofs.Routine
import RadioBoard.Proofs.Session

/-!
The version of the FPGA that a board knows.

The version is asked for when the board is set up, and the board keeps the answer. Main statement: what the
board tells is the version that it was told last, and it was told after the FPGA was last configured unless
the set-up broke off before the answer. Such a board is between the last two stages; at the last stage the
version is always that of the FPGA.
-/

namespace RadioBoard.Board

variable {σ α γ : Type}

/-- Calls that neither configure the FPGA nor ask for its version. -/
@[simp] def Versionless : boardInterface.Call → Prop
  | .inl .fpgaVersion | .inl (.loadFpga _) => False
  | _ => True

theorem versionless_of_routine (c : boardInterface.Call) (routine : Routine c) : Versionless c := by
  unfold Versionless
  split
  case h_1 | h_2 => exact routine
  case h_3 => trivial

/-- What was told of the version of the FPGA. -/
structure Told where
  /-- The version that was told last. -/
  version : Version := ⟨0, 0, 0⟩
  /-- It was told after the FPGA was last configured. -/
  isCurrent : Bool := false

namespace Told

def after (t : Told) : (c : boardInterface.Call) → boardInterface.Answer c → Told
  | .inl .fpgaVersion, .ok version => ⟨version, true⟩
  | .inl (.loadFpga _), .ok () => { t with isCurrent := false }
  | _, _ => t

/-- Anything may be called and answered, and it is noted what is told. -/
def contract : Contract boardInterface Told := .recording (fun _ _ => True) after

theorem after_of_versionless (t : Told) (c : boardInterface.Call) (versionless : Versionless c)
    (x : boardInterface.Answer c) : t.after c x = t := by
  unfold after
  split
  case h_1 | h_2 => exact versionless.elim
  case h_3 => rfl

/-- Other calls tell nothing. -/
theorem keeps {C : boardInterface.Call → Prop} (versionless : ∀ c, C c → Versionless c) (t : Told)
    (c : boardInterface.Call) (made : C c) (t₁ : Told) (before : t₁ = t) :
    contract.allows t₁ c ∧ ∀ x t₂, contract.answers t₁ c x t₂ → t₂ = t := by
  refine ⟨trivial, fun x t₂ next => ?_⟩
  have unmoved : t₂ = t₁ := next.trans (t₁.after_of_versionless c (versionless c made) x)
  exact unmoved.trans before

end Told

/-- A board that knows what was told, and that is at the last stage only if that is the version of the FPGA. -/
structure Informed (b : Board) (t : Told) : Prop where
  version : b.fpgaVersion = t.version
  current : b.stage = .initialized → t.isCurrent = true

theorem Informed.congr {b b' : Board} {t : Told} (informed : Informed b t)
    (version : b'.fpgaVersion = b.fpgaVersion) (stage : b'.stage = b.stage) : Informed b' t where
  version := version.trans informed.version
  current last := informed.current (stage.symm.trans last)

/-- With the FPGA just configured nothing has to have been told. -/
theorem Informed.loaded {b : Board} {t : Told} (version : b.fpgaVersion = t.version) :
    Informed { b with stage := .fpgaLoaded } t where
  version := version
  current last := nomatch last

/-- Between the last two stages there is but one. -/
theorem eq_fpgaLoaded {s : Stage} (reached : .fpgaLoaded ≤ s) (early : s ≠ .initialized) : s = .fpgaLoaded := by
  cases s
  case fpgaLoaded => rfl
  case initialized => exact absurd rfl early
  all_goals exact absurd reached (by decide)

theorem Leaves.telling {part : Board → γ} {C : boardInterface.Call → Prop} {act : Action α}
    (leaves : Leaves part C act) (versionless : ∀ c, C c → Versionless c) (setup : Setup) (b : Board) (t : Told) :
    Meets Told.contract setup act b t (fun _ b' t' => part b' = part b ∧ t' = t)
      fun _ b' t' => part b' = part b ∧ t' = t :=
  leaves.under (· = t) rfl (Told.keeps versionless t) setup b

theorem setUp_informed {setup : Setup} {b : Board} {t : Told} (informed : Informed b t) :
    Meets Told.contract setup setUp b t (fun _ => Informed) fun _ => Informed := by
  have told (v : Version) (b' : Board) (version : b'.fpgaVersion = v) :
      Meets Told.contract setup furnish b' ⟨v, true⟩ (fun _ => Informed) fun _ => Informed := by
    apply (furnish_leaves.telling (fun c made => versionless_of_routine c made.2) setup b' ⟨v, true⟩).imp
    rintro b'' _ ⟨same, rfl⟩
    have kept : b''.fpgaVersion = b'.fpgaVersion := congrArg (fun p => p.2.2.2) same
    exact ⟨kept.trans version, fun _ => rfl⟩
  rw [setUp_eq, meets_bind, identifyFpga, meets_bind, meets_transport]
  refine ⟨trivial, ?_, ?_⟩
  · rintro v _ rfl
    rw [meets_bind, meets_read, meets_bind, meets_modify, meets_warnIncompatible]
    exact told v _ rfl
  · rintro e _ rfl
    -- Nothing was told: the board keeps what it knew, and a stage at which that need not be current.
    exact informed

theorem loadFpga_informed (image : ByteArray) {setup : Setup} {b : Board} {t : Told} (informed : Informed b t) :
    Meets Told.contract setup (loadFpga image) b t (fun _ => Informed) fun _ => Informed := by
  rw [loadFpga, meets_bind, meets_expect]
  refine ⟨fun _ => ?_, fun _ => informed⟩
  rw [meets_bind, meets_expectBitstream]
  refine ⟨fun _ => ?_, fun _ => informed⟩
  rw [meets_bind, meets_transport]
  refine ⟨trivial, ?_, ?_⟩
  · rintro ⟨⟩ _ rfl
    rw [meets_bind, meets_modify, meets_step]
    exact setUp_informed (.loaded informed.version)
  · rintro e _ rfl
    exact informed

/-- But for the loading of an image, an operation has no part in versions. -/
theorem perform_versionless (o : Operation) (other : ∀ image, o ≠ .loadFpga image) :
    Leaves bare Versionless o.perform := by
  cases routine : o.isRoutine with
  | true =>
    exact (perform_routineOn o routine).mono (fun c made => versionless_of_routine c made.1) id
  | false =>
    cases o
    case loadFpga image => exact absurd rfl (other image)
    case storeFpga | storeFirmware | createStream | configureSync =>
      intro setup b
      simp [Operation.perform, storeFpga, storeFirmware, createStream, configureSync, bare_withSync]
    all_goals cases routine

theorem perform_informed (o : Operation) {setup : Setup} {b : Board} {t : Told} (informed : Informed b t) :
    Meets Told.contract setup o.perform b t (fun _ => Informed) fun _ => Informed := by
  by_cases other : ∀ image, o ≠ .loadFpga image
  · apply ((perform_versionless o other).telling (fun _ => id) setup b t).imp
    rintro b' _ ⟨same, rfl⟩
    have version := congrArg Board.fpgaVersion same
    have stage := congrArg Board.stage same
    exact informed.congr version stage
  · obtain ⟨image, load⟩ := not_forall_not.mp other
    rw [load]
    exact loadFpga_informed image informed

theorem bringUp_informed (setup : Setup) :
    Meets Told.contract setup bringUp {} {} (fun _ => Informed) fun _ _ _ => True := by
  rw [meets_bringUp]
  have versionless (c : boardInterface.Call) (greeting : Greeting c) : Versionless c :=
    versionless_of_routine c (routine_of_greeting c greeting)
  apply ((greet_meets setup {}).under (· = {}) rfl (Told.keeps versionless {})).mono _
    fun _ _ _ _ => trivial
  rintro _ b _ ⟨⟨stage, same⟩, rfl⟩
  have fresh : Informed b {} := by
    refine ⟨congrArg Prod.fst same, fun last => ?_⟩
    cases stage.symm.trans last
  refine ⟨fun _ => fresh.congr rfl rfl, fun _ => ?_⟩
  have provided : Meets Told.contract setup provideFpga { b with fpgaSize := .a4 } {}
      (fun _ b' t => b' = { b with fpgaSize := .a4 } ∧ t = {}) fun _ _ _ => True := by
    rw [provideFpga, meets_bind, meets_transport]
    refine ⟨trivial, ?_, fun _ _ _ => trivial⟩
    rintro configured _ rfl
    rw [meets_ite, meets_loadFromFiles]
    refine ⟨fun _ => ⟨rfl, rfl⟩, fun _ => ⟨fun _ => ⟨rfl, rfl⟩, fun _ _ _ => trivial, fun _ image _ => ?_⟩⟩
    refine ⟨trivial, ?_, fun _ _ _ => trivial⟩
    rintro ⟨⟩ _ rfl
    exact ⟨rfl, rfl⟩
  apply provided.mono _ fun _ _ _ _ => trivial
  rintro configured _ _ ⟨rfl, rfl⟩
  refine ⟨fun _ => ?_, fun _ => fresh.congr rfl rfl⟩
  have loaded := Informed.loaded (b := { b with fpgaSize := .a4 }) (t := {}) fresh.version
  exact (setUp_informed loaded).mono (fun _ _ _ => id) fun _ _ _ _ => trivial

/-- From the stage on at which the FPGA is configured, a board tells the version that it knows. -/
theorem fpgaVersion_answer (setup : Setup) (b : Board) (h : Handler boardInterface σ) (world : σ)
    (version : Version) :
    ((Operation.fpgaVersion.attempt setup b).run h world).result.1 = .ok version ↔
      .fpgaLoaded ≤ b.stage ∧ version = b.fpgaVersion := by
  have asks : Meets (.only fun _ => False) setup Operation.fpgaVersion.perform b ()
      (fun version _ _ => .fpgaLoaded ≤ b.stage ∧ version = b.fpgaVersion)
      fun _ _ _ => b.stage < .fpgaLoaded := by
    simp [Operation.perform, getFpgaVersion]
  obtain ⟨-, -, ⟨known, result, reached, same⟩ | ⟨_, result, below⟩⟩ := asks.silent h world
  · have answer := congrArg Prod.fst result
    constructor
    · intro answered
      obtain rfl : known = version := Except.ok.inj (answer.symm.trans answered)
      exact ⟨reached, same⟩
    · rintro ⟨-, rfl⟩
      exact answer.trans (congrArg Except.ok same)
  · constructor
    · intro answered
      cases (congrArg Prod.fst result).symm.trans answered
    · rintro ⟨reached, -⟩
      exact absurd reached (Nat.not_le_of_lt below)

/-- Whatever is asked of a board that was opened, and whatever fails on the way: the version that the board
tells is the one that it was told last, and that was after the FPGA was last configured, unless the board
was left between the last two stages. -/
theorem fpgaVersion_told (h : Handler boardInterface σ) (setup : Setup) (world : σ) {b : Board}
    (opened : ((start setup).run h world).result = .ok b) (ops : List Operation) :
    let begun := (start setup).run h world
    let final := (session setup ops b).run h begun.state
    let told := Contract.record Told.after {} (begun.events ++ final.events)
    let asked := (Operation.fpgaVersion.attempt setup final.result).run h final.state
    ∀ version, asked.result.1 = .ok version →
      version = told.version ∧ (told.isCurrent = true ∨ final.result.stage = .fpgaLoaded) := by
  intro begun final told asked version answered
  have closing (b : Board) (t : Told) :
      Meets Told.contract setup release b t (fun _ _ _ => True) fun _ _ _ => True :=
    meets_true (fun _ _ => trivial) release
  have opens : (start setup).Meets Told.contract {} fun r t => ∀ b, r = .ok b → Informed b t :=
    meets_start ((bringUp_informed setup).mono (fun _ _ _ => id) fun _ b t _ => closing b t)
  have first := (opens.recorded h world).2 b opened
  have informed : Informed final.result told := by
    have lasts : (session setup ops b).Meets Told.contract _ Informed :=
      session_meets (fun o _ _ => perform_informed o) ops first
    have last := (lasts.recorded h begun.state).2
    rwa [← Contract.record_append] at last
  obtain ⟨reached, known⟩ := (fpgaVersion_answer _ _ _ _ _).mp answered
  refine ⟨known.trans informed.version, ?_⟩
  by_cases last : final.result.stage = .initialized
  · exact .inl (informed.current last)
  · exact .inr (eq_fpgaLoaded reached last)

/-- A bench without an FPGA image. -/
def blank : Bench := { Bench.configured with isConfigured := false }

/-- The board that is opened on it. -/
def onBlank : Board :=
  match ((start .unchecked).run Bench.handler blank).result with
  | .ok b => b
  | .error _ => {}

/-- A front end that cannot be read breaks the set-up off after the version was told. -/
theorem fpgaVersion_told_blind :
    let begun := (start .unchecked).run blind blank
    let final := (session .unchecked [.loadFpga ⟨#[1, 1, 1, 1]⟩] onBlank).run blind begun.state
    let told := Contract.record Told.after {} (begun.events ++ final.events)
    let asked := (Operation.fpgaVersion.attempt .unchecked final.result).run blind final.state
    begun.result = .ok onBlank ∧ asked.result.1 = .ok ⟨0, 16, 0⟩ ∧ told.version = ⟨0, 16, 0⟩ ∧
      told.isCurrent = true ∧ final.result.stage = .fpgaLoaded := by
  have opened : ((start .unchecked).run blind blank).result = .ok onBlank := rfl
  have outcome := fpgaVersion_told blind .unchecked blank opened [.loadFpga ⟨#[1, 1, 1, 1]⟩] ⟨0, 16, 0⟩
  dsimp only
  rw [fpgaVersion_answer] at outcome ⊢
  have told := outcome (by decide +kernel)
  exact ⟨opened, by decide +kernel, told.1.symm, by decide +kernel, by decide +kernel⟩

/-- A bench with an FPGA that does not tell its version. -/
def mute : Handler boardInterface Bench
  | .inl .fpgaVersion, world => (.error .timeout, world)
  | c, world => Bench.handler c world

/-- The version of no FPGA: the image is loaded, the version is never told, and the board tells one. -/
theorem version_of_mute :
    let begun := (start .unchecked).run mute blank
    let final := (session .unchecked [.loadFpga ⟨#[1, 1, 1, 1]⟩] onBlank).run mute begun.state
    let told := Contract.record Told.after {} (begun.events ++ final.events)
    let asked := (Operation.fpgaVersion.attempt .unchecked final.result).run mute final.state
    (∀ world, (mute (.inl .fpgaVersion) world).1 = .error .timeout) ∧ begun.result = .ok onBlank ∧
      asked.result.1 = .ok ⟨0, 0, 0⟩ ∧ told.isCurrent = false ∧ final.result.stage = .fpgaLoaded := by
  intro begun final told asked
  have answered : asked.result.1 = .ok ⟨0, 0, 0⟩ := (fpgaVersion_answer _ _ _ _ _).mpr (by decide +kernel)
  exact ⟨fun _ => rfl, rfl, answered, by decide +kernel, by decide +kernel⟩

end RadioBoard.Board
