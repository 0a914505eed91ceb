import RadioBoard.Proofs.Passive

/-!
The steps of bringing a board up, by the calls that they make and by what they leave of the board.

Only two of them reach the front end or the image of the FPGA. All the others are beside the switches. What
the whole way up calls is the transport and, of the driver, its start, its filters and its ports: it has no
part in synchronous streams, and it names no channel. Main statement: under any contract, bringing a board up
is to greet it, to provide the FPGA and to set the board up, and opening a board is no more than that.
-/

namespace RadioBoard.Board

/-- Calls that have no part in synchronous streams. -/
@[simp] def Streamless : boardInterface.Call → Prop
  | .inr (.streaming (.startSync _)) | .inr (.stopSync _) => False
  | .inr (.streaming (.transmit _ _ _ _)) | .inr (.streaming (.receive _ _ _ _)) => False
  | _ => True

/-- Calls without a stream that neither write the front end, configure the FPGA nor reset the device. -/
@[simp] def Beside : boardInterface.Call → Prop
  | .inl (.writeFrontEnd _) | .inl (.loadFpga _) | .inl .reset => False
  | c => Streamless c

/-- Calls that a board makes on its way up: to the transport, and to start the driver and choose its ports. -/
@[simp] def Upward : boardInterface.Call → Prop
  | .inl _ | .inr (.startRfic _) | .inr (.releaseRfic _) => True
  | .inr (.rfic _ (.setFir _ _)) | .inr (.rfic _ (.enableRxFir _)) | .inr (.rfic _ (.setPort _ _)) => True
  | _ => False

/-- Those of them that are beside the switches. -/
def Aside (c : boardInterface.Call) : Prop := Beside c ∧ Upward c

/-- Calls of the way up that are routine. -/
def Furnishing (c : boardInterface.Call) : Prop := Upward c ∧ Routine c

/-- Those of them that are beside the switches. -/
def Adjusting (c : boardInterface.Call) : Prop := Aside c ∧ Routine c

theorem furnishing_of_adjusting (c : boardInterface.Call) (h : Adjusting c) : Furnishing c := ⟨h.1.2, h.2⟩

theorem streamless_of_upward (c : boardInterface.Call) (h : Upward c) : Streamless c := by
  cases c with
  | inl c => trivial
  | inr c =>
    cases c
    case streaming | stopSync => cases h
    all_goals trivial

theorem names_of_upward (c : boardInterface.Call) (h : Upward c) : Names none c := by
  intro n named
  cases c with
  | inl c => cases named
  | inr c =>
    cases c
    case rfic driver c =>
      cases c
      case setFir | enableRxFir | setPort => cases named
      all_goals cases h
    all_goals cases named

/-- What the board knows of its own make. -/
def make (b : Board) : FpgaSize × Nat × Version := (b.fpgaSize, b.messageSize, b.fpgaVersion)

/-- The stage of a board and its synchronous streams. -/
def held (b : Board) : Stage × Option Streaming.SyncHandle × Option Streaming.SyncHandle :=
  (b.stage, b.rxSync, b.txSync)

variable {C : boardInterface.Call → Prop}

theorem awaitReady_confined (asked : C (.inl .isReady)) (polls left : Nat) :
    Confined C (awaitReady polls left) := by
  induction left with
  | zero =>
    intro setup b
    simp [awaitReady]
  | succ left ih =>
    intro setup b
    have next := ih setup b
    simp [awaitReady, asked, next]

theorem checkFirmware_confined (v : Version) : Confined C (checkFirmware v) := by
  intro setup b
  simp only [checkFirmware, meets_bind, meets_read]
  cases setup.classifier.checkFirmware v <;> simp

theorem identifyBus_leaves (asked : C (.inl .speed)) :
    Leaves (fun b => { b with messageSize := 0 }) C identifyBus := by
  intro setup b
  rw [identifyBus, meets_bind, meets_transport]
  refine ⟨asked, ?_, fun _ _ _ => rfl⟩
  intro speed _ _
  cases speed <;> simp

/-- What comes of the search for an image. -/
theorem meets_loadFromFiles {σ : Type} {K : Contract boardInterface σ} {setup : Setup} {b : Board} {s : σ}
    {ok : Bool → Board → σ → Prop} {fail : Error → Board → σ → Prop} :
    Meets K setup loadFromFiles b s ok fail ↔
      (setup.config.lookUp setup.files a4ImageName = none → ok false b s) ∧
      (∀ path reason, setup.config.lookUp setup.files a4ImageName = some (path, .error reason) →
        fail .io b s) ∧
      ∀ path image, setup.config.lookUp setup.files a4ImageName = some (path, .ok image) →
        K.allows s (.inl (.loadFpga image)) ∧
        (∀ a t, K.answers s (.inl (.loadFpga image)) (Except.ok a) t → ok true b t) ∧
        ∀ e t, K.answers s (.inl (.loadFpga image)) (Except.error e) t → fail e b t := by
  rw [loadFromFiles, meets_bind, meets_read]
  rcases setup.config.lookUp setup.files a4ImageName with none | ⟨path, reason | image⟩
  all_goals simp

theorem provideFpga_confined (asked : C (.inl .isFpgaConfigured))
    (loaded : ∀ image, C (.inl (.loadFpga image))) : Confined C provideFpga := by
  apply Leaves.bind
  · intro setup b
    simp [asked]
  · intro configured setup b
    cases configured with
    | true => exact rfl
    | false =>
      change Meets _ setup loadFromFiles b () _ _
      rw [meets_loadFromFiles]
      exact ⟨fun _ => rfl, fun _ _ _ => rfl, fun _ image _ =>
        ⟨loaded image, fun _ _ _ => rfl, fun _ _ _ => rfl⟩⟩

theorem identifyFpga_leaves : Leaves held Aside identifyFpga := by
  intro setup b
  simp [identifyFpga, held, Aside]

theorem identifyFpga_beside : Leaves held Beside identifyFpga :=
  identifyFpga_leaves.mono (fun _ made => made.1) id

theorem setFraming_beside : Confined Beside (transport "initialize" (.setFraming .packets)) := by
  intro setup b
  simp

theorem awaitReset_adjusting (n : Nat) : Confined Adjusting (onTransport (PowerMonitor.awaitReset n)) := by
  induction n with
  | zero =>
    intro setup b
    simp [PowerMonitor.awaitReset]
  | succ n ih =>
    intro setup b
    have next := ih setup b
    simp [PowerMonitor.awaitReset, PowerMonitor.read, Adjusting, Aside, next]

theorem startMonitor_adjusting (shunt : Float32) :
    Confined Adjusting (onTransport (PowerMonitor.start shunt)) := by
  have write (r : PowerMonitor.Register) (value : UInt16) :
      Confined Adjusting (onTransport (PowerMonitor.write r value)) := by
    intro setup b
    simp [PowerMonitor.write, Adjusting, Aside]
  have all := (write .configuration PowerMonitor.resetBit).bind fun _ =>
    (awaitReset_adjusting PowerMonitor.resetPolls).bind fun _ =>
      (write .configuration PowerMonitor.settings).bind fun _ =>
        write .calibration (PowerMonitor.calibrationFor shunt)
  simpa only [PowerMonitor.start, onTransport_bind] using all

theorem startMonitor_beside (shunt : Float32) : Confined Beside (onTransport (PowerMonitor.start shunt)) :=
  (startMonitor_adjusting shunt).mono (fun _ made => made.1.1) id

/-- A board apart from its driver. -/
def driverless (b : Board) : Board := { b with rfic := none }

theorem startRfic_driverless : Leaves driverless Adjusting startRfic := by
  intro setup b
  cases driver : b.rfic
  · simp [startRfic, driver, driverless, Adjusting, Aside]
  · simp [startRfic, driver, driverless, Adjusting, Aside]

theorem startRfic_adjusting : Leaves (fun b => (held b, make b)) Adjusting startRfic :=
  startRfic_driverless.mono (fun _ => id) fun b => (held b, make b)

theorem startRfic_beside : Leaves held Beside startRfic :=
  startRfic_adjusting.mono (fun _ made => made.1.1) Prod.fst

/-! The whole way up. -/

/-- The synchronous streams of a board. -/
def streams (b : Board) : Option Streaming.SyncHandle × Option Streaming.SyncHandle := (b.rxSync, b.txSync)

theorem setPortFor_beside (d : Direction) (enabled : Bool) (hz : UInt64) :
    Confined Beside (setPortFor d enabled hz) := by
  intro setup b
  cases driver : b.rfic
  · simp [setPortFor, driver]
  · simp [setPortFor, driver]

theorem selectBand_furnishing (d : Direction) (hz : UInt64) : Confined Furnishing (selectBand d hz) := by
  intro setup b
  cases driver : b.rfic
  · simp [selectBand, setPortFor, driver, Furnishing]
  · simp [selectBand, setPortFor, driver, Furnishing]

/-- Setting up, once the FPGA has told its version. -/
def furnish : Action Unit := do
  transport "initialize" (.setFraming .packets)
  transport "initialize" (.writeFrontEnd FrontEnd.bothEnabled) " initialization"
  let config := (← read).config
  step "initialize" "ina219_init" (onTransport (PowerMonitor.start config.shunt))
  startRfic
  let register ← transport "initialize" .readFrontEnd
  transport "initialize" (.writeFrontEnd (FrontEnd.disable (FrontEnd.disable register .tx) .rx))
  step "initialize" "select_band (TX)" (selectBand .tx (config.rfic.loHz .tx))
  step "initialize" "select_band (RX)" (selectBand .rx (config.rfic.loHz .rx))
  modify ({ · with stage := .initialized })

theorem setUp_eq : setUp = (do identifyFpga; furnish) := rfl

/-- A board apart from its stage and its driver. -/
def fixture (b : Board) : Board := { b with stage := .uninitialized, rfic := none }

/-- The version comes first; whatever follows is routine. -/
theorem furnish_fixture : Leaves fixture Furnishing furnish := by
  have called {α : Type} (operation : String) (c : Transport.Call) (detail : String)
      {f : c.Reply → Action α} (rest : ∀ x, Leaves fixture Furnishing (f x)) (routine : Routine (.inl c)) :
      Leaves fixture Furnishing (transport operation c detail >>= f) := by
    refine .bind ?_ rest
    intro setup b
    rw [meets_transport]
    exact ⟨⟨trivial, routine⟩, fun _ _ _ => rfl, fun _ _ _ => rfl⟩
  have confined {act : Action Unit} (h : Confined Furnishing act) : Leaves fixture Furnishing act :=
    h.mono (fun _ => id) _
  have monitor (shunt : Float32) : Confined Furnishing (onTransport (PowerMonitor.start shunt)) :=
    (startMonitor_adjusting shunt).mono furnishing_of_adjusting id
  have driver : Leaves fixture Furnishing startRfic := startRfic_driverless.mono furnishing_of_adjusting fixture
  refine called _ _ _ (fun _ => ?_) trivial
  refine called _ _ _ (fun _ => ?_) trivial
  refine .bind (fun _ _ => rfl) fun config => ?_
  refine .bind (confined ((monitor _).step _ _)) fun _ => .bind driver fun _ => ?_
  refine called _ _ _ (fun _ => ?_) trivial
  refine called _ _ _ (fun _ => ?_) trivial
  refine .bind (confined ((selectBand_furnishing .tx _).step _ _)) fun _ => ?_
  refine .bind (confined ((selectBand_furnishing .rx _).step _ _)) fun _ => ?_
  exact fun _ _ => rfl

theorem furnish_leaves : Leaves (fun b => (streams b, make b)) Furnishing furnish :=
  furnish_fixture.mono (fun _ => id) fun b => (streams b, make b)

/-- Setting up ends at the last stage or in an error. -/
theorem furnish_initializes {σ : Type} {K : Contract boardInterface σ} (allowed : ∀ s c, K.allows s c)
    (setup : Setup) (b : Board) (s : σ) :
    Meets K setup furnish b s (fun _ b' _ => b'.stage = .initialized) fun _ _ _ => True := by
  have skip {α : Type} {act : Action α} {f : α → Action Unit} {b : Board} {s : σ}
      (rest : ∀ a b s, Meets K setup (f a) b s (fun _ b' _ => b'.stage = .initialized) fun _ _ _ => True) :
      Meets K setup (act >>= f) b s (fun _ b' _ => b'.stage = .initialized) fun _ _ _ => True := by
    rw [meets_bind]
    exact (meets_true allowed act).mono (fun a b t _ => rest a b t) fun _ _ _ _ => trivial
  rw [furnish]
  repeat refine skip fun _ _ _ => ?_
  exact rfl

theorem setUp_leaves : Leaves streams Upward setUp := by
  rw [setUp_eq]
  exact .bind (identifyFpga_leaves.mono (fun _ => And.right) Prod.snd) fun _ =>
    furnish_leaves.mono (fun _ => And.left) Prod.fst

/-- The way up before the FPGA. -/
def greet : Action Unit := do
  let version ← identifyFirmware
  let config := (← read).config
  awaitReady config.readyPolls config.readyPolls
  identifyBus
  checkFirmware version

/-- Calls to the firmware and the bus. -/
@[simp] def Greeting : boardInterface.Call → Prop
  | .inl .firmwareVersion | .inl .isReady | .inl .speed => True
  | _ => False

theorem routine_of_greeting (c : boardInterface.Call) (greeting : Greeting c) : Routine c := by
  unfold Routine
  split
  all_goals first | exact greeting.elim | trivial

/-- Once the firmware has told its version, only the message size is yet to be learned. -/
theorem attend_leaves (version : Version) : Leaves (fun b => { b with messageSize := 0 }) Greeting (do
    let config := (← read).config
    awaitReady config.readyPolls config.readyPolls
    identifyBus
    checkFirmware version) := by
  refine .bind (fun _ _ => rfl) fun setup => ?_
  refine .bind ((awaitReady_confined trivial _ _).mono (fun _ => id) _) fun _ => ?_
  refine .bind (identifyBus_leaves trivial) fun _ => ?_
  exact (checkFirmware_confined version).mono (fun _ => id) _

theorem greet_meets (setup : Setup) (b : Board) :
    Meets (.only Greeting) setup greet b ()
      (fun _ b' _ => b'.stage = .firmwareLoaded ∧ (b'.fpgaVersion, streams b') = (b.fpgaVersion, streams b))
      fun _ b' _ => (b'.fpgaVersion, streams b') = (b.fpgaVersion, streams b) := by
  have attached (version : Version) : Leaves (fun b => (b.stage, b.fpgaVersion, streams b)) Greeting _ :=
    (attend_leaves version).mono (fun _ => id) fun b => (b.stage, b.fpgaVersion, streams b)
  rw [greet, meets_bind, identifyFirmware, meets_bind, meets_transport]
  refine ⟨trivial, fun version _ _ => ?_, fun _ _ _ => rfl⟩
  rw [meets_bind, meets_read, meets_bind, meets_modify, meets_pure]
  apply (attached version setup _).mono
  · intro _ b' _ same
    exact ⟨congrArg Prod.fst same, congrArg Prod.snd same⟩
  · intro _ b' _ same
    exact congrArg Prod.snd same

/-- What comes after the greeting. -/
theorem meets_bringUp {σ : Type} {K : Contract boardInterface σ} {setup : Setup} {b : Board} {s : σ}
    {ok : Unit → Board → σ → Prop} {fail : Error → Board → σ → Prop} :
    Meets K setup bringUp b s ok fail ↔
      Meets K setup greet b s (fun _ b t =>
        (setup.config.forceNoFpga = true → ok () { b with fpgaSize := .a4 } t) ∧
        (setup.config.forceNoFpga = false → Meets K setup provideFpga { b with fpgaSize := .a4 } t
          (fun configured b t =>
            (configured = true → Meets K setup setUp { b with stage := .fpgaLoaded } t ok fail) ∧
            (configured = false → ok () b t)) fail)) fail := by
  simp [bringUp, greet]

/-- Bringing a board up starts no synchronous stream. -/
theorem bringUp_leaves : Leaves streams Upward bringUp := by
  have upward (c : boardInterface.Call) (greeting : Greeting c) : Upward c := by
    cases c with
    | inl c => trivial
    | inr c => cases greeting
  have provided : Confined Upward provideFpga := provideFpga_confined trivial fun _ => trivial
  intro setup b
  rw [meets_bringUp]
  apply ((greet_meets setup b).of_only fun c greeting _ => upward c greeting).mono
  · rintro _ b₁ _ ⟨-, same⟩
    have kept : streams b₁ = streams b := congrArg Prod.snd same
    refine ⟨fun _ => kept, fun _ => ?_⟩
    apply (provided setup _).mono
    · rintro configured _ _ rfl
      refine ⟨fun _ => ?_, fun _ => kept⟩
      exact (setUp_leaves setup _).imp fun _ _ same => same.trans kept
    · rintro _ _ _ rfl
      exact kept
  · intro _ b₁ _ same
    exact congrArg Prod.snd same

/-- Opening a board is the way up, and the release of what was started where that fails. -/
theorem meets_start {σ : Type} {K : Contract boardInterface σ} {setup : Setup} {s : σ}
    {post : Board → σ → Prop}
    (up : Meets K setup bringUp {} s (fun _ => post)
      fun _ b t => Meets K setup release b t (fun _ _ _ => True) fun _ _ _ => True) :
    (start setup).Meets K s fun r t => ∀ b, r = .ok b → post b t := by
  change Program.Meets _ (((bringUp setup).run {}).bind _) _ _
  rw [Program.meets_bind]
  apply Program.Meets.mono up
  rintro ⟨e | _, b⟩ t ended
  · change Program.Meets _ (((release setup).run b).bind _) _ _
    rw [Program.meets_bind]
    apply Program.Meets.mono ended
    intro _ _ _ b' failed
    cases failed
  · intro b' opened
    cases opened
    exact ended

end RadioBoard.Board
