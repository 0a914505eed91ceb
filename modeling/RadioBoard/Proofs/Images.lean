import RadioBoard.Proofs.FailStop
import RadioBoard.Proofs.Handover

/-!
Which images reach the device.

Three operations take an image, and each looks at its size first. Opening a board takes one, too, from the
search paths, and takes it as it is. Main statement: with the checks switched on, every image that an
operation hands over has the right size, for the FPGA or for the firmware, and fits its region of the flash;
what is refused is handed over to nobody; and the only other image is the one that was found.
-/

namespace RadioBoard

namespace Flash

theorem le_of_fitsBitstream {variant : FpgaSize} {size : Nat} (fits : fitsBitstream variant size = true) :
    size ≤ bitstreamLength.toNat := by
  have region : bitstreamLength.toNat = 3604480 := rfl
  cases variant
  case a4 =>
    have exactly : size = a4BitstreamSize := by simpa [fitsBitstream] using fits
    rw [exactly]
    decide
  all_goals
    simp [fitsBitstream] at fits
    omega

theorem le_of_fitsFirmware {size : Nat} (fits : fitsFirmware size = true) :
    size ≤ firmwareLength.toNat := by
  simp [fitsFirmware] at fits
  exact fits.2

end Flash

namespace Board

variable {σ : Type}

/-! Opening. -/

/-- The image that is found is the only one to be handed over. -/
@[simp] def Found (setup : Setup) : boardInterface.Call → Prop
  | .inl (.loadFpga image) => ∃ path, setup.config.lookUp setup.files a4ImageName = some (path, .ok image)
  | .inr (.flash (.writeFirmware _)) | .inr (.flash (.writeBitstream _)) => False
  | _ => True

theorem found_of_routine {setup : Setup} (c : boardInterface.Call) (routine : Routine c) : Found setup c := by
  unfold Found
  split
  all_goals first | exact routine.elim | trivial

theorem provideFpga_found (setup : Setup) (b : Board) :
    Meets (.only (Found setup)) setup provideFpga b () (fun _ b' _ => b' = b) fun _ b' _ => b' = b := by
  rw [provideFpga, meets_bind, meets_transport]
  refine ⟨trivial, fun configured _ _ => ?_, fun _ _ _ => rfl⟩
  rw [meets_ite]
  refine ⟨fun _ => rfl, fun _ => ?_⟩
  rw [meets_loadFromFiles]
  exact ⟨fun _ => rfl, fun _ _ _ => rfl, fun path image found =>
    ⟨⟨path, found⟩, fun _ _ _ => rfl, fun _ _ _ => rfl⟩⟩

theorem bringUp_found (setup : Setup) :
    Meets (.only (Found setup)) setup bringUp {} () (fun _ b _ => b.fpgaSize = .a4) fun _ _ _ => True := by
  rw [meets_bringUp]
  apply ((greet_meets setup {}).of_only fun c greeting _ =>
    found_of_routine c (routine_of_greeting c greeting)).mono _ fun _ _ _ _ => trivial
  intro _ b _ _
  refine ⟨fun _ => rfl, fun _ => ?_⟩
  apply (provideFpga_found setup _).mono _ fun _ _ _ _ => trivial
  rintro configured _ _ rfl
  refine ⟨fun _ => ?_, fun _ => rfl⟩
  apply (setUp_scale trivial found_of_routine setup _).mono _ fun _ _ _ _ => trivial
  exact fun _ b' _ kept => congrArg Prod.fst kept

theorem start_found (setup : Setup) :
    (start setup).Meets (.only (Found setup)) () fun r _ => ∀ b, r = .ok b → b.fpgaSize = .a4 := by
  have closing (b : Board) : Meets (.only (Found setup)) setup release b () (fun _ _ _ => True) fun _ _ _ => True := by
    simp [release]
  exact meets_start ((bringUp_found setup).mono (fun _ _ _ => id) fun _ b _ _ => closing b)

/-! Operations. -/

/-- The right sizes for an FPGA of this variant and for the firmware, which fit the flash. -/
def Fits (variant : FpgaSize) : boardInterface.Call → Prop
  | .inl (.loadFpga image) => Flash.fitsBitstream variant image.size = true
  | .inr (.flash (.writeBitstream image)) =>
    Flash.fitsBitstream variant image.size = true ∧ image.size ≤ Flash.bitstreamLength.toNat
  | .inr (.flash (.writeFirmware image)) =>
    Flash.fitsFirmware image.size = true ∧ image.size ≤ Flash.firmwareLength.toNat
  | _ => True

/-- An operation is given an image of a wrong size. -/
def Operation.Unfit (variant : FpgaSize) : Operation → Prop
  | loadFpga image | storeFpga image => Flash.fitsBitstream variant image.size = false
  | storeFirmware image => Flash.fitsFirmware image.size = false
  | _ => False

section Checked

variable {setup : Setup} (bitstreams : setup.config.skipFpgaSizeCheck = false)
  (firmware : setup.config.skipFirmwareSizeCheck = false) {b : Board}

include bitstreams

theorem accepts_eq (image : ByteArray) : accepts setup b image = Flash.fitsBitstream b.fpgaSize image.size := by
  rw [accepts, bitstreams, Bool.false_or]

include firmware

theorem fits_of_suits (c : boardInterface.Call) (suits : Suits setup b c) : Fits b.fpgaSize c := by
  unfold Fits
  split
  case h_1 image =>
    exact (accepts_eq bitstreams image).symm.trans suits
  case h_2 image =>
    have fits := (accepts_eq bitstreams image).symm.trans suits
    exact ⟨fits, Flash.le_of_fitsBitstream fits⟩
  case h_3 image =>
    have fits := suits firmware
    exact ⟨fits, Flash.le_of_fitsFirmware fits⟩
  case h_4 => trivial

theorem perform_unfit {o : Operation} (unfit : o.Unfit b.fpgaSize) :
    Meets (.only fun _ => False) setup o.perform b () (fun _ _ _ => False)
      fun e b' _ => b' = b ∧ (.firmwareLoaded ≤ b.stage → e = .invalid) := by
  have early : b.stage < .firmwareLoaded → ¬.firmwareLoaded ≤ b.stage := Nat.not_le_of_lt
  cases o
  case loadFpga image | storeFpga image =>
    have refused : accepts setup b image = false := (accepts_eq bitstreams image).trans unfit
    simpa [Operation.perform, loadFpga, storeFpga, refused] using early
  case storeFirmware image =>
    have refused : Flash.fitsFirmware image.size = false := unfit
    simpa [Operation.perform, storeFirmware, firmware, refused] using early
  all_goals exact unfit.elim

/-- A refused image is handed over to nobody, and nothing changes. -/
theorem run_unfit {o : Operation} (unfit : o.Unfit b.fpgaSize) (h : Handler boardInterface σ) (world : σ) :
    let run := (o.attempt setup b).run h world
    run.state = world ∧ calls run.events = [] ∧
      ∃ e, run.result = (.error e, b) ∧ (.firmwareLoaded ≤ b.stage → e = .invalid) := by
  intro run
  obtain ⟨state, silent, ⟨_, _, never⟩ | ⟨e, failed, same, invalid⟩⟩ :=
    (perform_unfit bitstreams firmware unfit).silent h world
  · exact never.elim
  · refine ⟨state, silent, e, ?_, invalid⟩
    rwa [same] at failed

end Checked

/-- With both checks on, opening a board hands over the image that it found and no other. From then on
every image that is handed over fits, and one that does not is refused: nobody is called, and board and
collaborators are as before. -/
theorem images_fit (h : Handler boardInterface σ) (setup : Setup) (world : σ)
    (bitstreams : setup.config.skipFpgaSizeCheck = false)
    (firmware : setup.config.skipFirmwareSizeCheck = false) :
    let begun := (start setup).run h world
    (∀ c x, .called c x ∈ begun.events → Found setup c) ∧
    (∀ b, begun.result = .ok b → ∀ ops : List Operation,
      let final := (session setup ops b).run h begun.state
      final.result.fpgaSize = .a4 ∧ ∀ c x, .called c x ∈ final.events → Fits .a4 c) ∧
    ∀ (o : Operation) (b : Board) (before : σ), o.Unfit b.fpgaSize →
      let run := (o.attempt setup b).run h before
      run.state = before ∧ calls run.events = [] ∧
        ∃ e, run.result = (.error e, b) ∧ (.firmwareLoaded ≤ b.stage → e = .invalid) := by
  intro begun
  -- A contract on the calls alone asks nothing of the answers, so every handler keeps it.
  have kept (C : boardInterface.Call → Prop) : (Contract.only C).KeptBy h fun _ _ => True :=
    fun _ _ _ _ => ⟨(), trivial, trivial⟩
  have opens := start_found setup
  refine ⟨fun c x made => Program.called_of_meets opens made, fun b opened ops => ?_,
    fun o b before unfit => run_unfit bitstreams firmware unfit h before⟩
  obtain ⟨_, _, a4, _⟩ := opens.run (kept _) (t := world) trivial
  have size : b.fpgaSize = .a4 := a4 b opened
  have hands := session_suits setup ops b
  obtain ⟨_, _, same, _⟩ := hands.run (kept _) (t := begun.state) trivial
  refine ⟨(congrArg Prod.fst same).trans size, fun c x made => ?_⟩
  rw [← size]
  exact fits_of_suits bitstreams firmware c (Program.called_of_meets hands made)

/-- An image of two bytes is neither stored nor loaded. -/
theorem images_fit_bench :
    let image : ByteArray := ⟨#[7, 7]⟩
    let begun := (start .plain).run Bench.handler .configured
    let final := (session .plain [.storeFpga image, .storeFirmware image] (onBench .plain)).run
      Bench.handler begun.state
    let loaded := ((Operation.loadFpga image).attempt .plain final.result).run Bench.handler final.state
    (Setup.plain.config.skipFpgaSizeCheck = false ∧ Setup.plain.config.skipFirmwareSizeCheck = false) ∧
    (∀ c x, .called c x ∈ begun.events → Found .plain c) ∧
    (∀ c x, .called c x ∈ final.events → Fits .a4 c) ∧
      (calls loaded.events = [] ∧ loaded.result = (.error .invalid, final.result)) := by
  intro image begun final loaded
  obtain ⟨found, fit, refused⟩ := images_fit Bench.handler .plain .configured rfl rfl
  obtain ⟨size, fits⟩ := fit (onBench .plain) rfl [.storeFpga image, .storeFirmware image]
  have unfit : (Operation.loadFpga image).Unfit final.result.fpgaSize := by
    rw [show final.result.fpgaSize = .a4 from size]
    rfl
  obtain ⟨_, silent, e, failed, invalid⟩ := refused (.loadFpga image) final.result final.state unfit
  have reached : .firmwareLoaded ≤ final.result.stage := by decide +kernel
  rw [invalid reached] at failed
  exact ⟨⟨rfl, rfl⟩, found, fits, silent, failed⟩

/-- An image of four bytes among the files is handed over while a board is opened, though both checks are
on and it does not fit. -/
theorem unfit_image_found :
    let image : ByteArray := ⟨#[1, 1, 1, 1]⟩
    let setup : Setup := { Setup.plain with files := fun _ => some (.ok image) }
    let begun := (start setup).run Bench.handler { Bench.configured with isConfigured := false }
    (setup.config.skipFpgaSizeCheck = false ∧ setup.config.skipFirmwareSizeCheck = false) ∧
      begun.result.isOk = true ∧ .called (.inl (.loadFpga image)) (.ok ()) ∈ begun.events ∧
      ¬Fits .a4 (.inl (.loadFpga image)) := by
  intro image setup begun
  have here : begun.events[4]? = some (.called (.inl (.loadFpga image)) (.ok ())) := rfl
  exact ⟨⟨rfl, rfl⟩, by decide +kernel, List.mem_of_getElem? here, Bool.false_ne_true⟩

end Board
end RadioBoard
