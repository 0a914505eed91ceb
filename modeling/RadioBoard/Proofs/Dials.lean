import RadioBoard.Proofs.Oscillators

/-!
Settings that are kept as they are written.

`Dials` is what the settings of the board rest on besides `Hardware`. It is left open what becomes of them
in calls that have no part in settings. A panel is both together. Main statement: a bench whose rates come
in steps of one hertz is a panel.
-/

namespace RadioBoard

open Function (update)

structure Dials where
  bandwidth : Direction → UInt32
  sampleRate : Direction → UInt32
  rxGain : UInt8 → Int32
  attenuation : UInt8 → UInt32
  gainControl : UInt8 → UInt8
  selfTest : Int32
  isLooped : Bool
  gpio : UInt32
  trim : UInt16

namespace Dials

def transport (k : Dials) : (c : Transport.Call) → c.Reply → Dials → Prop
  | .readGpio, value, k' => value = k.gpio ∧ k' = k
  | .writeGpio value, _, k' => k' = { k with gpio := value }
  | .readTrim, value, k' => value = k.trim ∧ k' = k
  | .writeTrim value, _, k' => k' = { k with trim := value }
  | .loopback, on, k' => on = k.isLooped ∧ k' = k
  | .setLoopback on, _, k' => k' = { k with isLooped := on }
  | .readFrontEnd, _, k' => k' = k
  | .writeFrontEnd _, _, k' => k' = k
  | .enablePath _ _, _, k' => k' = k
  | _, _, _ => True

def rfic (k : Dials) : (c : Rfic.Call) → c.Reply → Dials → Prop
  | .bandwidth d, hz, k' => hz = k.bandwidth d ∧ k' = k
  | .setBandwidth d hz, _, k' => k' = { k with bandwidth := update k.bandwidth d hz }
  | .sampleRate d, hz, k' => hz = k.sampleRate d ∧ k' = k
  | .setSampleRate d hz, _, k' => k' = { k with sampleRate := update k.sampleRate d hz }
  | .rxGain channel, db, k' => db = k.rxGain channel ∧ k' = k
  | .setRxGain channel db, _, k' => k' = { k with rxGain := update k.rxGain channel db }
  | .attenuation channel, mdb, k' => mdb = k.attenuation channel ∧ k' = k
  | .setAttenuation channel mdb, _, k' =>
    k' = { k with attenuation := update k.attenuation channel mdb }
  | .gainControl channel, code, k' => code = k.gainControl channel ∧ k' = k
  | .setGainControl channel mode, _, k' =>
    k' = { k with gainControl := update k.gainControl channel mode.code }
  | .selfTest, mode, k' => mode = k.selfTest ∧ k' = k
  | .setSelfTest mode, _, k' => k' = { k with selfTest := mode }
  | .lo _, _, k' => k' = k
  | .setLo _ _, _, k' => k' = k
  | .port _, _, k' => k' = k
  | .setPort _ _, _, k' => k' = k
  | _, _, _ => True

def contract : Contract boardInterface Dials where
  allows _ _ := True
  answers k
    | .inl c, x, k' => ∃ reply, x = .ok reply ∧ k.transport c reply k'
    | .inr (.rfic _ c), x, k' => ∃ reply, x = .ok reply ∧ k.rfic c reply k'
    | .inr (.stopSync _), _, k' => k' = k
    | _, _, _ => True

/-- Calls that switch, tune and choose ports. -/
def Steering : boardInterface.Call → Prop
  | .inl .readFrontEnd | .inl (.writeFrontEnd _) | .inl (.enablePath _ _) => True
  | .inr (.rfic _ (.lo _)) | .inr (.rfic _ (.setLo _ _)) => True
  | .inr (.rfic _ (.port _)) | .inr (.rfic _ (.setPort _ _)) => True
  | .inr (.stopSync _) => True
  | _ => False

theorem transport_steering {k k' : Dials} {c : Transport.Call} (steering : Steering (.inl c))
    {reply : c.Reply} (h : k.transport c reply k') : k' = k := by
  cases c
  case readFrontEnd | writeFrontEnd | enablePath => exact h
  all_goals exact False.elim steering

theorem rfic_steering {k k' : Dials} {handle : Rfic.Handle} {c : Rfic.Call}
    (steering : Steering (.inr (.rfic handle c))) {reply : c.Reply} (h : k.rfic c reply k') : k' = k := by
  cases c
  case lo | setLo | port | setPort => exact h
  all_goals exact False.elim steering

theorem answers_steering {k k' : Dials} {c : boardInterface.Call} (steering : Steering c)
    {x : boardInterface.Answer c} (h : contract.answers k c x k') : k' = k := by
  cases c with
  | inl c =>
    obtain ⟨_, _, h⟩ := h
    exact transport_steering steering h
  | inr c =>
    cases c
    case rfic handle c =>
      obtain ⟨_, _, h⟩ := h
      exact rfic_steering steering h
    case stopSync => exact h
    all_goals exact False.elim steering

/-- Actions that only steer leave the dials alone. -/
theorem meets_of_steering {α γ : Type} {part : Board → γ} {act : Board.Action α}
    (steering : Board.Leaves part Steering act) (setup : Setup) (b : Board) (k : Dials) :
    Board.Meets contract setup act b k (fun _ _ k' => k' = k) fun _ _ k' => k' = k := by
  have unmoved : ∀ c, Steering c → ∀ k', k' = k → contract.allows k' c ∧
      ∀ x t, contract.answers k' c x t → t = k := by
    intro c made k' same
    exact ⟨trivial, fun x t answer => (answers_steering made answer).trans same⟩
  exact (steering.under (· = k) rfl unmoved setup b).imp fun _ _ post => post.2

theorem selectBand_steering (d : Direction) (hz : UInt64) : Board.Confined Steering (Board.selectBand d hz) := by
  intro setup b
  cases driver : b.rfic
  · simp [Board.selectBand, Board.setPortFor, driver, Steering]
  · simp [Board.selectBand, Board.setPortFor, driver, Steering]

theorem setFrequency_steering (channel : UInt8) (hz : UInt64) :
    Board.Confined Steering (Board.setFrequency channel hz) := by
  refine .after _ ?_
  by_cases inside : (Board.frequencyRange (Direction.ofChannel channel)).contains hz.toInt64 = true
  · have band := (selectBand_steering (Direction.ofChannel channel) hz).step "set_frequency" "select_band"
    have tune : Board.Confined Steering
        (Board.transceiver "set_frequency" (.setLo (Direction.ofChannel channel) hz)) := by
      intro setup b
      simp [Steering]
    simpa [inside] using tune.bind fun _ => band
  · intro setup b
    simp [inside]

theorem enableModule_steering (channel : UInt8) (on : Bool) :
    Board.Leaves (fun _ => ()) Steering (Board.enableModule channel on) := by
  intro setup b
  cases on <;>
    simp [Board.enableModule, Board.switchModule, Board.getFrequency, Board.setPortFor, Steering]

theorem tuning_steering (t : Tuning) : Board.Leaves (fun _ => ()) Steering t.operation.perform := by
  cases t with
  | frequency channel hz => exact (setFrequency_steering channel hz).mono (fun _ => id) fun _ => ()
  | enable channel on => exact enableModule_steering channel on

end Dials

/-- All that the settings of a board rest on. -/
abbrev Panel := Hardware × Dials

namespace Panel

def contract : Contract boardInterface Panel := Hardware.contract.both Dials.contract

/-- What is seen of the collaborators behaves like registers, its dials included. -/
def IsView {σ : Type} (h : Handler boardInterface σ) (view : σ → Panel) : Prop :=
  contract.KeptBy h fun s x => x = view s

theorem IsView.hardware {σ : Type} {h : Handler boardInterface σ} {view : σ → Panel}
    (like : IsView h view) : Hardware.IsView h fun s => (view s).1 := by
  intro s w c same
  subst same
  obtain ⟨x, answered, rfl⟩ := like s _ c rfl
  exact ⟨_, answered.1, rfl⟩

section Rules

open Board (Meets)

variable {setup : Setup} {b : Board} {x : Panel} {fail : Error → Board → Panel → Prop}

theorem meets_transport (operation : String) (c : Transport.Call) (detail : String)
    {ok : c.Reply → Board → Panel → Prop} :
    Meets contract setup (Board.transport operation c detail) b x ok fail ↔
      ∀ reply y, x.1.transport c reply y.1 → x.2.transport c reply y.2 → ok reply b y := by
  simp [contract, Contract.both, Hardware.contract, Dials.contract]

theorem meets_transceiver (driver : b.rfic.isSome) (operation : String) (c : Rfic.Call)
    (detail : String) {ok : c.Reply → Board → Panel → Prop} :
    Meets contract setup (Board.transceiver operation c detail) b x ok fail ↔
      ∀ reply y, x.1.rfic c reply y.1 → x.2.rfic c reply y.2 → ok reply b y := by
  obtain ⟨handle, held⟩ := Option.isSome_iff_exists.mp driver
  simp [held, contract, Contract.both, Hardware.contract, Hardware.peer, Dials.contract]

theorem meets_setPort (driver : b.rfic.isSome) (operation detail : String) (d : Direction) (id : UInt32)
    {ok : Unit → Board → Panel → Prop} :
    Meets contract setup (Board.transceiver operation (.setPort d id) detail) b x ok fail ↔
      ok () b ({ x.1 with port := update x.1.port d id }, x.2) := by
  rw [meets_transceiver driver]
  constructor
  · intro h
    exact h () _ rfl rfl
  · intro h reply y first second
    obtain ⟨w, k⟩ := y
    obtain rfl : w = _ := first
    obtain rfl : k = _ := second
    exact h

/-- Tuning and switching have their effect, and leave the dials alone. -/
theorem tuning_meets (last : b.stage = .initialized) (t : Tuning) :
    Meets contract setup t.operation.perform b x
      (fun _ b' y => t.Accepted b ∧ b' = t.board b ∧ y = (t.hardware x.1, x.2)) fun _ _ _ => True := by
  have tuned : Meets Hardware.contract setup t.operation.perform b x.1 _ _ := Board.tuning_meets last t
  apply (tuned.both (Dials.meets_of_steering (Dials.tuning_steering t) setup b x.2)).mono
  · intro _ b' y post
    obtain ⟨⟨accepted, effect⟩, dials⟩ := post
    exact ⟨accepted, congrArg Prod.fst effect, Prod.ext (congrArg Prod.snd effect) dials⟩
  · intro _ _ _ _
    trivial

end Rules
end Panel

/-! The bench. -/

namespace Bench

def dials (b : Bench) : Dials where
  bandwidth d := (b.path d).bandwidth
  sampleRate d := (b.path d).sampleRate
  rxGain := b.rxGain.read
  attenuation := b.attenuation.read
  gainControl := b.gainControl.read
  selfTest := b.selfTest
  isLooped := b.isLooped
  gpio := b.gpio
  trim := b.trim

theorem dials_withPath (b : Bench) (p : Path) (d : Direction) :
    (b.withPath p d).dials = { b.dials with
      bandwidth := update b.dials.bandwidth d p.bandwidth
      sampleRate := update b.dials.sampleRate d p.sampleRate } := by
  cases d
  all_goals
    simp only [dials, Dials.mk.injEq]
    refine ⟨?_, ?_, rfl, rfl, rfl, rfl, rfl, rfl, rfl⟩
    all_goals
      funext e
      cases e <;> rfl

/-- A bench that settles on every rate in whole hertz. -/
abbrev Fine := { b : Bench // b.rateStep = 1 }

theorem settle_fine (b : Fine) (hz : UInt32) : b.1.settle hz = hz := by
  rw [settle, b.2]
  simp

theorem transport_rateStep (c : Transport.Call) (b : Bench) : (transport c b).2.rateStep = b.rateStep := by
  cases c
  case readMonitor register =>
    rw [transport, readMonitor]
    split <;> rfl
  case timestamp d => cases d <;> rfl
  all_goals rfl

theorem rfic_rateStep (c : Rfic.Call) (b : Bench) : (rfic c b).2.rateStep = b.rateStep := by
  have path (p : Path) (d : Direction) : (b.withPath p d).rateStep = b.rateStep := by cases d <;> rfl
  cases c
  case setLo | setPort | setBandwidth | setSampleRate => exact path _ _
  all_goals rfl

theorem handler_rateStep (c : boardInterface.Call) (b : Bench) : (handler c b).2.rateStep = b.rateStep := by
  match c with
  | .inl c => exact transport_rateStep c b
  | .inr (.rfic _ c) => exact rfic_rateStep c b
  | .inr (.streaming c) => cases c <;> rfl
  | .inr (.flash c) => cases c <;> rfl
  | .inr (.trigger c) => cases c <;> rfl
  | .inr (.startRfic _) | .inr (.releaseRfic _) | .inr (.removeStream _) | .inr (.stopSync _) => rfl

def Fine.handler : Handler boardInterface Fine := fun c b =>
  ((Bench.handler c b.1).1, ⟨(Bench.handler c b.1).2, (handler_rateStep c b.1).trans b.2⟩)

def Fine.view (b : Fine) : Panel := (b.1.view, b.1.dials)

theorem transport_dials (b : Bench) (c : Transport.Call) :
    b.dials.transport c (transport c b).1 (transport c b).2.dials := by
  cases c
  case readGpio | readTrim | loopback => exact ⟨rfl, rfl⟩
  case writeGpio | writeTrim | setLoopback | readFrontEnd | writeFrontEnd | enablePath => rfl
  all_goals trivial

theorem rfic_dials (b : Fine) (c : Rfic.Call) : b.1.dials.rfic c (rfic c b.1).1 (rfic c b.1).2.dials := by
  cases c
  case bandwidth | sampleRate | rxGain | attenuation | gainControl | selfTest => exact ⟨rfl, rfl⟩
  case lo | port | setSelfTest => rfl
  case setRxGain | setAttenuation | setGainControl =>
    rw [Dials.rfic, rfic, dials, RegisterFile.read_write]
    rfl
  case setBandwidth d hz =>
    have rate : update b.1.dials.sampleRate d (b.1.path d).sampleRate = b.1.dials.sampleRate :=
      Function.update_eq_self d _
    rw [Dials.rfic, rfic, settle_fine, dials_withPath, rate]
  case setSampleRate d hz =>
    have bandwidth : update b.1.dials.bandwidth d (b.1.path d).bandwidth = b.1.dials.bandwidth :=
      Function.update_eq_self d _
    rw [Dials.rfic, rfic, settle_fine, dials_withPath, bandwidth]
  case setLo d _ | setPort d _ =>
    have bandwidth : update b.1.dials.bandwidth d (b.1.path d).bandwidth = b.1.dials.bandwidth :=
      Function.update_eq_self d _
    have rate : update b.1.dials.sampleRate d (b.1.path d).sampleRate = b.1.dials.sampleRate :=
      Function.update_eq_self d _
    rw [Dials.rfic, rfic, dials_withPath, bandwidth, rate]
  all_goals trivial

/-- Such a bench is a panel. -/
theorem Fine.isView : Panel.IsView Fine.handler Fine.view := by
  intro b x c same
  subst same
  obtain ⟨w, answered, view⟩ := Bench.isView b.1 b.1.view c rfl
  subst view
  refine ⟨Fine.view (Fine.handler c b).2, ⟨answered, ?_⟩, rfl⟩
  match c with
  | .inl c => exact ⟨_, rfl, transport_dials b.1 c⟩
  | .inr (.rfic _ c) => exact ⟨_, rfl, rfic_dials b c⟩
  | .inr (.stopSync _) => rfl
  | .inr (.startRfic _) | .inr (.releaseRfic _) | .inr (.removeStream _) | .inr (.streaming _)
  | .inr (.flash _) | .inr (.trigger _) => trivial

end Bench
end RadioBoard
