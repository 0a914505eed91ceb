import RadioBoard.Proofs.FailStop
import RadioBoard.Proofs.Handover
import RadioBoard.Proofs.Watch

/-!
What opening a board comes to.

Main statement: a board is opened only after its firmware answered that it is ready, was recent enough, and
its bus had a known speed; that speed decides the message size of every stream from then on. It is opened
without an FPGA, which then was left alone, exactly if that is asked for or there is neither a configured
FPGA nor an image. Otherwise it is set up, and the last of all calls leaves the front end turned off.
-/

namespace RadioBoard

/-- The message size that goes with the speed of a bus. -/
def LinkSpeed.messageSize? : LinkSpeed → Option Nat
  | .super => some 2048
  | .high => some 1024
  | .unknown => none

theorem Config.lookUp_eq_none_iff (config : Config) (files : Files) (name : String) :
    config.lookUp files name = none ↔ ∀ dir ∈ config.searchPaths, files (joinPath dir name) = none := by
  simp [lookUp]

namespace Board

open Contract

variable {σ : Type}

/-! The way to the FPGA. -/

/-- The calls to a firmware that is not ready for `n` times. -/
def polling (n : Nat) : List (Event boardInterface) :=
  List.replicate n (.called (.inl .isReady) (.ok false)) ++ [.called (.inl .isReady) (.ok true)]

/-- The calls to a board whose firmware becomes ready. -/
def greeting (version : Version) (n : Nat) (speed : LinkSpeed) : List (Event boardInterface) :=
  .called (.inl .firmwareVersion) (.ok version) :: (polling n ++ [.called (.inl .speed) (.ok speed)])

/-- A firmware that is ready in time and recent enough, on a bus of this message size. -/
def Greeted (setup : Setup) (messageSize : Nat) (made : List (Event boardInterface)) : Prop :=
  ∃ version n speed, made = greeting version n speed ∧ n < setup.config.readyPolls ∧
    (∀ required, setup.classifier.checkFirmware version ≠ .updateFirmware required) ∧
    speed.messageSize? = some messageSize

/-- The FPGA is asked whether it is configured. -/
def asks (configured : Bool) : Event boardInterface := .called (.inl .isFpgaConfigured) (.ok configured)

/-- How an FPGA is provided, or is not, with the calls that this takes. -/
inductive Provided (setup : Setup) : Bool → List (Event boardInterface) → Prop
  | configured : Provided setup true [asks true]
  | loaded (path : String) (image : ByteArray)
      (found : setup.config.lookUp setup.files a4ImageName = some (path, .ok image)) :
      Provided setup true [asks false, .called (.inl (.loadFpga image)) (.ok ())]
  | missing (none : setup.config.lookUp setup.files a4ImageName = none) : Provided setup false [asks false]

/-- How a board that was greeted has come to its stage, by the calls made since then. Unless it is opened
without an FPGA on purpose, the first of them asks whether there is a configured one. -/
structure Staged (setup : Setup) (b : Board) (rest : List (Event boardInterface)) : Prop where
  stage : b.stage = .firmwareLoaded ∨ b.stage = .initialized
  asked : setup.config.forceNoFpga = false → ∃ configured, rest.head? = some (asks configured)
  early : b.stage = .firmwareLoaded ↔ setup.config.forceNoFpga = true ∨ rest.head? = some (asks false) ∧
    ∀ dir ∈ setup.config.searchPaths, setup.files (joinPath dir a4ImageName) = none
  alone : b.stage = .firmwareLoaded → rest = if setup.config.forceNoFpga then [] else [asks false]
  loaded : b.stage = .initialized → rest.head? = some (asks false) →
    ∃ path image, setup.config.lookUp setup.files a4ImageName = some (path, .ok image) ∧
      rest[1]? = some (.called (.inl (.loadFpga image)) (.ok ()))

/-- How a board has come to its stage, by the calls that were made. -/
def Reached (setup : Setup) (b : Board) (made : List (Event boardInterface)) : Prop :=
  ∃ greeted rest, made = greeted ++ rest ∧ Greeted setup b.messageSize greeted ∧ Staged setup b rest

theorem ne_initialized_of_early {b : Board} (early : b.stage = .firmwareLoaded) : b.stage ≠ .initialized := by
  rw [early]
  decide

namespace Staged

variable {setup : Setup} {b : Board} {way : List (Event boardInterface)}

theorem of_forced (forced : setup.config.forceNoFpga = true) (stage : b.stage = .firmwareLoaded) :
    Staged setup b [] where
  stage := .inl stage
  asked free := absurd (forced.symm.trans free) nofun
  early := ⟨fun _ => .inl forced, fun _ => stage⟩
  alone _ := (if_pos forced).symm
  loaded last := absurd last (ne_initialized_of_early stage)

variable (free : setup.config.forceNoFpga = false)

include free

theorem unforced : ¬setup.config.forceNoFpga = true := by
  rw [free]
  exact Bool.false_ne_true

theorem of_missing (provided : Provided setup false way) (stage : b.stage = .firmwareLoaded) :
    Staged setup b way := by
  cases provided with
  | missing none =>
    rw [Config.lookUp_eq_none_iff] at none
    exact {
      stage := .inl stage
      asked := fun _ => ⟨false, rfl⟩
      early := ⟨fun _ => .inr ⟨rfl, none⟩, fun _ => stage⟩
      alone := fun _ => (if_neg (unforced free)).symm
      loaded := fun last => absurd last (ne_initialized_of_early stage) }

theorem of_last (last : b.stage = .initialized) (asked : ∃ configured, way.head? = some (asks configured))
    (loaded : way.head? = some (asks false) →
      ∃ path image, setup.config.lookUp setup.files a4ImageName = some (path, .ok image) ∧
        way[1]? = some (.called (.inl (.loadFpga image)) (.ok ()))) : Staged setup b way where
  stage := .inr last
  asked _ := asked
  early := by
    refine ⟨fun early => absurd last (ne_initialized_of_early early), fun either => ?_⟩
    obtain forced | ⟨lacks, nowhere⟩ := either
    · exact absurd forced (unforced free)
    · obtain ⟨path, image, found, _⟩ := loaded lacks
      rw [← Config.lookUp_eq_none_iff, found] at nowhere
      cases nowhere
  alone early := absurd last (ne_initialized_of_early early)
  loaded _ := loaded

/-- An FPGA that is provided is set up, whatever calls that takes. -/
theorem of_provided (provided : Provided setup true way) (last : b.stage = .initialized)
    (rest : List (Event boardInterface)) : Staged setup b (way ++ rest) := by
  cases provided with
  | configured =>
    have other : (asks true :: rest).head? ≠ some (asks false) := by simp [asks]
    exact of_last free last ⟨true, rfl⟩ fun same => absurd same other
  | loaded path image found => exact of_last free last ⟨false, rfl⟩ fun _ => ⟨path, image, found, rfl⟩

end Staged

theorem awaitReady_traced (polls left : Nat) (setup : Setup) (b : Board) (t : List (Event boardInterface)) :
    Meets tracing setup (awaitReady polls left) b t
      (fun _ b' t' => b' = b ∧ ∃ n < left, t' = t ++ polling n) fun _ _ _ => True := by
  induction left generalizing t with
  | zero => simp [awaitReady]
  | succ left ih =>
    rw [awaitReady, meets_bind, meets_transport]
    refine ⟨trivial, ?_, fun _ _ _ => trivial⟩
    rintro ready _ rfl
    cases ready with
    | true => exact ⟨rfl, 0, Nat.zero_lt_succ _, rfl⟩
    | false =>
      have later : Meets tracing setup (awaitReady polls left) b (t ++ [.called (.inl .isReady) (.ok false)])
          (fun _ b' t' => b' = b ∧ ∃ n < left + 1, t' = t ++ polling n) fun _ _ _ => True := by
        apply (ih _).mono _ fun _ _ _ => id
        rintro _ _ _ ⟨same, n, few, rfl⟩
        exact ⟨same, n + 1, Nat.succ_lt_succ few, List.append_assoc _ _ _⟩
      simp only [Bool.false_eq_true, ↓reduceIte, meets_ite, meets_bind, meets_pause, meets_read, meets_logInfo,
        later, implies_true, and_self]

/-- A board that is greeted. -/
theorem greet_traced (setup : Setup) (b : Board) :
    Meets tracing setup greet b []
      (fun _ b' t => b'.stage = .firmwareLoaded ∧ Greeted setup b'.messageSize t) fun _ _ _ => True := by
  rw [greet, meets_bind, identifyFirmware, meets_bind, meets_transport]
  refine ⟨trivial, ?_, fun _ _ _ => trivial⟩
  rintro version _ rfl
  rw [meets_bind, meets_read, meets_bind, meets_modify, meets_pure, meets_bind, meets_read, meets_bind]
  apply (awaitReady_traced _ _ setup _ _).mono _ fun _ _ _ => id
  rintro _ _ _ ⟨rfl, n, few, rfl⟩
  rw [meets_bind, identifyBus, meets_bind, meets_transport]
  refine ⟨trivial, ?_, fun _ _ _ => trivial⟩
  rintro speed _ rfl
  have recent {b' : Board} (stage : b'.stage = .firmwareLoaded) (size : speed.messageSize? = some b'.messageSize) :
      Meets tracing setup (checkFirmware version) b'
        ([.called (.inl .firmwareVersion) (.ok version)] ++ polling n ++ [.called (.inl .speed) (.ok speed)])
        (fun _ b' t => b'.stage = .firmwareLoaded ∧ Greeted setup b'.messageSize t) fun _ _ _ => True := by
    rw [checkFirmware, meets_bind, meets_read]
    cases check : setup.classifier.checkFirmware version with
    | updateFirmware required => simp
    | compatible | updateFpga =>
      refine ⟨stage, version, n, speed, List.append_assoc _ _ _, few, fun required outdated => ?_, size⟩
      cases check.symm.trans outdated
  cases speed with
  | unknown => simp
  | super | high => exact recent rfl rfl

theorem provideFpga_traced (setup : Setup) (b : Board) (t : List (Event boardInterface)) :
    Meets tracing setup provideFpga b t
      (fun configured b' t' => b' = b ∧ ∃ way, t' = t ++ way ∧ Provided setup configured way)
      fun _ _ _ => True := by
  rw [provideFpga, meets_bind, meets_transport]
  refine ⟨trivial, ?_, fun _ _ _ => trivial⟩
  intro configured t' grown
  rw [show t' = t ++ [asks configured] from grown]
  cases configured with
  | true => exact ⟨rfl, _, rfl, .configured⟩
  | false =>
    change Meets tracing setup loadFromFiles b (t ++ [asks false]) _ _
    rw [meets_loadFromFiles]
    refine ⟨fun none => ⟨rfl, _, rfl, .missing none⟩, fun _ _ _ => trivial, fun path image found => ?_⟩
    refine ⟨trivial, ?_, fun _ _ _ => trivial⟩
    intro _ t₂ grown₂
    rw [show t₂ = t ++ [asks false] ++ [.called (.inl (.loadFpga image)) (.ok ())] from grown₂]
    exact ⟨rfl, _, List.append_assoc _ _ _, .loaded path image found⟩

theorem setUp_traced (setup : Setup) (b : Board) (t : List (Event boardInterface)) :
    Meets tracing setup setUp b t
      (fun _ b' t' => b'.stage = .initialized ∧ b'.messageSize = b.messageSize ∧ t <+: t') fun _ _ _ => True := by
  have last : Meets tracing setup setUp b t (fun _ b' _ => b'.stage = .initialized) fun _ _ _ => True := by
    rw [setUp_eq, meets_bind]
    exact (meets_true (fun _ _ => trivial) _).mono
      (fun _ b' t' _ => furnish_initializes (fun _ _ => trivial) setup b' t') fun _ _ _ => id
  have scaled : Leaves scale (fun _ => True) setUp := setUp_scale trivial fun _ _ => trivial
  have keeps (c : boardInterface.Call) (_ : True) (u : List (Event boardInterface)) (grown : t <+: u) :
      tracing.allows u c ∧ ∀ x u', tracing.answers u c x u' → t <+: u' := by
    refine ⟨trivial, ?_⟩
    rintro x _ rfl
    exact grown.trans (List.prefix_append _ _)
  apply (last.and (scaled.under _ (List.prefix_refl t) keeps setup b)).mono _ fun _ _ _ _ => trivial
  rintro _ b' t' ⟨stage, same, grown⟩
  exact ⟨stage, congrArg Prod.snd same, grown⟩

theorem bringUp_traced (setup : Setup) :
    Meets tracing setup bringUp {} [] (fun _ b t => Reached setup b t) fun _ _ _ => True := by
  rw [meets_bringUp]
  apply (greet_traced setup {}).mono _ fun _ _ _ => id
  rintro _ b greeted ⟨stage, welcome⟩
  refine ⟨fun forced => ?_, fun free => ?_⟩
  · exact ⟨greeted, [], (List.append_nil _).symm, welcome, .of_forced forced stage⟩
  apply (provideFpga_traced setup _ _).mono _ fun _ _ _ => id
  rintro configured _ _ ⟨rfl, way, rfl, provided⟩
  constructor
  · intro is
    rw [is] at provided
    apply (setUp_traced setup _ _).mono _ fun _ _ _ => id
    rintro _ b' _ ⟨last, size, rest, rfl⟩
    have size' : b'.messageSize = b.messageSize := size
    exact ⟨greeted, way ++ rest, List.append_assoc _ _ _, size' ▸ welcome, .of_provided free provided last rest⟩
  · intro lacking
    rw [lacking] at provided
    exact ⟨greeted, way, rfl, welcome, .of_missing free provided stage⟩

theorem start_traced (setup : Setup) :
    (start setup).Meets tracing [] fun r t => ∀ b, r = .ok b → Reached setup b t :=
  meets_start ((bringUp_traced setup).mono (fun _ _ _ => id) fun _ _ _ _ =>
    meets_true (fun _ _ => trivial) release)

/-! The front end. -/

/-- Collaborators with a front end that reads back what was written. -/
def reading : Contract boardInterface UInt32 where
  allows _ _ := True
  answers register c x register' := Watch.Holds register c x register'

theorem reading_allows (s : UInt32 × List (Event boardInterface)) (c : boardInterface.Call) :
    (reading.both tracing).allows s c := ⟨trivial, trivial⟩

/-- A write of the front end that turns both directions off, as the last of the calls. -/
def Parked (made : List (Event boardInterface)) : Prop :=
  ∃ value, made.getLast? = some (.called (.inl (.writeFrontEnd value)) (.ok ())) ∧
    ∀ d, FrontEnd.isEnabled value d = false ∧ FrontEnd.switch value d = 0

section Rules

variable {α γ : Type} {setup : Setup} {b : Board} {register : UInt32} {t : List (Event boardInterface)}
  {ok : Unit → Board → UInt32 × List (Event boardInterface) → Prop}

/-- What is beside the front end leaves its register. -/
theorem Leaves.beside_reading {part : Board → γ} {act : Action α} (leaves : Leaves part Beside act)
    {ok : α → Board → UInt32 × List (Event boardInterface) → Prop}
    (good : ∀ a b' t', part b' = part b → ok a b' (register, t')) :
    Meets (reading.both tracing) setup act b (register, t) ok fun _ _ _ => True := by
  have keeps (c : boardInterface.Call) (beside : Beside c) (s : UInt32 × List (Event boardInterface))
      (same : s.1 = register) : (reading.both tracing).allows s c ∧
        ∀ x s', (reading.both tracing).answers s c x s' → s'.1 = register :=
    ⟨⟨trivial, trivial⟩, fun _ _ answer => (Watch.holds_beside beside answer.1).trans same⟩
  apply (leaves.under (fun s => s.1 = register) rfl keeps setup b).mono _ fun _ _ _ _ => trivial
  rintro a b' ⟨_, t'⟩ ⟨same, rfl⟩
  exact good a b' t' same

theorem meets_write_reading (operation detail : String) (value : UInt32)
    (good : ok () b (value, t ++ [.called (.inl (.writeFrontEnd value)) (.ok ())])) :
    Meets (reading.both tracing) setup (transport operation (.writeFrontEnd value) detail) b (register, t)
      ok fun _ _ _ => True := by
  rw [meets_transport]
  refine ⟨⟨trivial, trivial⟩, ?_, fun _ _ _ => trivial⟩
  rintro ⟨⟩ ⟨held, made⟩ ⟨written, grown⟩
  cases grown
  obtain rfl : held = value := written
  exact good

theorem meets_read_reading (operation : String)
    {ok : UInt32 → Board → UInt32 × List (Event boardInterface) → Prop}
    (good : ∀ t', ok register b (register, t')) :
    Meets (reading.both tracing) setup (transport operation .readFrontEnd) b (register, t)
      ok fun _ _ _ => True := by
  rw [meets_transport]
  refine ⟨⟨trivial, trivial⟩, ?_, fun _ _ _ => trivial⟩
  rintro value ⟨held, made⟩ ⟨⟨read, kept⟩, -⟩
  cases read
  cases kept
  exact good made

end Rules

theorem parked_write_zero (t : List (Event boardInterface)) :
    Parked (t ++ [.called (.inl (.writeFrontEnd 0)) (.ok ())]) :=
  ⟨0, List.getLast?_concat, fun d => ⟨FrontEnd.isEnabled_zero d, by cases d <;> decide⟩⟩

/-- With both directions off, choosing a band connects nothing. -/
theorem selectBand_parked (d : Direction) (hz : UInt64) (setup : Setup) (b : Board)
    (t : List (Event boardInterface)) :
    Meets (reading.both tracing) setup (selectBand d hz) b (0, t)
      (fun _ _ u => u.1 = 0 ∧ Parked u.2) fun _ _ _ => True := by
  rw [selectBand, meets_bind, meets_expect]
  refine ⟨fun _ => ?_, fun _ => trivial⟩
  rw [meets_bind]
  apply meets_read_reading
  intro t₁
  dsimp only
  rw [meets_bind, meets_switchFor, FrontEnd.withSwitch_zero, meets_bind]
  apply ((setPortFor_beside d _ hz).step _ _).beside_reading
  intro _ b' t₂ _
  exact meets_write_reading _ _ 0 ⟨rfl, parked_write_zero t₂⟩

/-- Setting up turns both directions on and then off for good. -/
theorem setUp_parked (setup : Setup) (b : Board) (s : UInt32 × List (Event boardInterface)) :
    Meets (reading.both tracing) setup setUp b s (fun _ _ u => Parked u.2) fun _ _ _ => True := by
  have off : FrontEnd.disable (FrontEnd.disable FrontEnd.bothEnabled .tx) .rx = 0 := by decide
  obtain ⟨register, t⟩ := s
  rw [setUp, meets_bind]
  apply identifyFpga_beside.beside_reading
  intro _ b₁ t₁ _
  rw [meets_bind]
  apply setFraming_beside.beside_reading
  intro _ b₂ t₂ _
  rw [meets_bind]
  apply meets_write_reading
  rw [meets_bind, meets_read, meets_bind]
  apply ((startMonitor_beside _).step _ _).beside_reading
  intro _ b₃ t₃ _
  rw [meets_bind]
  apply startRfic_beside.beside_reading
  intro _ b₄ t₄ _
  rw [meets_bind]
  apply meets_read_reading
  intro t₅
  -- From here on the register is clear, so that neither of the two bands has anything to connect.
  rw [off, meets_bind]
  apply meets_write_reading
  rw [meets_bind, meets_step]
  apply (selectBand_parked .tx _ setup b₄ _).mono _ fun _ _ _ => id
  rintro _ b₅ ⟨_, t₆⟩ ⟨rfl, _⟩
  rw [meets_bind, meets_step]
  apply (selectBand_parked .rx _ setup b₅ t₆).mono _ fun _ _ _ => id
  rintro _ b₆ _ ⟨_, parked⟩
  exact parked

theorem bringUp_parked (setup : Setup) (register : UInt32) :
    Meets (reading.both tracing) setup bringUp {} (register, [])
      (fun _ b u => b.stage = .initialized → Parked u.2) fun _ _ _ => True := by
  have provided : Confined (fun _ => True) provideFpga := provideFpga_confined trivial fun _ => trivial
  rw [meets_bringUp]
  apply ((greet_meets setup {}).of_only fun c _ s => reading_allows s c).mono _ fun _ _ _ _ => trivial
  rintro _ b s ⟨stage, -⟩
  have early := ne_initialized_of_early stage
  refine ⟨fun _ last => absurd last early, fun _ => ?_⟩
  apply ((provided setup _).of_only fun c _ s => reading_allows s c).mono _ fun _ _ _ _ => trivial
  rintro configured _ s' rfl
  refine ⟨fun _ => ?_, fun _ last => absurd last early⟩
  exact (setUp_parked setup _ s').mono (fun _ _ _ parked _ => parked) fun _ _ _ => id

theorem start_parked (setup : Setup) (register : UInt32) :
    (start setup).Meets (reading.both tracing) (register, []) fun r u =>
      ∀ b, r = .ok b → b.stage = .initialized → Parked u.2 :=
  meets_start ((bringUp_parked setup register).mono (fun _ _ _ => id) fun _ _ _ _ =>
    meets_true reading_allows release)

/-- A board is opened only with a firmware that is ready and recent enough and on a bus of a known speed,
which gives the message size of all streams from then on. It stays without an FPGA, and the FPGA without a
call, exactly if that is asked for, or if the next call has told that none is configured and there is no image.
Otherwise that call was made as well, an image was loaded if none was configured, the board is set up, and both
directions are turned off by the last of the calls. -/
theorem start_outcome (h : Handler boardInterface σ) (setup : Setup) (world : σ) {b : Board}
    (opened : ((start setup).run h world).result = .ok b) :
    let begun := (start setup).run h world
    Reached setup b (calls begun.events) ∧
    (b.stage = .initialized → ∀ register : σ → UInt32,
      (∀ c s, Watch.Holds (register s) c (h c s).1 (register (h c s).2)) → Parked (calls begun.events)) ∧
    ∀ ops : List Operation,
      let final := (session setup ops b).run h begun.state
      (∀ config callback x, .called (.inr (.streaming (.create config callback))) x ∈ final.events →
        config.messageSize = b.messageSize) ∧
      ∀ config x, .called (.inr (.streaming (.startSync config))) x ∈ final.events →
        config.messageSize = b.messageSize := by
  intro begun
  refine ⟨?_, fun last register holds => ?_, fun ops => ⟨fun config callback x made => ?_, fun config x made => ?_⟩⟩
  · have reached := ((start_traced setup).recorded h world).2 b opened
    rwa [record_trace] at reached
  · have kept : reading.KeptBy h fun s r => r = register s := by
      rintro s _ c rfl
      exact ⟨_, holds c s, rfl⟩
    obtain ⟨_, _, parked⟩ := (start_parked setup (register world)).traced kept rfl
    exact parked b opened last
  · exact Program.called_of_meets (session_suits setup ops b) made
  · exact Program.called_of_meets (session_suits setup ops b) made

/-- A bench with an FPGA, and then a stream that is started. -/
theorem start_outcome_bench :
    let b := onBench .plain
    let begun := (start .plain).run Bench.handler .configured
    let final := (session .plain [.configureSync .rxX1 .sc16Q11 16 8192 8 1000] b).run Bench.handler begun.state
    begun.result = .ok b ∧ b.stage = .initialized ∧ Reached .plain b (calls begun.events) ∧
      Parked (calls begun.events) ∧ ∀ config x, .called (.inr (.streaming (.startSync config))) x ∈ final.events →
        config.messageSize = 2048 := by
  intro b begun final
  have opened : begun.result = .ok b := rfl
  have last : b.stage = .initialized := by decide +kernel
  have size : b.messageSize = 2048 := by decide +kernel
  obtain ⟨reached, parked, streams⟩ := start_outcome Bench.handler .plain .configured opened
  refine ⟨opened, last, reached, parked last Bench.frontEnd Watch.bench_truthful.holds, fun config x made => ?_⟩
  exact ((streams _).2 config x made).trans size

end Board
end RadioBoard
