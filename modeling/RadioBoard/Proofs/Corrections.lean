import RadioBoard.Proofs.Targets

/-!
Corrections are kept as they are set.

Where a channel's correction is kept depends on the board's stage, the channel and the port in use. Main
statements, for register-like collaborators: a correction that is set reads back, one that is read may be
set again without a change, and setting one changes another only where the two overlap.
-/

namespace RadioBoard.Board

open Correction

variable {σ : Type} {setup : Setup} {b : Board} {w : Hardware} {fail : Error → Board → Hardware → Prop}

/-- Where a channel's correction is kept, if the board has it. -/
def target? (b : Board) (w : Hardware) (channel : UInt8) (c : Correction) : Option Target :=
  if b.stage = .initialized ∧ b.rfic.isSome ∧ Channel.onBoard channel then
    (Bank.ofPort? (Direction.ofChannel channel) (w.port (Direction.ofChannel channel))).map
      (Target.ofChannel channel c)
  else none

theorem meets_expectChannel (channel : UInt8) {ok : Unit → Board → Hardware → Prop} :
    Meets Hardware.contract setup (expectChannel channel) b w ok fail ↔
      (Channel.onBoard channel = true → ok () b w) ∧
      (Channel.onBoard channel = false → fail .invalid b w) := by
  cases known : Channel.onBoard channel
  · simp [expectChannel, known]
  · simp [expectChannel, known]

theorem meets_correctionBank (operation : String) (d : Direction) {ok : Bank → Board → Hardware → Prop}
    (absent : b.rfic = none ∨ Bank.ofPort? d (w.port d) = none → ∀ e, fail e b w)
    (found : ∀ bank, b.rfic.isSome → Bank.ofPort? d (w.port d) = some bank → ok bank b w) :
    Meets Hardware.contract setup (correctionBank operation d) b w ok fail := by
  rw [correctionBank, meets_bind]
  cases held : b.rfic with
  | none =>
    rw [meets_transceiver]
    refine ⟨?_, fun _ => absent (.inl held) _⟩
    intro handle other
    rw [held] at other
    cases other
  | some handle =>
    have driver : b.rfic.isSome = true := by simp [held]
    rw [Hardware.meets_port driver]
    cases used : Bank.ofPort? d (w.port d) with
    | none =>
      have refused := absent (.inr used) .unsupported
      simpa [used] using refused
    | some bank =>
      have read := found bank driver used
      simpa [used] using read

theorem meets_readField (driver : b.rfic.isSome) (operation : String) (f : Field)
    {ok : Nat → Board → Hardware → Prop} :
    Meets Hardware.contract setup (readField operation f) b w ok fail ↔ ok (f.read w.registers) b w := by
  cases f with
  | whole register =>
    rw [readField, meets_bind, Hardware.meets_readRegister driver]
    rfl
  | split top bottom =>
    rw [readField, meets_bind, Hardware.meets_readRegister driver, meets_bind,
      Hardware.meets_readRegister driver]
    rfl

theorem meets_writeField (driver : b.rfic.isSome) (operation : String) (bits : Nat) (f : Field)
    {ok : Unit → Board → Hardware → Prop} :
    Meets Hardware.contract setup (writeField operation bits f) b w ok fail ↔
      ok () b { w with registers := f.write bits w.registers } := by
  cases f with
  | whole register =>
    rw [writeField, Hardware.meets_writeRegister driver]
    rfl
  | split top bottom =>
    rw [writeField, meets_bind, Hardware.meets_readRegister driver, meets_bind,
      Hardware.meets_readRegister driver, meets_bind, Hardware.meets_writeRegister driver,
      Hardware.meets_writeRegister driver]
    rfl

theorem target?_eq_some {channel : UInt8} {c : Correction} {bank : Bank} (last : b.stage = .initialized)
    (driver : b.rfic.isSome = true) (known : Channel.onBoard channel = true)
    (used : Bank.ofPort? (Direction.ofChannel channel) (w.port (Direction.ofChannel channel)) =
      some bank) :
    target? b w channel c = some (Target.ofChannel channel c bank) := by
  rw [target?, if_pos ⟨last, driver, known⟩, used]
  rfl

/-- An action on a correction fails where there is none, and finds its bank where there is one. -/
theorem meets_target {α : Type} (operation : String) (channel : UInt8) (c : Correction)
    (act : Bank → Action α) {ok : α → Board → Hardware → Prop}
    (absent : target? b w channel c = none → ∀ e, fail e b w)
    (found : ∀ bank, b.rfic.isSome → target? b w channel c = some (Target.ofChannel channel c bank) →
      Meets Hardware.contract setup (act bank) b w ok fail) :
    Meets Hardware.contract setup (do
      expect .initialized
      expectChannel channel
      let bank ← correctionBank operation (Direction.ofChannel channel)
      act bank) b w ok fail := by
  rw [meets_bind, meets_expect_initialized]
  refine ⟨?_, fun early => absent (if_neg fun h => early h.1) _⟩
  intro last
  rw [meets_bind, meets_expectChannel]
  refine ⟨?_, fun unknown => absent (if_neg fun h => by simp [unknown] at h) _⟩
  intro known
  rw [meets_bind]
  apply meets_correctionBank
  · intro missing e
    apply absent
    rw [target?]
    rcases missing with missing | missing
    · simp [missing]
    · simp [missing]
  · intro bank driver used
    exact found bank driver (target?_eq_some last driver known used)

/-- A correction is read where it is kept. -/
theorem meets_getCorrection (setup : Setup) (b : Board) (w : Hardware) (channel : UInt8) (c : Correction) :
    Meets Hardware.contract setup (getCorrection channel c) b w
      (fun x b' w' => b' = b ∧ w' = w ∧
        ∃ t, target? b w channel c = some t ∧ x = t.value w.registers)
      (fun _ b' w' => b' = b ∧ w' = w ∧ target? b w channel c = none) := by
  apply meets_target "get_correction" channel c
  · intro nothing e
    exact ⟨rfl, rfl, nothing⟩
  · intro bank driver place
    rw [meets_bind, meets_readField driver]
    exact ⟨rfl, rfl, _, place, rfl⟩

/-- A correction is written where it is kept, together with its force bit. -/
theorem meets_setCorrection (setup : Setup) (b : Board) (w : Hardware) (channel : UInt8) (c : Correction)
    (value : Int16) :
    Meets Hardware.contract setup (setCorrection channel c value) b w
      (fun _ b' w' => b' = b ∧ ∃ t, target? b w channel c = some t ∧
        w' = { w with registers := t.write value w.registers })
      (fun _ b' w' => b' = b ∧ w' = w ∧ target? b w channel c = none) := by
  apply meets_target "set_correction" channel c
  · intro nothing e
    exact ⟨rfl, rfl, nothing⟩
  · intro bank driver place
    rw [meets_bind, meets_writeField driver, meets_bind, Hardware.meets_readRegister driver,
      Hardware.meets_writeRegister driver]
    exact ⟨rfl, _, place, rfl⟩

theorem of_target? {channel : UInt8} {c : Correction} {t : Target}
    (place : target? b w channel c = some t) :
    b.stage = .initialized ∧ b.rfic.isSome = true ∧ Channel.onBoard channel = true ∧
      ∃ bank, Bank.ofPort? (Direction.ofChannel channel) (w.port (Direction.ofChannel channel)) = some bank ∧
        t = Target.ofChannel channel c bank := by
  rw [target?] at place
  by_cases ready : b.stage = .initialized ∧ b.rfic.isSome = true ∧ Channel.onBoard channel = true
  · rw [if_pos ready] at place
    obtain ⟨bank, used, same⟩ := Option.map_eq_some_iff.mp place
    exact ⟨ready.1, ready.2.1, ready.2.2, bank, used, same.symm⟩
  · rw [if_neg ready] at place
    cases place

/-- Only unbalanced receiver ports have no bank. -/
theorem ofPort?_of_balanced {d : Direction} {port : UInt32}
    (balanced : d = .rx → port ∈ [Rfic.Port.aBalanced, Rfic.Port.bBalanced, Rfic.Port.cBalanced]) :
    ∃ bank, Bank.ofPort? d port = some bank := by
  cases d with
  | tx => exact ⟨_, rfl⟩
  | rx =>
    have listed := balanced rfl
    simp only [List.mem_cons, List.not_mem_nil, or_false] at listed
    rcases listed with first | second | third
    · exact ⟨.high, by rw [first]; rfl⟩
    · exact ⟨.low, by rw [second]; rfl⟩
    · exact ⟨.low, by rw [third]; rfl⟩

/-! Runs. -/

section Runs

variable {h : Handler boardInterface σ} {view : σ → Hardware} (like : Hardware.IsView h view)
  (setup : Setup) {b : Board} {world : σ} {channel : UInt8} {c : Correction} {t : Target}

include like

theorem run_correction (place : target? b (view world) channel c = some t) :
    let run := ((Operation.correction channel c).attempt setup b).run h world
    run.result = (.ok (t.value (view world).registers), b) ∧ view run.state = view world := by
  intro run
  obtain ⟨w, _, seen, ended⟩ := Meets.run like rfl
    (meets_getCorrection setup b (view world) channel c)
  subst seen
  rcases ended with ⟨x, result, same, still, u, found, read⟩ | ⟨e, _, _, _, nothing⟩
  · have which : t = u := Option.some_inj.mp (place.symm.trans found)
    subst which
    refine ⟨?_, still⟩
    rw [same, read] at result
    exact result
  · rw [place] at nothing
    cases nothing

theorem run_setCorrection (value : Int16) (place : target? b (view world) channel c = some t) :
    let run := ((Operation.setCorrection channel c value).attempt setup b).run h world
    run.result = (.ok (), b) ∧
      view run.state = { view world with registers := t.write value (view world).registers } := by
  intro run
  obtain ⟨w, _, seen, ended⟩ := Meets.run like rfl
    (meets_setCorrection setup b (view world) channel c value)
  subst seen
  rcases ended with ⟨_, result, same, u, found, wrote⟩ | ⟨e, _, _, _, nothing⟩
  · have which : t = u := Option.some_inj.mp (place.symm.trans found)
    subst which
    rw [same] at result
    exact ⟨result, wrote⟩
  · rw [place] at nothing
    cases nothing

/-- Asking for a correction after setting it. -/
theorem run_correction_of_set (value : Int16) (place : target? b (view world) channel c = some t) :
    let set := ((Operation.setCorrection channel c value).attempt setup b).run h world
    let get := ((Operation.correction channel c).attempt setup set.result.2).run h set.state
    set.result.1 = .ok () ∧ get.result.1 = .ok (t.value (t.write value (view world).registers)) := by
  intro set get
  have first := run_setCorrection like setup value place
  have placed : target? set.result.2 (view set.state) channel c = some t := by
    rw [first.1, first.2]
    exact place
  have second := run_correction like setup placed
  have read := congrArg Prod.fst second.1
  rw [first.2] at read
  exact ⟨congrArg Prod.fst first.1, read⟩

/-- Setting a correction again to what it is. -/
theorem run_setCorrection_of_get (place : target? b (view world) channel c = some t) :
    let x := t.value (view world).registers
    let get := ((Operation.correction channel c).attempt setup b).run h world
    let set := ((Operation.setCorrection channel c x).attempt setup get.result.2).run h get.state
    get.result.1 = .ok x ∧ set.result.1 = .ok () ∧
      ∀ r, r ≠ forceRegister t.direction → (view set.state).registers r = (view world).registers r := by
  intro x get set
  have first := run_correction like setup place
  have placed : target? get.result.2 (view get.state) channel c = some t := by
    rw [first.1, first.2]
    exact place
  have second := run_setCorrection like setup x placed
  refine ⟨congrArg Prod.fst first.1, congrArg Prod.fst second.1, ?_⟩
  intro r other
  have written := congrArg (fun w => w.registers r) second.2
  rw [first.2] at written
  exact written.trans (t.write_value (view world).registers other)

/-- Only where there is a correction can one be set. -/
theorem target_of_setCorrection {value : Int16}
    (succeeded : (((Operation.setCorrection channel c value).attempt setup b).run h world).result.1 =
      .ok ()) : ∃ t, target? b (view world) channel c = some t := by
  obtain ⟨w, _, _, ended⟩ := Meets.run like rfl
    (meets_setCorrection setup b (view world) channel c value)
  rcases ended with ⟨_, _, _, t, found, _⟩ | ⟨e, result, _⟩
  · exact ⟨t, found⟩
  · have failed := congrArg Prod.fst result
    cases succeeded.symm.trans failed

end Runs

/-- A correction that is set reads back in whole units, as far as it has room, and one that is read may be
set again: then nothing changes but the force bits. -/
theorem correction_round_trip {h : Handler boardInterface σ} {view : σ → Hardware}
    (like : Hardware.IsView h view) (setup : Setup) {world : σ} {channel : UInt8} (c : Correction)
    (last : b.stage = .initialized) (driver : b.rfic.isSome = true)
    (known : Channel.onBoard channel = true)
    (balanced : Direction.ofChannel channel = .rx → (view world).port .rx ∈
      [Rfic.Port.aBalanced, Rfic.Port.bBalanced, Rfic.Port.cBalanced]) :
    let d := Direction.ofChannel channel
    let unit : Int := (resolution d c).1
    let bits := (resolution d c).2
    (∀ value : Int16,
      let set := ((Operation.setCorrection channel c value).attempt setup b).run h world
      let get := ((Operation.correction channel c).attempt setup set.result.2).run h set.state
      set.result.1 = .ok () ∧ ∃ x, get.result.1 = .ok x ∧
        x.toInt = Int.bmod (unit * (value.toInt / unit)) (2 ^ bits) ∧
        (-2 ^ (bits - 1) ≤ value.toInt → value.toInt < 2 ^ (bits - 1) →
          x.toInt = unit * (value.toInt / unit))) ∧
    ∃ x bank,
      let get := ((Operation.correction channel c).attempt setup b).run h world
      let set := ((Operation.setCorrection channel c x).attempt setup get.result.2).run h get.state
      get.result.1 = .ok x ∧ set.result.1 = .ok () ∧
        Bank.ofPort? d ((view world).port d) = some bank ∧
        forceRegister d ∉ (field d c (Chain.ofChannel channel) bank).registers ∧
        ∀ r, r ≠ forceRegister d → (view set.state).registers r = (view world).registers r := by
  intro d unit bits
  have usable : d = .rx → (view world).port d ∈
      [Rfic.Port.aBalanced, Rfic.Port.bBalanced, Rfic.Port.cBalanced] := by
    intro rx
    rw [rx]
    exact balanced rx
  obtain ⟨bank, used⟩ := ofPort?_of_balanced usable
  let t := Target.ofChannel channel c bank
  have place : target? b (view world) channel c = some t := target?_eq_some last driver known used
  refine ⟨?_, ?_⟩
  · intro value
    have done := run_correction_of_set like setup value place
    have whole := t.toInt_value_write value (view world).registers
    refine ⟨done.1, _, done.2, whole, ?_⟩
    intro lower upper
    exact whole.trans (bmod_resolution d c lower upper)
  · have done := run_setCorrection_of_get like setup place
    exact ⟨_, bank, done.1, done.2.1, used, t.forceRegister_notMem t, done.2.2⟩

theorem correction_round_trip_bench :
    let opened := (start .plain).run Bench.handler .configured
    ∃ b, opened.result = .ok b ∧ b.stage = .initialized ∧ b.rfic.isSome = true ∧
      let set := ((Operation.setCorrection 2 .offsetQ (-1001)).attempt .plain b).run Bench.handler opened.state
      let get := ((Operation.correction 2 .offsetQ).attempt .plain set.result.2).run Bench.handler set.state
      set.result.1 = .ok () ∧ ∃ x, get.result.1 = .ok x ∧ x.toInt = -1008 := by
  intro opened
  obtain ⟨b, started, last, driver⟩ : ∃ b, opened.result = .ok b ∧ b.stage = .initialized ∧
      b.rfic.isSome = true := ⟨_, rfl, rfl, rfl⟩
  have balanced : Direction.ofChannel 2 = .rx → (Bench.view opened.state).port .rx ∈
      [Rfic.Port.aBalanced, Rfic.Port.bBalanced, Rfic.Port.cBalanced] := by
    decide +kernel
  obtain ⟨done, x, read, _, value⟩ :=
    (correction_round_trip Bench.isView .plain .offsetQ last driver rfl balanced).1 (-1001)
  refine ⟨b, started, last, driver, done, x, read, ?_⟩
  exact value (by decide) (by decide)

/-- Setting a correction leaves every other one alone, whatever port is chosen to look at it, with one
exception: an offset of the second receiver changes the other in the same bank, unless it happens to
leave the two bits that they share as they are. -/
theorem correction_of_other_set {h : Handler boardInterface σ} {view : σ → Hardware}
    (like : Hardware.IsView h view) (setup : Setup)
    {world before after : σ} {channel channel' : UInt8} {c c' : Correction} {value : Int16}
    {bank bank' : Bank} :
    let d := Direction.ofChannel channel
    let d' := Direction.ofChannel channel'
    let set := ((Operation.setCorrection channel c value).attempt setup b).run h world
    set.result.1 = .ok () → Bank.ofPort? d ((view world).port d) = some bank →
    Channel.onBoard channel' = true → (channel, c, bank) ≠ (channel', c', bank') →
    (view before).registers = (view world).registers →
    Bank.ofPort? d' ((view before).port d') = some bank' →
    (view after).registers = (view set.state).registers →
    Bank.ofPort? d' ((view after).port d') = some bank' →
    ∃ x y,
      (((Operation.correction channel' c').attempt setup b).run h before).result.1 = .ok x ∧
      (((Operation.correction channel' c').attempt setup set.result.2).run h after).result.1 = .ok y ∧
      (y = x ↔
        (channel = Channel.rx1 ∧ channel' = Channel.rx1 ∧ bank = bank' ∧ c.isOffset = true ∧
          c'.isOffset = true →
        overlapBits c value = ((view world).registers (overlapRegister bank)).toNat % 4)) := by
  intro d d' set succeeded used known' differ asBefore usedBefore asAfter usedAfter
  obtain ⟨t, place⟩ := target_of_setCorrection like setup succeeded
  obtain ⟨last, driver, known, found, used', rfl⟩ := of_target? place
  obtain rfl : found = bank := Option.some_inj.mp (used'.symm.trans used)
  have done := run_setCorrection like setup value place
  have first := run_correction like setup
    (target?_eq_some (b := b) (w := view before) (c := c') last driver known' usedBefore)
  have board : set.result.2 = b := congrArg Prod.snd done.1
  have second := run_correction like setup
    (target?_eq_some (b := b) (w := view after) (c := c') last driver known' usedAfter)
  have wrote : (view after).registers =
      (Target.ofChannel channel c found).write value (view world).registers := by
    rw [asAfter, done.2]
  rw [asBefore] at first
  rw [wrote] at second
  rw [board]
  refine ⟨_, _, congrArg Prod.fst first.1, congrArg Prod.fst second.1, ?_⟩
  rw [← Target.overlaps_ofChannel_iff known known' differ]
  by_cases overlap :
      (Target.ofChannel channel c found).Overlaps (Target.ofChannel channel' c' bank')
  · rw [Target.value_write_of_overlaps overlap]
    exact ⟨fun same _ => same, fun same => same overlap⟩
  · have apart := Target.value_write_of_apart value (view world).registers
      (Target.ofChannel_ne known known' differ) overlap
    exact ⟨fun _ both => absurd both overlap, fun _ => apart⟩

theorem correction_of_other_set_bench :
    let opened := (start .plain).run Bench.handler .configured
    ∃ b, opened.result = .ok b ∧
      let set := ((Operation.setCorrection 2 .offsetQ 2000).attempt .plain b).run Bench.handler opened.state
      set.result.1 = .ok () ∧ ∃ x,
        (((Operation.correction 0 .offsetI).attempt .plain b).run Bench.handler opened.state).result.1 =
          .ok x ∧
        (((Operation.correction 0 .offsetI).attempt .plain set.result.2).run Bench.handler
          set.state).result.1 = .ok x := by
  intro opened
  obtain ⟨b, started, set, port⟩ : ∃ b, opened.result = .ok b ∧
      let set := ((Operation.setCorrection 2 .offsetQ 2000).attempt .plain b).run Bench.handler opened.state
      set.result.1 = .ok () ∧
        Bank.ofPort? (Direction.ofChannel 0) (set.state.view.port (Direction.ofChannel 0)) = some .high :=
    ⟨_, rfl, rfl, rfl⟩
  have other : ∃ x y,
      (((Operation.correction 0 .offsetI).attempt .plain b).run Bench.handler opened.state).result.1 =
        .ok x ∧ _ ∧ (y = x ↔ _) :=
    correction_of_other_set Bench.isView .plain set rfl rfl (by decide) rfl rfl rfl port
  obtain ⟨x, y, before, after, same⟩ := other
  have kept : y = x := same.mpr fun both => absurd both.2.1 (by decide)
  rw [kept] at after
  exact ⟨b, started, set, x, before, after⟩

/-- The overlap shows on a board that was just opened: one offset of the second receiver is zero, the
other one is set, and the first is not zero any more. -/
theorem offsets_of_second_receiver_interfere :
    let opened := (start .plain).run Bench.handler .configured
    ∃ b, opened.result = .ok b ∧
      let before := ((Operation.correction 2 .offsetQ).attempt .plain b).run Bench.handler opened.state
      let set := ((Operation.setCorrection 2 .offsetI 8).attempt .plain before.result.2).run Bench.handler
        before.state
      let after := ((Operation.correction 2 .offsetQ).attempt .plain set.result.2).run Bench.handler
        set.state
      before.result.1 = .ok 0 ∧ set.result.1 = .ok () ∧ after.result.1 = .ok 128 :=
  ⟨_, rfl, rfl, rfl, rfl⟩

end RadioBoard.Board
