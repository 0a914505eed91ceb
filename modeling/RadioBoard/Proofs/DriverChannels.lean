import RadioBoard.Proofs.BringUp
import RadioBoard.Proofs.Hardware
import RadioBoard.Proofs.History
import RadioBoard.Proofs.Routine
import RadioBoard.Proofs.Session

/-!
The channels that the board names to the transceiver driver.

The driver knows two channels, and receivers that count from one. Only gains and gain modes name one, and
for a gain it is the channel's number without its direction, whatever that number is. Main statement: as
long as gains are asked for on the channels of the board, the driver is only asked for channels that it has;
a gain on any other channel asks it for one that it does not have.
-/

namespace RadioBoard.Board

open Program (called_of_meets)

variable {α : Type}

/-- What the driver takes for a channel, and for a receiver. -/
def Permitted : Rfic.Call → Prop
  | .rxGain channel | .setRxGain channel _ => channel = 0 ∨ channel = 1
  | .attenuation channel | .setAttenuation channel _ => channel = 0 ∨ channel = 1
  | .gainControl channel | .setGainControl channel _ => channel = 0 ∨ channel = 1
  | .receiverGain receiver => receiver = 1 ∨ receiver = 2
  | _ => True

theorem permitted_iff (driver : Rfic.Handle) (c : Rfic.Call) :
    Permitted c ↔ ∀ n, driverChannel? (.inr (.rfic driver c)) = some n → n = 0 ∨ n = 1 := by
  cases c
  case receiverGain receiver =>
    have shift : receiver - 1 = 0 ∨ receiver - 1 = 1 ↔ receiver = 1 ∨ receiver = 2 := by
      have back := UInt8.sub_add_cancel receiver 1
      constructor
      · rintro (first | second)
        · exact .inl (back.symm.trans (congrArg (· + 1) first))
        · exact .inr (back.symm.trans (congrArg (· + 1) second))
      · rintro (rfl | rfl)
        · exact .inl rfl
        · exact .inr rfl
    simp [Permitted, shift]
  all_goals simp [Permitted]

/-! Actions that name no channel. -/

def Nameless (act : Action α) : Prop := Leaves (fun _ => ()) (Names none) act

theorem nameless_of_upward {γ : Type} {part : Board → γ} {act : Action α} (h : Leaves part Upward act) :
    Nameless act := h.mono names_of_upward fun _ => ()

theorem transport_nameless (operation : String) (c : Transport.Call) (detail : String) :
    Nameless (transport operation c detail) := by
  intro setup b
  simp

/-! Operations. -/

theorem loadFpga_nameless (image : ByteArray) : Nameless (loadFpga image) := by
  refine .after _ (.bind ?_ fun _ => .bind (transport_nameless _ _ _) fun _ => ?_)
  · intro setup b
    simp
  · exact .bind (fun _ _ => rfl) fun _ => (nameless_of_upward setUp_leaves).step _ _

/-- An operation names one channel to the driver at most. -/
theorem perform_names (o : Operation) : Leaves (fun _ => ()) (Names o.driverChannel?) o.perform := by
  cases o
  case loadFpga image => exact loadFpga_nameless image
  case configureSync | storeFpga | storeFirmware | createStream =>
    intro setup b
    simp [Operation.perform, configureSync, storeFpga, storeFirmware, createStream]
  all_goals exact (perform_routineOn _ rfl).mono (fun _ both => both.2) fun _ => ()

/-! Runs. -/

variable {setup : Setup}

theorem start_nameless : (start setup).Meets (.only (Names none)) () fun _ _ => True := by
  have closing (b : Board) : Meets (.only (Names none)) setup release b () (fun _ _ _ => True) fun _ _ _ => True := by
    simp [release]
  have opened : (start setup).Meets (.only (Names none)) () fun r _ => ∀ b, r = .ok b → True :=
    meets_start ((nameless_of_upward bringUp_leaves setup {}).mono (fun _ _ _ _ => trivial) fun _ b _ _ => closing b)
  exact opened.mono fun _ _ _ => trivial

theorem session_names {C : boardInterface.Call → Prop} {ops : List Operation}
    (within : ∀ o ∈ ops, ∀ c, Names o.driverChannel? c → C c) (b : Board) :
    (session setup ops b).Meets (.only C) () fun _ _ => True := by
  induction ops generalizing b with
  | nil => trivial
  | cons o ops ih =>
    rw [session, Program.bind_eq, Program.meets_bind]
    have first := (perform_names o).mono (within o List.mem_cons_self) id
    apply Program.Meets.mono (first setup b)
    intro r u _
    exact ih (fun o' later => within o' (List.mem_cons_of_mem o later)) r.2

/-- The channel of an operation on a gain. -/
def Operation.gainChannel? : Operation → Option UInt8
  | gain channel | setGain channel _ | gainStage channel _ | setGainStage channel _ _ => some channel
  | _ => none

theorem pair_permitted (channel : UInt8) :
    Channel.pair channel = 0 ∨ Channel.pair channel = 1 ↔ channel < 4 := by
  rw [Channel.pair, ← UInt8.toNat_inj, ← UInt8.toNat_inj, UInt8.toNat_shiftRight, UInt8.lt_iff_toNat_lt]
  simp [Nat.shiftRight_eq_div_pow]
  omega

theorem modeChannel_permitted {channel n : UInt8} (reached : modeChannel? channel = some n) :
    n = 0 ∨ n = 1 := by
  unfold modeChannel? at reached
  split at reached
  · exact .inl (Option.some.inj reached).symm
  split at reached
  · exact .inr (Option.some.inj reached).symm
  · cases reached

theorem driverChannel_of_gain {o : Operation} {channel : UInt8} (gain : o.gainChannel? = some channel) :
    o.driverChannel? = some (Channel.pair channel) := by
  cases o
  case gain | setGain | gainStage | setGainStage =>
    cases gain
    rfl
  all_goals cases gain

theorem driverChannel_permitted {o : Operation}
    (onBoard : ∀ channel, o.gainChannel? = some channel → channel < 4) {n : UInt8}
    (named : o.driverChannel? = some n) : n = 0 ∨ n = 1 := by
  cases gain : o.gainChannel? with
  | some channel =>
    rw [driverChannel_of_gain gain] at named
    cases named
    exact (pair_permitted channel).mpr (onBoard channel gain)
  | none =>
    cases o
    case gainMode channel => exact modeChannel_permitted named
    case setGainMode channel mode => exact modeChannel_permitted named
    case gain | setGain | gainStage | setGainStage => cases gain
    all_goals cases named

/-- Opening a board names no channel to the driver that it does not have, and neither does a session in
which gains are asked for on channels of the board only, whatever the channels of its other operations. A
channel that an operation names is the one of its number, and so a gain on a channel that the board does not
have asks the driver for one that it does not have. -/
theorem driver_channels {σ : Type} (h : Handler boardInterface σ) (setup : Setup) (s : σ) :
    (∀ driver c x, .called (.inr (.rfic driver c)) x ∈ ((start setup).run h s).events → Permitted c) ∧
    (∀ ops b, (∀ o ∈ ops, ∀ channel, o.gainChannel? = some channel → channel < 4) →
      ∀ driver c x, .called (.inr (.rfic driver c)) x ∈ ((session setup ops b).run h s).events →
        Permitted c) ∧
    ∀ (o : Operation) b driver c x n,
      .called (.inr (.rfic driver c)) x ∈ ((o.attempt setup b).run h s).events →
      driverChannel? (.inr (.rfic driver c)) = some n →
        o.driverChannel? = some n ∧ ∀ channel, o.gainChannel? = some channel → (Permitted c ↔ channel < 4) := by
  refine ⟨fun driver c x made => ?_, fun ops b onBoard driver c x made => ?_, ?_⟩
  · have nameless := called_of_meets start_nameless made
    rw [permitted_iff driver]
    intro n named
    cases nameless n named
  · have within : ∀ o ∈ ops, ∀ c, Names o.driverChannel? c →
        ∀ n, driverChannel? c = some n → n = 0 ∨ n = 1 := by
      intro o among c names n named
      exact driverChannel_permitted (onBoard o among) (names n named)
    rw [permitted_iff driver]
    exact called_of_meets (session_names within b) made
  · intro o b driver c x n made named
    have own : o.driverChannel? = some n := called_of_meets (perform_names o setup b) made n named
    refine ⟨own, fun channel gain => ?_⟩
    have pair : Channel.pair channel = n := Option.some.inj ((driverChannel_of_gain gain).symm.trans own)
    rw [← pair_permitted, pair, permitted_iff driver]
    constructor
    · intro all
      exact all n named
    · intro permitted m named'
      cases named.symm.trans named'
      exact permitted

/-- On the channels of the board, and on any for a gain mode. -/
theorem driver_channels_bench :
    let ops : List Operation := [.setGain 1 (-10), .gainStage 2 "full", .gainMode 200]
    let run := (session .plain ops (onBench .plain)).run Bench.handler
      ((start .plain).run Bench.handler .configured).state
    (∀ o ∈ ops, ∀ channel, o.gainChannel? = some channel → channel < 4) ∧
      ∀ driver c x, .called (.inr (.rfic driver c)) x ∈ run.events → Permitted c := by
  have onBoard : ∀ o ∈ [.setGain 1 (-10), .gainStage 2 "full", .gainMode 200],
      ∀ channel, Operation.gainChannel? o = some channel → channel < 4 := by
    simp [Operation.gainChannel?]
  exact ⟨onBoard, (driver_channels Bench.handler .plain _).2.1 _ _ onBoard⟩

/-- The channel that an event of a run names to the driver. -/
def eventChannel? : Event boardInterface → Option UInt8
  | .called c _ => driverChannel? c
  | .said _ => none

/-- A gain is set on the third channel of a driver that has two. -/
theorem setGain_off_board :
    let run := ((Operation.setGain 4 10).attempt .plain (onBench .plain)).run Bench.handler
      ((start .plain).run Bench.handler .configured).state
    run.result.1.isOk = true ∧ run.events.filterMap eventChannel? = [2] ∧
      ∀ driver c, driverChannel? (.inr (.rfic driver c)) = some 2 → ¬Permitted c := by
  refine ⟨by decide +kernel, by decide +kernel, fun driver c named permitted => ?_⟩
  rw [permitted_iff driver] at permitted
  exact absurd (permitted 2 named) (by decide)

end RadioBoard.Board
