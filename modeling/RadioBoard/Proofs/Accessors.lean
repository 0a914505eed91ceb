import RadioBoard.Proofs.Hardware
import RadioBoard.Proofs.Session

/-!
Registers that are reached one by one.

The transceiver has a byte for each of 1024 addresses and the reference oscillator a word for each of four
latches. Addresses beyond these come round again and never get into the other bits of a command. Main
statement: on a board with a configured FPGA the two chips are plain registers. A read tells what was last
written to its address, or what was there at first, and no access disturbs another address or the other chip.
-/

namespace RadioBoard

open Function (update)

/-! Command words. -/

namespace Rfic.Command

theorem and_addressMask (word : UInt16) : word &&& addressMask = word % 1024 := by
  apply UInt16.toNat_inj.mp
  rw [UInt16.toNat_and, UInt16.toNat_mod]
  exact Nat.and_two_pow_sub_one_eq_mod word.toNat 10

theorem or_and (a b c : UInt16) : (a ||| b) &&& c = a &&& c ||| b &&& c := by
  apply UInt16.toBitVec_inj.mp
  rw [UInt16.toBitVec_and, UInt16.toBitVec_or, UInt16.toBitVec_or, UInt16.toBitVec_and, UInt16.toBitVec_and]
  exact BitVec.and_or_distrib_right

/-- A command is its direction and its address, since a count of one byte is written as zero. -/
theorem readByte_eq (address : UInt16) : readByte address = read ||| (address &&& addressMask) := by
  have single : read ||| count 1 = read := by decide
  rw [readByte, single]

theorem writeByte_eq (address : UInt16) : writeByte address = write ||| (address &&& addressMask) := by
  have single : write ||| count 1 = write := by decide
  rw [writeByte, single]

/-- What lies above the address is left to the direction. -/
theorem command_and (direction address : UInt16) {mask : UInt16} (above : addressMask &&& mask = 0) :
    (direction ||| (address &&& addressMask)) &&& mask = direction &&& mask := by
  have masked : address &&& addressMask &&& mask = 0 := by
    rw [UInt16.and_assoc, above, UInt16.and_zero]
  rw [or_and, masked, UInt16.or_zero]

theorem command_mod {direction : UInt16} (apart : direction &&& addressMask = 0) (address : UInt16) :
    (direction ||| (address &&& addressMask)) % 1024 = address % 1024 := by
  rw [← and_addressMask, ← and_addressMask, or_and, apart, UInt16.zero_or, UInt16.and_assoc, UInt16.and_self]

theorem pack_low (value : UInt8) : pack value &&& 0x00ffffffffffffff = 0 := by
  have small := value.toNat_lt
  have packed : (pack value).toNat = value.toNat * 72057594037927936 := by
    simp [pack, Nat.shiftLeft_eq]
    omega
  apply UInt64.toNat_inj.mp
  rw [UInt64.toNat_and, packed]
  exact (Nat.and_two_pow_sub_one_eq_mod _ 56).trans (Nat.mul_mod_left _ _)

theorem unpack_pack (value : UInt8) : unpack (pack value) = value := by
  have small := value.toNat_lt
  apply UInt8.toNat_inj.mp
  simp [unpack, pack, Nat.shiftLeft_eq, Nat.shiftRight_eq_div_pow]
  omega

end Rfic.Command

/-! Chips behind the transport. -/

/-- What the two chips hold. -/
structure Chips where
  registers : UInt16 → UInt8
  latches : UInt8 → UInt32

namespace Chips

/-- Chips that keep what is written: a byte, at the top of the data, for each value of the lowest ten bits
of a command, and a word for each latch. Nothing is known of other calls. -/
def contract : Contract boardInterface Chips where
  allows _ _ := True
  answers w
    | .inl (.readSpi command), x, w' =>
      ∃ data, x = .ok data ∧ (data >>> 56).toUInt8 = w.registers (command % 1024) ∧ w' = w
    | .inl (.writeSpi command data), x, w' => x = .ok () ∧
      w' = { w with registers := update w.registers (command % 1024) (data >>> 56).toUInt8 }
    | .inl (.readPll latch), x, w' => x = .ok (w.latches latch) ∧ w' = w
    | .inl (.writePll latch value), x, w' => x = .ok () ∧ w' = { w with latches := update w.latches latch value }
    | _, _, _ => True

end Chips

namespace Board

/-- The operations that reach a register of a chip. -/
def Operation.isAccess : Operation → Bool
  | readRfic _ | writeRfic _ _ | readPll _ | writePll _ _ => true
  | _ => false

/-- What an operation writes to an address of the transceiver. -/
def Operation.byteFor (address : UInt16) : Operation → Option UInt8
  | writeRfic a value => if a % 1024 = address % 1024 then some value else none
  | _ => none

/-- What an operation writes to a latch of the oscillator. -/
def Operation.wordFor (address : UInt8) : Operation → Option UInt32
  | writePll a value => if a % 4 = address % 4 then some value else none
  | _ => none

/-- The calls that an access may make: reads without the write bit, writes with it, and both with a count of
zero and no data but the top byte. -/
def Operation.frames : Operation → boardInterface.Call → Prop
  | readRfic _, .inl (.readSpi command) => command &&& 0x8000 = 0 ∧ command &&& 0x7000 = 0
  | writeRfic _ _, .inl (.writeSpi command data) =>
    command &&& 0x8000 ≠ 0 ∧ command &&& 0x7000 = 0 ∧ data &&& 0x00ffffffffffffff = 0
  | readPll _, .inl (.readPll latch) => latch < 4
  | writePll _ _, .inl (.writePll latch _) => latch < 4
  | _, _ => False

theorem latch_eq (address : UInt8) : latch address = address % 4 := by
  apply UInt8.toNat_inj.mp
  rw [latch, UInt8.toNat_and, UInt8.toNat_mod]
  exact Nat.and_two_pow_sub_one_eq_mod address.toNat 2

section Frames

open Rfic.Command

theorem frames_readRfic (address : UInt16) :
    (Operation.readRfic address).frames (.inl (.readSpi (readByte address))) := by
  rw [readByte_eq]
  exact ⟨command_and read address (by decide), command_and read address (by decide)⟩

theorem frames_writeRfic (address : UInt16) (value : UInt8) :
    (Operation.writeRfic address value).frames (.inl (.writeSpi (writeByte address) (pack value))) := by
  have direction : writeByte address &&& 0x8000 = write := by
    rw [writeByte_eq]
    exact command_and write address (by decide)
  have count : writeByte address &&& 0x7000 = 0 := by
    rw [writeByte_eq]
    exact command_and write address (by decide)
  exact ⟨fun read => absurd (direction.symm.trans read) (by decide), count, pack_low value⟩

theorem latch_lt (address : UInt8) : latch address < 4 := by
  rw [latch_eq]
  exact UInt8.mod_lt _ (by decide)

theorem transport_confined {C : boardInterface.Call → Prop} (operation : String) (c : Transport.Call)
    (detail : String) (framed : C (.inl c)) : Confined C (transport operation c detail) := by
  intro setup b
  simp [framed]

/-- An access makes no call but its own, whatever its address. -/
theorem perform_frames (o : Operation) (access : o.isAccess = true) : Confined o.frames o.perform := by
  cases o
  case readRfic address => exact .after _ (.map _ (transport_confined _ _ _ (frames_readRfic address)))
  case writeRfic address value => exact .after _ (transport_confined _ _ _ (frames_writeRfic address value))
  case readPll address => exact .after _ (transport_confined _ _ _ (latch_lt address))
  case writePll address value => exact .after _ (transport_confined _ _ _ (latch_lt address))
  all_goals cases access

end Frames

end Board

/-! What accesses leave and tell. -/

namespace Chips

open Board

/-- What an access leaves in the chips. -/
def after (w : Chips) : Operation → Chips
  | .writeRfic address value => { w with registers := update w.registers (address % 1024) value }
  | .writePll address value => { w with latches := update w.latches (address % 4) value }
  | _ => w

/-- What an access tells of the chips. -/
def tells (w : Chips) : (o : Operation) → o.Result → Prop
  | .readRfic address, value => value = w.registers (address % 1024)
  | .readPll address, value => value = w.latches (address % 4)
  | _, _ => True

theorem registers_after (w : Chips) (o : Operation) (address : UInt16) :
    (w.after o).registers (address % 1024) = (o.byteFor address).getD (w.registers (address % 1024)) := by
  cases o
  case writeRfic a value =>
    by_cases same : a % 1024 = address % 1024
    · simp [after, Operation.byteFor, same]
    · simp [after, Operation.byteFor, same, Function.update_of_ne (Ne.symm same)]
  all_goals rfl

theorem latches_after (w : Chips) (o : Operation) (address : UInt8) :
    (w.after o).latches (address % 4) = (o.wordFor address).getD (w.latches (address % 4)) := by
  cases o
  case writePll a value =>
    by_cases same : a % 4 = address % 4
    · simp [after, Operation.wordFor, same]
    · simp [after, Operation.wordFor, same, Function.update_of_ne (Ne.symm same)]
  all_goals rfl

/-- What each access overwrites or keeps, the last one of many has written, or it was there at first. -/
theorem last_written {ν : Type} (read : Chips → ν) {written : Operation → Option ν}
    (step : ∀ w o, read (w.after o) = (written o).getD (read w)) (w : Chips) (accesses : List Operation) :
    read (accesses.foldl after w) = (accesses.filterMap written).getLastD (read w) := by
  induction accesses generalizing w with
  | nil => rfl
  | cons o accesses ih =>
    rw [List.foldl_cons, ih, step]
    cases wrote : written o with
    | none => rw [List.filterMap_cons_none wrote, Option.getD_none]
    | some value => rw [List.filterMap_cons_some wrote, List.getLastD_cons, Option.getD_some]

end Chips

namespace Board

open Rfic.Command in
/-- An access succeeds, and leaves and tells what the chips do. -/
theorem perform_access {o : Operation} (access : o.isAccess = true) {b : Board} (ready : .fpgaLoaded ≤ b.stage)
    (setup : Setup) (w : Chips) :
    Meets Chips.contract setup o.perform b w (fun value b' w' => b' = b ∧ w' = w.after o ∧ w.tells o value)
      fun _ _ _ => False := by
  cases o
  case readRfic address =>
    have place : readByte address % 1024 = address % 1024 := by
      rw [readByte_eq]
      exact command_mod (by decide) address
    rw [Operation.perform, readRfic, meets_bind, meets_expect_of_le ready, meets_bind, meets_transport]
    refine ⟨trivial, ?_, ?_⟩
    · intro data w' answer
      obtain ⟨data', same, byte, rfl⟩ := answer
      obtain rfl : data = data' := Except.ok.inj same
      rw [place] at byte
      exact ⟨rfl, rfl, byte⟩
    · intro e w' answer
      obtain ⟨_, same, _⟩ := answer
      cases same
  case writeRfic address value =>
    have place : writeByte address % 1024 = address % 1024 := by
      rw [writeByte_eq]
      exact command_mod (by decide) address
    rw [Operation.perform, writeRfic, meets_bind, meets_expect_of_le ready, meets_transport]
    refine ⟨trivial, ?_, ?_⟩
    · intro _ w' answer
      obtain ⟨_, rfl⟩ := answer
      refine ⟨rfl, ?_, trivial⟩
      have byte : (pack value >>> 56).toUInt8 = value := unpack_pack value
      rw [Chips.after, place, byte]
    · intro e w' answer
      cases answer.1
  case readPll address =>
    rw [Operation.perform, readPll, meets_bind, meets_expect_of_le ready, meets_transport]
    refine ⟨trivial, ?_, ?_⟩
    · intro word w' answer
      obtain ⟨same, rfl⟩ := answer
      obtain rfl := Except.ok.inj same
      exact ⟨rfl, rfl, congrArg w'.latches (latch_eq address)⟩
    · intro e w' answer
      cases answer.1
  case writePll address value =>
    rw [Operation.perform, writePll, meets_bind, meets_expect_of_le ready, meets_transport]
    refine ⟨trivial, ?_, ?_⟩
    · intro _ w' answer
      obtain ⟨_, rfl⟩ := answer
      rw [latch_eq]
      exact ⟨rfl, rfl, trivial⟩
    · intro e w' answer
      cases answer.1
  all_goals cases access

section Run

variable {σ : Type} {h : Handler boardInterface σ} {chips : σ → Chips}
  (kept : Chips.contract.KeptBy h fun s w => w = chips s) (setup : Setup) {b : Board}
  (ready : .fpgaLoaded ≤ b.stage)

include kept ready

theorem run_access {o : Operation} (access : o.isAccess = true) (s : σ) :
    let run := (o.attempt setup b).run h s
    chips run.state = (chips s).after o ∧ ∃ value, run.result = (.ok value, b) ∧ (chips s).tells o value := by
  intro run
  obtain ⟨w', _, state, ended⟩ := (perform_access access ready setup (chips s)).run kept rfl
  obtain ⟨value, result, board, left, told⟩ | ⟨_, _, impossible⟩ := ended
  · refine ⟨state.symm.trans left, value, ?_, told⟩
    rw [← board]
    exact result
  · exact impossible.elim

theorem run_accesses {accesses : List Operation} (all : ∀ o ∈ accesses, o.isAccess = true) (s : σ) :
    let run := (session setup accesses b).run h s
    run.result = b ∧ chips run.state = accesses.foldl Chips.after (chips s) ∧ Succeeds h setup accesses b s := by
  induction accesses generalizing s with
  | nil => exact ⟨rfl, rfl, trivial⟩
  | cons o accesses ih =>
    obtain ⟨left, value, result, _⟩ := run_access kept setup ready (all o (.head _)) s
    obtain ⟨board, chipsAfter, succeed⟩ :=
      ih (fun o' within => all o' (.tail _ within)) ((o.attempt setup b).run h s).state
    rw [run_session_cons]
    dsimp only
    rw [Succeeds, result]
    rw [left] at chipsAfter
    exact ⟨board, chipsAfter, rfl, succeed⟩

end Run

/-- The two chips are plain registers. After any accesses a read tells what was last written to its address,
up to multiples of the number of addresses, or what was there at first; no access disturbs another address
or the other chip. On every board and with any collaborators, an access makes only calls that are framed as
its own. -/
theorem registers_read_back {σ : Type} {h : Handler boardInterface σ} {chips : σ → Chips}
    (kept : Chips.contract.KeptBy h fun s w => w = chips s) (setup : Setup) {b : Board}
    (ready : .fpgaLoaded ≤ b.stage) {earlier : List Operation} (accesses : ∀ o ∈ earlier, o.isAccess = true)
    (s : σ) :
    let done := (session setup earlier b).run h s
    let next (o : Operation) := (o.attempt setup done.result).run h done.state
    done.result = b ∧ Succeeds h setup earlier b s ∧
      (∀ address, (next (.readRfic address)).result =
        (.ok ((earlier.filterMap (·.byteFor address)).getLastD ((chips s).registers (address % 1024))), b)) ∧
      (∀ address, (next (.readPll address)).result =
        (.ok ((earlier.filterMap (·.wordFor address)).getLastD ((chips s).latches (address % 4))), b)) ∧
      (∀ o, o.isAccess = true → ∀ address, o.byteFor address = none →
        (chips (next o).state).registers (address % 1024) = (chips done.state).registers (address % 1024)) ∧
      (∀ o, o.isAccess = true → ∀ address, o.wordFor address = none →
        (chips (next o).state).latches (address % 4) = (chips done.state).latches (address % 4)) ∧
      ∀ o : Operation, o.isAccess = true →
        ∀ (τ : Type) (g : Handler boardInterface τ) (b' : Board) (t : τ) (c : boardInterface.Call)
          (x : boardInterface.Answer c), .called c x ∈ ((o.attempt setup b').run g t).events → o.frames c := by
  intro done next
  obtain ⟨board, left, succeed⟩ := run_accesses kept setup ready accesses s
  have ready' : .fpgaLoaded ≤ done.result.stage := board ▸ ready
  have access {o : Operation} (is : o.isAccess = true) := run_access kept setup ready' is done.state
  refine ⟨board, succeed, ?_, ?_, ?_, ?_, ?_⟩
  · intro address
    obtain ⟨_, value, result, told⟩ := access (o := .readRfic address) rfl
    have byte := Chips.last_written (·.registers (address % 1024)) (fun w o => w.registers_after o address)
      (chips s) earlier
    rw [← left] at byte
    obtain rfl : value = _ := told.trans byte
    rw [← board]
    exact result
  · intro address
    obtain ⟨_, value, result, told⟩ := access (o := .readPll address) rfl
    have word := Chips.last_written (·.latches (address % 4)) (fun w o => w.latches_after o address)
      (chips s) earlier
    rw [← left] at word
    obtain rfl : value = _ := told.trans word
    rw [← board]
    exact result
  · intro o is address elsewhere
    rw [(access is).1, Chips.registers_after, elsewhere, Option.getD_none]
  · intro o is address elsewhere
    rw [(access is).1, Chips.latches_after, elsewhere, Option.getD_none]
  · intro o is τ g b' t c x made
    exact Program.called_of_meets (perform_frames o is setup b') made

end Board

/-! Registers of the bench. -/

namespace Bench

/-- What the chips of a bench hold: a byte at the top of each word. -/
def chips (b : Bench) : Chips := ⟨fun address => (b.spi.read address >>> 56).toUInt8, b.pll.read⟩

theorem chips_writeSpi (b : Bench) (command : UInt16) (data : UInt64) :
    ({ b with spi := b.spi.write (spiAddress command) data } : Bench).chips =
      { b.chips with registers := update b.chips.registers (command % 1024) (data >>> 56).toUInt8 } := by
  have place : spiAddress command = command % 1024 := Rfic.Command.and_addressMask command
  rw [chips, place]
  congr 1
  funext address
  by_cases same : address = command % 1024
  · rw [same, RegisterFile.read_write_self, Function.update_self]
  · rw [RegisterFile.read_write_of_ne same, Function.update_of_ne same]
    rfl

theorem chips_writePll (b : Bench) (latch : UInt8) (value : UInt32) :
    ({ b with pll := b.pll.write latch value } : Bench).chips =
      { b.chips with latches := update b.chips.latches latch value } := by
  rw [chips]
  congr 1
  funext other
  by_cases same : other = latch
  · rw [same, RegisterFile.read_write_self, Function.update_self]
  · rw [RegisterFile.read_write_of_ne same, Function.update_of_ne same]
    rfl

theorem keeps_chips : Chips.contract.KeptBy Bench.handler fun b w => w = b.chips := by
  intro b w c same
  subst same
  refine ⟨_, ?_, rfl⟩
  cases c with
  | inr c => trivial
  | inl c =>
    cases c
    case readSpi command =>
      have place : spiAddress command = command % 1024 := Rfic.Command.and_addressMask command
      refine ⟨_, rfl, ?_, rfl⟩
      exact congrArg b.chips.registers place
    case writeSpi command data => exact ⟨rfl, chips_writeSpi b command data⟩
    case readPll latch => exact ⟨rfl, rfl⟩
    case writePll latch value => exact ⟨rfl, chips_writePll b latch value⟩
    all_goals trivial

end Bench

namespace Board

/-- Addresses with the bits of direction and count set reach the same registers as those without. -/
theorem registers_read_back_aliased :
    let board : Board := { stage := .fpgaLoaded }
    let earlier : List Operation := [.writeRfic 0x0005 7, .writePll 6 9, .writeRfic 0x8405 8, .writeRfic 6 1]
    let done := (session .plain earlier board).run Bench.handler .configured
    let next (o : Operation) := (o.attempt .plain done.result).run Bench.handler done.state
    (∀ o ∈ earlier, o.isAccess = true) ∧ (next (.readRfic 0xfc05)).result = (.ok 8, board) ∧
      (next (.readPll 0xfe)).result = (.ok 9, board) := by
  intro board earlier done next
  have accesses : ∀ o ∈ earlier, o.isAccess = true := by simp [earlier, Operation.isAccess]
  have ready : .fpgaLoaded ≤ board.stage := by decide
  have byte : (earlier.filterMap (·.byteFor 0xfc05)).getLastD 0 = 8 := by decide
  have word : (earlier.filterMap (·.wordFor 0xfe)).getLastD 0 = 9 := by decide
  obtain ⟨_, _, bytes, words, _⟩ :=
    registers_read_back Bench.keeps_chips .plain ready accesses .configured
  exact ⟨accesses, (bytes 0xfc05).trans (by rw [← byte]; rfl), (words 0xfe).trans (by rw [← word]; rfl)⟩

end Board
end RadioBoard
