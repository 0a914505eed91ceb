import Mathlib.Logic.Function.Basic
import RadioBoard.Proofs.Accesses
import RadioBoard.Usb.Bench

/-!
The peripherals behind the FPGA as registers of their own.

A device keeps one register for each format, target and address, and the transport reaches its peripherals
through them. Every peripheral has its own place there, so what one is told is never read from another.
Main statement: on any such device, and after any calls, a read tells the last value written to the same
peripheral and address, or the one that was there at first, at the cost of one exchange.
-/

namespace RadioBoard

namespace Usb

/-! Devices that keep registers. -/

namespace Request

variable (q : Request)

/-- The request with the success bit and, if it is a read, with what the register holds. -/
def response (contents : Packet.Location → Nat) : List UInt8 :=
  (Packet.make q.format q.target (q.flag ||| Packet.successFlag) q.address
    (q.written.getD (BitVec.ofNat _ (contents q.location)))).bytes

/-- What the registers hold after the request. -/
def effect (contents : Packet.Location → Nat) : Packet.Location → Nat :=
  match q.written with
  | none => contents
  | some data => Function.update contents q.location data.toNat

theorem response_length (contents : Packet.Location → Nat) : (q.response contents).length = Packet.size :=
  (Packet.make_laidOut _ _ _ _).length

theorem response_accepted (contents : Packet.Location → Nat) :
    Link.Accepted q.format (q.response contents) where
  fits := (q.response_length contents).le
  magic := (Packet.make_laidOut _ _ _ _).magic
  success := by
    rw [response, Packet.make_bytes]
    change (q.flag ||| Packet.successFlag) &&& Packet.successFlag ≠ 0
    rw [flag]
    cases q.written.isSome <;> decide

/-- A response tells what was written or, after a read, what the register holds. -/
theorem data_response (contents : Packet.Location → Nat) :
    (Packet.ofBytes q.format (q.response contents)).data =
      q.written.getD (BitVec.ofNat _ (contents q.location)) := by
  rw [response, Packet.ofBytes_bytes, Packet.data_make]

end Request

/-- A device that, when it is ready, answers each request from its registers and is ready again. -/
structure KeepsRegisters {σ : Type} (h : Handler interface σ) (contents : σ → Packet.Location → Nat)
    (Ready : σ → Prop) : Prop where
  takes : ∀ (q : Request) s, Ready s → (h (.bulkOut endpointOut q.message) s).1.fault = none
  answers : ∀ (q : Request) s, Ready s →
    (h (.bulkIn endpointIn Packet.size) (h (.bulkOut endpointOut q.message) s).2).1 =
      .ok ⟨(q.response (contents s)).toArray⟩
  keeps : ∀ (q : Request) s, Ready s →
    contents (h (.bulkIn endpointIn Packet.size) (h (.bulkOut endpointOut q.message) s).2).2 =
      q.effect (contents s)
  ready : ∀ (q : Request) s, Ready s →
    Ready (h (.bulkIn endpointIn Packet.size) (h (.bulkOut endpointOut q.message) s).2).2

/-! The peripherals. -/

/-- A register of a peripheral. -/
inductive Register
  | version
  | frontEnd
  | gpio
  | timestamp (d : Direction)
  | rfic (command : UInt16)
  | pll (latch : UInt8)
  | monitor (register : UInt8)
  | trim
  deriving DecidableEq

namespace Register

open Packet in
/-- Where a device keeps it. -/
def location : Register → Location
  | version => (Format.a8d32.magic, Target.version, 0)
  | frontEnd => (Format.a8d32.magic, Target.frontEnd, 0)
  | gpio => (Format.a8d32.magic, Target.gpio, 0)
  | timestamp .rx => (Format.a8d64.magic, Target.timestamp, Target.rxTimestamp.toNat)
  | timestamp .tx => (Format.a8d64.magic, Target.timestamp, Target.txTimestamp.toNat)
  | rfic command => (Format.a16d64.magic, Target.rfic, command.toNat)
  | pll latch => (Format.a8d32.magic, Target.pll, latch.toNat)
  | monitor register => (Format.a8d16.magic, Target.powerMonitor, register.toNat)
  | trim => (Format.a8d16.magic, Target.trim, 0)

/-- The call that reads it. -/
def query : Register → Transport.Call
  | version => .fpgaVersion
  | frontEnd => .readFrontEnd
  | gpio => .readGpio
  | timestamp d => .timestamp d
  | rfic command => .readSpi command
  | pll latch => .readPll latch
  | monitor register => .readMonitor register
  | trim => .readTrim

/-- What a read tells of a value. -/
def reply : (r : Register) → Nat → r.query.Reply
  | version => fun value => Version.ofWord (.ofNat value)
  | frontEnd | gpio | pll _ => UInt32.ofNat
  | timestamp _ | rfic _ => UInt64.ofNat
  | monitor _ | trim => UInt16.ofNat

open Packet in
/-- The register at a place that one of them has. -/
def ofLocation : Location → Register
  | (magic, target, address) =>
    if magic = Format.a8d16.magic then
      if target = Target.trim then trim else monitor (.ofNat address)
    else if magic = Format.a16d64.magic then rfic (.ofNat address)
    else if magic = Format.a8d64.magic then
      timestamp (if address = Target.txTimestamp.toNat then .tx else .rx)
    else if target = Target.version then version
    else if target = Target.frontEnd then frontEnd
    else if target = Target.gpio then gpio
    else pll (.ofNat address)

theorem ofLocation_location : Function.LeftInverse ofLocation location := by
  intro r
  cases r with
  | version | frontEnd | gpio | trim => rfl
  | timestamp d => cases d <;> rfl
  | rfic => exact congrArg rfic UInt16.ofNat_toNat
  | pll => exact congrArg pll UInt8.ofNat_toNat
  | monitor => exact congrArg monitor UInt8.ofNat_toNat

theorem location_injective : Function.Injective location := ofLocation_location.injective

end Register

/-- The register that a call writes, with the value. -/
def store? : Transport.Call → Option (Register × Nat)
  | .writeFrontEnd value => some (.frontEnd, value.toNat)
  | .writeGpio value => some (.gpio, value.toNat)
  | .writeSpi command data => some (.rfic command, data.toNat)
  | .writePll latch value => some (.pll latch, value.toNat)
  | .writeMonitor register value => some (.monitor register, value.toNat)
  | .writeTrim value => some (.trim, value.toNat)
  | _ => none

/-- The framing after a call. -/
def reframe (framing : Framing) : Transport.Call → Framing
  | .setFraming chosen => chosen
  | _ => framing

/-- What a call gets into a register. Nothing does under the framing for earlier boards. -/
def stored : Framing → Transport.Call → List (Register × Nat)
  | .legacy, _ => []
  | .packets, c => (store? c).toList

/-- What calls get into the registers, in order. -/
def stores : Framing → List Transport.Call → List (Register × Nat)
  | _, [] => []
  | framing, c :: rest => stored framing c ++ stores (reframe framing c) rest

/-- The last of the values for a register, or the initial one. -/
def lastStored (r : Register) (initial : Nat) (entries : List (Register × Nat)) : Nat :=
  ((entries.filter (·.1 = r)).map (·.2)).getLastD initial

theorem lastStored_cons (r : Register) (initial : Nat) (entry : Register × Nat)
    (rest : List (Register × Nat)) :
    lastStored r initial (entry :: rest) =
      lastStored r (if entry.1 = r then entry.2 else initial) rest := by
  by_cases same : entry.1 = r
  · have first : decide (entry.1 = r) = true := decide_eq_true same
    rw [lastStored, List.filter_cons, if_pos first, List.map_cons, List.getLastD_cons, if_pos same, lastStored]
  · have other : ¬decide (entry.1 = r) = true := by simpa using same
    rw [lastStored, List.filter_cons, if_neg other, if_neg same, lastStored]

theorem lastStored_append (r : Register) (initial : Nat) (before after : List (Register × Nat)) :
    lastStored r initial (before ++ after) = lastStored r (lastStored r initial before) after := by
  induction before generalizing initial with
  | nil => rfl
  | cons entry before ih => rw [List.cons_append, lastStored_cons, ih, lastStored_cons]

/-- A value for one register changes no other. -/
theorem update_location (contents : Packet.Location → Nat) (entry : Register × Nat) (r : Register) :
    Function.update contents entry.1.location entry.2 r.location =
      lastStored r (contents r.location) [entry] := by
  rw [lastStored_cons]
  by_cases same : entry.1 = r
  · rw [if_pos same, same, Function.update_self]
    rfl
  · have apart : r.location ≠ entry.1.location := fun equal => same (Register.location_injective equal).symm
    rw [if_neg same, Function.update_of_ne apart]
    rfl

/-! Accesses to the peripherals. -/

/-- A query reads its own register. -/
theorem access_query (r : Register) :
    ∃ a, access? r.query = some a ∧ a.written = none ∧ a.location = r.location ∧
      ∀ value, a.reply (BitVec.ofNat _ value) = r.reply value := by
  cases r
  case timestamp d => cases d <;> exact ⟨_, rfl, rfl, rfl, fun _ => rfl⟩
  all_goals exact ⟨_, rfl, rfl, rfl, fun _ => rfl⟩

/-- An access writes what its call stores, if its call stores anything. -/
theorem effect_of_access {c : Transport.Call} {a : Access c.Reply} (asks : access? c = some a)
    (contents : Packet.Location → Nat) :
    a.effect contents = match store? c with
      | none => contents
      | some (r, value) => Function.update contents r.location value := by
  cases c
  case fpgaVersion | readFrontEnd | readGpio | readPll | timestamp | readSpi | readMonitor | readTrim =>
    cases asks
    rfl
  case writeFrontEnd | writeGpio | writeSpi | writePll | writeMonitor | writeTrim =>
    cases asks
    rfl
  all_goals cases asks

theorem reframe_of_access {c : Transport.Call} {a : Access c.Reply} (asks : access? c = some a)
    (framing : Framing) : reframe framing c = framing := by
  cases c
  case setFraming => cases asks
  all_goals rfl

/-! Runs on such a device. -/

section Device

variable {σ : Type} {h : Handler interface σ} {contents : σ → Packet.Location → Nat} {Ready : σ → Prop}
  (device : KeepsRegisters h contents Ready) {s : σ} (start : Ready s)

include device start

/-- One access under packets: one exchange, which succeeds and leaves what was written. -/
theorem attempt_on_device {c : Transport.Call} {a : Access c.Reply} (asks : access? c = some a)
    (speed : LinkSpeed) :
    let run := (attempt c ⟨speed, .packets⟩).run h s
    (∃ completion response, calls run.events =
      [.called (.bulkOut 0x02 a.message) completion, .called (.bulkIn 0x82 16) response]) ∧
      run.result = (.ok (a.reply (a.written.getD (BitVec.ofNat _ (contents s a.location)))),
        ⟨speed, .packets⟩) ∧
      contents run.state = a.effect (contents s) ∧ Ready run.state := by
  intro run
  obtain ⟨same, -, sent⟩ := run_attempt h s asks speed
  obtain ⟨made, state, result⟩ := sent (device.takes a.toRequest s start)
  refine ⟨⟨_, _, made⟩, ?_, ?_, ?_⟩
  · refine Prod.ext ?_ same
    rw [result, device.answers a.toRequest s start,
      a.outcome_of_accepted (a.response_length _) (a.response_accepted _), a.data_response]
  · rw [state]
    exact device.keeps a.toRequest s start
  · rw [state]
    exact device.ready a.toRequest s start

/-- What one call leaves of the framing and the registers. -/
theorem attempt_keeps (d : Device) {c : Transport.Call}
    (reaches : (access? c).isSome ∨ ∃ framing, c = .setFraming framing) :
    let run := (attempt c d).run h s
    run.result.2.framing = reframe d.framing c ∧ Ready run.state ∧
      ∀ r : Register, contents run.state r.location =
        lastStored r (contents s r.location) (stored d.framing c) := by
  intro run
  obtain asks | ⟨framing, rfl⟩ := reaches
  · obtain ⟨a, asks⟩ := Option.isSome_iff_exists.mp asks
    obtain ⟨speed, framing⟩ := d
    rw [reframe_of_access asks]
    cases framing with
    | legacy =>
      obtain ⟨-, result, state⟩ := run_attempt_legacy h s asks speed
      refine ⟨congrArg (·.2.framing) result, state.symm ▸ start, fun r => ?_⟩
      rw [state]
      rfl
    | packets =>
      obtain ⟨-, result, effect, ready⟩ := attempt_on_device device start asks speed
      refine ⟨congrArg (·.2.framing) result, ready, fun r => ?_⟩
      rw [effect, effect_of_access asks, stored]
      cases store? c with
      | none => rfl
      | some entry => exact update_location (contents s) entry r
  · obtain ⟨speed, old⟩ := d
    cases old with
    | legacy => exact ⟨rfl, start, fun r => rfl⟩
    | packets => exact ⟨rfl, start, fun r => rfl⟩

/-- What calls leave: the framing that was chosen last and, in each register, the value that was written
last. -/
theorem session_keeps (d : Device) {earlier : List Transport.Call}
    (reach : ∀ c ∈ earlier, (access? c).isSome ∨ ∃ framing, c = .setFraming framing) :
    let run := (session earlier d).run h s
    run.result.framing = earlier.foldl reframe d.framing ∧ Ready run.state ∧
      ∀ r : Register, contents run.state r.location =
        lastStored r (contents s r.location) (stores d.framing earlier) := by
  induction earlier generalizing d s with
  | nil => exact ⟨rfl, start, fun r => rfl⟩
  | cons c rest ih =>
    obtain ⟨framing, ready, kept⟩ := attempt_keeps device start d (reach c List.mem_cons_self)
    have later := ih ready ((attempt c d).run h s).result.2 fun c' within =>
      reach c' (List.mem_cons_of_mem c within)
    rw [framing] at later
    rw [run_session_cons]
    refine ⟨later.1, later.2.1, fun r => ?_⟩
    rw [stores, lastStored_append, ← kept]
    exact later.2.2 r

/-- No two registers have the same place. After any calls to the peripherals and changes of the framing, a
read tells the last value written to the same register, or its initial value, and every call succeeds at the
cost of one exchange. Under the framing for earlier boards every call is refused and costs nothing. -/
theorem peripherals_keep_values (d : Device) {earlier : List Transport.Call}
    (reach : ∀ c ∈ earlier, (access? c).isSome ∨ ∃ framing, c = .setFraming framing) :
    let before := (session earlier d).run h s
    let next (c : Transport.Call) := (attempt c before.result).run h before.state
    Function.Injective Register.location ∧
    (earlier.foldl reframe d.framing = .packets →
      (∀ r : Register, (next r.query).result.1 =
        .ok (r.reply (lastStored r (contents s r.location) (stores d.framing earlier)))) ∧
      ∀ c a, access? c = some a → (next c).result.1.isOk = true ∧ a.message.size = 16 ∧
        ∃ completion response, calls (next c).events =
          [.called (.bulkOut 0x02 a.message) completion, .called (.bulkIn 0x82 16) response]) ∧
    (earlier.foldl reframe d.framing = .legacy →
      ∀ c, (access? c).isSome → (next c).result.1 = .error .unsupported ∧ calls (next c).events = []) := by
  intro before next
  obtain ⟨framing, ready, kept⟩ := session_keeps device start d reach
  change before.result.framing = _ at framing
  have device_eq : before.result = ⟨before.result.speed, before.result.framing⟩ := rfl
  refine ⟨Register.location_injective, ?_, ?_⟩
  · intro packets
    have onPackets : before.result = ⟨before.result.speed, .packets⟩ := by
      rw [device_eq, framing, packets]
    refine ⟨fun r => ?_, fun c a asks => ?_⟩
    · obtain ⟨a, asks, reads, place, replies⟩ := access_query r
      have answered := attempt_on_device device ready asks before.result.speed
      rw [← onPackets] at answered
      change (next r.query).result.1 = _
      rw [answered.2.1, reads, place, kept]
      exact congrArg Except.ok (replies _)
    · have answered := attempt_on_device device ready asks before.result.speed
      rw [← onPackets] at answered
      refine ⟨?_, a.message_size, answered.1⟩
      rw [answered.2.1]
      rfl
  · intro legacy c asks
    have onLegacy : before.result = ⟨before.result.speed, .legacy⟩ := by
      rw [device_eq, framing, legacy]
    obtain ⟨a, asks⟩ := Option.isSome_iff_exists.mp asks
    have refused := run_attempt_legacy h before.state asks before.result.speed
    rw [← onLegacy] at refused
    exact ⟨congrArg (·.1) refused.2.1, refused.1⟩

end Device

end Usb

/-! The bench keeps such registers. -/

namespace Packet

theorem respond_eq {f : Format} {request : List UInt8} (known : Format.ofMagic (request.headD 0) = f)
    (keeps : Location → Nat → Nat) (r : Registers) :
    respond keeps request r =
      let p := Packet.ofBytes f request
      let response := request.set 2 (p.flags ||| successFlag)
      if p.isWrite then (response, r.write p.location (keeps p.location p.data.toNat))
      else (overwrite response f.dataOffset (LittleEndian.encode f.dataBytes (r.read p.location)), r) := by
  subst known
  rfl

/-- A part written over another of its length takes its place. -/
theorem overwrite_between (before after : List UInt8) {old new : List UInt8} (same : old.length = new.length) :
    overwrite (before ++ old ++ after) before.length new = before ++ new ++ after := by
  rw [overwrite, List.append_assoc before old, List.take_left, ← same, ← List.drop_drop, List.drop_left,
    List.drop_left]

variable {f : Format} (target flags : UInt8) (address : Address f)

theorem set_flags (flags' : UInt8) (data : Data f) :
    (make f target flags address data).bytes.set 2 flags' = (make f target flags' address data).bytes := by
  rw [make_bytes, make_bytes]
  rfl

theorem overwrite_data (data : Data f) (value : Nat) :
    overwrite (make f target flags address data).bytes f.dataOffset (LittleEndian.encode f.dataBytes value) =
      (make f target flags address (BitVec.ofNat _ value)).bytes := by
  have inAddress := LittleEndian.encode_length f.addressBytes address.toNat
  have inData := (LittleEndian.encode_length f.dataBytes data.toNat).trans
    (LittleEndian.encode_length f.dataBytes value).symm
  have low : LittleEndian.encode f.dataBytes (BitVec.ofNat (8 * f.dataBytes) value).toNat =
      LittleEndian.encode f.dataBytes value := by
    have again := LittleEndian.encode_decode (LittleEndian.encode f.dataBytes value)
    rw [LittleEndian.encode_length, LittleEndian.decode_encode] at again
    rw [BitVec.toNat_ofNat, Nat.pow_mul]
    exact again
  have replaced := overwrite_between
    ([f.magic, target, flags, 0] ++ LittleEndian.encode f.addressBytes address.toNat)
    (List.replicate (size - f.dataOffset - f.dataBytes) 0) inData
  rw [length_through_address inAddress] at replaced
  rw [make_bytes, make_bytes, low]
  exact replaced

end Packet

namespace Usb

/-- The registers with what the request writes. -/
def Request.writeTo (q : Request) (registers : Packet.Registers) : Packet.Registers :=
  match q.written with
  | none => registers
  | some data => registers.write q.location data.toNat

theorem Request.read_writeTo (q : Request) (registers : Packet.Registers) :
    (q.writeTo registers).read = q.effect registers.read := by
  rw [Request.writeTo, Request.effect]
  cases q.written with
  | none => rfl
  | some data =>
    funext place
    dsimp only
    by_cases same : place = q.location
    · rw [same, Function.update_self]
      exact RegisterFile.read_write_self _ _ _
    · rw [Function.update_of_ne same]
      exact RegisterFile.read_write_of_ne same _ _

open Packet in
/-- Registers that keep what is written to them answer a request from their contents. -/
theorem respond_request (q : Request) (registers : Packet.Registers) :
    Packet.respond (fun _ value => value) q.packet.bytes registers =
      (q.response registers.read, q.writeTo registers) := by
  have known : Packet.Format.ofMagic (q.packet.bytes.headD 0) = q.format := q.format.ofMagic_magic
  have told : q.packet.address = q.address := Packet.address_make _ _ _ _
  have place : q.packet.location = q.location := by
    change (q.packet.magic, q.packet.target, q.packet.address.toNat) = _
    rw [told]
    rfl
  rw [Packet.respond_eq known, Packet.ofBytes_bytes]
  dsimp only
  rw [place]
  obtain ⟨f, target, address, written⟩ := q
  cases written with
  | none =>
    have reads : (Request.packet ⟨f, target, address, none⟩).isWrite = false := by
      change (readFlag &&& writeFlag != 0) = false
      decide
    rw [reads]
    change (overwrite ((make f target readFlag address 0).bytes.set 2 _) _ _, registers) = _
    rw [set_flags, overwrite_data]
    rfl
  | some data =>
    have writes : (Request.packet ⟨f, target, address, some data⟩).isWrite = true := by
      change (writeFlag &&& writeFlag != 0) = true
      decide
    rw [writes]
    have stored : (Request.packet ⟨f, target, address, some data⟩).data = data := data_make _ _ _ _
    rw [stored]
    change ((make f target writeFlag address data).bytes.set 2 _, _) = _
    rw [set_flags]
    rfl

theorem bench_keepsRegisters :
    KeepsRegisters Bench.handler (fun b => b.registers.read) fun b => b.keeps = fun _ value => value := by
  have received : ∀ (q : Request) (b : Bench), b.keeps = (fun _ value => value) →
      b.receive q.message.data.toList =
        { b with response := q.response b.registers.read, registers := q.writeTo b.registers } := by
    intro q b keeps
    have whole : q.message.data.toList.length = Packet.size := q.message_size
    have answered : Packet.respond b.keeps q.message.data.toList b.registers = _ :=
      keeps ▸ respond_request q b.registers
    rw [Bench.receive, if_pos whole, answered]
  refine ⟨fun _ _ _ => rfl, ?_, ?_, ?_⟩
  · intro q b keeps
    change Except.ok (ByteArray.mk (b.receive q.message.data.toList).response.toArray) = _
    rw [received q b keeps]
  · intro q b keeps
    change (b.receive q.message.data.toList).registers.read = _
    rw [received q b keeps]
    exact q.read_writeTo b.registers
  · intro q b keeps
    change (b.receive q.message.data.toList).keeps = _
    rw [received q b keeps]
    exact keeps

/-- What was written under the framing for earlier boards did not arrive. -/
theorem peripherals_keep_values_bench :
    let bench : Bench := { devices := [], texts := fun _ => none }
    let earlier : List Transport.Call := [.writeGpio 5, .writeFrontEnd 7, .setFraming .legacy, .writeGpio 9,
      .setFraming .packets, .timestamp .tx]
    let before := (session earlier ⟨.super, .packets⟩).run Bench.handler bench
    (∀ c ∈ earlier, (access? c).isSome ∨ ∃ framing, c = .setFraming framing) ∧
      ((attempt .readGpio before.result).run Bench.handler before.state).result.1 = .ok 5 := by
  intro bench earlier before
  have reach : ∀ c ∈ earlier, (access? c).isSome ∨ ∃ framing, c = .setFraming framing := by
    simp [earlier, access?]
  have kept := peripherals_keep_values bench_keepsRegisters (s := bench) rfl ⟨.super, .packets⟩ reach
  have arrived : lastStored .gpio (bench.registers.read Register.gpio.location)
      (stores .packets earlier) = 5 := by
    decide
  have told := (kept.2.1 rfl).1 .gpio
  rw [arrived] at told
  refine ⟨reach, ?_⟩
  -- The run gets a name, so that nobody evaluates it to compare it with itself.
  generalize run_eq : before = run
  change (session earlier ⟨.super, .packets⟩).run Bench.handler bench = run at run_eq
  rw [run_eq] at told
  exact told

end Usb
end RadioBoard
