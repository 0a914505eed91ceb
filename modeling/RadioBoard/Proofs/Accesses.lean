import RadioBoard.Packet.Registers
import RadioBoard.Proofs.History
import RadioBoard.Proofs.Link
import RadioBoard.Usb.Service

/-!
What a call that reaches a register of the FPGA does on the bus.

Fourteen calls to the transport are one access each. Main statements, on any bus: an access moves one packet
out and takes one response in, and its result depends on that response alone (`run_attempt`); under the
framing for earlier boards nothing is moved (`run_attempt_legacy`).
-/

namespace RadioBoard

namespace Program

variable {I J : Interface} {σ τ α β : Type}

theorem expand_bind (f : (c : I.Call) → τ → Program J (I.Answer c × τ)) (p : Program I α)
    (k : α → Program I β) (t : τ) :
    (p.bind k).expand f t = (p.expand f t).bind fun r => (k r.1).expand f r.2 := by
  induction p generalizing t with
  | done a => rfl
  | say n p ih => simp only [bind, expand, ih]
  | call c p ih => simp only [bind, expand, bind_assoc, ih]

/-- Notes, and nothing else on the way to a result. -/
def saying (notes : List Note) (a : α) : Program I α := notes.foldr say (done a)

theorem saying_bind (notes : List Note) (a : α) (k : α → Program I β) :
    (saying notes a).bind k = notes.foldr say (k a) := by
  induction notes with
  | nil => rfl
  | cons n notes ih => exact congrArg (say n) ih

theorem expand_saying (f : (c : I.Call) → τ → Program J (I.Answer c × τ)) (notes : List Note) (a : α)
    (t : τ) : (saying notes a : Program I α).expand f t = saying notes (a, t) := by
  induction notes with
  | nil => rfl
  | cons n notes ih => exact congrArg (say n) ih

theorem run_saying (h : Handler I σ) (notes : List Note) (a : α) (s : σ) :
    (saying notes a : Program I α).run h s = ⟨notes.map .said, a, s⟩ := by
  induction notes with
  | nil => rfl
  | cons n notes ih =>
    change (say n (saying notes a)).run h s = _
    rw [run, ih]
    rfl

end Program

theorem calls_said {I : Interface} (notes : List Note) :
    calls (notes.map (.said : Note → Event I)) = [] := by
  induction notes with
  | nil => rfl
  | cons n notes ih => exact ih

/-! After the response an access only leaves notes. -/

namespace Link

open Program (saying)

variable {f : Packet.Format}

/-- What an access does with the packet of a response. -/
def judge (packet : Packet f) : Action (Packet f) := do
  if !packet.isValid then
    logError s!"nios_access: malformed response {packet.bytesText}"
    throw .unexpected
  if !packet.isSuccess then
    logError s!"nios_access: request failed: {packet.fieldsText}"
    throw .unexpected
  return packet

theorem access_run (e : Endpoints) (request : Packet f) :
    (access e request).run = .call (I := interface) ⟨e.input, e.output, request.bytes⟩ fun r => match r with
      | .error cause => .done (.error cause)
      | .ok response => (received f response >>= judge).run := by
  change Program.call _ _ = _
  congr 1
  funext r
  cases r <;> rfl

theorem judge_saying (packet : Packet f) :
    ∃ notes, (judge packet).run =
      saying notes (if packet.isValid ∧ packet.isSuccess then .ok packet else .error .unexpected) := by
  rw [judge]
  cases packet.isValid with
  | false => exact ⟨[_], rfl⟩
  | true =>
    cases packet.isSuccess with
    | false => exact ⟨[_], rfl⟩
    | true => exact ⟨[], rfl⟩

theorem received_saying (f : Packet.Format) (response : List UInt8) :
    ∃ notes, (received f response).run = saying notes (.ok (Packet.ofBytes f response)) := by
  rw [received]
  by_cases short : response.length < Packet.size
  · rw [if_pos short]
    exact ⟨[_], rfl⟩
  · rw [if_neg short]
    exact ⟨[], rfl⟩

theorem judge_received_saying (f : Packet.Format) (response : List UInt8) :
    ∃ notes, (received f response >>= judge).run =
      saying notes (if Accepted f response then .ok (Packet.ofBytes f response) else .error .unexpected) := by
  obtain ⟨first, received⟩ := received_saying f response
  obtain ⟨second, judged⟩ := judge_saying (Packet.ofBytes f response)
  refine ⟨first ++ second, ?_⟩
  change (Link.received f response).run.bind _ = _
  rw [received, Program.saying_bind]
  change first.foldr .say (judge (Packet.ofBytes f response)).run = _
  rw [judged]
  simp only [accepted_iff, Program.saying, List.foldr_append]

end Link

namespace Usb

open Packet (Address Data)

variable {f : Packet.Format} {α β : Type}

/-! Accesses that the transport is asked for. -/

/-- One access to a register of the FPGA: a read or, with a value, a write. -/
structure Request where
  format : Packet.Format
  target : UInt8
  address : Address format
  written : Option (Data format)

namespace Request

def flag (q : Request) : UInt8 := if q.written.isSome then Packet.writeFlag else Packet.readFlag

def packet (q : Request) : Packet q.format :=
  .make q.format q.target q.flag q.address (q.written.getD 0)

def message (q : Request) : ByteArray := ⟨q.packet.bytes.toArray⟩

/-- The register that is accessed. -/
def location (q : Request) : Packet.Location := (q.format.magic, q.target, q.address.toNat)

theorem message_size (q : Request) : q.message.size = Packet.size :=
  (Packet.make_laidOut q.target q.flag q.address (q.written.getD 0)).length

end Request

/-- A request, and what is told of the data in its response. -/
structure Access (ρ : Type) extends Request where
  reply : Data format → ρ

/-- What an exchange makes of an incoming transfer. -/
def taken : Except TransferFault ByteArray → Except Error (List UInt8)
  | .error fault => .error (.transfer fault)
  | .ok response =>
    if response.size = Packet.size then .ok response.data.toList
    else .error (.truncated response.size Packet.size)

namespace Access

variable {ρ : Type}

/-- What an access makes of an incoming transfer. -/
def outcome (a : Access ρ) (got : Except TransferFault ByteArray) : Except Error ρ :=
  match taken got with
  | .error cause => .error cause
  | .ok response =>
    if Link.Accepted a.format response then .ok (a.reply (Packet.ofBytes a.format response).data)
    else .error .unexpected

theorem outcome_of_accepted (a : Access ρ) {response : List UInt8}
    (length : response.length = Packet.size) (accepted : Link.Accepted a.format response) :
    a.outcome (.ok ⟨response.toArray⟩) = .ok (a.reply (Packet.ofBytes a.format response).data) := by
  have whole : taken (.ok ⟨response.toArray⟩) = .ok response := if_pos length
  rw [outcome, whole]
  exact if_pos accepted

theorem outcome_eq_ok {a : Access ρ} {got : Except TransferFault ByteArray} {value : ρ}
    (succeeded : a.outcome got = .ok value) :
    ∃ response, got = .ok response ∧ Link.Accepted a.format response.data.toList ∧
      value = a.reply (Packet.ofBytes a.format response.data.toList).data := by
  cases got with
  | error fault => cases succeeded
  | ok response =>
    by_cases length : response.size = Packet.size
    · have whole : taken (.ok response) = .ok response.data.toList := if_pos length
      rw [outcome, whole] at succeeded
      dsimp only at succeeded
      split at succeeded
      case isTrue accepted =>
        cases succeeded
        exact ⟨response, rfl, accepted, rfl⟩
      case isFalse => cases succeeded
    · have short : taken (.ok response) = .error (.truncated response.size Packet.size) := if_neg length
      rw [outcome, short] at succeeded
      cases succeeded

end Access

open Packet in
/-- The access that a call to the transport is, if it is a call to reach a register. -/
def access? : (c : Transport.Call) → Option (Access c.Reply)
  | .fpgaVersion => some ⟨⟨.a8d32, Target.version, 0, none⟩, fun word => Version.ofWord ⟨word⟩⟩
  | .readFrontEnd => some ⟨⟨.a8d32, Target.frontEnd, 0, none⟩, UInt32.ofBitVec⟩
  | .writeFrontEnd value => some ⟨⟨.a8d32, Target.frontEnd, 0, some value.toBitVec⟩, fun _ => ()⟩
  | .timestamp d =>
    some ⟨⟨.a8d64, Target.timestamp, (timestampAddress d).toBitVec, none⟩, UInt64.ofBitVec⟩
  | .readGpio => some ⟨⟨.a8d32, Target.gpio, 0, none⟩, UInt32.ofBitVec⟩
  | .writeGpio value => some ⟨⟨.a8d32, Target.gpio, 0, some value.toBitVec⟩, fun _ => ()⟩
  | .readSpi command => some ⟨⟨.a16d64, Target.rfic, command.toBitVec, none⟩, UInt64.ofBitVec⟩
  | .writeSpi command data =>
    some ⟨⟨.a16d64, Target.rfic, command.toBitVec, some data.toBitVec⟩, fun _ => ()⟩
  | .readPll latch => some ⟨⟨.a8d32, Target.pll, latch.toBitVec, none⟩, UInt32.ofBitVec⟩
  | .writePll latch value =>
    some ⟨⟨.a8d32, Target.pll, latch.toBitVec, some value.toBitVec⟩, fun _ => ()⟩
  | .readMonitor register =>
    some ⟨⟨.a8d16, Target.powerMonitor, register.toBitVec, none⟩, UInt16.ofBitVec⟩
  | .writeMonitor register value =>
    some ⟨⟨.a8d16, Target.powerMonitor, register.toBitVec, some value.toBitVec⟩, fun _ => ()⟩
  | .readTrim => some ⟨⟨.a8d16, Target.trim, 0, none⟩, UInt16.ofBitVec⟩
  | .writeTrim value => some ⟨⟨.a8d16, Target.trim, 0, some value.toBitVec⟩, fun _ => ()⟩
  | _ => none

/-! The actions of this transport as programs. -/

theorem run_bind (act : Action α) (k : α → Action β) (d : Device) :
    (act >>= k).run.run d = (act.run.run d).bind fun r => match r.1 with
      | .ok a => (k a).run.run r.2
      | .error cause => .done (.error cause, r.2) := by
  change Program.bind _ _ = _
  congr 1
  funext r
  rcases r with ⟨r | r, d'⟩ <;> rfl

theorem run_map (g : α → β) (act : Action α) (d : Device) :
    (g <$> act).run.run d = (act.run.run d).bind fun r => .done (r.1.map g, r.2) := by
  rw [map_eq_pure_bind, run_bind]
  congr 1
  funext r
  rcases r with ⟨r | r, d'⟩ <;> rfl

theorem run_onLink (act : Link.Action α) (d : Device) :
    (onLink act).run.run d = match d.framing with
      | .legacy => .say (.log .error "Legacy NIOS II framing is not supported by this board")
          (.done (.error .unsupported, d))
      | .packets => (overBus act).bind fun r => .done (r, d) := by
  rw [onLink, run_bind]
  obtain ⟨speed, framing⟩ := d
  cases framing with
  | legacy => rfl
  | packets =>
    change ((monadLift (overBus act : Program interface (Except Error α)) : Action (Except Error α)) >>=
      _).run.run _ = _
    rw [run_bind]
    change Program.bind (Program.bind (Program.bind (overBus act) _) _) _ = _
    rw [Program.bind_assoc, Program.bind_assoc]
    congr 1
    funext r
    cases r <;> rfl

theorem overBus_map (g : α → β) (act : Link.Action α) :
    overBus (g <$> act) = (overBus act).bind fun r => .done (r.map g) := by
  have split : (g <$> act).run = act.run.bind fun r => .done (r.map g) := by
    change Program.bind _ _ = _
    congr 1
    funext r
    cases r <;> rfl
  rw [overBus, overBus, split, Program.expand_bind]
  change Program.bind (Program.bind _ _) _ = Program.bind (Program.bind _ _) _
  rw [Program.bind_assoc, Program.bind_assoc]
  rfl

theorem onLink_map (g : α → β) (act : Link.Action α) : onLink (g <$> act) = g <$> onLink act := by
  apply ExceptT.ext
  apply StateT.ext
  intro d
  rw [run_onLink, run_map, run_onLink]
  cases d.framing with
  | legacy => rfl
  | packets =>
    dsimp only
    rw [overBus_map, Program.bind_assoc, Program.bind_assoc]
    rfl

theorem readRegister_map (g : Data f → β) (target : UInt8) (address : Address f) :
    (do return g (← readRegister f target address) : Action β) =
      (fun p => g p.data) <$> onLink (Link.access endpoints (Packet.readRequest f target address)) := by
  rw [← map_eq_pure_bind, readRegister, Link.read, ← map_eq_pure_bind, onLink_map, Functor.map_map]

theorem writeRegister_map (target : UInt8) (address : Address f) (data : Data f) :
    writeRegister f target address data =
      (fun _ => ()) <$> onLink (Link.access endpoints (Packet.writeRequest f target address data)) := by
  rw [writeRegister, Link.write, ← onLink_map, map_eq_pure_bind]

/-- A call that reaches a register is its access, and nothing else. -/
theorem serve_eq {c : Transport.Call} {a : Access c.Reply} (asks : access? c = some a) :
    serve c = (fun p => a.reply p.data) <$> onLink (Link.access endpoints a.packet) := by
  cases c
  case fpgaVersion | readFrontEnd | readGpio | readPll | timestamp | readSpi | readMonitor | readTrim =>
    cases asks
    exact readRegister_map _ _ _
  case writeFrontEnd | writeGpio | writeSpi | writePll | writeMonitor | writeTrim =>
    cases asks
    exact writeRegister_map _ _ _
  all_goals cases asks

theorem overBus_access (request : Packet f) :
    overBus (Link.access endpoints request) =
      (exchange ⟨endpointIn, endpointOut, request.bytes⟩).run.bind fun r => match r with
        | .error cause => .done (.error cause)
        | .ok response => (Program.expand (fun c _ => do return (← (exchange c).run, ()))
            (Link.received f response >>= Link.judge).run ()).bind fun r => .done r.1 := by
  rw [overBus, Link.access_run]
  change Program.bind (Program.bind (Program.bind (exchange _).run _) _) _ = _
  rw [Program.bind_assoc, Program.bind_assoc]
  congr 1
  funext r
  cases r <;> rfl

/-- One call to the transport of an attached board. -/
def attempt (c : Transport.Call) (d : Device) : Program interface (Except Error c.Reply × Device) :=
  (serve c).run.run d

/-- Calls to the transport one after the other, whatever becomes of each. -/
def session : List Transport.Call → Device → Program interface Device
  | [], d => .done d
  | c :: rest, d => (attempt c d).bind fun r => session rest r.2

/-! Runs on any bus. -/

section Runs

variable {σ : Type} (h : Handler interface σ) (s : σ)

theorem run_session_cons (c : Transport.Call) (rest : List Transport.Call) (d : Device) :
    (session (c :: rest) d).run h s =
      let first := (attempt c d).run h s
      let later := (session rest first.result.2).run h first.state
      ⟨first.events ++ later.events, later.result, later.state⟩ :=
  Program.run_bind h (attempt c d) (fun r => session rest r.2) s

theorem run_ask (c : Call) (k : c.Answer → ExceptT Error (Program interface) α) :
    ((do k (← ask c) : ExceptT Error (Program interface) α).run.run h s) =
      let answer := h c s
      let rest := (k answer.1).run.run h answer.2
      ⟨.called c answer.1 :: rest.events, rest.result, rest.state⟩ := rfl

theorem run_exchange_unsent {c : Link.Call} {fault : TransferFault}
    (failed : (h (.bulkOut c.endpointOut ⟨c.request.toArray⟩) s).1.fault = some fault) :
    (exchange c).run.run h s =
      let sent := h (.bulkOut c.endpointOut ⟨c.request.toArray⟩) s
      ⟨[.called (.bulkOut c.endpointOut ⟨c.request.toArray⟩) sent.1], .error (.transfer fault), sent.2⟩ := by
  rw [exchange, run_ask]
  generalize h (.bulkOut c.endpointOut ⟨c.request.toArray⟩) s = sent at failed
  obtain ⟨⟨fault', moved⟩, s'⟩ := sent
  cases failed
  rfl

theorem run_exchange_sent {c : Link.Call}
    (whole : (h (.bulkOut c.endpointOut ⟨c.request.toArray⟩) s).1.fault = none) :
    (exchange c).run.run h s =
      let sent := h (.bulkOut c.endpointOut ⟨c.request.toArray⟩) s
      let got := h (.bulkIn c.endpointIn Packet.size) sent.2
      ⟨[.called (.bulkOut c.endpointOut ⟨c.request.toArray⟩) sent.1,
          .called (.bulkIn c.endpointIn Packet.size) got.1], taken got.1, got.2⟩ := by
  rw [exchange, run_ask]
  generalize h (.bulkOut c.endpointOut ⟨c.request.toArray⟩) s = sent at whole
  obtain ⟨⟨fault, moved⟩, s'⟩ := sent
  cases whole
  dsimp only
  rw [run_ask]
  dsimp only
  generalize h (.bulkIn c.endpointIn Packet.size) s' = got
  obtain ⟨answer, s''⟩ := got
  cases answer with
  | error fault => rfl
  | ok response =>
    by_cases length : response.size = Packet.size
    · simp [orTransfer, taken, length, Program.run]
    · simp [orTransfer, taken, length, Program.run]

/-- An access makes the calls of one exchange, and no more for what comes of it. -/
theorem run_overBus_access (request : Packet f) :
    let answered := (exchange ⟨endpointIn, endpointOut, request.bytes⟩).run.run h s
    let run := (overBus (Link.access endpoints request)).run h s
    calls run.events = calls answered.events ∧ run.state = answered.state ∧
      run.result = match answered.result with
        | .error cause => .error cause
        | .ok response =>
          if Link.Accepted f response then .ok (Packet.ofBytes f response) else .error .unexpected := by
  intro answered run
  have run_eq : run = _ := congrArg (Program.run h · s) (overBus_access request)
  rw [Program.run_bind] at run_eq
  rw [run_eq]
  change calls (answered.events ++ (Program.run h _ answered.state).events) = _ ∧
    (Program.run h _ answered.state).state = _ ∧ (Program.run h _ answered.state).result = _
  generalize answered.result = result
  cases result with
  | error cause => exact ⟨congrArg calls (List.append_nil _), rfl, rfl⟩
  | ok response =>
    obtain ⟨notes, judged⟩ := Link.judge_received_saying f response
    dsimp only
    rw [judged, Program.expand_saying, Program.saying_bind]
    change calls (_ ++ ((Program.saying notes _).run h _).events) = _ ∧
      ((Program.saying notes _).run h _).state = _ ∧ ((Program.saying notes _).run h _).result = _
    rw [Program.run_saying, calls_append, calls_said, List.append_nil]
    exact ⟨rfl, rfl, rfl⟩

variable {c : Transport.Call} {a : Access c.Reply} (asks : access? c = some a) (speed : LinkSpeed)

include asks

theorem run_attempt_legacy :
    let run := (attempt c ⟨speed, .legacy⟩).run h s
    calls run.events = [] ∧ run.result = (.error .unsupported, ⟨speed, .legacy⟩) ∧ run.state = s := by
  rw [attempt, serve_eq asks, run_map, run_onLink]
  exact ⟨rfl, rfl, rfl⟩

theorem run_attempt_packets :
    let answered := (exchange ⟨endpointIn, endpointOut, a.packet.bytes⟩).run.run h s
    let run := (attempt c ⟨speed, .packets⟩).run h s
    calls run.events = calls answered.events ∧ run.state = answered.state ∧
      run.result.2 = ⟨speed, .packets⟩ ∧ run.result.1 = match answered.result with
        | .error cause => .error cause
        | .ok response =>
          if Link.Accepted a.format response then .ok (a.reply (Packet.ofBytes a.format response).data)
          else .error .unexpected := by
  intro answered run
  have run_eq : run = ((overBus (Link.access endpoints a.packet)).bind fun r =>
      .done (r.map fun p => a.reply p.data, ⟨speed, .packets⟩)).run h s := by
    change (attempt c _).run h s = _
    rw [attempt, serve_eq asks, run_map, run_onLink]
    dsimp only
    rw [Program.bind_assoc]
    rfl
  obtain ⟨made, state, result⟩ := run_overBus_access h s a.packet
  rw [Program.run_bind] at run_eq
  rw [run_eq]
  refine ⟨?_, state, rfl, ?_⟩
  · change calls (_ ++ []) = _
    rw [List.append_nil, made]
  · change Except.map _ ((overBus _).run h s).result = _
    rw [result]
    change Except.map _ (match answered.result with | .error cause => _ | .ok response => _) = _
    cases answered.result with
    | error cause => rfl
    | ok response => exact apply_ite (Except.map fun p : Packet a.format => a.reply p.data) _ _ _

/-- A call that reaches a register sends one packet and, if it went out, takes one response, of which its
result is made. -/
theorem run_attempt :
    let sent := h (.bulkOut endpointOut a.message) s
    let got := h (.bulkIn endpointIn Packet.size) sent.2
    let run := (attempt c ⟨speed, .packets⟩).run h s
    run.result.2 = ⟨speed, .packets⟩ ∧
      (∀ fault, sent.1.fault = some fault →
        calls run.events = [.called (.bulkOut endpointOut a.message) sent.1] ∧
        run.state = sent.2 ∧ run.result.1 = .error (.transfer fault)) ∧
      (sent.1.fault = none →
        calls run.events = [.called (.bulkOut endpointOut a.message) sent.1,
          .called (.bulkIn endpointIn Packet.size) got.1] ∧
        run.state = got.2 ∧ run.result.1 = a.outcome got.1) := by
  intro sent got run
  obtain ⟨made, state, same, result⟩ := run_attempt_packets h s asks speed
  refine ⟨same, ?_, ?_⟩
  · intro fault failed
    rw [run_exchange_unsent h s (c := ⟨endpointIn, endpointOut, a.packet.bytes⟩) failed] at made state result
    exact ⟨made, state, result⟩
  · intro whole
    rw [run_exchange_sent h s (c := ⟨endpointIn, endpointOut, a.packet.bytes⟩) whole] at made state result
    exact ⟨made, state, result⟩

end Runs

end Usb
end RadioBoard
