import Mathlib.Data.List.Forall2
import RadioBoard.Proofs.Registers

/-!
Which request a response answers.

A device answers the requests that arrive, in order, and its responses wait until they are taken. Nothing
takes a response that was left behind, and nothing compares a response with its request. Main statement: an
access that succeeds has the response to the request that is as many requests back as incoming transfers
have failed until then. So it has its own response as long as none has failed.
-/

namespace RadioBoard.Usb

/-! Devices that answer in order. -/

/-- A packet with the magic, the target, the address and the write flag of a message. -/
structure Answers (message response : List UInt8) : Prop where
  length : response.length = Packet.size
  magic : response.getD 0 0 = message.getD 0 0
  target : response.getD 1 0 = message.getD 1 0
  write : response.getD 2 0 &&& Packet.writeFlag = message.getD 2 0 &&& Packet.writeFlag
  address : (response.drop 4).take (Packet.Format.ofMagic (message.getD 0 0)).addressBytes =
    (message.drop 4).take (Packet.Format.ofMagic (message.getD 0 0)).addressBytes

namespace Answers

variable {q : Request} {response : List UInt8}

theorem format_message (q : Request) : Packet.Format.ofMagic (q.message.data.toList.getD 0 0) = q.format :=
  q.format.ofMagic_magic

/-- The packet in an answer has the fields of the request. -/
theorem fields (answers : Answers q.message.data.toList response) :
    let p := Packet.ofBytes q.format response
    p.target = q.target ∧ p.address = q.address ∧ p.isWrite = q.written.isSome := by
  have bytes : (Packet.ofBytes q.format response).bytes = response :=
    Packet.ofBytes_of_size_le answers.length.ge
  refine ⟨?_, ?_, ?_⟩
  · rw [Packet.target, Packet.byte, bytes]
    exact answers.target
  · have same := answers.address
    rw [format_message] at same
    rw [Packet.address, bytes, same]
    exact Packet.address_make q.target q.flag q.address (q.written.getD 0)
  · have same : response.getD 2 0 &&& Packet.writeFlag = q.flag &&& Packet.writeFlag := answers.write
    rw [Packet.isWrite, Packet.flags, Packet.byte, bytes, same, Request.flag]
    cases q.written.isSome <;> decide

theorem address_bytes {f : Packet.Format} (target flags : UInt8) (address : Packet.Address f)
    (data : Packet.Data f) :
    ((Packet.make f target flags address data).bytes.drop 4).take f.addressBytes =
      LittleEndian.encode f.addressBytes address.toNat := by
  rw [Packet.make_bytes, Packet.row, List.append_assoc _ _ (List.replicate _ _), List.append_assoc]
  exact List.take_left' (LittleEndian.encode_length _ _)

/-- A device that keeps registers answers what it was asked. -/
theorem of_response (q : Request) (contents : Packet.Location → Nat) :
    Answers q.message.data.toList (q.response contents) where
  length := q.response_length contents
  magic := rfl
  target := rfl
  write := by
    change (q.flag ||| Packet.successFlag) &&& Packet.writeFlag = q.flag &&& Packet.writeFlag
    rw [Request.flag]
    cases q.written.isSome <;> decide
  address := by
    rw [format_message]
    exact (address_bytes _ _ _ _).trans (address_bytes _ _ _ _).symm

end Answers

/-- A device whose responses wait in a queue. An incoming transfer takes the first of them or fails. -/
structure AnswersInOrder {σ : Type} (h : Handler interface σ) (queue : σ → List (List UInt8)) : Prop where
  delivered : ∀ (q : Request) s, (h (.bulkOut endpointOut q.message) s).1.fault = none →
    ∃ response, Answers q.message.data.toList response ∧
      queue (h (.bulkOut endpointOut q.message) s).2 = queue s ++ [response]
  undelivered : ∀ (q : Request) s fault, (h (.bulkOut endpointOut q.message) s).1.fault = some fault →
    queue (h (.bulkOut endpointOut q.message) s).2 = queue s
  taken : ∀ s response, (h (.bulkIn endpointIn Packet.size) s).1 = .ok response →
    queue s = response.data.toList :: queue (h (.bulkIn endpointIn Packet.size) s).2
  lost : ∀ s fault, (h (.bulkIn endpointIn Packet.size) s).1 = .error fault →
    queue (h (.bulkIn endpointIn Packet.size) s).2 = queue s

/-! What a run has sent and lost. -/

/-- The message that an event delivers. -/
def delivery? : Event interface → Option (List UInt8)
  | .called (.bulkOut _ data) (completion : Completion) =>
    if completion.fault = none then some data.data.toList else none
  | _ => none

/-- The fault of an incoming transfer. -/
def loss? : Event interface → Option TransferFault
  | .called (.bulkIn _ _) (.error fault) => some fault
  | _ => none

def delivered (events : List (Event interface)) : List (List UInt8) := events.filterMap delivery?

/-- How many incoming transfers have failed. -/
def lost (events : List (Event interface)) : Nat := (events.filterMap loss?).length

theorem delivered_append (before after : List (Event interface)) :
    delivered (before ++ after) = delivered before ++ delivered after :=
  List.filterMap_append

theorem lost_append (before after : List (Event interface)) :
    lost (before ++ after) = lost before + lost after := by
  rw [lost, List.filterMap_append, List.length_append, lost, lost]

theorem delivered_calls (events : List (Event interface)) : delivered (calls events) = delivered events :=
  filterMap_calls (fun _ => rfl) events

theorem lost_calls (events : List (Event interface)) : lost (calls events) = lost events :=
  congrArg List.length (filterMap_calls (fun _ => rfl) events)

/-- The responses that wait answer the last of the messages, as many as incoming transfers have failed. -/
def Waiting (events : List (Event interface)) (responses : List (List UInt8)) : Prop :=
  ∃ answered left, delivered events = answered ++ left ∧ left.length = lost events ∧
    List.Forall₂ Answers left responses

/-- Once another message was answered, the first response answers the first message that is left. -/
theorem Waiting.head {left responses rest : List (List UInt8)} {message own response : List UInt8}
    (waiting : List.Forall₂ Answers left responses) (answers : Answers message own)
    (queued : responses ++ [own] = response :: rest) :
    ∃ first after, left ++ [message] = first :: after ∧ Answers first response ∧
      List.Forall₂ Answers after rest := by
  have longer : List.Forall₂ Answers (left ++ [message]) (responses ++ [own]) :=
    List.rel_append waiting (.cons answers .nil)
  rw [queued] at longer
  obtain ⟨first, after, answersFirst, others, split⟩ := List.forall₂_cons_right_iff.mp longer
  exact ⟨first, after, split, answersFirst, others⟩

/-! One access. -/

section Device

variable {σ : Type} {h : Handler interface σ} {queue : σ → List (List UInt8)}
  (device : AnswersInOrder h queue)

include device

/-- Nothing is moved out, or what was moved out gets a response, and then one is taken or none. -/
theorem attempt_cases (s : σ) (d : Device) {c : Transport.Call} {a : Access c.Reply}
    (asks : access? c = some a) :
    let run := (attempt c d).run h s
    (delivered run.events = [] ∧ lost run.events = 0 ∧ queue run.state = queue s ∧
      ∃ cause, run.result.1 = .error cause) ∨
    ∃ own, Answers a.message.data.toList own ∧ delivered run.events = [a.message.data.toList] ∧
      ((lost run.events = 1 ∧ queue run.state = queue s ++ [own] ∧ ∃ cause, run.result.1 = .error cause) ∨
      ∃ response, lost run.events = 0 ∧ queue s ++ [own] = response.data.toList :: queue run.state ∧
        .called (.bulkIn 0x82 16) (.ok response) ∈ calls run.events ∧
        run.result.1 = a.outcome (.ok response)) := by
  intro run
  obtain ⟨speed, framing⟩ := d
  cases framing with
  | legacy =>
    obtain ⟨made, result, state⟩ := run_attempt_legacy h s asks speed
    refine .inl ⟨?_, ?_, congrArg queue state, _, congrArg (·.1) result⟩
    · rw [← delivered_calls, made]
      rfl
    · rw [← lost_calls, made]
      rfl
  | packets =>
    obtain ⟨-, unsent, sent⟩ := run_attempt h s asks speed
    cases out : (h (.bulkOut endpointOut a.message) s).1.fault with
    | some fault =>
      obtain ⟨made, state, result⟩ := unsent fault out
      have nothing : delivery? (.called (.bulkOut endpointOut a.message)
          (h (.bulkOut endpointOut a.message) s).1) = none :=
        if_neg (out ▸ Option.some_ne_none fault)
      refine .inl ⟨?_, ?_, ?_, _, result⟩
      · rw [← delivered_calls, made]
        exact List.filterMap_cons_none nothing
      · rw [← lost_calls, made]
        rfl
      · rw [state]
        exact device.undelivered a.toRequest s fault out
    | none =>
      obtain ⟨made, state, result⟩ := sent out
      obtain ⟨own, answers, queued⟩ := device.delivered a.toRequest s out
      have message : delivery? (.called (.bulkOut endpointOut a.message)
          (h (.bulkOut endpointOut a.message) s).1) = some a.message.data.toList :=
        if_pos out
      refine .inr ⟨own, answers, ?_, ?_⟩
      · rw [← delivered_calls, made]
        exact List.filterMap_cons_some message
      · rw [← queued, state, ← lost_calls, made, result]
        cases got : (h (.bulkIn endpointIn Packet.size) (h (.bulkOut endpointOut a.message) s).2).1 with
        | error fault =>
          exact .inl ⟨rfl, device.lost _ fault got, _, rfl⟩
        | ok response =>
          exact .inr ⟨response, rfl, device.taken _ response got, .tail _ (.head _), rfl⟩

/-- A step of a session: what still waits, and what a success was given. -/
theorem attempt_takes {before : List (Event interface)} {s : σ} (waiting : Waiting before (queue s))
    (d : Device) {c : Transport.Call} {a : Access c.Reply} (asks : access? c = some a) :
    let run := (attempt c d).run h s
    Waiting (before ++ run.events) (queue run.state) ∧
      ∀ value, run.result.1 = .ok value → ∃ message response,
        .called (.bulkIn 0x82 16) (.ok response) ∈ calls run.events ∧
        a.outcome (.ok response) = .ok value ∧ Answers message response.data.toList ∧
        (delivered before ++ [a.message.data.toList])[(delivered before).length - lost before]? =
          some message := by
  intro run
  obtain ⟨answered, left, split, length, pairs⟩ := waiting
  rw [Waiting, delivered_append, lost_append]
  obtain ⟨sent, none, same, cause, failed⟩ | ⟨own, answers, sent, rest⟩ := attempt_cases device s d asks
  · rw [sent, none, same]
    refine ⟨⟨answered, left, by rw [List.append_nil, split], length, pairs⟩, fun value succeeded => ?_⟩
    cases failed.symm.trans succeeded
  obtain ⟨one, queued, cause, failed⟩ | ⟨response, none, queued, took, result⟩ := rest
  · rw [sent, one, queued]
    refine ⟨⟨answered, left ++ [a.message.data.toList], ?_, ?_, ?_⟩, fun value succeeded => ?_⟩
    · rw [split, List.append_assoc]
    · rw [List.length_append, length]
      rfl
    · exact List.rel_append pairs (.cons answers .nil)
    · cases failed.symm.trans succeeded
  · obtain ⟨first, after, next, answersFirst, others⟩ := Waiting.head pairs answers queued
    rw [sent, none, split, List.append_assoc, next]
    refine ⟨⟨answered ++ [first], after, ?_, ?_, others⟩, fun value succeeded => ?_⟩
    · rw [List.append_assoc, List.singleton_append]
    · have long := congrArg List.length next
      simp only [List.length_append, List.length_cons, List.length_nil] at long
      omega
    · refine ⟨first, response, took, result.symm.trans succeeded, answersFirst, ?_⟩
      rw [List.length_append, length, Nat.add_sub_cancel, List.getElem?_append_right le_rfl, Nat.sub_self]
      rfl

theorem session_waits {before : List (Event interface)} {s : σ} (waiting : Waiting before (queue s))
    (d : Device) {earlier : List Transport.Call} (reach : ∀ c ∈ earlier, (access? c).isSome) :
    let run := (session earlier d).run h s
    Waiting (before ++ run.events) (queue run.state) := by
  induction earlier generalizing before s d with
  | nil =>
    change Waiting (before ++ []) (queue s)
    rwa [List.append_nil]
  | cons c rest ih =>
    obtain ⟨a, asks⟩ := Option.isSome_iff_exists.mp (reach c List.mem_cons_self)
    have first := (attempt_takes device waiting d asks).1
    have later := ih first ((attempt c d).run h s).result.2 fun c' within =>
      reach c' (List.mem_cons_of_mem c within)
    dsimp only at later
    rw [List.append_assoc] at later
    rw [run_session_cons]
    exact later

/-- An access that succeeds was given the response to the request that is as many requests back as incoming
transfers have failed before it. As long as none has failed, that is its own request: the response has its
target, its address and its write flag, and a read tells the data in it. -/
theorem success_answers {s : σ} (empty : queue s = []) (d : Device) {earlier : List Transport.Call}
    (reach : ∀ c ∈ earlier, (access? c).isSome) {c : Transport.Call} {a : Access c.Reply}
    (asks : access? c = some a) :
    let before := (session earlier d).run h s
    let run := (attempt c before.result).run h before.state
    ∀ value, run.result.1 = .ok value → ∃ message response,
      .called (.bulkIn 0x82 16) (.ok response) ∈ calls run.events ∧
      Link.Accepted a.format response.data.toList ∧
      value = a.reply (Packet.ofBytes a.format response.data.toList).data ∧
      Answers message response.data.toList ∧
      (delivered before.events ++ [a.message.data.toList])[
        (delivered before.events).length - lost before.events]? = some message ∧
      (lost before.events = 0 →
        let p := Packet.ofBytes a.format response.data.toList
        p.target = a.target ∧ p.address = a.address ∧ p.isWrite = a.written.isSome) := by
  intro before run value succeeded
  have start : Waiting [] (queue s) := by
    rw [empty]
    exact ⟨[], [], rfl, rfl, .nil⟩
  have waiting := session_waits device start d reach
  obtain ⟨message, response, took, outcome, answers, oldest⟩ :=
    (attempt_takes device waiting before.result asks).2 value succeeded
  obtain ⟨response', same, accepted, told⟩ := Access.outcome_eq_ok outcome
  cases same
  refine ⟨message, response, took, accepted, told, answers, oldest, fun whole => ?_⟩
  have own : message = a.message.data.toList := by
    rw [List.nil_append, whole, Nat.sub_zero, List.getElem?_append_right le_rfl, Nat.sub_self] at oldest
    exact (Option.some.inj oldest).symm
  rw [own] at answers
  exact answers.fields

end Device

/-! A device whose incoming transfers fail as planned. -/

structure Relay where
  registers : Packet.Registers := {}
  /-- The responses that wait, the oldest first. -/
  queue : List (List UInt8) := []
  /-- Which of the next incoming transfers fail. -/
  plan : List Bool := []

namespace Relay

def take (r : Relay) : Except TransferFault ByteArray × Relay :=
  match r.plan.headD false, r.queue with
  | false, response :: rest => (.ok ⟨response.toArray⟩, { r with queue := rest, plan := r.plan.tail })
  | _, _ => (.error .stall, { r with plan := r.plan.tail })

def receive (message : List UInt8) (r : Relay) : Relay :=
  if message.length = Packet.size then
    let (response, registers) := Packet.respond (fun _ value => value) message r.registers
    { r with registers, queue := r.queue ++ [response] }
  else r

def handler : Handler interface Relay
  | .list => fun r => (none, r)
  | .attach _ | .claim _ | .setAlternate _ => fun r => (some (), r)
  | .describe _ _ => fun r => (.error "stall", r)
  | .controlIn _ _ => fun r => (.error .stall, r)
  | .controlOut _ _ => fun r => (.ok (), r)
  | .bulkOut _ data => fun r => (⟨none, data.size⟩, r.receive data.data.toList)
  | .bulkIn _ _ => take

theorem queue_receive (q : Request) (r : Relay) :
    (r.receive q.message.data.toList).queue = r.queue ++ [q.response r.registers.read] := by
  have whole : q.message.data.toList.length = Packet.size := q.message_size
  have answered : Packet.respond (fun _ value => value) q.message.data.toList r.registers = _ :=
    respond_request q r.registers
  rw [receive, if_pos whole, answered]

theorem answersInOrder : AnswersInOrder handler queue where
  delivered q r _ := ⟨_, .of_response q r.registers.read, queue_receive q r⟩
  undelivered q r fault failed := by cases failed
  taken r response got := by
    change r.take.1 = _ at got
    change r.queue = response.data.toList :: r.take.2.queue
    revert got
    rw [take]
    split
    · intro got
      cases got
      assumption
    · intro got
      cases got
  lost r fault got := by
    change r.take.1 = _ at got
    change r.take.2.queue = r.queue
    revert got
    rw [take]
    split
    · intro got
      cases got
    · intro got
      rfl

end Relay

/-- A read of one register succeeds with the value of another, whose response was left behind. -/
theorem stale_response_succeeds :
    let relay : Relay := { registers := .write {} Register.frontEnd.location 5, plan := [true] }
    let first := (attempt .readFrontEnd ⟨.super, .packets⟩).run Relay.handler relay
    let second := (attempt .readGpio first.result.2).run Relay.handler first.state
    AnswersInOrder Relay.handler Relay.queue ∧ relay.registers.read Register.gpio.location = 0 ∧
      first.result.1 = .error (.transfer .stall) ∧ second.result.1 = .ok 5 ∧
      ∃ response, .called (.bulkIn 0x82 16) (.ok response) ∈ calls second.events ∧
        (Packet.ofBytes .a8d32 response.data.toList).target = Packet.Target.frontEnd :=
  ⟨Relay.answersInOrder, rfl, rfl, rfl, _, .tail _ (.head _), rfl⟩

/-- Where no incoming transfer has failed, the response is that of the register. -/
theorem success_answers_relay :
    let relay : Relay := {}
    let before := (session [.writeGpio 5] ⟨.super, .packets⟩).run Relay.handler relay
    let run := (attempt .readGpio before.result).run Relay.handler before.state
    lost before.events = 0 ∧ run.result.1 = .ok 5 ∧
      ∃ response, .called (.bulkIn 0x82 16) (.ok response) ∈ calls run.events ∧
        (Packet.ofBytes .a8d32 response.data.toList).target = Packet.Target.gpio := by
  have reach : ∀ c ∈ [Transport.Call.writeGpio 5], (access? c).isSome := by
    simp [access?]
  have told := success_answers Relay.answersInOrder (s := {}) rfl ⟨.super, .packets⟩ reach
    (c := .readGpio) rfl
  obtain ⟨_, response, took, -, -, -, -, own⟩ := told 5 rfl
  exact ⟨rfl, rfl, response, took, (own rfl).1⟩

end RadioBoard.Usb
