import Mathlib.Logic.Function.Basic
import RadioBoard.Bench
import RadioBoard.Proofs.Passive

/-!
Collaborators that behave like registers: no call fails, and what is written is read back.

`Hardware` is what the laws of the board need to know of such collaborators. Whatever else they keep is
left open, and so are the transceiver's registers after a call that is not about registers. Main
statement: the bench is one of them.
-/

namespace RadioBoard

open Function (update)

theorem RegisterFile.read_write {κ ν : Type} [DecidableEq κ] [OfNat ν 0] (r : RegisterFile κ ν) (k : κ)
    (v : ν) : (r.write k v).read = update r.read k v := by
  funext j
  by_cases same : j = k
  · rw [same, read_write_self, Function.update_self]
  · rw [read_write_of_ne same, Function.update_of_ne same]

structure Hardware where
  frontEnd : UInt32
  lo : Direction → UInt64
  port : Direction → UInt32
  registers : UInt16 → UInt8
  /-- How many more polls may find the power monitor in its reset. -/
  due : Nat

namespace Hardware

/-- The power monitor comes out of its reset before the board gives up. -/
def Prompt (w : Hardware) : Prop := w.due < PowerMonitor.resetPolls

/-- A power monitor that came out of its reset once is prompt from then on. -/
def transport (w : Hardware) : (c : Transport.Call) → c.Reply → Hardware → Prop
  | .readFrontEnd, value, w' => value = w.frontEnd ∧ w' = w
  | .writeFrontEnd value, _, w' => w' = { w with frontEnd := value }
  | .loadFpga _, _, w' => ∃ value, w' = { w with frontEnd := value }
  | .writeSpi _ _, _, w' => ∃ registers, w' = { w with registers := registers }
  | .readMonitor r, contents, w' => (w.Prompt → w'.due ≤ w.due) ∧ (∃ due, w' = { w with due := due }) ∧
      (r = PowerMonitor.Register.configuration.address →
        (w.Prompt → contents &&& PowerMonitor.resetBit = 0 ∨ w'.due < w.due) ∧
        (contents &&& PowerMonitor.resetBit = 0 → w'.Prompt))
  | .writeMonitor _ _, _, w' => (w.Prompt → w'.Prompt) ∧ ∃ due, w' = { w with due := due }
  | _, _, w' => w' = w

def rfic (w : Hardware) : (c : Rfic.Call) → c.Reply → Hardware → Prop
  | .lo d, hz, w' => hz = w.lo d ∧ w' = w
  | .setLo d hz, _, w' => w' = { w with lo := update w.lo d hz }
  | .port d, id, w' => id = w.port d ∧ w' = w
  | .setPort d id, _, w' => w' = { w with port := update w.port d id }
  | .readRegister a, contents, w' => contents = w.registers a ∧ w' = w
  | .writeRegister a contents, _, w' => w' = { w with registers := update w.registers a contents }
  | _, _, w' => ∃ registers, w' = { w with registers := registers }

/-- A driver that starts tunes both directions to its parameters. -/
def peer (w : Hardware) : (c : Peer.Call) → c.Answer → Hardware → Prop
  | .startRfic params, x, w' => ∃ handle port registers, x = .ok handle ∧
      w' = { w with lo := params.loHz, port := port, registers := registers }
  | .rfic _ c, x, w' => ∃ reply, x = .ok reply ∧ w.rfic c reply w'
  | .releaseRfic _, _, w' => ∃ lo port registers,
      w' = { w with lo := lo, port := port, registers := registers }
  | .streaming _, x, w' => (∃ reply, x = .ok reply) ∧ w' = w
  | .removeStream _, _, w' => w' = w
  | .stopSync _, _, w' => w' = w
  | .flash _, x, w' => (∃ reply, x = .ok reply) ∧ w' = w
  | .trigger _, x, w' => (∃ reply, x = .ok reply) ∧ w' = w

def contract : Contract boardInterface Hardware where
  allows _ _ := True
  answers w
    | .inl c, x, w' => ∃ reply, x = .ok reply ∧ w.transport c reply w'
    | .inr c, x, w' => w.peer c x w'

section Answers

variable (w w' : Hardware)

@[simp] theorem allows_all (c : boardInterface.Call) : contract.allows w c ↔ True := Iff.rfl

@[simp] theorem answers_transport_ok (c : Transport.Call) (reply : c.Reply) :
    contract.answers w (no_index (.inl c)) (no_index (.ok reply)) w' ↔ w.transport c reply w' := by
  simp [contract]

@[simp] theorem answers_transport_error (c : Transport.Call) (e : Error) :
    ¬contract.answers w (no_index (.inl c)) (no_index (.error e)) w' := by
  simp [contract]

@[simp] theorem answers_rfic_ok (d : Rfic.Handle) (c : Rfic.Call) (reply : c.Reply) :
    contract.answers w (no_index (.inr (.rfic d c))) (no_index (.ok reply)) w' ↔ w.rfic c reply w' := by
  simp [contract, peer]

@[simp] theorem answers_rfic_error (d : Rfic.Handle) (c : Rfic.Call) (code : Int32) :
    ¬contract.answers w (no_index (.inr (.rfic d c))) (no_index (.error code)) w' := by
  simp [contract, peer]

@[simp] theorem answers_startRfic_ok (params : Rfic.Params) (handle : Rfic.Handle) :
    contract.answers w (no_index (.inr (.startRfic params))) (no_index (.ok handle)) w' ↔
      ∃ port registers, w' = { w with lo := params.loHz, port := port, registers := registers } := by
  simp [contract, peer]

@[simp] theorem answers_startRfic_error (params : Rfic.Params) (code : Int32) :
    ¬contract.answers w (no_index (.inr (.startRfic params))) (no_index (.error code)) w' := by
  simp [contract, peer]

@[simp] theorem answers_releaseRfic (d : Rfic.Handle) :
    contract.answers w (no_index (.inr (.releaseRfic d))) () w' ↔ ∃ lo port registers,
      w' = { w with lo := lo, port := port, registers := registers } := Iff.rfl

@[simp] theorem answers_stopSync (s : Streaming.SyncHandle) :
    contract.answers w (no_index (.inr (.stopSync s))) () w' ↔ w' = w := Iff.rfl

@[simp] theorem answers_streaming_ok (c : Streaming.Call) (reply : c.Reply) :
    contract.answers w (no_index (.inr (.streaming c))) (no_index (.ok reply)) w' ↔ w' = w := by
  simp [contract, peer]

@[simp] theorem answers_streaming_error (c : Streaming.Call) (e : Error) :
    ¬contract.answers w (no_index (.inr (.streaming c))) (no_index (.error e)) w' := by
  simp [contract, peer]

end Answers

/-- The same front end, frequencies and ports, and a power monitor that stays prompt. -/
structure Still (w w' : Hardware) : Prop where
  frontEnd : w'.frontEnd = w.frontEnd
  lo : w'.lo = w.lo
  port : w'.port = w.port
  prompt : w.Prompt → w'.Prompt

theorem Still.refl (w : Hardware) : w.Still w := ⟨rfl, rfl, rfl, id⟩

theorem Still.trans {w v u : Hardware} (first : w.Still v) (second : v.Still u) : w.Still u where
  frontEnd := second.frontEnd.trans first.frontEnd
  lo := second.lo.trans first.lo
  port := second.port.trans first.port
  prompt inTime := second.prompt (first.prompt inTime)

theorem Still.registers (w : Hardware) (registers : UInt16 → UInt8) :
    w.Still { w with registers := registers } := ⟨rfl, rfl, rfl, id⟩

theorem transport_passive {w w' : Hardware} {c : Transport.Call} (passive : Board.Passive (.inl c))
    {reply : c.Reply} (h : w.transport c reply w') : w.Still w' := by
  cases c
  case writeFrontEnd | loadFpga => exact passive.elim
  case readFrontEnd =>
    obtain ⟨_, rfl⟩ := h
    exact .refl w'
  case writeSpi =>
    obtain ⟨registers, rfl⟩ := h
    exact .registers w registers
  case readMonitor =>
    obtain ⟨sooner, ⟨due, rfl⟩, _⟩ := h
    exact ⟨rfl, rfl, rfl, fun inTime => Nat.lt_of_le_of_lt (sooner inTime) inTime⟩
  case writeMonitor =>
    obtain ⟨kept, due, rfl⟩ := h
    exact ⟨rfl, rfl, rfl, kept⟩
  all_goals
    obtain rfl := h
    exact .refl w'

theorem rfic_passive {w w' : Hardware} {d : Rfic.Handle} {c : Rfic.Call}
    (passive : Board.Passive (.inr (.rfic d c))) {reply : c.Reply} (h : w.rfic c reply w') :
    w.Still w' := by
  cases c
  case setLo | setPort => exact passive.elim
  case lo | port | readRegister =>
    obtain ⟨_, rfl⟩ := h
    exact .refl w'
  case writeRegister =>
    obtain rfl := h
    exact .registers w _
  all_goals
    obtain ⟨registers, rfl⟩ := h
    exact .registers w registers

theorem peer_passive {w w' : Hardware} {c : Peer.Call} (passive : Board.Passive (.inr c))
    {x : c.Answer} (h : w.peer c x w') : w.Still w' := by
  cases c
  case startRfic | releaseRfic | stopSync => exact passive.elim
  case rfic d c =>
    obtain ⟨reply, _, h⟩ := h
    exact rfic_passive passive h
  case removeStream =>
    obtain rfl := h
    exact .refl w'
  all_goals
    obtain ⟨_, rfl⟩ := h
    exact .refl w'

theorem answers_passive {w w' : Hardware} {c : boardInterface.Call} (passive : Board.Passive c)
    {x : boardInterface.Answer c} (h : contract.answers w c x w') : w.Still w' := by
  match c, passive, x, h with
  | .inl _, passive, _, ⟨_, _, h⟩ => exact transport_passive passive h
  | .inr _, passive, _, h => exact peer_passive passive h

theorem answers_moving {w w' : Hardware} {c : boardInterface.Call} (moving : Board.Moving c)
    {x : boardInterface.Answer c} (h : contract.answers w c x w') : w.Still w' := by
  match c, moving, x, h with
  | .inl _, moving, _, _ => exact moving.elim
  | .inr c, moving, _, h =>
    cases c with
    | streaming _ =>
      obtain ⟨_, rfl⟩ := h
      exact .refl w'
    | _ => exact moving.elim

section Rules

open Board (Meets)

variable {setup : Setup} {b : Board} {w : Hardware} {fail : Error → Board → Hardware → Prop}

theorem meets_transport (operation : String) (c : Transport.Call) (detail : String)
    {ok : c.Reply → Board → Hardware → Prop} :
    Meets contract setup (Board.transport operation c detail) b w ok fail ↔
      ∀ reply t, w.transport c reply t → ok reply b t := by
  simp

theorem meets_rfic (handle : Rfic.Handle) (c : Rfic.Call) {ok : c.Reply → Board → Hardware → Prop} :
    Meets contract setup (do Board.throwIfStatus (← Board.peer (.rfic handle c))) b w ok fail ↔
      ∀ reply t, w.rfic c reply t → ok reply b t := by
  simp

theorem meets_transceiver (driver : b.rfic.isSome) (operation : String) (c : Rfic.Call)
    (detail : String) {ok : c.Reply → Board → Hardware → Prop} :
    Meets contract setup (Board.transceiver operation c detail) b w ok fail ↔
      ∀ reply t, w.rfic c reply t → ok reply b t := by
  obtain ⟨handle, held⟩ := Option.isSome_iff_exists.mp driver
  rw [Board.transceiver, Board.meets_bind, Board.meets_driver_of_some held, Board.meets_step, meets_rfic]

/-- Where a call has one outcome, this is what follows. -/
theorem forall_outcome {ρ : Type} {outcomes ok : ρ → Hardware → Prop} {r : ρ} {w' : Hardware}
    (one : ∀ reply t, outcomes reply t ↔ reply = r ∧ t = w') :
    (∀ reply t, outcomes reply t → ok reply t) ↔ ok r w' := by
  constructor
  · intro h
    exact h r w' ((one r w').mpr ⟨rfl, rfl⟩)
  · intro h reply t outcome
    obtain ⟨rfl, rfl⟩ := (one reply t).mp outcome
    exact h

theorem meets_readFrontEnd (operation detail : String) {ok : UInt32 → Board → Hardware → Prop} :
    Meets contract setup (Board.transport operation .readFrontEnd detail) b w ok fail ↔
      ok w.frontEnd b w :=
  (meets_transport operation _ detail).trans (forall_outcome fun _ _ => Iff.rfl)

theorem meets_writeFrontEnd (operation detail : String) (value : UInt32)
    {ok : Unit → Board → Hardware → Prop} :
    Meets contract setup (Board.transport operation (.writeFrontEnd value) detail) b w ok fail ↔
      ok () b { w with frontEnd := value } :=
  (meets_transport operation _ detail).trans (forall_outcome fun _ _ => (and_iff_right rfl).symm)

theorem meets_enablePath (operation detail : String) (d : Direction) (on : Bool)
    {ok : Unit → Board → Hardware → Prop} :
    Meets contract setup (Board.transport operation (.enablePath d on) detail) b w ok fail ↔ ok () b w :=
  (meets_transport operation _ detail).trans (forall_outcome fun _ _ => (and_iff_right rfl).symm)

section Driver

variable (driver : b.rfic.isSome) (operation detail : String)

include driver

theorem meets_lo (d : Direction) {ok : UInt64 → Board → Hardware → Prop} :
    Meets contract setup (Board.transceiver operation (.lo d) detail) b w ok fail ↔ ok (w.lo d) b w :=
  (meets_transceiver driver operation _ detail).trans (forall_outcome fun _ _ => Iff.rfl)

theorem meets_setLo (d : Direction) (hz : UInt64) {ok : Unit → Board → Hardware → Prop} :
    Meets contract setup (Board.transceiver operation (.setLo d hz) detail) b w ok fail ↔
      ok () b { w with lo := update w.lo d hz } :=
  (meets_transceiver driver operation _ detail).trans (forall_outcome fun _ _ => (and_iff_right rfl).symm)

theorem meets_port (d : Direction) {ok : UInt32 → Board → Hardware → Prop} :
    Meets contract setup (Board.transceiver operation (.port d) detail) b w ok fail ↔
      ok (w.port d) b w :=
  (meets_transceiver driver operation _ detail).trans (forall_outcome fun _ _ => Iff.rfl)

theorem meets_setPort (d : Direction) (id : UInt32) {ok : Unit → Board → Hardware → Prop} :
    Meets contract setup (Board.transceiver operation (.setPort d id) detail) b w ok fail ↔
      ok () b { w with port := update w.port d id } :=
  (meets_transceiver driver operation _ detail).trans (forall_outcome fun _ _ => (and_iff_right rfl).symm)

theorem meets_readRegister (a : UInt16) {ok : UInt8 → Board → Hardware → Prop} :
    Meets contract setup (Board.transceiver operation (.readRegister a) detail) b w ok fail ↔
      ok (w.registers a) b w :=
  (meets_transceiver driver operation _ detail).trans (forall_outcome fun _ _ => Iff.rfl)

theorem meets_writeRegister (a : UInt16) (contents : UInt8) {ok : Unit → Board → Hardware → Prop} :
    Meets contract setup (Board.transceiver operation (.writeRegister a contents) detail) b w ok fail ↔
      ok () b { w with registers := update w.registers a contents } :=
  (meets_transceiver driver operation _ detail).trans (forall_outcome fun _ _ => (and_iff_right rfl).symm)

end Driver

end Rules

/-- What is seen of the collaborators behaves like registers. -/
def IsView {σ : Type} (h : Handler boardInterface σ) (view : σ → Hardware) : Prop :=
  contract.KeptBy h fun s w => w = view s

end Hardware

namespace Bench

def view (b : Bench) : Hardware where
  frontEnd := b.frontEnd
  lo d := (b.path d).lo
  port d := (b.path d).port
  registers := b.registers.read
  due := if b.resetPolls = 0 ∧ b.monitor.read 0 &&& PowerMonitor.resetBit = 0 then 0
    else PowerMonitor.resetPolls

theorem view_prompt_iff (b : Bench) :
    b.view.Prompt ↔ b.resetPolls = 0 ∧ b.monitor.read 0 &&& PowerMonitor.resetBit = 0 := by
  rw [Hardware.Prompt]
  by_cases ended : b.resetPolls = 0 ∧ b.monitor.read 0 &&& PowerMonitor.resetBit = 0
  · have none : b.view.due = 0 := if_pos ended
    rw [none]
    exact ⟨fun _ => ended, fun _ => by decide⟩
  · have all : b.view.due = PowerMonitor.resetPolls := if_neg ended
    rw [all]
    exact ⟨fun less => absurd less (Nat.lt_irrefl _), fun h => absurd h ended⟩

theorem view_withPath (b : Bench) (p : Path) (d : Direction) :
    (b.withPath p d).view = { b.view with
      lo := update b.view.lo d p.lo
      port := update b.view.port d p.port } := by
  cases d
  all_goals
    simp only [view, Hardware.mk.injEq]
    refine ⟨rfl, ?_, ?_, rfl, rfl⟩
    all_goals
      funext e
      cases e <;> rfl

private theorem or_and_self (x m : UInt16) : (x ||| m) &&& m = m := by
  apply UInt16.toBitVec_inj.mp
  ext i h
  simp only [UInt16.toBitVec_and, UInt16.toBitVec_or, BitVec.getElem_and, BitVec.getElem_or]
  cases m.toBitVec[i] <;> simp

private theorem resetBit_masked (value : UInt16) : value &&& 0x7fff &&& PowerMonitor.resetBit = 0 := by
  have apart : (0x7fff : UInt16) &&& PowerMonitor.resetBit = 0 := by decide
  rw [UInt16.and_assoc, apart, UInt16.and_zero]

theorem readMonitor_isView (b : Bench) (r : UInt8) :
    b.view.transport (.readMonitor r) (b.readMonitor r).1 (b.readMonitor r).2.view := by
  by_cases busy : r = 0 ∧ b.resetPolls ≠ 0
  · have late : ¬b.view.Prompt := by
      intro prompt
      exact busy.2 ((view_prompt_iff b).mp prompt).1
    rw [readMonitor, if_pos busy]
    refine ⟨fun prompt => absurd prompt late, ⟨_, rfl⟩, ?_⟩
    intro _
    have shown : (b.monitor.read r ||| 0x8000) &&& PowerMonitor.resetBit ≠ 0 := by
      rw [PowerMonitor.resetBit, or_and_self]
      decide
    exact ⟨fun prompt => absurd prompt late, fun clear => absurd clear shown⟩
  · rw [readMonitor, if_neg busy]
    refine ⟨fun _ => Nat.le_refl _, ⟨_, rfl⟩, ?_⟩
    intro address
    have first : r = 0 := address
    have started : b.resetPolls = 0 := by
      by_contra waiting
      exact busy ⟨first, waiting⟩
    subst first
    have told := view_prompt_iff b
    exact ⟨fun prompt => .inl (told.mp prompt).2, fun clear => told.mpr ⟨started, clear⟩⟩

theorem writeMonitor_isView (b : Bench) (r : UInt8) (value : UInt16) :
    b.view.transport (.writeMonitor r value) () (b.writeMonitor r value).view := by
  refine ⟨?_, _, rfl⟩
  intro prompt
  have ended := (view_prompt_iff b).mp prompt
  apply (view_prompt_iff _).mpr
  refine ⟨ended.1, ?_⟩
  by_cases first : r = 0
  · subst first
    rw [writeMonitor, RegisterFile.read_write_self, if_pos rfl]
    exact resetBit_masked value
  · rw [writeMonitor, RegisterFile.read_write_of_ne (Ne.symm first)]
    exact ended.2

theorem transport_isView (b : Bench) (c : Transport.Call) :
    b.view.transport c (transport c b).1 (transport c b).2.view := by
  cases c
  case readMonitor r => exact readMonitor_isView b r
  case writeMonitor r value => exact writeMonitor_isView b r value
  case writeSpi | loadFpga => exact ⟨_, rfl⟩
  case readFrontEnd => exact ⟨rfl, rfl⟩
  case timestamp d => cases d <;> rfl
  all_goals rfl

theorem rfic_isView (b : Bench) (c : Rfic.Call) : b.view.rfic c (rfic c b).1 (rfic c b).2.view := by
  cases c
  case lo | port | readRegister => exact ⟨rfl, rfl⟩
  case setLo d hz =>
    have port : update b.view.port d (b.path d).port = b.view.port := Function.update_eq_self d _
    rw [rfic, view_withPath, port]
    rfl
  case setPort d id =>
    have lo : update b.view.lo d (b.path d).lo = b.view.lo := Function.update_eq_self d _
    rw [rfic, view_withPath, lo]
    rfl
  case setBandwidth d hz | setSampleRate d hz =>
    have lo : update b.view.lo d (b.path d).lo = b.view.lo := Function.update_eq_self d _
    have port : update b.view.port d (b.path d).port = b.view.port := Function.update_eq_self d _
    rw [rfic, view_withPath, lo, port]
    exact ⟨_, rfl⟩
  case writeRegister address value =>
    rw [Hardware.rfic, rfic, view, RegisterFile.read_write]
    rfl
  all_goals exact ⟨_, rfl⟩

theorem streaming_view (b : Bench) (c : Streaming.Call) : (streaming c b).2.view = b.view := by
  cases c <;> rfl

theorem flashMemory_view (b : Bench) (c : Flash.Call) : (flashMemory c b).2.view = b.view := by
  cases c <;> rfl

theorem triggerBlock_view (b : Bench) (c : Trigger.Call) : (triggerBlock c b).2.view = b.view := by
  cases c <;> rfl

theorem startRfic_isView (b : Bench) (p : Rfic.Params) :
    b.view.peer (.startRfic p) (.ok (b.startRfic p).1) (b.startRfic p).2.view := by
  have lo : (b.startRfic p).2.view.lo = p.loHz := by
    funext d
    cases d <;> rfl
  refine ⟨(b.startRfic p).1, (b.startRfic p).2.view.port, b.view.registers, rfl, ?_⟩
  rw [← lo]
  rfl

/-- The bench behaves like registers. -/
theorem isView : Hardware.IsView handler view := by
  intro b w c same
  subst same
  refine ⟨_, ?_, rfl⟩
  match c with
  | .inl c => exact ⟨_, rfl, transport_isView b c⟩
  | .inr (.startRfic p) => exact startRfic_isView b p
  | .inr (.rfic _ c) => exact ⟨_, rfl, rfic_isView b c⟩
  | .inr (.releaseRfic _) => exact ⟨_, _, _, rfl⟩
  | .inr (.streaming c) => exact ⟨⟨_, rfl⟩, streaming_view b c⟩
  | .inr (.removeStream _) => rfl
  | .inr (.stopSync _) => rfl
  | .inr (.flash c) => exact ⟨⟨_, rfl⟩, flashMemory_view b c⟩
  | .inr (.trigger c) => exact ⟨⟨_, rfl⟩, triggerBlock_view b c⟩

/-- A bench with a released firmware and an FPGA that is configured. -/
def configured : Bench where
  firmware := ⟨2, 6, 0⟩
  fpga := ⟨0, 16, 0⟩
  speed := .super
  isConfigured := true

end Bench

/-- A setup without environment and without files. -/
def Setup.plain : Setup where
  config := Config.default fun _ => none
  classifier := VersionTable.released.classifier
  files _ := none

/-- The same, for FPGA images of any size. -/
def Setup.unchecked : Setup where
  config := { Setup.plain.config with skipFpgaSizeCheck := true }
  classifier := Setup.plain.classifier
  files := Setup.plain.files

/-- The board that is opened on a bench. -/
def Board.onBench (setup : Setup) : Board :=
  match ((start setup).run Bench.handler .configured).result with
  | .ok b => b
  | .error _ => {}

end RadioBoard
