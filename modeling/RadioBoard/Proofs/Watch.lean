import RadioBoard.Proofs.BringUp
import RadioBoard.Proofs.FrontEnd
import RadioBoard.Proofs.Hardware

/-!
A watch over the synchronous streams.

A watch stands beside the collaborators and notes, call by call, which synchronous streams are live. It
has three flags: for a direction that was turned off under a live stream, for samples that were moved
through a stream that is not live, and for an FPGA that was configured again under a live stream. Calls
may fail at any time. Main statement: collaborators whose front end holds what is written to it, and who
tell their streams apart, keep the contract of a watch.
-/

namespace RadioBoard

open Streaming (SyncHandle)

structure Watch where
  /-- The streams that were started and not stopped. -/
  live : List (Direction × SyncHandle) := []
  severed : Bool := false
  strayed : Bool := false
  reloaded : Bool := false
  deriving DecidableEq

namespace Watch

/-- A write of the front end turns a direction off. -/
def turnsOff (register value : UInt32) (d : Direction) : Bool :=
  FrontEnd.isEnabled register d && !FrontEnd.isEnabled value d

/-- What a write of the front end does to the live streams. -/
def written (w : Watch) (register value : UInt32) : Watch :=
  { w with severed := w.severed || w.live.any fun p => turnsOff register value p.1 }

def moved (w : Watch) (d : Direction) (h : SyncHandle) : Watch :=
  { w with strayed := w.strayed || !w.live.contains (d, h) }

def reload (w : Watch) : Watch := { w with reloaded := w.reloaded || !w.live.isEmpty }

/-- A call and its answer, seen from beside a front end that held `register` before. -/
def after (w : Watch) (register : UInt32) : (c : boardInterface.Call) → boardInterface.Answer c → Watch
  | .inl (.writeFrontEnd value), _ => w.written register value
  | .inl (.loadFpga _), .ok _ => w.reload
  | .inr (.streaming (.startSync config)), .ok h =>
    { w with live := (config.layout.direction, h) :: w.live }
  | .inr (.stopSync h), _ => { w with live := w.live.filter fun p => p.2 ≠ h }
  | .inr (.streaming (.transmit h _ _ _)), _ => w.moved .tx h
  | .inr (.streaming (.receive h _ _ _)), _ => w.moved .rx h
  | _, _ => w

/-- How a front end behaves: what was written stays there and is read back. A write that fails may have
been carried out or not, and configuring the FPGA or resetting the device may change anything. -/
def Holds (register : UInt32) : (c : boardInterface.Call) → boardInterface.Answer c → UInt32 → Prop
  | .inl .readFrontEnd, .ok value, register' => value = register ∧ register' = register
  | .inl (.writeFrontEnd value), .ok _, register' => register' = value
  | .inl (.writeFrontEnd _), .error _, _ => True
  | .inl (.loadFpga _), _, _ | .inl .reset, _, _ => True
  | _, _, register' => register' = register

/-- A stream that starts is told apart from those that are live. -/
def Fresh (w : Watch) : (c : boardInterface.Call) → boardInterface.Answer c → Prop
  | .inr (.streaming (.startSync _)), x => ∀ h, x = .ok h → ∀ d, (d, h) ∉ w.live
  | _, _ => True

/-- Collaborators with a front end and with streams, any of whose calls may fail. -/
def contract : Contract boardInterface (UInt32 × Watch) where
  allows _ _ := True
  answers s c x t := Holds s.1 c x t.1 ∧ s.2.Fresh c x ∧ t.2 = s.2.after s.1 c x

/-! What the calls do to a watch. -/

section Calls

open Board (Beside Passive Streamless)

variable {s t : UInt32 × Watch} {c : boardInterface.Call} {x : boardInterface.Answer c}

theorem after_passive (passive : Passive c) (w : Watch) (register : UInt32) :
    w.after register c x = w := by
  match c, passive, x with
  | .inl call, passive, _ =>
    cases call with
    | writeFrontEnd | loadFpga => exact passive.elim
    | _ => rfl
  | .inr (.streaming call), passive, _ =>
    cases call with
    | startSync | transmit | receive => exact passive.elim
    | _ => rfl
  | .inr (.startRfic _), _, _ | .inr (.releaseRfic _), _, _ | .inr (.rfic _ _), _, _ => rfl
  | .inr (.removeStream _), _, _ | .inr (.flash _), _, _ | .inr (.trigger _), _, _ => rfl

theorem answers_passive (passive : Passive c) (h : contract.answers s c x t) : t.2 = s.2 :=
  h.2.2.trans (after_passive passive _ _)

/-- A call beside the front end leaves its register. -/
theorem holds_beside (beside : Beside c) {register register' : UInt32} (holds : Holds register c x register') :
    register' = register := by
  match c, beside, x, holds with
  | .inl call, beside, x, holds =>
    cases call with
    | writeFrontEnd | loadFpga | reset => exact beside.elim
    | readFrontEnd =>
      cases x with
      | error e => exact holds
      | ok value => exact holds.2
    | _ => exact holds
  | .inr _, _, _, holds => exact holds

theorem after_beside (beside : Beside c) (w : Watch) (register : UInt32) : w.after register c x = w := by
  match c, beside, x with
  | .inl call, beside, _ =>
    cases call with
    | writeFrontEnd | loadFpga => exact beside.elim
    | _ => rfl
  | .inr (.streaming call), beside, _ =>
    cases call with
    | startSync | transmit | receive => exact beside.elim
    | _ => rfl
  | .inr (.startRfic _), _, _ | .inr (.releaseRfic _), _, _ | .inr (.rfic _ _), _, _ => rfl
  | .inr (.removeStream _), _, _ | .inr (.flash _), _, _ | .inr (.trigger _), _, _ => rfl

theorem answers_beside (beside : Beside c) (h : contract.answers s c x t) : t = s :=
  Prod.ext (holds_beside beside h.1) (h.2.2.trans (after_beside beside _ _))

/-- Without a live stream there is nothing to be seen but a stream that starts. -/
theorem after_nothing (streamless : Streamless c) (register : UInt32) :
    ({} : Watch).after register c x = {} := by
  match c, streamless, x with
  | .inl call, _, x =>
    cases call with
    | loadFpga image => cases x <;> rfl
    | _ => rfl
  | .inr (.streaming call), streamless, _ =>
    cases call with
    | startSync | transmit | receive => exact streamless.elim
    | _ => rfl
  | .inr (.startRfic _), _, _ | .inr (.releaseRfic _), _, _ | .inr (.rfic _ _), _, _ => rfl
  | .inr (.removeStream _), _, _ | .inr (.flash _), _, _ | .inr (.trigger _), _, _ => rfl

end Calls

theorem written_of_kept {w : Watch} {register value : UInt32}
    (kept : ∀ p ∈ w.live, turnsOff register value p.1 = false) : w.written register value = w := by
  have none : (w.live.any fun p => turnsOff register value p.1) = false := by
    rw [List.any_eq_false]
    intro p hp
    rw [kept p hp]
    exact Bool.false_ne_true
  rw [written, none, Bool.or_false]

theorem moved_of_live {w : Watch} {d : Direction} {h : SyncHandle} (live : (d, h) ∈ w.live) :
    w.moved d h = w := by
  have listed : w.live.contains (d, h) = true := List.contains_iff_mem.mpr live
  rw [moved, listed, Bool.not_true, Bool.or_false]

/-! What turns directions off. -/

theorem turnsOff_bothEnabled (register : UInt32) (d : Direction) :
    turnsOff register FrontEnd.bothEnabled d = false := by
  have on : FrontEnd.isEnabled FrontEnd.bothEnabled d = true := by cases d <;> decide
  rw [turnsOff, on, Bool.not_true, Bool.and_false]

theorem turnsOff_disable_both (d : Direction) :
    turnsOff FrontEnd.bothEnabled (FrontEnd.disable (FrontEnd.disable FrontEnd.bothEnabled .tx) .rx) d =
      true := by
  cases d <;> decide

theorem turnsOff_withSwitch (register : UInt32) (d e : Direction) (enabled : Bool) (hz : UInt64) :
    turnsOff register (FrontEnd.withSwitch register d (SignalPath.inUse d enabled hz).switch) e = false := by
  rw [turnsOff, FrontEnd.isEnabled_withSwitch _ _ _ (SignalPath.switch_lt d enabled hz), Bool.and_not_self]

/-- Turning one direction off leaves the other one on. -/
theorem turnsOff_turn (register : UInt32) (d e : Direction) (on : Bool) (hz : UInt64)
    (other : on = false → e ≠ d) :
    turnsOff register (FrontEnd.withSwitch (FrontEnd.turn register d on) d
      (SignalPath.inUse d on hz).switch) e = false := by
  rw [turnsOff, FrontEnd.isEnabled_withSwitch _ _ _ (SignalPath.switch_lt d on hz),
    FrontEnd.isEnabled_turn]
  by_cases same : e = d
  · cases on with
    | false => exact absurd same (other rfl)
    | true => rw [if_pos same, Bool.not_true, Bool.and_false]
  · rw [if_neg same, Bool.and_not_self]

/-- All live streams are severed. -/
def cut (w : Watch) : Watch := { w with severed := w.severed || !w.live.isEmpty }

theorem written_disable_both (w : Watch) :
    w.written FrontEnd.bothEnabled
      (FrontEnd.disable (FrontEnd.disable FrontEnd.bothEnabled .tx) .rx) = w.cut := by
  have all : (w.live.any fun p => turnsOff FrontEnd.bothEnabled
      (FrontEnd.disable (FrontEnd.disable FrontEnd.bothEnabled .tx) .rx) p.1) = !w.live.isEmpty := by
    cases live : w.live with
    | nil => rfl
    | cons p rest =>
      rw [List.any_cons, turnsOff_disable_both]
      rfl
  rw [written, all, cut]

/-! A watch beside the collaborators. -/

section Observe

variable {σ α : Type}

/-- Collaborators with a watch beside them. -/
def observe (h : Handler boardInterface σ) (register : σ → UInt32) : Handler boardInterface (σ × Watch) :=
  fun c s => ((h c s.1).1, (h c s.1).2, s.2.after (register s.1) c (h c s.1).1)

/-- A watch changes nothing. -/
theorem observe_run (h : Handler boardInterface σ) (register : σ → UInt32) (p : Program boardInterface α)
    (s : σ) (w : Watch) :
    (p.run (observe h register) (s, w)).events = (p.run h s).events ∧
    (p.run (observe h register) (s, w)).result = (p.run h s).result ∧
    (p.run (observe h register) (s, w)).state.1 = (p.run h s).state := by
  induction p generalizing s w with
  | done a => exact ⟨rfl, rfl, rfl⟩
  | say n p ih =>
    obtain ⟨events, result, state⟩ := ih s w
    exact ⟨congrArg (_ :: ·) events, result, state⟩
  | call c k ih =>
    obtain ⟨events, result, state⟩ := ih (h c s).1 (h c s).2 (w.after (register s) c (h c s).1)
    exact ⟨congrArg (_ :: ·) events, result, state⟩

/-- Collaborators whose front end holds what is written to it, and who give every running stream a handle
of its own. Each of their calls may fail. -/
structure Truthful (h : Handler boardInterface σ) (register : σ → UInt32)
    (inUse : σ → SyncHandle → Prop) : Prop where
  holds : ∀ c s, Holds (register s) c (h c s).1 (register (h c s).2)
  fresh : ∀ config s x, (h (.inr (.streaming (.startSync config))) s).1 = .ok x →
    ¬inUse s x ∧ inUse (h (.inr (.streaming (.startSync config))) s).2 x
  lasts : ∀ c s x, inUse s x → c ≠ .inr (.stopSync x) → inUse (h c s).2 x

section Kept

variable {h : Handler boardInterface σ} {register : σ → UInt32} {inUse : σ → SyncHandle → Prop}

/-- Only a start adds to the live streams, and a stop takes away. -/
theorem live_after {w : Watch} {before : UInt32} {c : boardInterface.Call} {x : boardInterface.Answer c}
    (start : ∀ config, c ≠ .inr (.streaming (.startSync config))) (stop : ∀ y, c ≠ .inr (.stopSync y)) :
    (w.after before c x).live = w.live := by
  match c, x with
  | .inl call, x =>
    cases call with
    | loadFpga image => cases x <;> rfl
    | _ => rfl
  | .inr (.streaming call), _ =>
    cases call with
    | startSync config => exact absurd rfl (start config)
    | _ => rfl
  | .inr (.stopSync y), _ => exact absurd rfl (stop y)
  | .inr (.startRfic _), _ | .inr (.releaseRfic _), _ | .inr (.rfic _ _), _ => rfl
  | .inr (.removeStream _), _ | .inr (.flash _), _ | .inr (.trigger _), _ => rfl

theorem inUse_after (truthful : Truthful h register inUse) {w : Watch} {s : σ}
    (used : ∀ p ∈ w.live, inUse s p.2) (c : boardInterface.Call) :
    ∀ p ∈ (w.after (register s) c (h c s).1).live, inUse (h c s).2 p.2 := by
  intro p live
  by_cases start : ∃ config, c = .inr (.streaming (.startSync config))
  · obtain ⟨config, rfl⟩ := start
    have others : p ∈ w.live → inUse (h (.inr (.streaming (.startSync config))) s).2 p.2 :=
      fun old => truthful.lasts _ s p.2 (used p old) (by simp)
    cases answer : (h (.inr (.streaming (.startSync config))) s).1 with
    | error e =>
      rw [answer] at live
      exact others live
    | ok x =>
      rw [answer] at live
      rcases List.mem_cons.mp live with new | old
      · rw [new]
        exact (truthful.fresh config s x answer).2
      · exact others old
  · by_cases stop : ∃ y, c = .inr (.stopSync y)
    · obtain ⟨y, rfl⟩ := stop
      have kept := List.mem_filter.mp live
      have other : p.2 ≠ y := by simpa using kept.2
      apply truthful.lasts _ s p.2 (used p kept.1)
      intro same
      injection same with same
      injection same with same
      exact other same.symm
    · rw [live_after (fun config same => start ⟨config, same⟩) (fun y same => stop ⟨y, same⟩)] at live
      apply truthful.lasts c s p.2 (used p live)
      intro same
      exact stop ⟨p.2, same⟩

theorem fresh_of_truthful (truthful : Truthful h register inUse) {w : Watch} {s : σ}
    (used : ∀ p ∈ w.live, inUse s p.2) (c : boardInterface.Call) : w.Fresh c (h c s).1 := by
  match c with
  | .inr (.streaming (.startSync config)) =>
    intro x answer d live
    exact (truthful.fresh config s x answer).1 (used _ live)
  | .inl _ => trivial
  | .inr (.streaming (.create _ _)) | .inr (.streaming (.run _ _)) => trivial
  | .inr (.streaming (.submit _ _ _ _)) => trivial
  | .inr (.streaming (.transmit _ _ _ _)) | .inr (.streaming (.receive _ _ _ _)) => trivial
  | .inr (.startRfic _) | .inr (.releaseRfic _) | .inr (.rfic _ _) | .inr (.stopSync _) => trivial
  | .inr (.removeStream _) | .inr (.flash _) | .inr (.trigger _) => trivial

theorem observe_keeps (truthful : Truthful h register inUse) :
    contract.KeptBy (observe h register) fun s t =>
      t = (register s.1, s.2) ∧ ∀ p ∈ s.2.live, inUse s.1 p.2 := by
  intro s t c related
  obtain ⟨rfl, used⟩ := related
  exact ⟨(register (h c s.1).2, s.2.after (register s.1) c (h c s.1).1),
    ⟨truthful.holds c s.1, fresh_of_truthful truthful used c, rfl⟩, rfl, inUse_after truthful used c⟩

end Kept

theorem bench_lastSync_le (c : boardInterface.Call) (b : Bench) :
    b.lastSync ≤ (Bench.handler c b).2.lastSync := by
  match c with
  | .inl call =>
    cases call with
    | timestamp d => cases d <;> exact Nat.le_refl _
    | readMonitor r =>
      change b.lastSync ≤ (b.readMonitor r).2.lastSync
      rw [Bench.readMonitor]
      split <;> exact Nat.le_refl _
    | _ => exact Nat.le_refl _
  | .inr (.rfic _ call) =>
    cases call with
    | setLo d _ | setPort d _ | setBandwidth d _ | setSampleRate d _ => cases d <;> exact Nat.le_refl _
    | _ => exact Nat.le_refl _
  | .inr (.streaming call) =>
    cases call with
    | startSync config => exact Nat.le_succ _
    | _ => exact Nat.le_refl _
  | .inr (.flash call) => cases call <;> exact Nat.le_refl _
  | .inr (.trigger call) => cases call <;> exact Nat.le_refl _
  | .inr (.startRfic _) | .inr (.releaseRfic _) | .inr (.removeStream _) | .inr (.stopSync _) =>
    exact Nat.le_refl _

/-- Streams on the bench are numbered in the order of their starts. -/
theorem bench_truthful :
    Truthful Bench.handler Bench.frontEnd fun b x => x.id < 2 * (b.lastSync + 1) := by
  refine ⟨?_, ?_, ?_⟩
  · intro c b
    match c with
    | .inl call =>
      cases call with
      | readFrontEnd => exact ⟨rfl, rfl⟩
      | loadFpga | reset => trivial
      | timestamp d => cases d <;> rfl
      | readMonitor r =>
        change (b.readMonitor r).2.frontEnd = b.frontEnd
        rw [Bench.readMonitor]
        split <;> rfl
      | _ => rfl
    | .inr (.rfic _ call) =>
      cases call with
      | setLo d _ | setPort d _ | setBandwidth d _ | setSampleRate d _ => cases d <;> rfl
      | _ => rfl
    | .inr (.streaming call) => cases call <;> rfl
    | .inr (.flash call) => cases call <;> rfl
    | .inr (.trigger call) => cases call <;> rfl
    | .inr (.startRfic _) | .inr (.releaseRfic _) | .inr (.removeStream _) | .inr (.stopSync _) => rfl
  · intro config b x answer
    have number : x = ⟨2 * (b.lastSync + 1) + config.layout.direction.index⟩ :=
      (Except.ok.inj answer).symm
    have small : config.layout.direction.index < 2 := by cases config.layout.direction <;> decide
    have counted : (Bench.handler (.inr (.streaming (.startSync config))) b).2.lastSync = b.lastSync + 1 := rfl
    rw [counted, number]
    dsimp only
    omega
  · intro c b x used _
    have counts := bench_lastSync_le c b
    omega

end Observe

end Watch

end RadioBoard
