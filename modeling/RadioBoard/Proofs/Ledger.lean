import RadioBoard.Proofs.BringUp
import RadioBoard.Proofs.Course

/-!
The ledger of handles.

A ledger notes which handles were handed out and given back, and which are live in each place that a board
has for one. Main statement: a board that carries what was handed out and not given back still does so after
a handle was given back, after one was taken, and after every call that needs no more than the board has.
-/

namespace RadioBoard

/-- The places that a board has for handles. -/
inductive Slot
  | driver
  | stream (d : Direction)
  deriving DecidableEq

/-- A handle that has to be given back. -/
inductive Loan
  | driver (h : Rfic.Handle)
  | stream (x : Streaming.SyncHandle)
  deriving DecidableEq

/-- The place that a call asks for a handle for. -/
@[simp] def asks? : boardInterface.Call → Option Slot
  | .inr (.startRfic _) => some .driver
  | .inr (.streaming (.startSync config)) => some (.stream config.layout.direction)
  | _ => none

/-- The handle that a call was answered with. -/
@[simp] def handed? : (c : boardInterface.Call) → boardInterface.Answer c → Option Loan
  | .inr (.startRfic _), .ok h => some (.driver h)
  | .inr (.streaming (.startSync _)), .ok x => some (.stream x)
  | _, _ => none

/-- What a call was answered with for the place that it asked for. -/
def lent? (c : boardInterface.Call) (x : boardInterface.Answer c) : Option (Slot × Loan) :=
  (asks? c).bind fun slot => (handed? c x).map (slot, ·)

/-- The handle that a call gives back. -/
@[simp] def returned? : boardInterface.Call → Option Loan
  | .inr (.releaseRfic h) => some (.driver h)
  | .inr (.stopSync x) => some (.stream x)
  | _ => none

/-- The handle that a call is made on. -/
@[simp] def madeOn? : boardInterface.Call → Option Loan
  | .inr (.rfic h _) | .inr (.releaseRfic h) => some (.driver h)
  | .inr (.streaming (.transmit x _ _ _)) | .inr (.streaming (.receive x _ _ _)) => some (.stream x)
  | .inr (.stopSync x) => some (.stream x)
  | _ => none

structure Ledger where
  /-- What was handed out, for which place. -/
  lent : List (Slot × Loan) := []
  returned : List Loan := []
  /-- What was handed out for a place and not given back since. -/
  live : Slot → List Loan := fun _ => []

namespace Ledger

def after (s : Ledger) (c : boardInterface.Call) (x : boardInterface.Answer c) : Ledger :=
  match lent? c x, returned? c with
  | some (slot, y), _ =>
    { s with lent := (slot, y) :: s.lent, live := fun e => if e = slot then y :: s.live e else s.live e }
  | none, some y => { s with returned := y :: s.returned, live := fun e => (s.live e).filter (· ≠ y) }
  | none, none => s

/-- The ledger after some events. -/
abbrev of (events : List (Event boardInterface)) : Ledger := Contract.record after {} events

/-- More of a handle was handed out than given back. -/
def IsOut (s : Ledger) (y : Loan) : Prop := s.returned.count y < (s.lent.map Prod.snd).count y

/-- Calls are made on handles that are out, and ask for handles where none is live. -/
def Allows (s : Ledger) (c : boardInterface.Call) : Prop :=
  (∀ y, madeOn? c = some y → s.IsOut y) ∧ ∀ slot, asks? c = some slot → s.live slot = []

def contract : Contract boardInterface Ledger := .recording Allows after

variable {s t : Ledger} {c : boardInterface.Call} {x : boardInterface.Answer c}

@[simp] theorem contract_allows : contract.allows s c ↔ s.Allows c := Iff.rfl

@[simp] theorem contract_answers : contract.answers s c x t ↔ t = s.after c x := Iff.rfl

theorem allows_of_none (made : madeOn? c = none) (asked : asks? c = none) : s.Allows c := by
  rw [Allows, made, asked]
  simp

/-- A call may be made on a handle that is out. -/
theorem allows_of_isOut {y : Loan} (out : s.IsOut y) (made : madeOn? c = some y) (asked : asks? c = none) :
    s.Allows c := by
  rw [Allows, made, asked]
  simp [out]

/-- A handle may be asked for where none is live. -/
theorem allows_of_idle {slot : Slot} (idle : s.live slot = []) (made : madeOn? c = none)
    (asked : asks? c = some slot) : s.Allows c := by
  rw [Allows, made, asked]
  simp [idle]

theorem asks_of_lent {place : Slot} {y : Loan} (lent : lent? c x = some (place, y)) :
    asks? c = some place := by
  rw [lent?, Option.bind_eq_some_iff] at lent
  obtain ⟨slot, asked, lent⟩ := lent
  obtain ⟨_, _, same⟩ := Option.map_eq_some_iff.mp lent
  cases same
  exact asked

/-- One handle at most is live in each place, if none is asked for where one is. -/
theorem live_le_one {events : List (Event boardInterface)} (along : Contract.Along after Allows s events)
    (start : ∀ slot, (s.live slot).length ≤ 1) (slot : Slot) :
    ((Contract.record after s events).live slot).length ≤ 1 := by
  induction events generalizing s with
  | nil => exact start slot
  | cons e events ih =>
    cases e with
    | said n => exact ih along start
    | called c x =>
      obtain ⟨⟨_, idle⟩, rest⟩ := along
      refine ih rest fun e => ?_
      unfold after
      cases given : lent? c x with
      | some p =>
        have free := idle p.1 (asks_of_lent given)
        by_cases same : e = p.1
        · simp [same, free]
        · simpa [same] using start e
      | none =>
        cases back : returned? c with
        | some y => exact Nat.le_trans (List.length_filter_le _ _) (start e)
        | none => exact start e

end Ledger

namespace Board

/-- What a board has in a place. -/
def loan (b : Board) : Slot → Option Loan
  | .driver => b.rfic.map .driver
  | .stream d => (b.sync d).map .stream

def holdings (b : Board) : List Loan :=
  (b.loan (.stream .rx)).toList ++ (b.loan (.stream .tx)).toList ++ (b.loan .driver).toList

variable {b b' : Board} {slot : Slot} {y : Loan}

theorem mem_holdings (held : b.loan slot = some y) : y ∈ b.holdings := by
  cases slot with
  | driver => simp [holdings, held]
  | stream d => cases d <;> simp [holdings, held]

theorem holdings_perm (held : b.loan slot = some y)
    (rest : ∀ e, b'.loan e = if e = slot then none else b.loan e) : b.holdings.Perm (y :: b'.holdings) := by
  cases slot with
  | driver =>
    have last := List.perm_append_singleton y
      ((b.loan (.stream .rx)).toList ++ (b.loan (.stream .tx)).toList)
    simpa [holdings, rest, held] using last
  | stream d => cases d <;> simp [holdings, rest, held]

theorem loan_congr (rfic : b'.rfic = b.rfic) (sync : streams b' = streams b) (e : Slot) :
    b'.loan e = b.loan e := by
  cases e with
  | driver => exact congrArg (Option.map Loan.driver) rfic
  | stream d =>
    cases d with
    | rx => exact congrArg (fun held => Option.map Loan.stream held.1) sync
    | tx => exact congrArg (fun held => Option.map Loan.stream held.2) sync

/-- What a board has is what was handed out and not given back. -/
structure Carries (b : Board) (s : Ledger) : Prop where
  balance : (s.lent.map Prod.snd).Perm (s.returned ++ b.holdings)
  lent : ∀ slot y, b.loan slot = some y → (slot, y) ∈ s.lent
  live : ∀ slot, (s.live slot).Sublist (b.loan slot).toList

namespace Carries

variable {s : Ledger} {c : boardInterface.Call} {x : boardInterface.Answer c}

theorem isOut (carries : Carries b s) (held : b.loan slot = some y) : s.IsOut y := by
  have has : 0 < b.holdings.count y := List.count_pos_iff.mpr (mem_holdings held)
  rw [Ledger.IsOut, carries.balance.count_eq, List.count_append]
  omega

theorem idle (carries : Carries b s) (free : b.loan slot = none) : s.live slot = [] := by
  have live := carries.live slot
  rw [free] at live
  exact List.sublist_nil.mp live

theorem keep (carries : Carries b s) (same : ∀ e, b'.loan e = b.loan e) : Carries b' s := by
  obtain ⟨balance, lent, live⟩ := carries
  refine ⟨?_, ?_, ?_⟩
  · rw [holdings, same, same, same]
    exact balance
  · intro e y held
    exact lent e y ((same e).symm.trans held)
  · intro e
    rw [same]
    exact live e

theorem give (carries : Carries b s) (held : b.loan slot = some y)
    (rest : ∀ e, b'.loan e = if e = slot then none else b.loan e) (given : lent? c x = none)
    (back : returned? c = some y) : Carries b' (s.after c x) := by
  rw [Ledger.after, given, back]
  refine ⟨?_, ?_, ?_⟩
  · exact carries.balance.trans (((holdings_perm held rest).append_left _).trans List.perm_middle)
  · intro e z still
    rw [rest] at still
    split at still
    · cases still
    · exact carries.lent e z still
  · intro e
    have less := carries.live e
    dsimp only
    rw [rest]
    split
    next same =>
      rw [same, held] at less
      have none : (s.live e).filter (· ≠ y) = [] := by
        apply List.filter_eq_nil_iff.mpr
        intro z live
        rw [same] at live
        simpa using less.subset live
      rw [none]
      exact List.nil_sublist _
    next => exact List.filter_sublist.trans less

theorem take (carries : Carries b s) (free : b.loan slot = none)
    (rest : ∀ e, b'.loan e = if e = slot then some y else b.loan e)
    (given : lent? c x = some (slot, y)) : Carries b' (s.after c x) := by
  have held : b'.loan slot = some y := by rw [rest, if_pos rfl]
  have before : ∀ e, b.loan e = if e = slot then none else b'.loan e := by
    intro e
    by_cases same : e = slot
    · rw [if_pos same, same, free]
    · rw [if_neg same, rest, if_neg same]
  rw [Ledger.after, given]
  refine ⟨?_, ?_, ?_⟩
  · exact ((carries.balance.cons y).trans List.perm_middle.symm).trans
      ((holdings_perm held before).symm.append_left _)
  · intro e z has
    rw [rest] at has
    split at has
    next same =>
      cases has
      rw [same]
      exact .head _
    next => exact .tail _ (carries.lent e z has)
  · intro e
    dsimp only
    rw [rest]
    split
    next same =>
      rw [same, carries.idle free]
      exact .refl _
    next => exact carries.live e

/-- Calls that need no more than the board has leave the ledger as it is. -/
theorem modest (carries : Carries b s) (within : b.Modest c) : s.Allows c ∧ ∀ x, s.after c x = s := by
  rcases c with c | c
  · exact ⟨Ledger.allows_of_none rfl rfl, fun _ => rfl⟩
  cases c with
  | startRfic | releaseRfic | stopSync => exact within.elim
  | removeStream | flash | trigger => exact ⟨Ledger.allows_of_none rfl rfl, fun _ => rfl⟩
  | rfic h c =>
    have own : b.loan .driver = some (.driver h) := congrArg (Option.map Loan.driver) within
    exact ⟨Ledger.allows_of_isOut (carries.isOut own) rfl rfl, fun _ => rfl⟩
  | streaming c =>
    cases c with
    | startSync => exact within.elim
    | create | run | submit => exact ⟨Ledger.allows_of_none rfl rfl, fun _ => rfl⟩
    | transmit x =>
      have own : b.loan (.stream .tx) = some (.stream x) := congrArg (Option.map Loan.stream) within
      exact ⟨Ledger.allows_of_isOut (carries.isOut own) rfl rfl, fun _ => rfl⟩
    | receive x =>
      have own : b.loan (.stream .rx) = some (.stream x) := congrArg (Option.map Loan.stream) within
      exact ⟨Ledger.allows_of_isOut (carries.isOut own) rfl rfl, fun _ => rfl⟩

end Carries

end Board
end RadioBoard
