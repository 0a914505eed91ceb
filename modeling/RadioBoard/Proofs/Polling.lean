import RadioBoard.Proofs.FailStop

/-!
Questions that are asked until they are settled, so many times at most.

The answers are those that the collaborators give to the same call made again and again, whatever these are.
Main statement: the firmware is asked whether it is ready until it says so or fails, and no more often than the
setup has it; the power monitor is asked for its configuration until it has left its reset, ten times at
most, and is only configured and calibrated after that.
-/

namespace RadioBoard

variable {I : Interface} {σ α β : Type}

/-! Answers to one call, again and again. -/

section Replies

variable (h : Handler I σ) (c : I.Call)

/-- The state of the collaborators after so many calls. -/
def asked : Nat → σ → σ
  | 0, s => s
  | n + 1, s => asked n (h c s).2

/-- The answer to a call that comes after so many of the same. -/
def reply (s : σ) (n : Nat) : I.Answer c := (h c (asked h c n s)).1

/-- So many calls with their answers. -/
def replies (s : σ) (n : Nat) : List (Event I) := (List.range n).map fun i => .called c (reply h c s i)

theorem replies_succ (s : σ) (n : Nat) :
    replies h c s (n + 1) = .called c (h c s).1 :: replies h c (h c s).2 n := by
  rw [replies, List.range_succ_eq_map, List.map_cons, List.map_map]
  rfl

end Replies

/-- What was done in a run, without the notes. -/
def Outcome.made (run : Outcome I σ α) : List (Event I) × α × σ := (calls run.events, run.result, run.state)

theorem made_bind (h : Handler I σ) (p : Program I α) (f : α → Program I β) (s : σ) :
    ((p.bind f).run h s).made =
      let first := p.run h s
      let second := (f first.result).run h first.state
      (calls first.events ++ calls second.events, second.result, second.state) := by
  rw [Program.run_bind, Outcome.made, calls_append]

/-! Loops that poll. -/

/-- A loop that makes the same call in each round. An answer that settles the question ends it; otherwise it
goes on with a round less, and after the last round it is too late. -/
structure Polls (h : Handler I σ) (c : I.Call) (settled : I.Answer c → Option α) (late : α)
    (loop : Nat → Program I α) : Prop where
  spent : ∀ s, ((loop 0).run h s).made = ([], late, s)
  ends : ∀ n s a, settled (h c s).1 = some a →
    ((loop (n + 1)).run h s).made = ([.called c (h c s).1], a, (h c s).2)
  goes : ∀ n s, settled (h c s).1 = none →
    let rest := ((loop n).run h (h c s).2).made
    ((loop (n + 1)).run h s).made = (.called c (h c s).1 :: rest.1, rest.2)

namespace Polls

variable {h : Handler I σ} {c : I.Call} {settled : I.Answer c → Option α} {late : α}
  {loop : Nat → Program I α} (polls : Polls h c settled late loop)

include polls

/-- The first answer that settles the question is the last one. -/
theorem made_of_settled {n i : Nat} (within : i < n) {s : σ} {a : α}
    (before : ∀ j < i, settled (reply h c s j) = none) (answer : settled (reply h c s i) = some a) :
    ((loop n).run h s).made = (replies h c s (i + 1), a, asked h c (i + 1) s) := by
  obtain ⟨n, rfl⟩ := Nat.exists_eq_add_one_of_ne_zero (Nat.ne_zero_of_lt within)
  induction i generalizing n s with
  | zero =>
    rw [polls.ends n s a answer, replies_succ]
    rfl
  | succ i ih =>
    have fewer : i < n := Nat.lt_of_succ_lt_succ within
    obtain ⟨n, rfl⟩ := Nat.exists_eq_add_one_of_ne_zero (Nat.ne_zero_of_lt fewer)
    have rest := ih (fun j below => before (j + 1) (Nat.succ_lt_succ below)) answer n fewer
    rw [polls.goes _ s (before 0 (Nat.zero_lt_succ i)), rest, replies_succ h c s]
    rfl

/-- Without such an answer every round is used up. -/
theorem made_of_open {n : Nat} {s : σ} (unsettled : ∀ j < n, settled (reply h c s j) = none) :
    ((loop n).run h s).made = (replies h c s n, late, asked h c n s) := by
  induction n generalizing s with
  | zero => exact polls.spent s
  | succ n ih =>
    have rest := ih fun j below => unsettled (j + 1) (Nat.succ_lt_succ below)
    rw [polls.goes n s (unsettled 0 (Nat.zero_lt_succ n)), rest, replies_succ h c s]
    rfl

end Polls

/-- Either one of the first answers is the first to settle the question, or none of them does. -/
theorem settled_or_open {ρ : Type} (settled : ρ → Option α) (answer : Nat → ρ) (n : Nat) :
    (∃ i < n, ∃ a, settled (answer i) = some a ∧ ∀ j < i, settled (answer j) = none) ∨
      ∀ i < n, settled (answer i) = none := by
  induction n with
  | zero => exact .inr nofun
  | succ n ih =>
    obtain ⟨i, within, found⟩ | unsettled := ih
    · exact .inl ⟨i, Nat.lt_succ_of_lt within, found⟩
    · cases last : settled (answer n) with
      | some a => exact .inl ⟨n, Nat.lt_succ_self n, a, last, unsettled⟩
      | none =>
        right
        intro i within
        obtain below | rfl := Nat.lt_succ_iff_lt_or_eq.mp within
        · exact unsettled i below
        · exact last

/-! The firmware. -/

namespace Board

/-- A call to the transport, its answer, and what is said of an error. -/
theorem run_transport (operation : String) (c : Transport.Call) (detail : String) (setup : Setup) (b : Board) :
    (transport operation c detail setup).run b = .call (.inl c) fun
      | .ok x => .done (.ok x, b)
      | .error e =>
        .say (.log .error s!"{operation}: {c.name ++ detail} failed: {e.message}") (.done (.error e, b)) := by
  refine congrArg (Program.call _) (funext fun x => ?_)
  cases x <;> rfl

/-- How waiting for the firmware ends with an answer. -/
def readiness (b : Board) : Except Error Bool → Option (Except Error Unit × Board)
  | .ok true => some (.ok (), b)
  | .ok false => none
  | .error e => some (.error e, b)

theorem readiness_eq_none {b : Board} {x : Except Error Bool} : readiness b x = none ↔ x = .ok false := by
  cases x with
  | error e => simp [readiness]
  | ok ready => cases ready <;> simp [readiness]

theorem readiness_eq_some {b : Board} {x : Except Error Bool} {a : Except Error Unit × Board}
    (settled : readiness b x = some a) : a.2 = b ∧ (a.1 = .ok () → x = .ok true) := by
  cases x with
  | error e =>
    cases settled
    exact ⟨rfl, nofun⟩
  | ok ready =>
    cases ready with
    | false => cases settled
    | true =>
      cases settled
      exact ⟨rfl, fun _ => rfl⟩

theorem awaitReady_polls (h : Handler boardInterface σ) (setup : Setup) (b : Board) (polls : Nat) :
    Polls h (.inl .isReady) (readiness b) (.error .timeout, b) fun left => (awaitReady polls left setup).run b where
  spent s := rfl
  ends n s a answer := by
    rw [awaitReady, run_bind, run_transport, Program.bind, Program.run]
    generalize h (.inl .isReady) s = told at answer ⊢
    obtain ⟨e | ready, s'⟩ := told
    · cases answer
      rfl
    · cases ready with
      | false => cases answer
      | true =>
        cases answer
        rfl
  goes n s answer := by
    rw [awaitReady, run_bind, run_transport, Program.bind, Program.run]
    rw [readiness_eq_none] at answer
    generalize h (.inl .isReady) s = told at answer ⊢
    obtain ⟨_, s'⟩ := told
    cases answer
    by_cases first : n + 1 = polls
    · simp only [first, ↓reduceIte]
      rfl
    · simp only [first, ↓reduceIte]
      rfl

/-- What waiting for the firmware comes to: its result, and how often it has asked, by the answers to `n`
polls at most. -/
structure AwaitsReady (answer : Nat → Except Error Bool) (n : Nat) (result : Except Error Unit)
    (polls : Nat) : Prop where
  succeeds : result = .ok () ↔ ∃ i < n, answer i = .ok true ∧ ∀ j < i, answer j = .ok false
  ready : ∀ i < n, (∀ j < i, answer j = .ok false) → answer i = .ok true → polls = i + 1
  failed : ∀ i < n, (∀ j < i, answer j = .ok false) → ∀ e, answer i = .error e →
    result = .error e ∧ polls = i + 1
  late : (∀ j < n, answer j = .ok false) → result = .error .timeout ∧ polls = n

section Wait

variable (h : Handler boardInterface σ) (setup : Setup) (b : Board) (s : σ) (polls : Nat) {n : Nat}

theorem awaitReady_of_settled {i : Nat} (within : i < n) {a : Except Error Unit × Board}
    (before : ∀ j < i, reply h (.inl .isReady) s j = .ok false)
    (answer : readiness b (reply h (.inl .isReady) s i) = some a) :
    let run := ((awaitReady polls n setup).run b).run h s
    run.result = a ∧ calls run.events = replies h (.inl .isReady) s (i + 1) := by
  have ended := (awaitReady_polls h setup b polls).made_of_settled within
    (fun j below => readiness_eq_none.mpr (before j below)) answer
  exact ⟨congrArg (·.2.1) ended, congrArg Prod.fst ended⟩

theorem awaitReady_of_waiting (waiting : ∀ j < n, reply h (.inl .isReady) s j = .ok false) :
    let run := ((awaitReady polls n setup).run b).run h s
    run.result = (.error .timeout, b) ∧ calls run.events = replies h (.inl .isReady) s n := by
  have ended := (awaitReady_polls h setup b polls).made_of_open
    fun j below => readiness_eq_none.mpr (waiting j below)
  exact ⟨congrArg (·.2.1) ended, congrArg Prod.fst ended⟩

/-- What the wait comes to follows from the number of its polls, and from an answer behind each success. -/
theorem awaitsReady {made : Nat} {run : Outcome boardInterface σ (Except Error Unit × Board)}
    (same : run = ((awaitReady polls n setup).run b).run h s)
    (polled : calls run.events = replies h (.inl .isReady) s made)
    (success : run.result.1 = .ok () →
      ∃ i < n, reply h (.inl .isReady) s i = .ok true ∧ ∀ j < i, reply h (.inl .isReady) s j = .ok false) :
    AwaitsReady (reply h (.inl .isReady) s) n run.result.1 made := by
  have count {k : Nat} (made' : calls run.events = replies h (.inl .isReady) s k) : made = k := by
    simpa [replies] using congrArg List.length (polled.symm.trans made')
  have settled {i : Nat} (within : i < n) (before : ∀ j < i, reply h (.inl .isReady) s j = .ok false)
      {a : Except Error Unit × Board} (answer : readiness b (reply h (.inl .isReady) s i) = some a) :
      run.result = a ∧ made = i + 1 := by
    obtain ⟨result, polled'⟩ := awaitReady_of_settled h setup b s polls within before answer
    rw [← same] at result polled'
    exact ⟨result, count polled'⟩
  constructor
  · refine ⟨success, fun found => ?_⟩
    obtain ⟨i, within, answer, before⟩ := found
    rw [(settled within before (by rw [answer]; rfl)).1]
  · intro i within before answer
    exact (settled within before (by rw [answer]; rfl)).2
  · intro i within before e answer
    obtain ⟨result, polls⟩ := settled within before (by rw [answer]; rfl)
    exact ⟨congrArg Prod.fst result, polls⟩
  · intro waiting
    obtain ⟨result, polled'⟩ := awaitReady_of_waiting h setup b s polls waiting
    rw [← same] at result polled'
    exact ⟨congrArg Prod.fst result, count polled'⟩

theorem run_awaitReady :
    let run := ((awaitReady polls n setup).run b).run h s
    ∃ made, calls run.events = replies h (.inl .isReady) s made ∧ run.result.2 = b ∧
      AwaitsReady (reply h (.inl .isReady) s) n run.result.1 made := by
  intro run
  obtain ⟨i, within, a, answer, before⟩ | unsettled := settled_or_open (readiness b) (reply h (.inl .isReady) s) n
  · have waiting (j : Nat) (below : j < i) := readiness_eq_none.mp (before j below)
    obtain ⟨result, polled⟩ := awaitReady_of_settled h setup b s polls within waiting answer
    obtain ⟨board, ready⟩ := readiness_eq_some answer
    rw [← result] at board ready
    refine ⟨i + 1, polled, board, awaitsReady h setup b s polls rfl polled fun success => ?_⟩
    exact ⟨i, within, ready success, waiting⟩
  · have waiting (j : Nat) (below : j < n) := readiness_eq_none.mp (unsettled j below)
    obtain ⟨result, polled⟩ := awaitReady_of_waiting h setup b s polls waiting
    refine ⟨n, polled, congrArg Prod.snd result, awaitsReady h setup b s polls rfl polled fun success => ?_⟩
    exact absurd (success.symm.trans (congrArg Prod.fst result)) nofun

end Wait

/-- The board of a firmware of this version. -/
def identified (setup : Setup) (v : Version) : Board :=
  let granted := setup.classifier.firmwareCapabilities v
  { ({} : Board) with
    firmwareVersion := v, capabilities := ({} : Board).capabilities ||| granted, stage := .firmwareLoaded }

theorem run_bringUp (setup : Setup) : ∃ (rest : Version → Action Unit) (refused : Error → Note),
    (bringUp setup).run {} = .call (.inl .firmwareVersion) fun
      | .ok v =>
        ((awaitReady setup.config.readyPolls setup.config.readyPolls >>= fun _ => rest v) setup).run
          (identified setup v)
      | .error e => .say (refused e) (.done (.error e, {})) := by
  refine ⟨fun version => do
    identifyBus
    checkFirmware version
    modify ({ · with fpgaSize := .a4 })
    if (← read).config.forceNoFpga then return
    if ← provideFpga then
      modify ({ · with stage := .fpgaLoaded })
      step "open" "initialize" setUp, fun e => .log .error s!"open: get_fw_version failed: {e.message}", ?_⟩
  refine congrArg (Program.call _) (funext fun x => ?_)
  cases x <;> rfl

/-- Opening a board begins with its firmware version and the wait, and ends with the error of the wait. -/
theorem run_start_wait (setup : Setup) (h : Handler boardInterface σ) (s : σ) {v : Version}
    (told : (h (.inl .firmwareVersion) s).1 = .ok v) :
    let run := (start setup).run h s
    let wait := ((awaitReady setup.config.readyPolls setup.config.readyPolls setup).run (identified setup v)).run h
      (h (.inl .firmwareVersion) s).2
    ∃ rest, calls run.events = .called (.inl .firmwareVersion) (.ok v) :: (calls wait.events ++ rest) ∧
      ∀ e, wait.result.1 = .error e → rest = [] ∧ run.result = .error e := by
  intro run wait
  obtain ⟨rest, refused, cut⟩ := run_bringUp setup
  obtain ⟨_, _, board, spec⟩ := run_awaitReady h setup (identified setup v) (h (.inl .firmwareVersion) s).2
    setup.config.readyPolls (n := setup.config.readyPolls)
  have up : ∃ later : Outcome boardInterface σ (Except Error Unit × Board),
      ((bringUp setup).run {}).run h s =
        ⟨.called (.inl .firmwareVersion) (.ok v) :: (wait.events ++ later.events), later.result, later.state⟩ ∧
      ∀ e, wait.result.1 = .error e → later.events = [] ∧ later.result = (.error e, wait.result.2) := by
    rw [cut, Program.run, told]
    dsimp only
    rw [run_bind, Program.run_bind]
    refine ⟨_, rfl, fun e failed => ?_⟩
    simp only [wait] at failed
    rw [failed]
    exact ⟨rfl, rfl⟩
  obtain ⟨later, up, last⟩ := up
  obtain ⟨done, events, _⟩ | ⟨e', failed, events, result⟩ := run_start setup h s
  · rw [up] at done events
    refine ⟨calls later.events, ?_, fun e late => ?_⟩
    · rw [show run.events = _ from events, calls, calls_append]
    · rw [(last e late).2] at done
      cases done
  · rw [up] at failed events
    refine ⟨calls later.events ++ calls later.result.2.closing, ?_, fun e late => ?_⟩
    · rw [show run.events = _ from events, List.cons_append, calls, calls_append, calls_append, List.append_assoc]
    · obtain ⟨none, ended⟩ := last e late
      rw [ended] at failed ⊢
      have same : e = e' := Except.error.inj failed
      rw [none, same, show wait.result.2 = _ from board]
      exact ⟨rfl, result⟩

end Board

/-! The power monitor. -/

namespace PowerMonitor

open Transport

section Reset

variable (h : Handler interface σ) (s : σ)

/-- What becomes of the reset that is written first. -/
def reset : Except Error Unit × σ := h (.writeMonitor 0 resetBit) s

/-- What the configuration reads after the reset, and so many reads. -/
def configurationRead (n : Nat) : Except Error UInt16 := reply h (.readMonitor 0) (reset h s).2 n

/-- The reset, and so many reads of the configuration. -/
def resetting (n : Nat) : List (Event interface) :=
  .called (.writeMonitor 0 resetBit) (reset h s).1 :: replies h (.readMonitor 0) (reset h s).2 n

/-- Writes of the settings and of the calibration, with what becomes of them after so many reads. -/
def configured (n : Nat) : Except Error Unit × σ :=
  h (.writeMonitor 0 settings) (asked h (.readMonitor 0) n (reset h s).2)

def calibrated (shunt : Float32) (n : Nat) : Except Error Unit × σ :=
  h (.writeMonitor 5 (calibrationFor shunt)) (configured h s n).2

end Reset

/-- The configuration shows the reset bit, or shows it no more. -/
def InReset : Except Error UInt16 → Prop
  | .ok contents => contents &&& resetBit ≠ 0
  | .error _ => False

def OutOfReset : Except Error UInt16 → Prop
  | .ok contents => contents &&& resetBit = 0
  | .error _ => False

instance InReset.decidable : DecidablePred InReset
  | .ok contents => inferInstanceAs (Decidable (contents &&& resetBit ≠ 0))
  | .error _ => inferInstanceAs (Decidable False)

/-- The reset was written, and the first `n` reads still show it. -/
structure StillReset (h : Handler interface σ) (s : σ) (n : Nat) : Prop where
  written : (reset h s).1 = .ok ()
  shown : ∀ j < n, InReset (configurationRead h s j)

/-- What starting the chip comes to: its result and the calls made, by the answers to ten reads at most. -/
structure Starts (shunt : Float32) (h : Handler interface σ) (s : σ) (result : Except Error Unit)
    (made : List (Event interface)) : Prop where
  refused : ∀ e, (reset h s).1 = .error e → result = .error e ∧ made = resetting h s 0
  failed : ∀ i < 10, StillReset h s i → ∀ e, configurationRead h s i = .error e →
    result = .error e ∧ made = resetting h s (i + 1)
  late : StillReset h s 10 → result = .error .timeout ∧ made = resetting h s 10
  unset : ∀ i < 10, StillReset h s i → OutOfReset (configurationRead h s i) →
    ∀ e, (configured h s (i + 1)).1 = .error e →
      result = .error e ∧ made = resetting h s (i + 1) ++ [.called (.writeMonitor 0 settings) (.error e)]
  set : ∀ i < 10, StillReset h s i → OutOfReset (configurationRead h s i) →
    (configured h s (i + 1)).1 = .ok () →
    result = (calibrated h s shunt (i + 1)).1 ∧ made = resetting h s (i + 1) ++
      [.called (.writeMonitor 0 settings) (.ok ()),
        .called (.writeMonitor 5 (calibrationFor shunt)) (calibrated h s shunt (i + 1)).1]
  guarded : ∃ n ≤ 10, ∃ writes, made = resetting h s n ++ writes ∧
    (∀ r x, .called (.readMonitor r) x ∉ writes) ∧
    (writes ≠ [] → ∃ i < n, StillReset h s i ∧ OutOfReset (configurationRead h s i))

/-- How waiting for the end of the reset ends with an answer. -/
def settled : Except Error UInt16 → Option (Except Error Unit)
  | .ok contents => if contents &&& resetBit = 0 then some (.ok ()) else none
  | .error e => some (.error e)

theorem settled_eq_none {x : Except Error UInt16} : settled x = none ↔ InReset x := by
  cases x <;> simp [settled, InReset]

theorem settled_eq_ok {x : Except Error UInt16} : settled x = some (.ok ()) ↔ OutOfReset x := by
  cases x <;> simp [settled, OutOfReset]

theorem settled_eq_error {x : Except Error UInt16} {e : Error} : settled x = some (.error e) ↔ x = .error e := by
  cases x <;> simp [settled]

theorem run_awaitReset (n : Nat) :
    (awaitReset (n + 1)).run = .call (.readMonitor 0) fun
      | .error e => .done (.error e)
      | .ok contents =>
        if contents &&& resetBit = 0 then .done (.ok ())
        else if n ≠ 0 then .say (.pause 1) (awaitReset n).run
        else (awaitReset n).run := by
  refine congrArg (Program.call _) (funext fun x => ?_)
  cases x with
  | error e => rfl
  | ok contents =>
    change (ite (contents &&& resetBit = 0) _ _ : Transport.Action Unit).run = ite (contents &&& resetBit = 0) _ _
    by_cases clear : contents &&& resetBit = 0
    · rw [if_pos clear, if_pos clear]
      rfl
    · rw [if_neg clear, if_neg clear]
      cases n <;> rfl

theorem awaitReset_polls (h : Handler interface σ) :
    Polls h (.readMonitor 0) settled (.error .timeout) fun n => (awaitReset n).run where
  spent s := rfl
  ends n s a answer := by
    rw [run_awaitReset, Program.run]
    generalize h (.readMonitor 0) s = told at answer ⊢
    obtain ⟨e | contents, s'⟩ := told
    · cases answer
      rfl
    · by_cases clear : contents &&& resetBit = 0
      · simp only [settled, clear, ↓reduceIte, Option.some.injEq] at answer
        subst answer
        simp only [clear, ↓reduceIte]
        rfl
      · simp [settled, clear] at answer
  goes n s answer := by
    rw [run_awaitReset, Program.run]
    generalize h (.readMonitor 0) s = told at answer ⊢
    obtain ⟨e | contents, s'⟩ := told
    · cases answer
    · have set : contents &&& resetBit ≠ 0 := settled_eq_none.mp answer
      by_cases last : n = 0
      · simp only [set, last, ↓reduceIte, ne_eq, not_true_eq_false]
        rfl
      · simp only [set, last, ↓reduceIte, ne_eq, not_false_eq_true]
        rfl

/-- What is left to do after the wait. -/
def afterWait (shunt : Float32) : Except Error Unit → Program interface (Except Error Unit)
  | .error e => .done (.error e)
  | .ok _ => .call (.writeMonitor 0 settings) fun
    | .error e => .done (.error e)
    | .ok _ => .call (.writeMonitor 5 (calibrationFor shunt)) .done

theorem run_start (shunt : Float32) :
    (start shunt).run = .call (.writeMonitor 0 resetBit) fun
      | .error e => .done (.error e)
      | .ok _ => (awaitReset 10).run.bind (afterWait shunt) := by
  refine congrArg (Program.call _) (funext fun x => ?_)
  cases x with
  | error e => rfl
  | ok _ =>
    refine congrArg (Program.bind (awaitReset 10).run) (funext fun x => ?_)
    cases x with
    | error e => rfl
    | ok _ =>
      refine congrArg (Program.call _) (funext fun x => ?_)
      cases x <;> rfl

section Run

variable (shunt : Float32) {h : Handler interface σ} {s : σ}

theorem start_of_refused {e : Error} (refused : (reset h s).1 = .error e) :
    let run := (start shunt).run.run h s
    run.result = .error e ∧ calls run.events = resetting h s 0 := by
  have same : (h (.writeMonitor 0 resetBit) s).1 = .error e := refused
  rw [run_start, Program.run, resetting, refused, same]
  exact ⟨rfl, rfl⟩

theorem start_of_wait (written : (reset h s).1 = .ok ()) {n : Nat} {result : Except Error Unit}
    (waited : ((awaitReset 10).run.run h (reset h s).2).made =
      (replies h (.readMonitor 0) (reset h s).2 n, result, asked h (.readMonitor 0) n (reset h s).2)) :
    let run := (start shunt).run.run h s
    let rest := (afterWait shunt result).run h (asked h (.readMonitor 0) n (reset h s).2)
    run.result = rest.result ∧ calls run.events = resetting h s n ++ calls rest.events := by
  have ran : ((start shunt).run.run h s).made =
      let rest := (((awaitReset 10).run.bind (afterWait shunt)).run h (reset h s).2).made
      (.called (.writeMonitor 0 resetBit) (.ok ()) :: rest.1, rest.2) := by
    have same : (h (.writeMonitor 0 resetBit) s).1 = .ok () := written
    rw [run_start, Program.run, same]
    rfl
  rw [made_bind] at ran
  simp only [Outcome.made, Prod.mk.injEq] at waited ran
  obtain ⟨polled, result', state⟩ := waited
  rw [polled, result', state] at ran
  rw [resetting, written]
  exact ⟨ran.2.1, ran.1⟩

theorem start_of_settled {i : Nat} (within : i < 10) (still : StillReset h s i) {result : Except Error Unit}
    (answer : settled (configurationRead h s i) = some result) :
    let run := (start shunt).run.run h s
    let rest := (afterWait shunt result).run h (asked h (.readMonitor 0) (i + 1) (reset h s).2)
    run.result = rest.result ∧ calls run.events = resetting h s (i + 1) ++ calls rest.events :=
  start_of_wait shunt still.written <| (awaitReset_polls h).made_of_settled within
    (fun j below => settled_eq_none.mpr (still.shown j below)) answer

theorem start_of_failed {i : Nat} (within : i < 10) (still : StillReset h s i) {e : Error}
    (answer : configurationRead h s i = .error e) :
    let run := (start shunt).run.run h s
    run.result = .error e ∧ calls run.events = resetting h s (i + 1) := by
  obtain ⟨result, made⟩ := start_of_settled shunt within still (settled_eq_error.mpr answer)
  exact ⟨result, made.trans (List.append_nil _)⟩

theorem start_of_late (still : StillReset h s 10) :
    let run := (start shunt).run.run h s
    run.result = .error .timeout ∧ calls run.events = resetting h s 10 := by
  have waited := (awaitReset_polls h).made_of_open fun j below => settled_eq_none.mpr (still.shown j below)
  obtain ⟨result, made⟩ := start_of_wait shunt still.written waited
  exact ⟨result, made.trans (List.append_nil _)⟩

theorem start_of_unset {i : Nat} (within : i < 10) (still : StillReset h s i)
    (clear : OutOfReset (configurationRead h s i)) {e : Error} (unset : (configured h s (i + 1)).1 = .error e) :
    let run := (start shunt).run.run h s
    run.result = .error e ∧
      calls run.events = resetting h s (i + 1) ++ [.called (.writeMonitor 0 settings) (.error e)] := by
  obtain ⟨result, made⟩ := start_of_settled shunt within still (settled_eq_ok.mpr clear)
  have same : (h (.writeMonitor 0 settings) (asked h (.readMonitor 0) (i + 1) (reset h s).2)).1 = .error e := unset
  rw [afterWait, Program.run, same] at result made
  exact ⟨result, made⟩

theorem start_of_set {i : Nat} (within : i < 10) (still : StillReset h s i)
    (clear : OutOfReset (configurationRead h s i)) (set : (configured h s (i + 1)).1 = .ok ()) :
    let run := (start shunt).run.run h s
    run.result = (calibrated h s shunt (i + 1)).1 ∧ calls run.events = resetting h s (i + 1) ++
      [.called (.writeMonitor 0 settings) (.ok ()),
        .called (.writeMonitor 5 (calibrationFor shunt)) (calibrated h s shunt (i + 1)).1] := by
  obtain ⟨result, made⟩ := start_of_settled shunt within still (settled_eq_ok.mpr clear)
  have same : (h (.writeMonitor 0 settings) (asked h (.readMonitor 0) (i + 1) (reset h s).2)).1 = .ok () := set
  rw [afterWait, Program.run, same] at result made
  exact ⟨result, made⟩

theorem start_guarded :
    let made := calls ((start shunt).run.run h s).events
    ∃ n ≤ 10, ∃ writes, made = resetting h s n ++ writes ∧ (∀ r x, .called (.readMonitor r) x ∉ writes) ∧
      (writes ≠ [] → ∃ i < n, StillReset h s i ∧ OutOfReset (configurationRead h s i)) := by
  intro made
  have plain {n : Nat} (few : n ≤ 10) (same : made = resetting h s n) : ∃ n ≤ 10, ∃ writes,
      made = resetting h s n ++ writes ∧ (∀ r x, .called (.readMonitor r) x ∉ writes) ∧
        (writes ≠ [] → ∃ i < n, StillReset h s i ∧ OutOfReset (configurationRead h s i)) :=
    ⟨n, few, [], same.trans (List.append_nil _).symm, nofun, fun some => absurd rfl some⟩
  cases written : (reset h s).1 with
  | error e => exact plain (Nat.zero_le _) (start_of_refused shunt written).2
  | ok _ =>
    obtain ⟨i, within, result, answer, before⟩ | unsettled := settled_or_open settled (configurationRead h s) 10
    · have still : StillReset h s i := ⟨written, fun j below => settled_eq_none.mp (before j below)⟩
      cases result with
      | error e => exact plain within (start_of_failed shunt within still (settled_eq_error.mp answer)).2
      | ok _ =>
        have clear := settled_eq_ok.mp answer
        cases set : (configured h s (i + 1)).1 with
        | error e =>
          refine ⟨i + 1, within, _, (start_of_unset shunt within still clear set).2, ?_, fun _ => ?_⟩
          · simp
          · exact ⟨i, Nat.lt_succ_self i, still, clear⟩
        | ok _ =>
          refine ⟨i + 1, within, _, (start_of_set shunt within still clear set).2, ?_, fun _ => ?_⟩
          · simp
          · exact ⟨i, Nat.lt_succ_self i, still, clear⟩
    · have still : StillReset h s 10 := ⟨written, fun j below => settled_eq_none.mp (unsettled j below)⟩
      exact plain (Nat.le_refl _) (start_of_late shunt still).2

theorem starts (h : Handler interface σ) (s : σ) :
    let run := (start shunt).run.run h s
    Starts shunt h s run.result (calls run.events) where
  refused _ := start_of_refused shunt
  failed _ within still _ := start_of_failed shunt within still
  late := start_of_late shunt
  unset _ within still clear _ := start_of_unset shunt within still clear
  set _ within still clear := start_of_set shunt within still clear
  guarded := start_guarded shunt

end Run

end PowerMonitor

/-- Polling is bounded. The wait of an opening asks the firmware as often as it takes and no more than the
setup has it, and opening a board is this wait after the version of the firmware was read, and fails where the
wait does. The power monitor is asked for its configuration ten times at most. -/
theorem polling_bounded :
    (∀ (setup : Setup) (b : Board) (polls n : Nat) {σ : Type} (h : Handler boardInterface σ) (s : σ),
      let run := ((Board.awaitReady polls n setup).run b).run h s
      ∃ made, calls run.events = replies h (.inl .isReady) s made ∧ run.result.2 = b ∧
        Board.AwaitsReady (reply h (.inl .isReady) s) n run.result.1 made) ∧
    (∀ (setup : Setup) {σ : Type} (h : Handler boardInterface σ) (s : σ) (v : Version),
      (h (.inl .firmwareVersion) s).1 = .ok v →
        let polls := setup.config.readyPolls
        let wait := ((Board.awaitReady polls polls setup).run (Board.identified setup v)).run h
          (h (.inl .firmwareVersion) s).2
        let run := (Board.start setup).run h s
        ∃ rest, calls run.events = .called (.inl .firmwareVersion) (.ok v) :: (calls wait.events ++ rest) ∧
          ∀ e, wait.result.1 = .error e → rest = [] ∧ run.result = .error e) ∧
    ∀ (shunt : Float32) {σ : Type} (h : Handler Transport.interface σ) (s : σ),
      let run := (PowerMonitor.start shunt).run.run h s
      PowerMonitor.Starts shunt h s run.result (calls run.events) :=
  ⟨fun setup b polls _ _ h s => Board.run_awaitReady h setup b s polls,
    fun setup _ h s _ told => Board.run_start_wait setup h s told,
    fun shunt _ h s => PowerMonitor.starts shunt h s⟩

/-- The transport of the bench by itself. -/
def Bench.transportHandler : Handler Transport.interface Bench := fun c b =>
  let (reply, b) := transport c b
  (.ok reply, b)

/-- A firmware that is ready when it is asked for the fourth time, and a power monitor that is never. -/
theorem polling_bounded_busy :
    let world : Bench := { Bench.configured with busyPolls := 3, resetPolls := 10 }
    let waited := ((Board.awaitReady 30 30 .plain).run {}).run Bench.handler world
    let opened := (Board.start .plain).run Bench.handler world
    let monitored := (PowerMonitor.start 0.001).run.run Bench.transportHandler world
    waited.result.1 = .ok () ∧ (calls waited.events).length = 4 ∧
      (∃ rest, calls opened.events = .called (.inl .firmwareVersion) (.ok ⟨2, 6, 0⟩) :: rest) ∧
      monitored.result = .error .timeout ∧ (calls monitored.events).length = 11 := by
  intro world waited opened monitored
  have busy : ∀ j < 3, reply Bench.handler (.inl .isReady) world j = .ok false := by
    intro j below
    obtain rfl | rfl | rfl : j = 0 ∨ j = 1 ∨ j = 2 := by omega
    all_goals rfl
  have still : PowerMonitor.StillReset Bench.transportHandler world 10 :=
    ⟨rfl, by decide +kernel⟩
  obtain ⟨first, second, third⟩ := polling_bounded
  obtain ⟨made, polled, _, wait⟩ := first .plain {} 30 30 Bench.handler world
  obtain ⟨rest, opening, _⟩ := second .plain Bench.handler world ⟨2, 6, 0⟩ rfl
  obtain ⟨late, reads⟩ := (third 0.001 Bench.transportHandler world).late still
  refine ⟨wait.succeeds.mpr ⟨3, by decide, rfl, busy⟩, ?_, ⟨_, opening⟩, late, ?_⟩
  · rw [polled, wait.ready 3 (by decide) busy rfl]
    rfl
  · rw [reads]
    rfl

end RadioBoard
