import RadioBoard.Board.Basic
import RadioBoard.Proofs.History

/-!
Actions of the board under a contract.

`Meets` follows an action from a board and a state of the world and keeps its two ways out apart: one
condition for the result, one for the error. There is one rule for each way to build an action and one for
each kind of call; each says exactly when the action meets its conditions.
-/

namespace RadioBoard.Board

theorem withSync_of_sync {b : Board} {d : Direction} (h : b.sync d = none) : b.withSync none d = b := by
  cases d
  all_goals
    simp only [sync] at h
    simp [withSync, ← h]

/-- A stream of the board's has no part in its stage or in its driver. -/
theorem withSync_keeps (b : Board) (h : Option Streaming.SyncHandle) (d : Direction) :
    (b.withSync h d).stage = b.stage ∧ (b.withSync h d).rfic = b.rfic := by
  cases d <;> exact ⟨rfl, rfl⟩

theorem sync_withSync (b : Board) (h : Option Streaming.SyncHandle) (d e : Direction) :
    (b.withSync h d).sync e = if e = d then h else b.sync e := by
  cases d <;> cases e <;> rfl

variable {σ α β : Type} (K : Contract boardInterface σ) (setup : Setup)

def Meets (act : Action α) (b : Board) (s : σ) (ok : α → Board → σ → Prop)
    (fail : Error → Board → σ → Prop) : Prop :=
  Program.Meets K ((act setup).run b) s fun r t =>
    match r.1 with
    | .ok a => ok a r.2 t
    | .error e => fail e r.2 t

/-- An action after another is skipped by an error. -/
theorem run_bind (act : Action α) (f : α → Action β) (b : Board) :
    ((act >>= f) setup).run b = ((act setup).run b).bind fun r => match r.1 with
      | .ok a => (f a setup).run r.2
      | .error e => .done (.error e, r.2) := by
  change Program.bind _ _ = _
  congr 1
  funext r
  rcases r with ⟨r | r, b'⟩ <;> rfl

variable {K setup} {b : Board} {s : σ} {fail : Error → Board → σ → Prop}

theorem Meets.mono {act : Action α} {ok ok' : α → Board → σ → Prop} {fail' : Error → Board → σ → Prop}
    (h : Meets K setup act b s ok fail) (good : ∀ a b t, ok a b t → ok' a b t)
    (bad : ∀ e b t, fail e b t → fail' e b t) : Meets K setup act b s ok' fail' := by
  apply Program.Meets.mono h
  intro r t post
  rcases r with ⟨r | r, b'⟩
  · exact bad r b' t post
  · exact good r b' t post

/-- The same, for a condition on board and world that does not depend on the way out. -/
theorem Meets.imp {act : Action α} {post out : Board → σ → Prop}
    (h : Meets K setup act b s (fun _ => post) fun _ => post) (implies : ∀ b t, post b t → out b t) :
    Meets K setup act b s (fun _ => out) fun _ => out := by
  apply h.mono
  · intro _ b' t
    exact implies b' t
  · intro _ b' t
    exact implies b' t

theorem meets_true (allowed : ∀ s c, K.allows s c) (act : Action α) :
    Meets K setup act b s (fun _ _ _ => True) fun _ _ _ => True := by
  apply Program.Meets.mono (Program.meets_true allowed _ s)
  rintro ⟨r | r, b'⟩ t _
  · trivial
  · trivial

theorem Meets.and {act : Action α} {ok also : α → Board → σ → Prop} {fail' : Error → Board → σ → Prop}
    (first : Meets K setup act b s ok fail) (second : Meets K setup act b s also fail') :
    Meets K setup act b s (fun a b' t => ok a b' t ∧ also a b' t) fun e b' t => fail e b' t ∧ fail' e b' t := by
  apply Program.Meets.mono (Program.Meets.and first second)
  intro r t post
  rcases r with ⟨r | r, b'⟩
  · exact post
  · exact post

theorem Meets.both {τ : Type} {L : Contract boardInterface τ} {t : τ} {act : Action α}
    {ok : α → Board → σ → Prop} {ok' : α → Board → τ → Prop} {fail' : Error → Board → τ → Prop}
    (first : Meets K setup act b s ok fail) (second : Meets L setup act b t ok' fail') :
    Meets (K.both L) setup act b (s, t) (fun a b' u => ok a b' u.1 ∧ ok' a b' u.2)
      fun e b' u => fail e b' u.1 ∧ fail' e b' u.2 := by
  apply Program.Meets.mono (Program.Meets.both first second)
  intro r u post
  rcases r with ⟨r | r, b'⟩
  · exact post
  · exact post

/-- The two ways out of an action. -/
theorem result_cases {ok : α → Board → σ → Prop} {t : σ} (r : Except Error α × Board)
    (ended : match r.1 with
      | .ok a => ok a r.2 t
      | .error e => fail e r.2 t) :
    (∃ a, r = (.ok a, r.2) ∧ ok a r.2 t) ∨ ∃ e, r = (.error e, r.2) ∧ fail e r.2 t := by
  rcases r with ⟨e | a, b⟩
  · exact .inr ⟨e, rfl, ended⟩
  · exact .inl ⟨a, rfl, ended⟩

/-- A run of an action, with collaborators that keep the contract. -/
theorem Meets.run {τ : Type} {h : Handler boardInterface τ} {rel : τ → σ → Prop} (kept : K.KeptBy h rel)
    {act : Action α} {t : τ} {ok : α → Board → σ → Prop} (start : rel t s)
    (met : Meets K setup act b s ok fail) :
    let run := ((act setup).run b).run h t
    ∃ s', K.Leads s run.events s' ∧ rel run.state s' ∧
      ((∃ a, run.result = (.ok a, run.result.2) ∧ ok a run.result.2 s') ∨
        ∃ e, run.result = (.error e, run.result.2) ∧ fail e run.result.2 s') := by
  obtain ⟨s', leads, post, last⟩ := Program.Meets.run kept start met
  exact ⟨s', leads, last, result_cases _ post⟩

/-- A run of an action with its trace, with collaborators that keep the contract. -/
theorem Meets.traced {τ : Type} {h : Handler boardInterface τ} {rel : τ → σ → Prop} (kept : K.KeptBy h rel)
    {act : Action α} {t : τ} {ok : α → Board → σ × List (Event boardInterface) → Prop}
    {fail : Error → Board → σ × List (Event boardInterface) → Prop} (start : rel t s)
    (met : Meets (K.both .tracing) setup act b (s, []) ok fail) :
    let run := ((act setup).run b).run h t
    ∃ s', rel run.state s' ∧
      ((∃ a, run.result = (.ok a, run.result.2) ∧ ok a run.result.2 (s', calls run.events)) ∨
        ∃ e, run.result = (.error e, run.result.2) ∧ fail e run.result.2 (s', calls run.events)) := by
  obtain ⟨s', last, post⟩ := Program.Meets.traced kept start met
  exact ⟨s', last, result_cases _ post⟩

/-- A run of an action with its trace, with any collaborators. -/
theorem Meets.recorded {act : Action α} {ok : α → Board → List (Event boardInterface) → Prop}
    {fail : Error → Board → List (Event boardInterface) → Prop} (met : Meets .tracing setup act b [] ok fail)
    {τ : Type} (h : Handler boardInterface τ) (t : τ) :
    let run := ((act setup).run b).run h t
    (∃ a, run.result = (.ok a, run.result.2) ∧ ok a run.result.2 (calls run.events)) ∨
      ∃ e, run.result = (.error e, run.result.2) ∧ fail e run.result.2 (calls run.events) := by
  intro run
  have post := (Program.Meets.recorded met h t).2
  rw [Contract.record_trace] at post
  exact result_cases run.result post

/-- An action without calls leaves its collaborators alone. -/
theorem Meets.silent {act : Action α} {ok : α → Board → Unit → Prop} {fail : Error → Board → Unit → Prop}
    (met : Meets (.only fun _ => False) setup act b () ok fail) {τ : Type} (h : Handler boardInterface τ)
    (t : τ) :
    let run := ((act setup).run b).run h t
    run.state = t ∧ calls run.events = [] ∧
      ((∃ a, run.result = (.ok a, run.result.2) ∧ ok a run.result.2 ()) ∨
        ∃ e, run.result = (.error e, run.result.2) ∧ fail e run.result.2 ()) := by
  obtain ⟨post, state, silent⟩ := Program.Meets.silent met h t
  exact ⟨state, silent, result_cases _ post⟩

/-! A program over the transport becomes an action step by step. -/

section Transport

theorem run_onTransport (act : Transport.Action α) :
    ((onTransport act setup).run b) = act.run.left.bind fun r => .done (r, b) := by
  change Program.bind (Program.bind act.run.left _) _ = _
  rw [Program.bind_assoc]
  congr 1
  funext r
  cases r <;> rfl

@[simp] theorem onTransport_pure (a : α) : onTransport (pure a) = (pure a : Action α) := rfl

@[simp] theorem onTransport_throw (e : Error) : onTransport (throw e) = (throw e : Action α) := rfl

@[simp] theorem onTransport_logError (text : String) :
    onTransport (logError text) = (logError text : Action Unit) := rfl

@[simp] theorem onTransport_pause (ms : Nat) : onTransport (pause ms) = (pause ms : Action Unit) := rfl

@[simp] theorem onTransport_bind (act : Transport.Action α) (f : α → Transport.Action β) :
    onTransport (act >>= f) = (onTransport act >>= fun a => onTransport (f a) : Action β) := by
  funext setup b
  change (onTransport (act >>= f) setup).run b = ((onTransport act >>= fun a => onTransport (f a)) setup).run b
  rw [run_bind, run_onTransport, run_onTransport]
  change (Program.left (Program.bind act.run _)).bind _ = _
  rw [Program.left_bind, Program.bind_assoc, Program.bind_assoc]
  congr 1
  funext r
  cases r with
  | error e => rfl
  | ok a => exact (run_onTransport (f a)).symm

@[simp] theorem onTransport_map (act : Transport.Action α) (f : α → β) :
    onTransport (f <$> act) = (f <$> onTransport act : Action β) := by
  rw [map_eq_pure_bind, map_eq_pure_bind, onTransport_bind]
  rfl

@[simp] theorem onTransport_ite (p : Prop) [Decidable p] (x y : Transport.Action α) :
    onTransport (if p then x else y) = (if p then onTransport x else onTransport y : Action α) := by
  split <;> rfl

end Transport

section Rules

variable {ok : α → Board → σ → Prop}

@[simp] theorem meets_pure (a : α) : Meets K setup (pure a) b s ok fail ↔ ok a b s := Iff.rfl

@[simp] theorem meets_throw (e : Error) :
    Meets K setup (throw e : Action α) b s ok fail ↔ fail e b s := Iff.rfl

@[simp] theorem meets_bind (act : Action α) (f : α → Action β) {ok : β → Board → σ → Prop} :
    Meets K setup (act >>= f) b s ok fail ↔
      Meets K setup act b s (fun a b t => Meets K setup (f a) b t ok fail) fail := by
  rw [Meets, run_bind, Program.meets_bind, Meets]
  apply iff_of_eq
  congr 1
  funext r t
  rcases r with ⟨r | r, b'⟩ <;> rfl

@[simp] theorem meets_map (f : α → β) (act : Action α) {ok : β → Board → σ → Prop} :
    Meets K setup (f <$> act) b s ok fail ↔
      Meets K setup act b s (fun a b t => ok (f a) b t) fail := by
  rw [map_eq_pure_bind, meets_bind]
  rfl

@[simp] theorem meets_read {ok : Setup → Board → σ → Prop} :
    Meets K setup read b s ok fail ↔ ok setup b s := Iff.rfl

@[simp] theorem meets_get {ok : Board → Board → σ → Prop} :
    Meets K setup get b s ok fail ↔ ok b b s := Iff.rfl

@[simp] theorem meets_modify (f : Board → Board) {ok : Unit → Board → σ → Prop} :
    Meets K setup (modify f) b s ok fail ↔ ok () (f b) s := Iff.rfl

@[simp] theorem meets_note (n : Note) {ok : Unit → Board → σ → Prop} :
    Meets K setup (note n) b s ok fail ↔ ok () b s := Iff.rfl

@[simp] theorem meets_logError (text : String) {ok : Unit → Board → σ → Prop} :
    Meets K setup (logError text) b s ok fail ↔ ok () b s := Iff.rfl

@[simp] theorem meets_logWarn (text : String) {ok : Unit → Board → σ → Prop} :
    Meets K setup (logWarn text) b s ok fail ↔ ok () b s := Iff.rfl

@[simp] theorem meets_logInfo (text : String) {ok : Unit → Board → σ → Prop} :
    Meets K setup (logInfo text) b s ok fail ↔ ok () b s := Iff.rfl

@[simp] theorem meets_pause (ms : Nat) {ok : Unit → Board → σ → Prop} :
    Meets K setup (pause ms) b s ok fail ↔ ok () b s := Iff.rfl

@[simp] theorem meets_ite (p : Prop) [Decidable p] (x y : Action α) :
    Meets K setup (if p then x else y) b s ok fail ↔
      (p → Meets K setup x b s ok fail) ∧ (¬p → Meets K setup y b s ok fail) := by
  by_cases hp : p <;> simp [hp]

/-- A step only adds to the log. -/
@[simp] theorem meets_step (operation what : String) (act : Action α) :
    Meets K setup (step operation what act) b s ok fail ↔ Meets K setup act b s ok fail := by
  have split : ((step operation what act setup).run b) =
      ((act setup).run b).bind fun r => match r.1 with
        | .ok a => .done (.ok a, r.2)
        | .error e =>
          .say (.log .error s!"{operation}: {what} failed: {e.message}") (.done (.error e, r.2)) := by
    change Program.bind _ _ = _
    congr 1
    funext r
    rcases r with ⟨r | r, b'⟩ <;> rfl
  rw [Meets, split, Program.meets_bind, Meets]
  apply iff_of_eq
  congr 1
  funext r t
  rcases r with ⟨r | r, b'⟩ <;> rfl

@[simp] theorem meets_expect (required : Stage) {ok : Unit → Board → σ → Prop} :
    Meets K setup (expect required) b s ok fail ↔
      (required ≤ b.stage → ok () b s) ∧
      (b.stage < required → fail (.notReady required.name b.stage.name) b s) := by
  have order : ¬b.stage < required ↔ required ≤ b.stage := Nat.not_lt
  simp [expect, order, and_comm]

theorem meets_expect_of_le {required : Stage} (reached : required ≤ b.stage)
    {ok : Unit → Board → σ → Prop} :
    Meets K setup (expect required) b s ok fail ↔ ok () b s := by
  have ready : ¬b.stage < required := Nat.not_lt.mpr reached
  simp [reached, ready]

/-- The last stage is only reached at the last stage. -/
theorem initialized_le_iff (s : Stage) : .initialized ≤ s ↔ s = .initialized := by
  constructor
  · intro reached
    cases s
    case initialized => rfl
    all_goals exact absurd reached (by decide)
  · intro last
    rw [last]
    decide

theorem le_of_initialized (last : b.stage = .initialized) (required : Stage) : required ≤ b.stage := by
  rw [last]
  cases required <;> decide

/-- At the last stage nothing is refused. -/
theorem meets_past_expect (last : b.stage = .initialized) (required : Stage) (act : Unit → Action α)
    {ok : α → Board → σ → Prop} :
    Meets K setup (expect required >>= act) b s ok fail ↔ Meets K setup (act ()) b s ok fail := by
  rw [meets_bind, meets_expect_of_le (le_of_initialized last required)]

theorem meets_expect_initialized {ok : Unit → Board → σ → Prop} :
    Meets K setup (expect .initialized) b s ok fail ↔
      (b.stage = .initialized → ok () b s) ∧
      (b.stage ≠ .initialized → fail (.notReady Stage.initialized.name b.stage.name) b s) := by
  have order : b.stage < .initialized ↔ b.stage ≠ .initialized := by
    rw [Ne, ← initialized_le_iff]
    exact Nat.not_le.symm
  rw [meets_expect, initialized_le_iff, order]

end Rules

/-! Calls: allowed in this state, and followed by what each answer calls for. -/

section Calls

theorem meets_peer (c : Peer.Call) {ok : c.Answer → Board → σ → Prop} :
    Meets K setup (peer c) b s ok fail ↔
      K.allows s (.inr c) ∧ ∀ x t, K.answers s (.inr c) x t → ok x b t := Iff.rfl

private theorem forall_answer {ε ρ : Type} (answers ok : Except ε ρ → σ → Prop) :
    (∀ x t, answers x t → ok x t) ↔
      (∀ a t, answers (.ok a) t → ok (.ok a) t) ∧ ∀ e t, answers (.error e) t → ok (.error e) t := by
  constructor
  · intro h
    exact ⟨fun a => h (.ok a), fun e => h (.error e)⟩
  · intro h x
    cases x with
    | error e => exact h.2 e
    | ok a => exact h.1 a

@[simp] theorem meets_onTransport_perform (c : Transport.Call) {ok : c.Reply → Board → σ → Prop} :
    @Meets σ (no_index _) K setup (onTransport (Transport.perform c)) b s ok fail ↔
      K.allows s (.inl c) ∧ (∀ a t, K.answers s (.inl c) (Except.ok a) t → ok a b t) ∧
      ∀ e t, K.answers s (.inl c) (Except.error e) t → fail e b t := by
  rw [onTransport, meets_bind]
  exact and_congr Iff.rfl (forall_answer (K.answers s (.inl c)) _)

@[simp] theorem meets_transport (operation : String) (c : Transport.Call) (detail : String)
    {ok : c.Reply → Board → σ → Prop} :
    @Meets σ (no_index _) K setup (transport operation c detail) b s ok fail ↔
      K.allows s (.inl c) ∧ (∀ a t, K.answers s (.inl c) (Except.ok a) t → ok a b t) ∧
      ∀ e t, K.answers s (.inl c) (Except.error e) t → fail e b t := by
  rw [transport, meets_step, meets_onTransport_perform]

@[simp] theorem meets_flash (operation : String) (c : Flash.Call) {ok : c.Reply → Board → σ → Prop} :
    @Meets σ (no_index _) K setup (flash operation c) b s ok fail ↔
      K.allows s (.inr (.flash c)) ∧
      (∀ a t, K.answers s (.inr (.flash c)) (Except.ok a) t → ok a b t) ∧
      ∀ e t, K.answers s (.inr (.flash c)) (Except.error e) t → fail e b t := by
  rw [flash, meets_step, meets_bind, meets_peer]
  exact and_congr Iff.rfl (forall_answer (K.answers s (.inr (.flash c))) _)

@[simp] theorem meets_streaming (operation : String) (c : Streaming.Call)
    {ok : c.Reply → Board → σ → Prop} :
    @Meets σ (no_index _) K setup (streaming operation c) b s ok fail ↔
      K.allows s (.inr (.streaming c)) ∧
      (∀ a t, K.answers s (.inr (.streaming c)) (Except.ok a) t → ok a b t) ∧
      ∀ e t, K.answers s (.inr (.streaming c)) (Except.error e) t → fail e b t := by
  rw [streaming, meets_step, meets_bind, meets_peer]
  exact and_congr Iff.rfl (forall_answer (K.answers s (.inr (.streaming c))) _)

@[simp] theorem meets_trigger (operation : String) (c : Trigger.Call)
    {ok : c.Reply → Board → σ → Prop} :
    @Meets σ (no_index _) K setup (trigger operation c) b s ok fail ↔
      K.allows s (.inr (.trigger c)) ∧
      (∀ a t, K.answers s (.inr (.trigger c)) (Except.ok a) t → ok a b t) ∧
      ∀ e t, K.answers s (.inr (.trigger c)) (Except.error e) t → fail e b t := by
  rw [trigger, meets_step, meets_bind, meets_peer]
  exact and_congr Iff.rfl (forall_answer (K.answers s (.inr (.trigger c))) _)

@[simp] theorem meets_removeStream (h : Streaming.StreamHandle) {ok : Unit → Board → σ → Prop} :
    @Meets σ (no_index _) K setup (peer (.removeStream h)) b s ok fail ↔
      K.allows s (.inr (.removeStream h)) ∧
      ∀ t, K.answers s (.inr (.removeStream h)) () t → ok () b t :=
  and_congr Iff.rfl ⟨fun h => h (), fun h _ => h⟩

/-- The transceiver driver fails with status codes. -/
@[simp] theorem meets_rfic (d : Rfic.Handle) (c : Rfic.Call) {ok : Except Int32 c.Reply → Board → σ → Prop} :
    @Meets σ (no_index _) K setup (peer (.rfic d c)) b s ok fail ↔
      K.allows s (.inr (.rfic d c)) ∧
      (∀ a t, K.answers s (.inr (.rfic d c)) (Except.ok a) t → ok (.ok a) b t) ∧
      ∀ code t, K.answers s (.inr (.rfic d c)) (Except.error code) t → ok (.error code) b t :=
  and_congr Iff.rfl (forall_answer (K.answers s (.inr (.rfic d c))) (ok · b))

@[simp] theorem meets_startRfic (params : Rfic.Params)
    {ok : Except Int32 Rfic.Handle → Board → σ → Prop} :
    @Meets σ (no_index _) K setup (peer (.startRfic params)) b s ok fail ↔
      K.allows s (.inr (.startRfic params)) ∧
      (∀ a t, K.answers s (.inr (.startRfic params)) (Except.ok a) t → ok (.ok a) b t) ∧
      ∀ code t, K.answers s (.inr (.startRfic params)) (Except.error code) t → ok (.error code) b t :=
  and_congr Iff.rfl (forall_answer (K.answers s (.inr (.startRfic params))) (ok · b))

@[simp] theorem throwIfStatus_ok (a : α) : throwIfStatus (.ok a) = (pure a : Action α) := rfl

@[simp] theorem throwIfStatus_error (code : Int32) :
    throwIfStatus (.error code) = (throw (.ofStatus code) : Action α) := rfl

@[simp] theorem meets_driver {ok : Rfic.Handle → Board → σ → Prop} :
    Meets K setup driver b s ok fail ↔
      (∀ d, b.rfic = some d → ok d b s) ∧ (b.rfic = none → fail .unexpected b s) := by
  rw [driver, meets_bind, meets_get]
  cases b.rfic <;> simp

theorem meets_driver_of_some {d : Rfic.Handle} (held : b.rfic = some d)
    {ok : Rfic.Handle → Board → σ → Prop} :
    Meets K setup driver b s ok fail ↔ ok d b s := by
  simp [held]

@[simp] theorem meets_transceiver (operation : String) (c : Rfic.Call) (detail : String)
    {ok : c.Reply → Board → σ → Prop} :
    @Meets σ (no_index _) K setup (transceiver operation c detail) b s ok fail ↔
      (∀ d, b.rfic = some d → K.allows s (.inr (.rfic d c)) ∧
        (∀ a t, K.answers s (.inr (.rfic d c)) (Except.ok a) t → ok a b t) ∧
        ∀ code t, K.answers s (.inr (.rfic d c)) (Except.error code) t →
          fail (.ofStatus code) b t) ∧
      (b.rfic = none → fail .unexpected b s) := by
  simp [transceiver]

@[simp] theorem meets_stopSync (d : Direction) {ok : Unit → Board → σ → Prop} :
    @Meets σ (no_index _) K setup (stopSync d) b s ok fail ↔
      (∀ h, b.sync d = some h → K.allows s (.inr (.stopSync h)) ∧
        ∀ t, K.answers s (.inr (.stopSync h)) () t → ok () (b.withSync none d) t) ∧
      (b.sync d = none → ok () b s) := by
  rw [stopSync, meets_bind, meets_get]
  cases hb : b.sync d with
  | none => simp
  | some h =>
    have unit : (∀ x t, K.answers s (.inr (.stopSync h)) x t → ok x (b.withSync none d) t) ↔
        ∀ t, K.answers s (.inr (.stopSync h)) () t → ok () (b.withSync none d) t :=
      ⟨fun h => h (), fun h _ => h⟩
    simpa using (meets_peer (.stopSync h)).trans (and_congr Iff.rfl unit)

@[simp] theorem meets_releaseRfic {ok : Unit → Board → σ → Prop} :
    Meets K setup releaseRfic b s ok fail ↔
      (∀ h, b.rfic = some h → K.allows s (.inr (.releaseRfic h)) ∧
        ∀ t, K.answers s (.inr (.releaseRfic h)) () t → ok () { b with rfic := none } t) ∧
      (b.rfic = none → ok () b s) := by
  rw [releaseRfic, meets_bind, meets_get]
  cases hb : b.rfic with
  | none => simp
  | some h =>
    have unit (b : Board) : (∀ x t, K.answers s (.inr (.releaseRfic h)) x t → ok x b t) ↔
        ∀ t, K.answers s (.inr (.releaseRfic h)) () t → ok () b t :=
      ⟨fun h => h (), fun h _ => h⟩
    simpa using (meets_peer (.releaseRfic h)).trans (and_congr Iff.rfl (unit _))

end Calls

end RadioBoard.Board
