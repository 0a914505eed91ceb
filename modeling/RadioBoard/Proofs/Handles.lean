import RadioBoard.Proofs.FailStop
import RadioBoard.Proofs.Ledger
import RadioBoard.Proofs.Session

/-!
Handles: every one that is handed out is given back.

A careful action keeps the ledger balanced: what was handed out is what was given back and what the board
still has. Main statement, for collaborators that fail as they like: from the opening of a board to its end
each handle is given back as often as it was handed out, no call is made on one that is not out, no place
has two at a time, and the end gives back streams first and the driver last.
-/

namespace RadioBoard.Board

variable {α β : Type}

/-- The action keeps the ledger balanced with what the board has. -/
def Careful (act : Action α) : Prop :=
  ∀ setup b s, Carries b s → Meets Ledger.contract setup act b s (fun _ => Carries) fun _ => Carries

namespace Careful

theorem pure (a : α) : Careful (pure a) := fun _ _ _ carries => carries

theorem throw (e : Error) : Careful (throw e : Action α) := fun _ _ _ carries => carries

theorem bind {act : Action α} {f : α → Action β} (first : Careful act) (rest : ∀ a, Careful (f a)) :
    Careful (act >>= f) := by
  intro setup b s carries
  rw [meets_bind]
  apply (first setup b s carries).mono
  · intro a b' t carries
    exact rest a setup b' t carries
  · intro e b' t carries
    exact carries

theorem step {act : Action α} (operation what : String) (h : Careful act) :
    Careful (Board.step operation what act) := by
  intro setup b s carries
  rw [meets_step]
  exact h setup b s carries

theorem expect (required : Stage) : Careful (Board.expect required) := by
  intro setup b s carries
  rw [meets_expect]
  exact ⟨fun _ => carries, fun _ => carries⟩

theorem modify {f : Board → Board} (same : ∀ b, (f b).rfic = b.rfic ∧ streams (f b) = streams b) :
    Careful (modify f : Action Unit) :=
  fun _ b _ carries => carries.keep (loan_congr (same b).1 (same b).2)

theorem read : Careful (MonadReader.read : Action Setup) := fun _ _ _ carries => carries

/-- What is confined to no calls at all leaves everything as it is. -/
theorem of_confined {act : Action α} (h : Confined (fun _ => False) act) : Careful act := by
  intro setup b s carries
  apply (h.under (· = s) rfl (fun _ never => never.elim) setup b).imp
  intro b' t post
  rw [post.1, post.2]
  exact carries

end Careful

theorem onTransport_careful (act : Transport.Action α) : Careful (onTransport act) := by
  intro setup b s carries
  have met : (act.run.left : Program boardInterface (Except Error α)).Meets Ledger.contract s
      fun _ t => t = s := by
    induction act.run with
    | done r => rfl
    | say n p ih => exact ih
    | call c k ih =>
      refine ⟨Ledger.allows_of_none rfl rfl, fun x t answer => ?_⟩
      rw [Ledger.contract_answers] at answer
      rw [answer]
      exact ih x
  rw [Meets, run_onTransport, Program.meets_bind]
  apply met.mono
  intro r t same
  rw [same]
  cases r <;> exact carries

theorem transport_careful (operation : String) (c : Transport.Call) (detail : String) :
    Careful (transport operation c detail) :=
  (onTransport_careful _).step _ _

/-- A call to the driver, by whatever name it is logged. -/
theorem driverCall_careful (operation what : String) (c : Rfic.Call) : Careful (do
    let handle ← driver
    Board.step operation what do throwIfStatus (← peer (.rfic handle c))) := by
  intro setup b s carries
  rw [meets_bind, meets_driver]
  refine ⟨fun h held => ?_, fun _ => carries⟩
  obtain ⟨allowed, still⟩ := carries.modest (c := .inr (.rfic h c)) held
  rw [meets_step, meets_bind, meets_rfic]
  refine ⟨allowed, fun a t answer => ?_, fun e t answer => ?_⟩
  all_goals
    rw [Ledger.contract_answers, still] at answer
    rw [answer]
    exact carries

theorem transceiver_careful (operation : String) (c : Rfic.Call) (detail : String) :
    Careful (transceiver operation c detail) := driverCall_careful operation (c.name ++ detail) c

theorem loan_withSync (b : Board) (x : Option Streaming.SyncHandle) (d : Direction) (e : Slot) :
    (b.withSync x d).loan e = if e = .stream d then x.map .stream else b.loan e := by
  cases e with
  | driver => cases d <;> rfl
  | stream d' => cases d <;> cases d' <;> rfl

theorem loan_rfic (b : Board) (x : Option Rfic.Handle) (e : Slot) :
    { b with rfic := x }.loan e = if e = .driver then x.map .driver else b.loan e := by
  cases e with
  | driver => rfl
  | stream d => cases d <;> rfl

variable {setup : Setup} {s : Ledger}

theorem meets_stopSync_carries (carries : Carries b s) (d : Direction) :
    Meets Ledger.contract setup (stopSync d) b s (fun _ b' t => Carries b' t ∧ b' = b.withSync none d)
      fun _ _ _ => False := by
  rw [meets_stopSync]
  refine ⟨fun h held => ?_, fun none => ⟨carries, (withSync_of_sync none).symm⟩⟩
  have own : b.loan (.stream d) = some (.stream h) := congrArg (Option.map Loan.stream) held
  refine ⟨Ledger.allows_of_isOut (carries.isOut own) rfl rfl, fun t answer => ?_⟩
  rw [Ledger.contract_answers] at answer
  rw [answer]
  exact ⟨carries.give own (loan_withSync b none d) rfl rfl, rfl⟩

theorem meets_releaseRfic_carries (carries : Carries b s) :
    Meets Ledger.contract setup releaseRfic b s
      (fun _ b' t => Carries b' t ∧ b' = { b with rfic := none }) fun _ _ _ => False := by
  rw [meets_releaseRfic]
  refine ⟨fun h held => ?_, fun none => ⟨carries, by rw [← none]⟩⟩
  have own : b.loan .driver = some (.driver h) := congrArg (Option.map Loan.driver) held
  refine ⟨Ledger.allows_of_isOut (carries.isOut own) rfl rfl, fun t answer => ?_⟩
  rw [Ledger.contract_answers] at answer
  rw [answer]
  exact ⟨carries.give own (loan_rfic b none) rfl rfl, rfl⟩

theorem startRfic_careful : Careful startRfic := by
  intro setup b s carries
  rw [startRfic, meets_bind]
  apply (meets_releaseRfic_carries carries).mono
  · rintro _ _ t ⟨carries, rfl⟩
    rw [meets_bind, meets_read, meets_bind, meets_step, meets_bind, meets_startRfic]
    refine ⟨Ledger.allows_of_idle (carries.idle rfl) rfl rfl, fun h u answer => ?_, fun code u answer => ?_⟩
    · rw [Ledger.contract_answers] at answer
      have started : Carries { b with rfic := some h } u := by
        rw [answer]
        exact carries.take rfl (fun e => by cases e <;> rfl) rfl
      rw [throwIfStatus_ok, meets_pure, meets_bind, meets_modify]
      exact (Careful.bind (transceiver_careful _ _ _) fun _ => .bind (transceiver_careful _ _ _) fun _ =>
        transceiver_careful _ _ _) setup _ u started
    · rw [Ledger.contract_answers] at answer
      rw [answer]
      exact carries
  · intro _ _ _ never
    exact never.elim

theorem setPortFor_careful (d : Direction) (enabled : Bool) (hz : UInt64) :
    Careful (setPortFor d enabled hz) := by
  refine .bind (.expect _) fun _ => .bind (.of_confined ?_) fun path => ?_
  · intro setup b
    simp
  · exact driverCall_careful _ _ _

theorem switchFor_careful (register : UInt32) (d : Direction) (enabled : Bool) (hz : UInt64) :
    Careful (switchFor register d enabled hz) := by
  apply Careful.of_confined
  intro setup b
  simp

theorem selectBand_careful (d : Direction) (hz : UInt64) : Careful (selectBand d hz) := by
  refine .bind (.expect _) fun _ => .bind (transport_careful _ _ _) fun register => ?_
  refine .bind (switchFor_careful _ d _ hz) fun register => ?_
  exact .bind ((setPortFor_careful d _ hz).step _ _) fun _ => transport_careful _ _ _

theorem switchModule_careful (d : Direction) (on : Bool) (hz : UInt64) : Careful (switchModule d on hz) := by
  refine .bind (transport_careful _ _ _) fun register => ?_
  refine .bind (switchFor_careful _ d on hz) fun register => ?_
  exact .bind (transport_careful _ _ _) fun _ => transport_careful _ _ _

theorem identifyFpga_careful : Careful identifyFpga := by
  refine .bind (transport_careful _ _ _) fun version => ?_
  refine .bind .read fun setup => .bind (.modify fun b => ⟨rfl, rfl⟩) fun _ => ?_
  apply Careful.of_confined
  intro setup b
  simp

theorem setUp_careful : Careful setUp := by
  refine .bind identifyFpga_careful fun _ => .bind (transport_careful _ _ _) fun _ => ?_
  refine .bind (transport_careful _ _ _) fun _ => .bind .read fun setup => ?_
  refine .bind ((onTransport_careful _).step _ _) fun _ => .bind startRfic_careful fun _ => ?_
  refine .bind (transport_careful _ _ _) fun register => .bind (transport_careful _ _ _) fun _ => ?_
  refine .bind ((selectBand_careful .tx _).step _ _) fun _ => ?_
  exact .bind ((selectBand_careful .rx _).step _ _) fun _ => .modify fun b => ⟨rfl, rfl⟩

theorem enableModule_careful (channel : UInt8) (on : Bool) : Careful (enableModule channel on) := by
  refine .bind (.expect _) fun _ => ?_
  cases on with
  | true =>
    refine .bind (.step _ _ ?_) fun hz => .bind ((setPortFor_careful _ _ _).step _ _) fun _ => ?_
    · exact .bind (.expect _) fun _ => transceiver_careful _ _ _
    · exact switchModule_careful _ _ _
  | false =>
    refine .bind (fun setup b s carries => ?_) fun _ => switchModule_careful _ _ _
    exact (meets_stopSync_carries carries _).mono (fun _ _ _ post => post.1) fun _ _ _ => False.elim

theorem configureSync_careful (layout : Layout) (format : SampleFormat)
    (buffers bufferSize transfers : UInt32) (timeoutMs : Nat) :
    Careful (configureSync layout format buffers bufferSize transfers timeoutMs) := by
  refine .bind (.expect _) fun _ => ?_
  intro setup b s carries
  rw [meets_bind, meets_get, meets_bind]
  apply (meets_stopSync_carries carries _).mono
  · rintro _ _ t ⟨carries, rfl⟩
    have free : (b.withSync none layout.direction).loan (.stream layout.direction) = none := by
      rw [loan_withSync, if_pos rfl]
      rfl
    rw [meets_bind, meets_streaming]
    refine ⟨Ledger.allows_of_idle (carries.idle free) rfl rfl, fun x u answer => ?_, fun e u answer => ?_⟩
    · rw [Ledger.contract_answers] at answer
      rw [meets_modify, answer]
      exact carries.take free (loan_withSync _ _ _) rfl
    · rw [Ledger.contract_answers] at answer
      rw [answer]
      exact carries
  · intro _ _ _ never
    exact never.elim

theorem loadFpga_careful (image : ByteArray) : Careful (loadFpga image) := by
  refine .bind (.expect _) fun _ => .bind (.of_confined ?_) fun _ => ?_
  · intro setup b
    simp
  refine .bind (transport_careful _ _ _) fun _ => .bind (.modify fun b => ⟨rfl, rfl⟩) fun _ => ?_
  exact setUp_careful.step _ _

theorem perform_careful (o : Operation) : Careful o.perform := by
  intro setup b s carries
  by_cases admits : Admits o b
  · cases trading : o.isTrading with
    | false =>
      have met := perform_orderly o trading setup b {} admits rfl
      have kept := Program.Meets.simulate (L := Ledger.contract) (fun _ t => t = s) met rfl ?_
      · apply kept.mono
        rintro r t ⟨course, rfl, post⟩
        rcases r with ⟨e | a, b'⟩
        · exact post.1 ▸ carries
        · exact post.1 ▸ carries
      · rintro course t c rfl allowed
        obtain ⟨allows, still⟩ := carries.modest allowed.2
        exact ⟨allows, fun x t' answer => ⟨_, rfl, answer.trans (still x)⟩⟩
    | true =>
      cases o
      case enableModule channel on => exact enableModule_careful channel on setup b s carries
      case configureSync layout format buffers bufferSize transfers timeoutMs =>
        exact configureSync_careful layout format buffers bufferSize transfers timeoutMs setup b s carries
      case loadFpga image => exact loadFpga_careful image setup b s carries
      all_goals cases trading
  · obtain ⟨required, needs, below⟩ := exists_lt_of_not_admits admits
    rw [Meets]
    change Program.Meets _ (o.attempt setup b) s _
    rw [attempt_of_lt needs below]
    exact carries

theorem awaitReady_careful (polls left : Nat) : Careful (awaitReady polls left) := by
  induction left with
  | zero =>
    apply Careful.of_confined
    intro setup b
    simp [awaitReady]
  | succ left ih =>
    refine .bind (transport_careful _ _ _) fun ready => ?_
    cases ready with
    | true => exact .pure _
    | false =>
      intro setup b s carries
      have next := ih setup b s carries
      simp [next]

theorem identifyBus_careful : Careful identifyBus := by
  refine .bind (transport_careful _ _ _) fun speed => ?_
  cases speed with
  | unknown => exact .throw _
  | high | super => exact .modify fun b => ⟨rfl, rfl⟩

theorem loadFromFiles_careful : Careful loadFromFiles := by
  refine .bind .read fun setup => ?_
  split
  · exact .of_confined fun _ _ => rfl
  · exact .of_confined fun _ _ => rfl
  · exact .bind (transport_careful _ _ _) fun _ => .pure true

theorem bringUp_careful : Careful bringUp := by
  have identified : Careful identifyFirmware := by
    refine .bind (transport_careful _ _ _) fun version => .bind .read fun setup => ?_
    exact .bind (.modify fun b => ⟨rfl, rfl⟩) fun _ => .pure version
  have provided : Careful provideFpga := by
    refine .bind (transport_careful _ _ _) fun configured => ?_
    cases configured with
    | true => exact .pure true
    | false => exact loadFromFiles_careful
  refine .bind identified fun version => .bind .read fun setup => ?_
  refine .bind (awaitReady_careful _ _) fun _ => .bind identifyBus_careful fun _ => ?_
  refine .bind (.of_confined (checkFirmware_confined version)) fun _ => ?_
  refine .bind (.modify fun b => ⟨rfl, rfl⟩) fun _ => ?_
  have rest : Careful (do
      if ← provideFpga then
        modify ({ · with stage := .fpgaLoaded })
        step "open" "initialize" setUp) := by
    refine .bind provided fun configured => ?_
    cases configured with
    | false => exact .pure ()
    | true => exact .bind (.modify fun b => ⟨rfl, rfl⟩) fun _ => setUp_careful.step _ _
  intro _ b s carries
  rw [meets_ite]
  exact ⟨fun _ => carries, fun _ => rest _ b s carries⟩

/-! From the opening of a board to its end. -/

/-- A board is opened, asked for some operations, and closed. -/
def life (setup : Setup) (ops : List Operation) : Program boardInterface Unit := do
  match ← start setup with
  | .ok b => stop setup (← session setup ops b)
  | .error _ => return

/-- The same up to the end: the board that is left then. -/
def serve (setup : Setup) (ops : List Operation) : Program boardInterface Board := do
  match ← (bringUp setup).run {} with
  | (.ok (), b) => session setup ops b
  | (.error _, b) => return b

theorem life_eq (setup : Setup) (ops : List Operation) :
    life setup ops = (serve setup ops).bind (stop setup) := by
  change ((((bringUp setup).run {}).bind _).bind _) = ((((bringUp setup).run {}).bind _).bind _)
  rw [Program.bind_assoc, Program.bind_assoc]
  congr 1
  funext r
  rcases r with ⟨e | _, b⟩
  · exact Program.bind_assoc _ _ _
  · rfl

theorem session_careful (setup : Setup) (ops : List Operation) {b : Board} {s : Ledger}
    (carries : Carries b s) : (session setup ops b).Meets Ledger.contract s Carries :=
  session_meets (fun o => perform_careful o setup) ops carries

theorem carries_fresh : Carries {} {} := by
  refine ⟨.refl _, ?_, fun _ => List.nil_sublist _⟩
  intro slot y held
  cases slot with
  | driver => cases held
  | stream d => cases d <;> cases held

theorem serve_careful (setup : Setup) (ops : List Operation) :
    (serve setup ops).Meets Ledger.contract {} Carries := by
  have up : Meets Ledger.contract setup bringUp {} {} _ _ := bringUp_careful setup {} {} carries_fresh
  rw [serve, Program.bind_eq, Program.meets_bind]
  apply Program.Meets.mono up
  intro r t post
  rcases r with ⟨e | _, b⟩
  · exact post
  · exact session_careful setup ops post

/-- The end gives back all that is left. -/
theorem stop_careful (setup : Setup) {b : Board} {s : Ledger} (carries : Carries b s) :
    (stop setup b).Meets Ledger.contract s fun _ t => Carries {} t := by
  have ended : Meets Ledger.contract setup release b s
      (fun _ b' t => Carries b' t ∧ b'.rfic = none ∧ streams b' = (none, none)) fun _ _ _ => False := by
    rw [release, meets_bind]
    apply (meets_stopSync_carries carries .rx).mono _ fun _ _ _ => id
    rintro _ _ t ⟨carries, rfl⟩
    rw [meets_bind]
    apply (meets_stopSync_carries carries .tx).mono _ fun _ _ _ => id
    rintro _ _ t ⟨carries, rfl⟩
    apply (meets_releaseRfic_carries carries).mono _ fun _ _ _ => id
    rintro _ _ t ⟨carries, rfl⟩
    exact ⟨carries, rfl, rfl⟩
  rw [stop, Program.bind_eq, Program.meets_bind]
  apply Program.Meets.mono ended
  intro r t post
  rcases r with ⟨e | _, b'⟩
  · exact post.elim
  · exact post.1.keep (loan_congr post.2.1.symm post.2.2.symm)

theorem run_stop {σ : Type} (setup : Setup) (b : Board) (h : Handler boardInterface σ) (world : σ) :
    ((stop setup b).run h world).events = b.closing := by
  simp only [stop, Program.bind_eq, Program.run_bind, run_release, Program.pure_eq, Program.run,
    List.append_nil]

/-- Whatever is asked of a board and whatever fails, from its opening to its end: each handle is given back
as often as it was handed out, each call on a handle is made while it is out, one handle at most is live in
each place at any time, and the end gives back what is left in the place it was handed out for, streams
first. -/
theorem handles_linear {σ : Type} (h : Handler boardInterface σ) (setup : Setup) (world : σ)
    (ops : List Operation) :
    let served := (serve setup ops).run h world
    let run := (life setup ops).run h world
    (Ledger.of run.events).returned.Perm ((Ledger.of run.events).lent.map Prod.snd) ∧
    (∀ k c x y, run.events[k]? = some (.called c x) → madeOn? c = some y →
      (Ledger.of (run.events.take k)).IsOut y) ∧
    (∀ k slot, ((Ledger.of (run.events.take k)).live slot).length ≤ 1) ∧
    run.events = served.events ++ served.result.closing ∧
    ∀ slot y, served.result.loan slot = some y → (slot, y) ∈ (Ledger.of served.events).lent := by
  intro served run
  obtain ⟨_, carries⟩ := (serve_careful setup ops).recorded h world
  have met : (life setup ops).Meets Ledger.contract {} fun _ t => Carries {} t := by
    rw [life_eq, Program.meets_bind]
    exact (serve_careful setup ops).mono fun b t carries => stop_careful setup carries
  obtain ⟨along, final⟩ := met.recorded h world
  refine ⟨?_, ?_, ?_, ?_, carries.lent⟩
  · have balance := final.balance.symm
    rwa [show ({} : Board).holdings = [] from rfl, List.append_nil] at balance
  · intro k c x y here made
    exact (along.at here).1.1 y made
  · intro k slot
    rw [← List.take_append_drop k run.events] at along
    exact Ledger.live_le_one (Contract.along_append.mp along).1 (fun _ => Nat.zero_le 1) slot
  · change ((life setup ops).run h world).events = _
    rw [life_eq, Program.run_bind]
    exact congrArg (served.events ++ ·) (run_stop setup served.result h served.state)

/-- Samples are received through a stream that is replaced and left to the end. -/
theorem handles_linear_bench :
    let ops : List Operation := [.configureSync .rxX1 .sc16Q11 16 8192 8 1000,
      .configureSync .rxX1 .sc16Q11 32 8192 8 1000, .receive 16 none 1000]
    let served := (serve .plain ops).run Bench.handler .configured
    let run := (life .plain ops).run Bench.handler .configured
    (Ledger.of run.events).returned.Perm ((Ledger.of run.events).lent.map Prod.snd) ∧
    (Ledger.of (run.events.take 26)).IsOut (.stream ⟨4⟩) ∧
    ((Ledger.of (run.events.take 26)).live (.stream .rx)).length ≤ 1 ∧
    run.events = served.events ++ served.result.closing ∧
    (.stream .rx, .stream ⟨4⟩) ∈ (Ledger.of served.events).lent := by
  intro ops served run
  obtain ⟨balance, made, live, ended, places⟩ := handles_linear Bench.handler .plain .configured ops
  exact ⟨balance, made 26 (.inr (.streaming (.receive ⟨4⟩ 16 none 1000))) _ _ rfl rfl, live 26 _, ended,
    places _ _ rfl⟩

end RadioBoard.Board
