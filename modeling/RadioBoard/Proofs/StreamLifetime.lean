import RadioBoard.Proofs.Session
import RadioBoard.Proofs.Watch

/-!
How long synchronous streams live.

Most actions leave nothing for a watch to note. Those that start, stop or use a stream keep the board's
streams and the live ones the same, and disabling a direction stops its stream first. Only setting up
turns directions off without stopping anything. Main statement, for collaborators that fail as they like:
samples only move through live streams, and a stream is severed, or outlives the last stage, exactly if
the FPGA was configured again while it was live.
-/

namespace RadioBoard

open Streaming (SyncHandle)

namespace Board

variable {α β : Type} {setup : Setup} {b : Board} {s : UInt32 × Watch}

section Rules

variable {γ : Type} {part : Board → γ} {fail : Error → Board → UInt32 × Watch → Prop}

/-- Calls beside the switches change neither the front end nor the watch. -/
theorem Leaves.beside {act : Action α} (h : Leaves part Beside act) (setup : Setup) (b : Board)
    (s : UInt32 × Watch) :
    Meets Watch.contract setup act b s (fun _ b' t => part b' = part b ∧ t = s)
      fun _ b' t => part b' = part b ∧ t = s := by
  have keeps : ∀ c, Beside c → ∀ t, t = s → Watch.contract.allows t c ∧
      ∀ x u, Watch.contract.answers t c x u → u = s := by
    intro c beside t same
    exact ⟨trivial, fun x u answer => (Watch.answers_beside beside answer).trans same⟩
  exact h.under (fun t => t = s) rfl keeps setup b

theorem meets_readFrontEnd {ok : UInt32 → Board → UInt32 × Watch → Prop} (operation detail : String)
    (good : ok s.1 b s) (bad : ∀ e, fail e b s) :
    Meets Watch.contract setup (transport operation .readFrontEnd detail) b s ok fail := by
  rw [meets_transport]
  refine ⟨trivial, ?_, ?_⟩
  · intro value t answer
    have same : t = s := Watch.answers_beside (c := .inl .readFrontEnd) trivial answer
    have told : value = s.1 := answer.1.1
    rw [same, told]
    exact good
  · intro e t answer
    have same : t = s := Watch.answers_beside (c := .inl .readFrontEnd) trivial answer
    rw [same]
    exact bad e

theorem meets_writeFrontEnd {ok : Unit → Board → UInt32 × Watch → Prop} (operation detail : String)
    (value : UInt32) (good : ok () b (value, s.2.written s.1 value))
    (bad : ∀ e register, fail e b (register, s.2.written s.1 value)) :
    Meets Watch.contract setup (transport operation (.writeFrontEnd value) detail) b s ok fail := by
  rw [meets_transport]
  refine ⟨trivial, ?_, ?_⟩
  · intro _ t answer
    have same : t = (value, s.2.written s.1 value) := Prod.ext answer.1 answer.2.2
    rw [same]
    exact good
  · intro e t answer
    have same : t = (t.1, s.2.written s.1 value) := Prod.ext rfl answer.2.2
    rw [same]
    exact bad e _

end Rules

/-- The action leaves the board as it is, and there is nothing in it for a watch to note. -/
def Unseen (act : Action α) : Prop :=
  ∀ setup b s, Meets Watch.contract setup act b s (fun _ b' t => b' = b ∧ t.2 = s.2)
    fun _ b' t => b' = b ∧ t.2 = s.2

namespace Unseen

theorem bind {act : Action α} {f : α → Action β} (first : Unseen act) (rest : ∀ a, Unseen (f a)) :
    Unseen (act >>= f) := by
  intro setup b s
  rw [meets_bind]
  apply (first setup b s).mono
  · intro a b' t post
    rw [post.1, ← post.2]
    exact rest a setup b t
  · intro e b' t post
    exact post

theorem step {act : Action α} (operation what : String) (h : Unseen act) :
    Unseen (step operation what act) := by
  intro setup b s
  rw [meets_step]
  exact h setup b s

theorem of_beside {act : Action α} (h : Confined Beside act) : Unseen act := by
  intro setup b s
  apply (h.beside setup b s).imp
  intro b' t post
  exact ⟨post.1, congrArg Prod.snd post.2⟩

theorem of_passive {act : Action α} (h : Confined Passive act) : Unseen act := by
  intro setup b s
  have keeps : ∀ c, Passive c → ∀ t, t.2 = s.2 → Watch.contract.allows t c ∧
      ∀ x u, Watch.contract.answers t c x u → u.2 = s.2 := by
    intro c passive t same
    exact ⟨trivial, fun x u answer => (Watch.answers_passive passive answer).trans same⟩
  exact h.under (fun t : UInt32 × Watch => t.2 = s.2) rfl keeps setup b

theorem after {act : Action α} (required : Stage) (h : Unseen act) :
    Unseen (do expect required; act) := by
  apply bind
  · intro setup b s
    simp
  · intro _
    exact h

end Unseen

theorem selectBand_unseen (d : Direction) (hz : UInt64) : Unseen (selectBand d hz) := by
  refine .after _ ?_
  intro setup b s
  rw [meets_bind]
  apply meets_readFrontEnd
  · rw [meets_bind, meets_switchFor, meets_bind, meets_step]
    apply ((setPortFor_beside d _ hz).beside setup b s).mono
    · intro _ b' t post
      obtain ⟨same, rfl⟩ := post
      have kept : t.2.written t.1 (FrontEnd.withSwitch t.1 d
          (SignalPath.inUse d (FrontEnd.isEnabled t.1 d) hz).switch) = t.2 :=
        Watch.written_of_kept fun p _ => Watch.turnsOff_withSwitch t.1 d p.1 _ hz
      apply meets_writeFrontEnd
      · exact ⟨same, kept⟩
      · intro _ _
        exact ⟨same, kept⟩
    · intro _ b' t post
      exact ⟨post.1, congrArg Prod.snd post.2⟩
  · intro _
    exact ⟨rfl, rfl⟩

/-- Switching a direction is not seen, unless it is turned off under a live stream. -/
theorem meets_switchModule_unseen (d : Direction) (on : Bool) (hz : UInt64)
    (idle : on = false → ∀ x, (d, x) ∉ s.2.live) :
    Meets Watch.contract setup (switchModule d on hz) b s (fun _ b' t => b' = b ∧ t.2 = s.2)
      fun _ b' t => b' = b ∧ t.2 = s.2 := by
  have kept : s.2.written s.1 (FrontEnd.withSwitch (FrontEnd.turn s.1 d on) d
      (SignalPath.inUse d on hz).switch) = s.2 := by
    apply Watch.written_of_kept
    intro p live
    apply Watch.turnsOff_turn
    intro off same
    apply idle off p.2
    rw [← same]
    exact live
  rw [switchModule, meets_bind]
  apply meets_readFrontEnd
  · dsimp only
    rw [meets_bind, meets_switchFor, meets_bind]
    apply meets_writeFrontEnd
    · have enabling : Confined Beside (transport "enable_module" (.enablePath d on)) := by
        intro setup b
        simp
      apply (enabling.beside setup b _).imp
      intro b' t post
      exact ⟨post.1, (congrArg Prod.snd post.2).trans kept⟩
    · intro _ _
      exact ⟨rfl, kept⟩
  · intro _
    exact ⟨rfl, rfl⟩

theorem getFrequency_beside (channel : UInt8) : Confined Beside (getFrequency channel) := by
  intro setup b
  simp [getFrequency]

theorem setFrequency_unseen (channel : UInt8) (hz : UInt64) : Unseen (setFrequency channel hz) := by
  have tune : Confined Beside (transceiver "set_frequency" (.setLo (Direction.ofChannel channel) hz)) := by
    intro setup b
    simp
  have next := (Unseen.of_beside tune).bind fun _ =>
    (selectBand_unseen (Direction.ofChannel channel) hz).step "set_frequency" "select_band"
  refine .after _ ?_
  intro setup b s
  rw [meets_ite]
  refine ⟨?_, fun _ => next setup b s⟩
  intro _
  rw [meets_bind, meets_logError, meets_bind, meets_throw]
  exact ⟨rfl, rfl⟩

theorem setPort_unseen (channel : UInt8) (name : String) : Unseen (setPort channel name) := by
  apply Unseen.of_beside
  refine .after _ ?_
  intro setup b
  dsimp only
  cases Rfic.Port.ofName? (Direction.ofChannel channel) name <;> simp

/-! Streams that start and stop. -/

/-- The live streams are those that the board holds, one for each direction, and samples only moved
through streams that were live. -/
structure Tied (b : Board) (w : Watch) : Prop where
  live : ∀ d x, (d, x) ∈ w.live ↔ b.sync d = some x
  apart : ∀ d e x, b.sync d = some x → b.sync e = some x → d = e
  strayed : w.strayed = false

theorem Tied.stop {w : Watch} (tied : Tied b w) {d : Direction} {x : SyncHandle}
    (held : b.sync d = some x) :
    Tied (b.withSync none d) { w with live := w.live.filter fun p => p.2 ≠ x } := by
  refine ⟨?_, ?_, tied.strayed⟩
  · intro e y
    rw [List.mem_filter, tied.live, sync_withSync]
    by_cases same : e = d
    · subst same
      rw [if_pos rfl, held]
      simp
      exact fun h => h.symm
    · rw [if_neg same]
      have other : b.sync e = some y → y ≠ x := by
        intro heldToo equal
        rw [equal] at heldToo
        exact same (tied.apart e d x heldToo held)
      simpa using other
  · intro e e' y first second
    rw [sync_withSync] at first second
    by_cases same : e = d
    · rw [if_pos same] at first
      cases first
    · by_cases same' : e' = d
      · rw [if_pos same'] at second
        cases second
      · rw [if_neg same] at first
        rw [if_neg same'] at second
        exact tied.apart e e' y first second

theorem Tied.start {w : Watch} (tied : Tied b w) {d : Direction} {x : SyncHandle}
    (idle : b.sync d = none) (fresh : ∀ e, (e, x) ∉ w.live) :
    Tied (b.withSync (some x) d) { w with live := (d, x) :: w.live } := by
  have unheld (e : Direction) : b.sync e ≠ some x := fun held => fresh e ((tied.live e x).mpr held)
  refine ⟨?_, ?_, tied.strayed⟩
  · intro e y
    rw [List.mem_cons, tied.live, sync_withSync]
    by_cases same : e = d
    · subst same
      rw [if_pos rfl, idle]
      simp [eq_comm]
    · rw [if_neg same]
      simp [same]
  · intro e e' y first second
    rw [sync_withSync] at first second
    by_cases same : e = d
    · by_cases same' : e' = d
      · rw [same, same']
      · rw [if_pos same] at first
        rw [if_neg same', ← first] at second
        exact absurd second (unheld e')
    · by_cases same' : e' = d
      · rw [if_pos same'] at second
        rw [if_neg same, ← second] at first
        exact absurd first (unheld e)
      · rw [if_neg same] at first
        rw [if_neg same'] at second
        exact tied.apart e e' y first second

/-- A stream was severed, or one outlives the last stage, exactly if the FPGA was configured again under
a live stream. -/
structure Guarded (b : Board) (w : Watch) : Prop extends Tied b w where
  reloaded : w.severed = true ∨ (b.stage ≠ .initialized ∧ w.live ≠ []) ↔ w.reloaded = true

theorem guarded_iff_of_last {w : Watch} (last : b.stage = .initialized) :
    Guarded b w ↔ Tied b w ∧ (w.severed = true ↔ w.reloaded = true) := by
  constructor
  · intro guarded
    have reloaded := guarded.reloaded
    simp only [last, ne_eq, not_true_eq_false, false_and, or_false] at reloaded
    exact ⟨guarded.toTied, reloaded⟩
  · intro both
    refine ⟨both.1, ?_⟩
    simp only [last, ne_eq, not_true_eq_false, false_and, or_false]
    exact both.2

/-- An operation for boards at the last stage. -/
theorem meets_initialized_guarded {act : Action α} (guarded : Guarded b s.2)
    (next : b.stage = .initialized → Meets Watch.contract setup act b s
      (fun _ b' t => Guarded b' t.2) fun _ b' t => Guarded b' t.2) :
    Meets Watch.contract setup (do expect .initialized; act) b s (fun _ b' t => Guarded b' t.2)
      fun _ b' t => Guarded b' t.2 := by
  rw [meets_bind, meets_expect_initialized]
  exact ⟨next, fun _ => guarded⟩

theorem Unseen.guarded {act : Action α} (h : Unseen act) (guarded : Guarded b s.2) :
    Meets Watch.contract setup act b s (fun _ b' t => Guarded b' t.2) fun _ b' t => Guarded b' t.2 := by
  apply (h setup b s).imp
  intro b' t post
  rw [post.1, post.2]
  exact guarded

theorem stopSync_guarded (last : b.stage = .initialized) (guarded : Guarded b s.2) (d : Direction) :
    Meets Watch.contract setup (stopSync d) b s
      (fun _ b' t => b' = b.withSync none d ∧ b'.stage = .initialized ∧ Guarded b' t.2 ∧
        ∀ x, (d, x) ∉ t.2.live) fun _ _ _ => False := by
  have stage : (b.withSync none d).stage = .initialized := (withSync_keeps b none d).1.trans last
  rw [meets_stopSync]
  refine ⟨?_, ?_⟩
  · intro x held
    refine ⟨trivial, ?_⟩
    intro t answer
    have seen : t.2 = { s.2 with live := s.2.live.filter fun p => p.2 ≠ x } := answer.2.2
    have tied := guarded.toTied.stop held
    rw [← seen] at tied
    have flags : t.2.severed = true ↔ t.2.reloaded = true := by
      rw [seen]
      exact ((guarded_iff_of_last last).mp guarded).2
    refine ⟨rfl, stage, (guarded_iff_of_last stage).mpr ⟨tied, flags⟩, ?_⟩
    intro y live
    have heldStill := (tied.live d y).mp live
    rw [sync_withSync, if_pos rfl] at heldStill
    cases heldStill
  · intro idle
    have same : b.withSync none d = b := withSync_of_sync idle
    rw [same]
    refine ⟨rfl, last, guarded, ?_⟩
    intro x live
    rw [(guarded.live d x).mp live] at idle
    cases idle

theorem enableModule_guarded (guarded : Guarded b s.2) (channel : UInt8) (on : Bool) :
    Meets Watch.contract setup (enableModule channel on) b s (fun _ b' t => Guarded b' t.2)
      fun _ b' t => Guarded b' t.2 := by
  apply meets_initialized_guarded guarded
  intro last
  dsimp only
  cases on with
  | true =>
    rw [if_pos rfl]
    have switch (hz : UInt64) : Unseen (switchModule (Direction.ofChannel channel) true hz) := by
      intro setup b s
      exact meets_switchModule_unseen _ true hz fun off => absurd off.symm Bool.false_ne_true
    have route (hz : UInt64) := (Unseen.of_beside
      (setPortFor_beside (Direction.ofChannel channel) true hz)).step "enable_module" "set_rfic_port"
    have tuned := (Unseen.of_beside (getFrequency_beside channel)).step "enable_module" "get_frequency"
    exact (tuned.bind fun hz => (route hz).bind fun _ => switch hz).guarded guarded
  | false =>
    rw [if_neg Bool.false_ne_true, meets_bind]
    apply (stopSync_guarded last guarded _).mono
    · intro _ b' t post
      obtain ⟨_, _, still, idle⟩ := post
      apply (meets_switchModule_unseen _ false 0 fun _ => idle).imp
      intro b'' u unseen
      rw [unseen.1, unseen.2]
      exact still
    · intro _ _ _ never
      exact never.elim

theorem configureSync_guarded (guarded : Guarded b s.2) (layout : Layout) (format : SampleFormat)
    (buffers bufferSize transfers : UInt32) (timeoutMs : Nat) :
    Meets Watch.contract setup (configureSync layout format buffers bufferSize transfers timeoutMs) b s
      (fun _ b' t => Guarded b' t.2) fun _ b' t => Guarded b' t.2 := by
  apply meets_initialized_guarded guarded
  intro last
  dsimp only
  rw [meets_bind, meets_get, meets_bind]
  apply (stopSync_guarded last guarded _).mono
  · intro _ b' t post
    obtain ⟨stopped, last', still, idle⟩ := post
    have none : b'.sync layout.direction = none := by
      rw [stopped, sync_withSync, if_pos rfl]
    rw [meets_bind, meets_streaming]
    refine ⟨trivial, ?_, ?_⟩
    · intro x u answer
      have seen : u.2 = { t.2 with live := (layout.direction, x) :: t.2.live } := answer.2.2
      have fresh : ∀ d, (d, x) ∉ t.2.live := answer.2.1 x rfl
      have tied := still.toTied.start none fresh
      rw [← seen] at tied
      have flags : u.2.severed = true ↔ u.2.reloaded = true := by
        rw [seen]
        exact ((guarded_iff_of_last last').mp still).2
      have stage : (b'.withSync (some x) layout.direction).stage = .initialized :=
        (withSync_keeps b' (some x) layout.direction).1.trans last'
      rw [meets_modify]
      exact (guarded_iff_of_last stage).mpr ⟨tied, flags⟩
    · intro e u answer
      have seen : u.2 = t.2 := answer.2.2
      rw [seen]
      exact still
  · intro _ _ _ never
    exact never.elim

/-- Samples that move through the board's own stream move through a live one. -/
theorem meets_moving {d : Direction} {x : SyncHandle} {c : Streaming.Call} (guarded : Guarded b s.2)
    (own : b.sync d = some x)
    (moves : ∀ w register answer, Watch.after w register (.inr (.streaming c)) answer = w.moved d x)
    (operation : String) :
    Meets Watch.contract setup (streaming operation c) b s (fun _ b' t => Guarded b' t.2)
      fun _ b' t => Guarded b' t.2 := by
  have kept : s.2.moved d x = s.2 := Watch.moved_of_live ((guarded.live d x).mpr own)
  have still {answer : Except Error c.Reply} {t : UInt32 × Watch}
      (h : Watch.contract.answers s (.inr (.streaming c)) answer t) : Guarded b t.2 := by
    have seen : t.2 = s.2 := h.2.2.trans ((moves s.2 s.1 answer).trans kept)
    rw [seen]
    exact guarded
  rw [meets_streaming]
  exact ⟨trivial, fun _ _ => still, fun _ _ => still⟩

theorem transmit_guarded (guarded : Guarded b s.2) (samples : ByteArray) (metadata : Option Metadata)
    (timeoutMs : Nat) :
    Meets Watch.contract setup (transmit samples metadata timeoutMs) b s (fun _ b' t => Guarded b' t.2)
      fun _ b' t => Guarded b' t.2 := by
  rw [transmit, meets_bind, meets_get]
  cases own : b.sync .tx with
  | none => exact guarded
  | some x => exact meets_moving guarded own (fun _ _ _ => rfl) _

theorem receive_guarded (guarded : Guarded b s.2) (size : Nat) (metadata : Option Metadata)
    (timeoutMs : Nat) :
    Meets Watch.contract setup (receive size metadata timeoutMs) b s (fun _ b' t => Guarded b' t.2)
      fun _ b' t => Guarded b' t.2 := by
  rw [receive, meets_bind, meets_get]
  cases own : b.sync .rx with
  | none => exact guarded
  | some x => exact meets_moving guarded own (fun _ _ _ => rfl) _

/-! Configuring the FPGA again. -/

theorem Leaves.beside_bind {γ : Type} {part : Board → γ} {act : Action α} (h : Leaves part Beside act)
    {f : α → Action β} {ok : β → Board → UInt32 × Watch → Prop}
    {fail : Error → Board → UInt32 × Watch → Prop}
    (good : ∀ a b', part b' = part b → Meets Watch.contract setup (f a) b' s ok fail)
    (bad : ∀ e b', part b' = part b → fail e b' s) :
    Meets Watch.contract setup (act >>= f) b s ok fail := by
  rw [meets_bind]
  apply (h.beside setup b s).mono
  · intro a b' t post
    rw [post.2]
    exact good a b' post.1
  · intro e b' t post
    rw [post.2]
    exact bad e b' post.1

/-- From the front end on, with both directions enabled: the rest of setting up severs what is live. -/
theorem meets_shutDown {b₀ : Board} (w : Watch) (config : Config) (early : held b = held b₀) :
    Meets Watch.contract setup (do
        let register ← transport "initialize" .readFrontEnd
        transport "initialize" (.writeFrontEnd (FrontEnd.disable (FrontEnd.disable register .tx) .rx))
        step "initialize" "select_band (TX)" (selectBand .tx (config.rfic.loHz .tx))
        step "initialize" "select_band (RX)" (selectBand .rx (config.rfic.loHz .rx))
        modify ({ · with stage := .initialized })) b (FrontEnd.bothEnabled, w)
      (fun _ b' t => b'.stage = .initialized ∧ streams b' = streams b₀ ∧ t.2 = w.cut)
      (fun _ b' t => held b' = held b₀ ∧ (t.2 = w ∨ t.2 = w.cut)) := by
  have off := Watch.written_disable_both w
  rw [meets_bind]
  apply meets_readFrontEnd
  · rw [meets_bind]
    apply meets_writeFrontEnd
    · have bands := ((selectBand_unseen .tx (config.rfic.loHz .tx)).step "initialize" "select_band (TX)").bind
        fun _ => (selectBand_unseen .rx (config.rfic.loHz .rx)).step "initialize" "select_band (RX)"
      have chosen := bands setup b (FrontEnd.disable (FrontEnd.disable FrontEnd.bothEnabled .tx) .rx,
        w.written FrontEnd.bothEnabled
          (FrontEnd.disable (FrontEnd.disable FrontEnd.bothEnabled .tx) .rx))
      rw [meets_bind] at chosen ⊢
      apply chosen.mono
      · intro _ b' t next
        rw [meets_bind]
        apply next.mono
        · intro _ b'' u post
          rw [meets_modify]
          refine ⟨rfl, ?_, post.2.trans off⟩
          rw [post.1]
          exact congrArg Prod.snd early
        · intro _ b'' u post
          rw [post.1]
          exact ⟨early, .inr (post.2.trans off)⟩
      · intro _ b' t post
        rw [post.1]
        exact ⟨early, .inr (post.2.trans off)⟩
    · intro _ _
      exact ⟨early, .inr off⟩
  · intro _
    exact ⟨early, .inl rfl⟩

/-- Setting up severs what is live, as soon as it gets as far as turning the directions off. -/
theorem setUp_watched (setup : Setup) (b : Board) (s : UInt32 × Watch) :
    Meets Watch.contract setup setUp b s
      (fun _ b' t => b'.stage = .initialized ∧ streams b' = streams b ∧ t.2 = s.2.cut)
      (fun _ b' t => held b' = held b ∧ (t.2 = s.2 ∨ t.2 = s.2.cut)) := by
  -- Enabling both directions turns nothing off, whatever the register held before.
  have kept := Watch.written_of_kept (w := s.2) fun p _ => Watch.turnsOff_bothEnabled s.1 p.1
  refine identifyFpga_beside.beside_bind ?_ fun _ _ same => ⟨same, .inl rfl⟩
  intro _ b₁ same₁
  refine setFraming_beside.beside_bind ?_ fun _ b₂ same₂ => ⟨by rw [same₂]; exact same₁, .inl rfl⟩
  intro _ b₂ same₂
  obtain rfl : b₂ = b₁ := same₂
  rw [meets_bind]
  apply meets_writeFrontEnd
  · rw [kept, meets_bind, meets_read]
    refine Leaves.beside_bind ((startMonitor_beside _).step _ _) ?_
      fun _ b₃ same₃ => ⟨by rw [same₃]; exact same₁, .inl rfl⟩
    intro _ b₃ same₃
    obtain rfl : b₃ = b₂ := same₃
    refine startRfic_beside.beside_bind ?_ fun _ _ same₄ => ⟨same₄.trans same₁, .inl rfl⟩
    intro _ b₄ same₄
    exact meets_shutDown s.2 setup.config (same₄.trans same₁)
  · intro _ _
    exact ⟨same₁, .inl kept⟩

theorem Tied.of_streams {b' : Board} {w w' : Watch} (tied : Tied b w) (same : streams b' = streams b)
    (live : w'.live = w.live) (strayed : w'.strayed = w.strayed) : Tied b' w' := by
  have sync : b'.sync = b.sync := by
    funext d
    cases d
    · exact congrArg Prod.fst same
    · exact congrArg Prod.snd same
  refine ⟨?_, ?_, strayed.trans tied.strayed⟩
  · rw [live, sync]
    exact tied.live
  · rw [sync]
    exact tied.apart

theorem Guarded.reload_cut {b' : Board} {w : Watch} (guarded : Guarded b w)
    (same : streams b' = streams b) : Guarded b' w.reload.cut := by
  refine ⟨guarded.toTied.of_streams same rfl rfl, ?_⟩
  have reloaded := guarded.reloaded
  cases live : w.live with
  | nil => simpa [Watch.reload, Watch.cut, live] using reloaded
  | cons p rest => simp [Watch.reload, Watch.cut, live]

theorem Guarded.reload_early {b' : Board} {w : Watch} (guarded : Guarded b w)
    (same : streams b' = streams b) (early : b'.stage ≠ .initialized) : Guarded b' w.reload := by
  refine ⟨guarded.toTied.of_streams same rfl rfl, ?_⟩
  have reloaded := guarded.reloaded
  cases live : w.live with
  | nil => simpa [Watch.reload, live] using reloaded
  | cons p rest => simp [Watch.reload, live, early]

theorem loadFpga_guarded (guarded : Guarded b s.2) (image : ByteArray) :
    Meets Watch.contract setup (loadFpga image) b s (fun _ b' t => Guarded b' t.2)
      fun _ b' t => Guarded b' t.2 := by
  rw [loadFpga, meets_bind, meets_expect]
  refine ⟨?_, fun _ => guarded⟩
  intro _
  rw [meets_bind, meets_expectBitstream]
  refine ⟨?_, fun _ => guarded⟩
  intro _
  rw [meets_bind, meets_transport]
  refine ⟨trivial, ?_, ?_⟩
  · intro _ t answer
    have seen : t.2 = s.2.reload := answer.2.2
    rw [meets_bind, meets_modify, meets_step]
    apply (setUp_watched setup _ t).mono
    · intro _ b' u post
      obtain ⟨_, same, severed⟩ := post
      rw [severed, seen]
      exact guarded.reload_cut same
    · intro _ b' u post
      rcases post with ⟨same, unharmed | severed⟩
      · have early : b'.stage ≠ .initialized := by
          rw [show b'.stage = .fpgaLoaded from congrArg Prod.fst same]
          decide
        rw [unharmed, seen]
        exact guarded.reload_early (congrArg Prod.snd same) early
      · rw [severed, seen]
        exact guarded.reload_cut (congrArg Prod.snd same)
  · intro e t answer
    have seen : t.2 = s.2 := answer.2.2
    rw [seen]
    exact guarded

/-! Runs. -/

theorem perform_guarded (o : Operation) (guarded : Guarded b s.2) :
    Meets Watch.contract setup o.perform b s (fun _ b' t => Guarded b' t.2)
      fun _ b' t => Guarded b' t.2 := by
  cases o
  case setFrequency channel hz => exact (setFrequency_unseen channel hz).guarded guarded
  case setPort channel name => exact (setPort_unseen channel name).guarded guarded
  case enableModule channel on => exact enableModule_guarded guarded channel on
  case loadFpga image => exact loadFpga_guarded guarded image
  case configureSync layout format buffers bufferSize transfers timeoutMs =>
    exact configureSync_guarded guarded layout format buffers bufferSize transfers timeoutMs
  case transmit samples metadata timeoutMs => exact transmit_guarded guarded samples metadata timeoutMs
  case receive size metadata timeoutMs => exact receive_guarded guarded size metadata timeoutMs
  all_goals exact (Unseen.of_passive (perform_passive _ rfl)).guarded guarded

theorem session_guarded (setup : Setup) (ops : List Operation) (guarded : Guarded b s.2) :
    (session setup ops b).Meets Watch.contract s fun b' t => Guarded b' t.2 :=
  session_meets (fun o _ _ guarded => perform_guarded o guarded) ops guarded

/-- Opening a board starts no stream, whatever goes wrong. -/
theorem start_guarded (setup : Setup) (register : UInt32) :
    (start setup).Meets Watch.contract (register, {}) fun r t => ∀ b, r = .ok b → Guarded b t.2 := by
  have keeps : ∀ c, Streamless c → ∀ s : UInt32 × Watch, s.2 = {} → Watch.contract.allows s c ∧
      ∀ x t, Watch.contract.answers s c x t → t.2 = {} := by
    intro c streamless s nothing
    refine ⟨trivial, ?_⟩
    intro x t answer
    have seen := answer.2.2
    rw [nothing] at seen
    exact seen.trans (Watch.after_nothing streamless s.1)
  have up := (bringUp_leaves.mono streamless_of_upward id).under (fun s : UInt32 × Watch => s.2 = {}) (s := (register, {})) rfl keeps
    setup {}
  apply meets_start
  apply up.mono
  · rintro _ b t ⟨same, nothing⟩
    have unheld (d : Direction) : b.sync d = none := by
      cases d
      · exact congrArg Prod.fst same
      · exact congrArg Prod.snd same
    rw [nothing]
    refine ⟨⟨?_, ?_, rfl⟩, ?_⟩
    · intro d x
      simp [unheld d]
    · intro d e x own
      rw [unheld d] at own
      cases own
    · simp
  · intro _ b t _
    exact meets_true (fun _ _ => trivial) _

/-! Whole runs. -/

open Watch

/-- With any collaborators that fail as they like, and whatever is asked of a board that was opened:
samples only move through live streams, and a direction was turned off under a live stream, or a stream
is live before the last stage, exactly if the FPGA was configured again under a live stream. -/
theorem session_streams {σ : Type} {h : Handler boardInterface σ} {register : σ → UInt32}
    {inUse : σ → SyncHandle → Prop} (truthful : Truthful h register inUse) (setup : Setup) (world : σ)
    {b : Board} (opened : ((start setup).run h world).result = .ok b) (ops : List Operation) :
    let begun := (start setup).run (observe h register) (world, {})
    let final := (session setup ops b).run (observe h register) begun.state
    let watch := final.state.2
    watch.strayed = false ∧
      (watch.severed = true ∨ (final.result.stage ≠ .initialized ∧ watch.live ≠ []) ↔
        watch.reloaded = true) := by
  intro begun final watch
  have keeps := observe_keeps truthful
  obtain ⟨s, _, guarded, same, used⟩ := Program.Meets.run (t := (world, ({} : Watch))) keeps
    ⟨rfl, by simp⟩ (start_guarded setup (register world))
  have result : begun.result = .ok b := (observe_run h register (start setup) world {}).2.1.trans opened
  have ready := guarded b result
  obtain ⟨t, _, last, seen, _⟩ := Program.Meets.run keeps ⟨same, used⟩ (session_guarded setup ops ready)
  rw [seen] at last
  exact ⟨last.strayed, last.reloaded⟩

theorem session_streams_bench :
    let begun := (start .plain).run (observe Bench.handler Bench.frontEnd) (.configured, {})
    let final := (session .plain [.configureSync .rxX1 .sc16Q11 16 8192 8 1000, .enableModule 0 true,
      .receive 16 none 0, .enableModule 0 false] (onBench .plain)).run
        (observe Bench.handler Bench.frontEnd) begun.state
    let watch := final.state.2
    watch.strayed = false ∧
      (watch.severed = true ∨ (final.result.stage ≠ .initialized ∧ watch.live ≠ []) ↔
        watch.reloaded = true) := by
  have opened : ((start .plain).run Bench.handler .configured).result = .ok (onBench .plain) := rfl
  exact session_streams bench_truthful .plain .configured opened _

/-- A stream that is severed: the FPGA is configured again while samples are received, the front end is
turned off, and samples are still received through the same stream. -/
theorem stream_outlives_reload :
    let watched := observe Bench.handler Bench.frontEnd
    let begun := (start .unchecked).run watched (.configured, {})
    let final := (session .unchecked [.configureSync .rxX1 .sc16Q11 16 8192 8 1000, .enableModule 0 true,
      .loadFpga ⟨#[1, 1, 1, 1]⟩] (onBench .unchecked)).run watched begun.state
    let next := ((Operation.receive 16 none 1000).attempt .unchecked final.result).run watched final.state
    begun.result = .ok (onBench .unchecked) ∧ final.state.2.severed = true ∧ final.state.2.live ≠ [] ∧
      final.state.1.frontEnd = 0 ∧ next.result.1.isOk = true := by
  refine ⟨rfl, ?_, ?_, ?_, ?_⟩
  all_goals decide +kernel

end Board

end RadioBoard
