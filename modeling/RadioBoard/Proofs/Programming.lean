import RadioBoard.Proofs.Accesses
import RadioBoard.Usb.Bench

/-!
The programming of the FPGA, and the setting that it leaves.

Programming takes the interface to a setting of its own, and only the last step takes it back. Main
statement: an image is reported as loaded exactly if it was announced, moved as a whole and found configured,
and then the interface is on the link again; every failure leaves the interface where the programming took
it.
-/

namespace RadioBoard.Usb

open Contract (tracing record_trace)
open Program (answer_of_run)

/-! Actions of the transport under a contract. -/

section Rules

variable {σ α β : Type} {K : Contract interface σ} {d : Device} {s : σ} {ok : α → Device → σ → Prop}
  {fail : Error → Device → σ → Prop}

def Meets (K : Contract interface σ) (act : Action α) (d : Device) (s : σ)
    (ok : α → Device → σ → Prop) (fail : Error → Device → σ → Prop) : Prop :=
  (act.run.run d).Meets K s fun r t =>
    match r.1 with
    | .ok a => ok a r.2 t
    | .error e => fail e r.2 t

theorem Meets.mono {act : Action α} {ok' : α → Device → σ → Prop}
    {fail' : Error → Device → σ → Prop} (met : Meets K act d s ok fail) (good : ∀ a d t, ok a d t → ok' a d t)
    (bad : ∀ e d t, fail e d t → fail' e d t) : Meets K act d s ok' fail' := by
  apply Program.Meets.mono met
  intro r t post
  rcases r with ⟨r | r, d'⟩
  · exact bad r d' t post
  · exact good r d' t post

theorem meets_pure (a : α) : Meets K (pure a) d s ok fail ↔ ok a d s := Iff.rfl

theorem meets_throw (e : Error) : Meets K (throw e : Action α) d s ok fail ↔ fail e d s := Iff.rfl

theorem meets_bind (act : Action α) (f : α → Action β) {ok : β → Device → σ → Prop} :
    Meets K (act >>= f) d s ok fail ↔
      Meets K act d s (fun a d t => Meets K (f a) d t ok fail) fail := by
  rw [Meets, run_bind, Program.meets_bind, Meets]
  apply iff_of_eq
  congr 1
  funext r t
  rcases r with ⟨r | r, d'⟩ <;> rfl

theorem meets_logError (text : String) {ok : Unit → Device → σ → Prop} :
    Meets K (logError text) d s ok fail ↔ ok () d s := Iff.rfl

theorem meets_logWarn (text : String) {ok : Unit → Device → σ → Prop} :
    Meets K (logWarn text) d s ok fail ↔ ok () d s := Iff.rfl

theorem meets_pause (ms : Nat) {ok : Unit → Device → σ → Prop} :
    Meets K (pause ms) d s ok fail ↔ ok () d s := Iff.rfl

theorem meets_ask (c : Call) {ok : c.Answer → Device → σ → Prop} :
    Meets K (ask c : Program interface c.Answer) d s ok fail ↔
      K.allows s c ∧ ∀ x t, K.answers s c x t → ok x d t := Iff.rfl

end Rules

/-- The setting that an event takes the interface to. -/
def setting? : Event interface → Option UInt8
  | .called (.setAlternate setting) (some ()) => some setting
  | _ => none

/-- The settings that the interface was taken to, in order. -/
def settings (events : List (Event interface)) : List UInt8 := events.filterMap setting?

theorem settings_append (before after : List (Event interface)) :
    settings (before ++ after) = settings before ++ settings after :=
  List.filterMap_append

theorem settings_concat {e : Event interface} (silent : setting? e = none) (before : List (Event interface)) :
    settings (before ++ [e]) = settings before := by
  have nothing : settings [e] = [] := List.filterMap_cons_none silent
  rw [settings_append, nothing, List.append_nil]

/-- The firmware answers a command with a status word. -/
def Answered (c : Command) (status : Int32) (e : Event interface) : Prop :=
  ∃ word : ByteArray, e = .called (.controlIn ⟨c.code, 0, 0⟩ 4) (.ok word) ∧ word.size = 4 ∧
    Int32.ofInt (LittleEndian.decode word.data.toList) = status

theorem Answered.setting? {c : Command} {status : Int32} {e : Event interface}
    (answered : Answered c status e) : setting? e = none := by
  obtain ⟨word, rfl, -, -⟩ := answered
  rfl

theorem settings_answers {c : Command} {status : Int32} {events : List (Event interface)}
    (answered : ∀ e ∈ events, Answered c status e) : settings events = [] :=
  List.filterMap_eq_nil_iff.mpr fun e within => (answered e within).setting?

section Steps

variable {d : Device} {trace : List (Event interface)}

theorem setAlternate_meets (s : Setting) :
    Meets tracing (setAlternate s) d trace
      (fun _ d' t => d' = d ∧ t = trace ++ [.called (.setAlternate s.code) (some ())])
      fun _ d' t => d' = d ∧ t = trace ++ [.called (.setAlternate s.code) none] := by
  rw [setAlternate, meets_bind, meets_ask]
  refine ⟨trivial, fun answer t next => ?_⟩
  cases answer with
  | none => exact ⟨rfl, next⟩
  | some u => exact ⟨rfl, next⟩

/-- A command that fails leaves the setting as it is. -/
theorem command_meets (c : Command) :
    Meets tracing (command c 0) d trace
      (fun status d' t => d' = d ∧ ∃ e, Answered c status e ∧ t = trace ++ [e])
      fun _ d' t => d' = d ∧ settings t = settings trace := by
  rw [command, meets_bind, meets_ask]
  refine ⟨trivial, fun answer t next => ?_⟩
  cases next
  have kept : settings (trace ++ [.called (.controlIn ⟨c.code, 0, 0⟩ 4) answer]) = settings trace :=
    settings_concat rfl trace
  rw [meets_bind]
  cases answer with
  | error fault => exact ⟨rfl, kept⟩
  | ok word =>
    change Meets tracing (pure word) d _ _ _
    rw [meets_pure]
    by_cases whole : word.size = 4
    · rw [if_neg (not_not.mpr whole)]
      exact ⟨rfl, _, ⟨word, rfl, whole, rfl⟩, rfl⟩
    · rw [if_pos whole]
      exact ⟨rfl, kept⟩

theorem isFpgaConfigured_meets :
    Meets tracing isFpgaConfigured d trace
      (fun configured d' t => d' = d ∧ ∃ e, Answered .queryFpgaStatus (if configured then 1 else 0) e ∧
        t = trace ++ [e])
      fun _ d' t => d' = d ∧ settings t = settings trace := by
  rw [isFpgaConfigured, meets_bind]
  refine (command_meets .queryFpgaStatus).mono ?_ fun _ _ _ failed => failed
  rintro status d' t ⟨rfl, e, answered, rfl⟩
  by_cases idle : status = 0
  · rw [if_pos idle]
    exact ⟨rfl, e, idle ▸ answered, rfl⟩
  rw [if_neg idle]
  by_cases configured : status = 1
  · rw [if_pos configured]
    exact ⟨rfl, e, configured ▸ answered, rfl⟩
  · rw [if_neg configured]
    exact ⟨rfl, settings_concat answered.setting? _⟩

/-- The device says that it is not configured, a few times at most, and then that it is. -/
theorem awaitFpga_meets (n : Nat) :
    Meets tracing (awaitFpga n) d trace
      (fun _ d' t => d' = d ∧ ∃ polls last, polls.length < n ∧ (∀ e ∈ polls, Answered .queryFpgaStatus 0 e) ∧
        Answered .queryFpgaStatus 1 last ∧ t = trace ++ (polls ++ [last]))
      fun _ d' t => d' = d ∧ settings t = settings trace := by
  induction n generalizing trace with
  | zero => exact ⟨rfl, rfl⟩
  | succ n ih =>
    rw [awaitFpga, meets_bind]
    refine isFpgaConfigured_meets.mono ?_ fun _ _ _ failed => failed
    rintro configured d' t ⟨rfl, e, answered, rfl⟩
    cases configured with
    | true => exact ⟨rfl, [], e, n.succ_pos, by simp, answered, rfl⟩
    | false =>
      rw [if_neg Bool.false_ne_true, meets_bind, meets_pause]
      refine ih.mono ?_ ?_
      · rintro _ d₁ t ⟨rfl, polls, last, few, idle, configured, rfl⟩
        refine ⟨rfl, e :: polls, last, Nat.succ_lt_succ few, ?_, configured, ?_⟩
        · intro e' within
          cases within with
          | head => exact answered
          | tail _ within => exact idle e' within
        · rw [List.append_assoc]
          rfl
      · rintro _ d₁ t ⟨rfl, kept⟩
        exact ⟨rfl, kept.trans (settings_concat answered.setting? _)⟩

theorem sendImage_meets (image : ByteArray) :
    Meets tracing (sendImage image) d trace
      (fun _ d' t => d' = d ∧ t = trace ++ [.called (.bulkOut endpointOut image) ⟨none, image.size⟩])
      fun _ d' t => d' = d ∧ settings t = settings trace := by
  rw [sendImage, meets_bind, meets_ask]
  refine ⟨trivial, fun completion t next => ?_⟩
  cases next
  have kept : settings (trace ++ [.called (.bulkOut endpointOut image) completion]) = settings trace :=
    settings_concat rfl trace
  obtain ⟨fault, moved⟩ := completion
  cases fault with
  | some fault => exact ⟨rfl, kept⟩
  | none =>
    dsimp only
    by_cases whole : moved = image.size
    · rw [if_neg (not_not.mpr whole)]
      cases whole
      exact ⟨rfl, rfl⟩
    · rw [if_pos whole]
      exact ⟨rfl, kept⟩

/-- The link is chosen only once the device says that it is configured. -/
theorem finish_meets :
    Meets tracing (do awaitFpga fpgaStatusPolls; setAlternate .rfLink) d trace
      (fun _ d' t => d' = d ∧ ∃ polls last, polls.length < fpgaStatusPolls ∧
        (∀ e ∈ polls, Answered .queryFpgaStatus 0 e) ∧ Answered .queryFpgaStatus 1 last ∧
        t = trace ++ (polls ++ [last]) ++ [.called (.setAlternate 1) (some ())])
      fun _ d' t => d' = d ∧ settings t = settings trace := by
  rw [meets_bind]
  refine (awaitFpga_meets fpgaStatusPolls).mono ?_ fun _ _ _ failed => failed
  rintro _ d' t ⟨rfl, polls, last, few, idle, configured, rfl⟩
  have kept : settings (trace ++ (polls ++ [last])) = settings trace := by
    rw [← List.append_assoc, settings_concat configured.setting?, settings_append, settings_answers idle,
      List.append_nil]
  refine (setAlternate_meets .rfLink).mono ?_ ?_
  · rintro _ d₁ t ⟨rfl, rfl⟩
    exact ⟨rfl, polls, last, few, idle, configured, rfl⟩
  · rintro _ d₁ t ⟨rfl, rfl⟩
    exact ⟨rfl, (settings_concat rfl _).trans kept⟩

/-- What is called on the way to a success. -/
def Programmed (image : ByteArray) (made : List (Event interface)) : Prop :=
  ∃ begun ended polls last, Answered .beginProgramming 0 begun ∧
    (∃ status, Answered .endProgramming status ended) ∧ polls.length < fpgaStatusPolls ∧
    (∀ e ∈ polls, Answered .queryFpgaStatus 0 e) ∧ Answered .queryFpgaStatus 1 last ∧
    made = [.called (.setAlternate 3) (some ()), begun, .called (.bulkOut 0x02 image) ⟨none, image.size⟩,
      ended] ++ (polls ++ [last]) ++ [.called (.setAlternate 1) (some ())]

theorem loadFpga_meets (image : ByteArray) :
    Meets tracing (loadFpga image) d []
      (fun _ d' t => d' = d ∧ Programmed image t)
      fun _ d' t => d' = d ∧ (settings t = [3] ∨ t = [.called (.setAlternate 3) none]) := by
  rw [loadFpga, meets_bind]
  refine (setAlternate_meets .programming).mono ?_ fun _ _ _ failed => ⟨failed.1, .inr failed.2⟩
  rintro _ d' t ⟨rfl, rfl⟩
  have away : settings ([] ++ [.called (.setAlternate Setting.programming.code) (some ())]) = [3] := rfl
  rw [meets_bind]
  refine (command_meets .beginProgramming).mono ?_ fun _ _ _ failed => ⟨failed.1, .inl (failed.2.trans away)⟩
  rintro status d₁ t ⟨rfl, begun, begins, rfl⟩
  replace away := (settings_concat begins.setting? _).trans away
  by_cases refused : status ≠ 0
  · rw [if_pos refused, meets_bind, meets_logError]
    exact ⟨rfl, .inl away⟩
  rw [if_neg refused]
  dsimp only
  rw [meets_bind]
  refine (sendImage_meets image).mono ?_ fun _ _ _ failed => ⟨failed.1, .inl (failed.2.trans away)⟩
  rintro _ d₂ t ⟨rfl, rfl⟩
  replace away : settings (_ ++ [.called (.bulkOut endpointOut image) ⟨none, image.size⟩]) = [3] :=
    (settings_concat rfl _).trans away
  rw [meets_bind]
  refine (command_meets .endProgramming).mono ?_ fun _ _ _ failed => ⟨failed.1, .inl (failed.2.trans away)⟩
  rintro result d₃ t ⟨rfl, ended, ends, grown⟩
  replace away : settings t = [3] := grown ▸ (settings_concat ends.setting? _).trans away
  -- What the firmware says to the end of the programming is not taken for a failure.
  have finish : Meets tracing (do awaitFpga fpgaStatusPolls; setAlternate .rfLink) d₃ t
      (fun _ d' t => d' = d₃ ∧ Programmed image t)
      fun _ d' t => d' = d₃ ∧ (settings t = [3] ∨ t = [.called (.setAlternate 3) none]) := by
    refine finish_meets.mono ?_ fun _ _ _ failed => ⟨failed.1, .inl (failed.2.trans away)⟩
    rintro _ d₄ _ ⟨rfl, polls, last, few, idle, configured, rfl⟩
    rw [grown]
    exact ⟨rfl, begun, ended, polls, last, not_not.mp refused ▸ begins, ⟨_, ends⟩, few, idle, configured, rfl⟩
  by_cases odd : result ≠ 0
  · rw [if_pos odd, meets_bind, meets_logWarn]
    exact finish
  · rw [if_neg odd]
    exact finish

end Steps

theorem settings_of_programmed {image : ByteArray} {made : List (Event interface)}
    (programmed : Programmed image made) : settings made = [3, 1] := by
  obtain ⟨begun, ended, polls, last, begins, ⟨status, ends⟩, -, idle, configured, rfl⟩ := programmed
  obtain ⟨_, rfl, -, -⟩ := begins
  obtain ⟨_, rfl, -, -⟩ := ends
  obtain ⟨_, rfl, -, -⟩ := configured
  rw [settings_append, settings_append, settings_append, settings_answers idle]
  rfl

/-- If every change of the setting is granted, the programming succeeds exactly as `Programmed` says, and it
takes the interface back to the link exactly if it succeeds. A failure leaves it where the programming took
it. -/
theorem loadFpga_settings {σ : Type} {h : Handler interface σ}
    (granted : ∀ setting s, (h (.setAlternate setting) s).1 = some ()) (s : σ) (image : ByteArray)
    (d : Device) :
    let run := ((loadFpga image).run.run d).run h s
    run.result.2 = d ∧
    (run.result.1 = .ok () ↔ Programmed image (calls run.events)) ∧
    settings run.events = if run.result.1.isOk then [3, 1] else [3] := by
  have recorded := ((loadFpga_meets (d := d) image).recorded h s).2
  rw [record_trace, List.nil_append] at recorded
  have answered : .called (.setAlternate 3) none ∉
      calls (((loadFpga image).run.run d).run h s).events := by
    intro made
    obtain ⟨t, refused⟩ := answer_of_run made
    cases (granted 3 t).symm.trans refused
  dsimp only
  generalize ((loadFpga image).run.run d).run h s = run at recorded answered ⊢
  have same : settings (calls run.events) = settings run.events := filterMap_calls (fun _ => rfl) _
  rcases run with ⟨events, ⟨cause | _, d'⟩, state⟩
  · obtain ⟨rfl, away | refused⟩ := recorded
    · refine ⟨rfl, ⟨fun succeeded => ?_, fun programmed => ?_⟩, same.symm.trans away⟩
      · cases succeeded
      · cases away.symm.trans (settings_of_programmed programmed)
    · exact absurd (refused ▸ .head _) answered
  · obtain ⟨rfl, programmed⟩ := recorded
    exact ⟨rfl, ⟨fun _ => programmed, fun _ => rfl⟩, same.symm.trans (settings_of_programmed programmed)⟩

theorem bench_grants (setting : UInt8) (b : Bench) : (Bench.handler (.setAlternate setting) b).1 = some () :=
  rfl

/-- A device that is configured once it was programmed. -/
theorem loadFpga_settings_bench :
    let bench : Bench := { devices := [], texts := fun _ => none, status := fun c => if c = 1 then 1 else 0 }
    let run := ((loadFpga ⟨#[7, 7]⟩).run.run ⟨.super, .packets⟩).run Bench.handler bench
    run.result.1 = .ok () ∧ Programmed ⟨#[7, 7]⟩ (calls run.events) ∧ settings run.events = [3, 1] := by
  have programmed := loadFpga_settings bench_grants
    { devices := [], texts := fun _ => none, status := fun c => if c = 1 then 1 else 0 } ⟨#[7, 7]⟩
    ⟨.super, .packets⟩
  exact ⟨rfl, programmed.2.1.mp rfl, programmed.2.2⟩

/-- A device that refuses to be programmed is left where the programming took it. -/
theorem refused_loadFpga_away :
    let bench : Bench := { devices := [], texts := fun _ => none, status := fun c => if c = 2 then 1 else 0 }
    let run := ((loadFpga ⟨#[7, 7]⟩).run.run ⟨.super, .packets⟩).run Bench.handler bench
    (∀ setting b, (Bench.handler (.setAlternate setting) b).1 = some ()) ∧
      run.result.1 = .error .unexpected ∧ settings run.events = [3] :=
  ⟨bench_grants, rfl, rfl⟩

end RadioBoard.Usb
