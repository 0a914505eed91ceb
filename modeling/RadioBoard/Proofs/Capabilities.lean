import RadioBoard.Proofs.FpgaVersion

/-!
What a board is capable of.

The firmware grants capabilities when the board is opened, and the FPGA does each time that it is asked for its
version. Main statement: at any time the capabilities of a board are those that its firmware and all the
FPGA versions told so far have granted, whatever failed in between. None of them is ever lost.
-/

namespace RadioBoard.Board

variable {σ α γ : Type}

/-! Granted bits. -/

/-- The capabilities of a board with this firmware, after the FPGA has told these versions. -/
def granted (setup : Setup) (firmware : Version) (fpga : List Version) : UInt64 :=
  fpga.foldl (fun bits v => bits ||| setup.classifier.fpgaCapabilities v)
    (setup.classifier.firmwareCapabilities firmware)

theorem granted_concat (setup : Setup) (firmware : Version) (fpga : List Version) (v : Version) :
    granted setup firmware (fpga ++ [v]) =
      granted setup firmware fpga ||| setup.classifier.fpgaCapabilities v := by
  rw [granted, List.foldl_append]
  rfl

theorem and_or_self (a b : UInt64) : a &&& (a ||| b) = a := by
  apply UInt64.toBitVec_inj.mp
  rw [UInt64.toBitVec_and, UInt64.toBitVec_or]
  ext i
  simp +contextual

/-- Further versions take no bit away. -/
theorem granted_and_append (setup : Setup) (firmware : Version) (earlier later : List Version) :
    granted setup firmware earlier &&& granted setup firmware (earlier ++ later) =
      granted setup firmware earlier := by
  induction later generalizing earlier with
  | nil => rw [List.append_nil, UInt64.and_self]
  | cons v later ih =>
    have next : granted setup firmware earlier &&& granted setup firmware (earlier ++ [v]) =
        granted setup firmware earlier := by
      rw [granted_concat, and_or_self]
    have rest := ih (earlier ++ [v])
    rw [List.append_assoc, List.singleton_append] at rest
    calc granted setup firmware earlier &&& granted setup firmware (earlier ++ v :: later)
      _ = granted setup firmware earlier &&& (granted setup firmware (earlier ++ [v]) &&&
            granted setup firmware (earlier ++ v :: later)) := by rw [← UInt64.and_assoc, next]
      _ = granted setup firmware earlier := by rw [rest, next]

theorem capabilities_and {setup : Setup} {firmware : Version} {earlier later : List Version} {b b' : Board}
    (before : b.capabilities = granted setup firmware earlier)
    (after : b'.capabilities = granted setup firmware (earlier ++ later)) :
    b.capabilities &&& b'.capabilities = b.capabilities := by
  rw [before, after]
  exact granted_and_append setup firmware earlier later

theorem hasCapability_of_and {b b' : Board} (kept : b.capabilities &&& b'.capabilities = b.capabilities)
    {bits : UInt64} (has : b.hasCapability bits = true) : b'.hasCapability bits = true := by
  rw [hasCapability, beq_iff_eq] at has ⊢
  rw [← has, ← UInt64.and_assoc, UInt64.and_comm b'.capabilities, kept]

/-! What is told. -/

/-- The version that the FPGA tells with an event. -/
def fpgaVersion? : Event boardInterface → Option Version
  | .called (.inl .fpgaVersion) (.ok v) => some v
  | _ => none

/-- The versions that the FPGA has told, the first one first. -/
def fpgaVersions (events : List (Event boardInterface)) : List Version := events.filterMap fpgaVersion?

theorem fpgaVersions_calls (events : List (Event boardInterface)) :
    fpgaVersions (calls events) = fpgaVersions events :=
  filterMap_calls (fun _ => rfl) events

theorem fpgaVersions_append (before after : List (Event boardInterface)) :
    fpgaVersions (before ++ after) = fpgaVersions before ++ fpgaVersions after :=
  List.filterMap_append

theorem fpgaVersions_concat (trace : List (Event boardInterface)) (e : Event boardInterface) :
    fpgaVersions (trace ++ [e]) = fpgaVersions trace ++ (fpgaVersion? e).toList := by
  rw [fpgaVersions_append]
  cases told : fpgaVersion? e <;> simp [fpgaVersions, told]

/-- Calls that do not ask for the version of the FPGA. -/
def Incurious (c : boardInterface.Call) : Prop := ∀ x, fpgaVersion? (.called c x) = none

theorem incurious_of_versionless (c : boardInterface.Call) (versionless : Versionless c) : Incurious c := by
  intro x
  unfold fpgaVersion?
  split
  case h_1 same =>
    cases same
    exact versionless.elim
  case h_2 => rfl

theorem incurious_of_routine (c : boardInterface.Call) (routine : Routine c) : Incurious c :=
  incurious_of_versionless c (versionless_of_routine c routine)

/-- The firmware version of a board and its capabilities. -/
def credit (b : Board) : Version × UInt64 := (b.firmwareVersion, b.capabilities)

/-- A board is capable of what it was granted. Its firmware told its version first of all. -/
structure Credited (setup : Setup) (b : Board) (trace : List (Event boardInterface)) : Prop where
  told : trace.head? = some (.called (.inl .firmwareVersion) (.ok b.firmwareVersion))
  capabilities : b.capabilities = granted setup b.firmwareVersion (fpgaVersions trace)

namespace Credited

variable {setup : Setup} {b b' : Board} {trace : List (Event boardInterface)}

theorem congr (credited : Credited setup b trace) (same : credit b' = credit b) : Credited setup b' trace := by
  have firmware : b'.firmwareVersion = b.firmwareVersion := congrArg Prod.fst same
  have mask : b'.capabilities = b.capabilities := congrArg Prod.snd same
  constructor
  · rw [firmware]
    exact credited.told
  · rw [firmware, mask]
    exact credited.capabilities

theorem concat (credited : Credited setup b trace) {e : Event boardInterface} (silent : fpgaVersion? e = none) :
    Credited setup b (trace ++ [e]) where
  told := by
    rw [List.head?_append, credited.told]
    rfl
  capabilities := by
    rw [fpgaVersions_concat, silent]
    exact credited.capabilities.trans (by simp)

/-- A version that is told is granted its capabilities. -/
theorem told_version (credited : Credited setup b trace) {v : Version}
    (firmware : b'.firmwareVersion = b.firmwareVersion)
    (added : b'.capabilities = b.capabilities ||| setup.classifier.fpgaCapabilities v) :
    Credited setup b' (trace ++ [.called (.inl .fpgaVersion) (.ok v)]) where
  told := by
    rw [List.head?_append, credited.told, firmware]
    rfl
  capabilities := by
    have told : fpgaVersion? (.called (.inl .fpgaVersion) (.ok v)) = some v := rfl
    rw [fpgaVersions_concat, told, firmware, added, credited.capabilities]
    exact (granted_concat _ _ _ _).symm

end Credited

/-! What operations keep. -/

section Steps

variable {setup : Setup} {b : Board} {trace : List (Event boardInterface)}

open Contract

theorem Leaves.crediting {C : boardInterface.Call → Prop} {act : Action α} (leaves : Leaves credit C act)
    (incurious : ∀ c, C c → Incurious c) (credited : Credited setup b trace) :
    Meets tracing setup act b trace (fun _ => Credited setup) fun _ => Credited setup := by
  have keeps (c : boardInterface.Call) (made : C c) (t : List (Event boardInterface))
      (before : Credited setup b t) :
      tracing.allows t c ∧ ∀ x t', tracing.answers t c x t' → Credited setup b t' := by
    refine ⟨trivial, fun x t' next => ?_⟩
    rw [show t' = t ++ [.called c x] from next]
    exact before.concat (incurious c made x)
  apply (leaves.under (Credited setup b) credited keeps setup b).imp
  intro b' t kept
  exact kept.2.congr kept.1

theorem setUp_credited (credited : Credited setup b trace) :
    Meets tracing setup setUp b trace (fun _ => Credited setup) fun _ => Credited setup := by
  have furnished {b' : Board} {t : List (Event boardInterface)} (credited : Credited setup b' t) :
      Meets tracing setup furnish b' t (fun _ => Credited setup) fun _ => Credited setup := by
    have leaves : Leaves credit Furnishing furnish := furnish_fixture.mono (fun _ => id) credit
    exact leaves.crediting (fun c made => incurious_of_routine c made.2) credited
  rw [setUp_eq, meets_bind, identifyFpga, meets_bind, meets_transport]
  refine ⟨trivial, ?_, ?_⟩
  · intro v _ next
    rw [meets_bind, meets_read, meets_bind, meets_modify, meets_warnIncompatible, next]
    exact furnished (credited.told_version rfl rfl)
  · intro e _ next
    rw [next]
    exact credited.concat rfl

theorem loadFpga_credited (image : ByteArray) (credited : Credited setup b trace) :
    Meets tracing setup (loadFpga image) b trace (fun _ => Credited setup) fun _ => Credited setup := by
  rw [loadFpga, meets_bind, meets_expect]
  refine ⟨fun _ => ?_, fun _ => credited⟩
  rw [meets_bind, meets_expectBitstream]
  refine ⟨fun _ => ?_, fun _ => credited⟩
  rw [meets_bind, meets_transport]
  refine ⟨trivial, ?_, ?_⟩
  · intro _ _ next
    rw [meets_bind, meets_modify, meets_step, next]
    have loaded : Credited setup b (trace ++ [.called (.inl (.loadFpga image)) (.ok ())]) := credited.concat rfl
    exact setUp_credited (loaded.congr rfl)
  · intro e _ next
    rw [next]
    exact credited.concat rfl

theorem perform_credited (o : Operation) (credited : Credited setup b trace) :
    Meets tracing setup o.perform b trace (fun _ => Credited setup) fun _ => Credited setup := by
  by_cases other : ∀ image, o ≠ .loadFpga image
  · have leaves : Leaves credit Versionless o.perform := (perform_versionless o other).mono (fun _ => id) credit
    exact leaves.crediting incurious_of_versionless credited
  · obtain ⟨image, load⟩ := not_forall_not.mp other
    rw [load]
    exact loadFpga_credited image credited

theorem bringUp_credited (setup : Setup) :
    Meets tracing setup bringUp {} [] (fun _ => Credited setup) fun _ _ _ => True := by
  rw [meets_bringUp]
  have greeted : Meets tracing setup greet {} [] (fun _ => Credited setup) fun _ _ _ => True := by
    rw [greet, meets_bind, identifyFirmware, meets_bind, meets_transport]
    refine ⟨trivial, fun v _ next => ?_, fun _ _ _ => trivial⟩
    rw [meets_bind, meets_read, meets_bind, meets_modify, meets_pure, next]
    have leaves : Leaves credit Greeting _ := (attend_leaves v).mono (fun _ => id) credit
    have incurious (c : boardInterface.Call) (made : Greeting c) : Incurious c :=
      incurious_of_routine c (routine_of_greeting c made)
    apply (leaves.crediting incurious ?_).mono (fun _ _ _ => id) fun _ _ _ _ => trivial
    exact ⟨rfl, UInt64.zero_or⟩
  apply greeted.mono _ fun _ _ _ _ => trivial
  intro _ b trace credited
  have sized : Credited setup { b with fpgaSize := .a4 } trace := credited.congr rfl
  refine ⟨fun _ => sized, fun _ => ?_⟩
  have provided : Confined Incurious provideFpga := provideFpga_confined (fun _ => rfl) fun _ _ => rfl
  apply ((provided.mono (fun _ => id) credit).crediting (fun _ => id) sized).mono
  · intro configured b' trace' credited'
    refine ⟨fun _ => ?_, fun _ => credited'⟩
    have loaded : Credited setup { b' with stage := .fpgaLoaded } trace' := credited'.congr rfl
    exact (setUp_credited loaded).mono (fun _ _ _ => id) fun _ _ _ _ => trivial
  · exact fun _ _ _ _ => trivial

end Steps

/-- A board that was opened has been credited, and stays so. -/
theorem credited_of_session (h : Handler boardInterface σ) (setup : Setup) (world : σ) {b : Board}
    (opened : ((start setup).run h world).result = .ok b) (ops : List Operation) :
    let begun := (start setup).run h world
    let final := (session setup ops b).run h begun.state
    Credited setup b (calls begun.events) ∧ Credited setup final.result (calls (begun.events ++ final.events)) := by
  intro begun final
  have closing (b : Board) (t : List (Event boardInterface)) :
      Meets Contract.tracing setup release b t (fun _ _ _ => True) fun _ _ _ => True :=
    meets_true (fun _ _ => trivial) release
  have opens : (start setup).Meets Contract.tracing [] fun r t => ∀ b, r = .ok b → Credited setup b t :=
    meets_start ((bringUp_credited setup).mono (fun _ _ _ => id) fun _ b t _ => closing b t)
  have first := (opens.recorded h world).2 b opened
  rw [Contract.record_trace, List.nil_append] at first
  have lasts : (session setup ops b).Meets Contract.tracing (calls begun.events) (Credited setup) :=
    session_meets (fun o _ _ => perform_credited o) ops first
  have last := (lasts.recorded h begun.state).2
  rw [Contract.record_trace, ← calls_append] at last
  exact ⟨first, last⟩

/-- Whatever is asked of a board that was opened, and whatever fails on the way: the firmware told its version
first of all, the board is capable of what that version and those of the FPGA have granted so far, and it
stays capable of it. -/
theorem capabilities_granted (h : Handler boardInterface σ) (setup : Setup) (world : σ) {b : Board}
    (opened : ((start setup).run h world).result = .ok b) (ops : List Operation) :
    let begun := (start setup).run h world
    let final := (session setup ops b).run h begun.state
    (calls begun.events).head? = some (.called (.inl .firmwareVersion) (.ok b.firmwareVersion)) ∧
      final.result.firmwareVersion = b.firmwareVersion ∧
      final.result.capabilities = granted setup b.firmwareVersion (fpgaVersions (begun.events ++ final.events)) ∧
      ∀ later : List Operation,
        let last := (session setup later final.result).run h final.state
        final.result.capabilities &&& last.result.capabilities = final.result.capabilities ∧
          ∀ bits, final.result.hasCapability bits = true → last.result.hasCapability bits = true := by
  intro begun final
  have told {b' : Board} {events : List (Event boardInterface)}
      (credited : Credited setup b' (calls (begun.events ++ events))) : b'.firmwareVersion = b.firmwareVersion := by
    have first := (credited_of_session h setup world opened []).1.told
    have same := credited.told
    rw [calls_append, List.head?_append, show (calls begun.events).head? = _ from first] at same
    simpa using same.symm
  have value {b' : Board} {events : List (Event boardInterface)}
      (credited : Credited setup b' (calls (begun.events ++ events))) :
      b'.capabilities = granted setup b.firmwareVersion (fpgaVersions (begun.events ++ events)) := by
    rw [credited.capabilities, told credited, fpgaVersions_calls]
  obtain ⟨first, now⟩ := credited_of_session h setup world opened ops
  refine ⟨first.told, told now, value now, fun later => ?_⟩
  intro last
  have whole : Credited setup last.result (calls (begun.events ++ (final.events ++ last.events))) := by
    have all := (credited_of_session h setup world opened (ops ++ later)).2
    rw [run_session_append] at all
    exact all
  have versions : fpgaVersions (begun.events ++ (final.events ++ last.events)) =
      fpgaVersions (begun.events ++ final.events) ++ fpgaVersions last.events := by
    rw [← List.append_assoc, fpgaVersions_append]
  have kept := capabilities_and (value now) ((value whole).trans (congrArg _ versions))
  exact ⟨kept, fun bits => hasCapability_of_and kept⟩

/-- A front end that cannot be read breaks the set-up off, after the FPGA has granted its capabilities. -/
theorem capabilities_granted_blind :
    let begun := (start .unchecked).run blind blank
    let final := (session .unchecked [.loadFpga ⟨#[1, 1, 1, 1]⟩] onBlank).run blind begun.state
    begun.result = .ok onBlank ∧ onBlank.capabilities = granted .unchecked ⟨2, 6, 0⟩ [] ∧
      final.result.capabilities = granted .unchecked ⟨2, 6, 0⟩ [⟨0, 16, 0⟩] ∧
      final.result.stage = .fpgaLoaded := by
  intro begun final
  have opened : ((start .unchecked).run blind blank).result = .ok onBlank := rfl
  have versions : fpgaVersions (begun.events ++ final.events) = [⟨0, 16, 0⟩] := by decide +kernel
  have firmware : onBlank.firmwareVersion = ⟨2, 6, 0⟩ := by decide +kernel
  have outcome := capabilities_granted blind .unchecked blank opened [.loadFpga ⟨#[1, 1, 1, 1]⟩]
  have value : final.result.capabilities = granted .unchecked ⟨2, 6, 0⟩ [⟨0, 16, 0⟩] := by
    rw [outcome.2.2.1, firmware, versions]
  exact ⟨opened, by decide +kernel, value, by decide +kernel⟩

end RadioBoard.Board
