import Mathlib.Data.Rat.Floor
import RadioBoard.Proofs.Ranges
import RadioBoard.Proofs.Transceiver

/-!
Sample rates with a fraction.

The transceiver runs at whole rates, so a rate loses its fraction before it is brought into its range. On the
way it is cut at 64 and at 32 bits, but both cuts lie far above the range. Main statement: the rate that is
set is that of the exact number, however large that is, and it is the one that is told.
-/

namespace RadioBoard

open Function (update)
open Panel (chip meets_chip)

namespace RationalRate

/-- The rate as a number. -/
def exact (r : RationalRate) : Rat := r.whole.toNat + r.num.toNat / r.den.toNat

/-- The rate at which the transceiver runs then. -/
def settled (r : RationalRate) : Int := max 2083334 (min ⌊r.exact⌋ 61440000)

def ofWhole (hz : UInt32) : RationalRate := ⟨hz.toUInt64, 0, 1⟩

theorem exact_ofWhole (hz : UInt32) : (ofWhole hz).exact = hz.toNat := by
  simp [exact, ofWhole]

theorem floor_exact (r : RationalRate) :
    ⌊r.exact⌋ = ((r.whole.toNat + r.num.toNat / r.den.toNat : Nat) : Int) := by
  rw [exact, Int.floor_natCast_add, Rat.floor_natCast_div_natCast]
  rfl

/-- The rate is cut where 32 bits end. -/
theorem toNat_floor (r : RationalRate) : (r.floor.toNat : Int) = min ⌊r.exact⌋ 4294967295 := by
  have size : UInt64.size = 18446744073709551616 ∧ UInt32.size = 4294967296 := ⟨rfl, rfl⟩
  rw [floor_exact, floor, UInt32.toNat_ofNat_of_lt']
  · simp only [size.1, size.2]
    omega
  · simp only [size.1, size.2]
    omega

/-- That is above the range, and does not show. -/
theorem toNat_clamped (r : RationalRate) :
    ((max 2083334 (min r.floor 61440000)).toNat : Int) = r.settled := by
  have cut := r.toNat_floor
  have bounds : (2083334 : UInt32).toNat = 2083334 ∧ (61440000 : UInt32).toNat = 61440000 := by decide
  rw [settled, UInt32.toNat_max, UInt32.toNat_min, bounds.1, bounds.2]
  omega

theorem settled_mono {r r' : RationalRate} (less : r.exact ≤ r'.exact) : r.settled ≤ r'.settled := by
  have floors : ⌊r.exact⌋ ≤ ⌊r'.exact⌋ := Int.floor_mono less
  rw [settled, settled]
  omega

end RationalRate

namespace Board

section Meets

variable {setup : Setup} {b : Board} {x : Panel} {trace : List (Event boardInterface)} {handle : Rfic.Handle}
  (last : b.stage = .initialized) (held : b.rfic = some handle) (channel : UInt8)

include last held

/-- Asking for the rate changes no dial. -/
theorem getSampleRate_heard :
    let d := Direction.ofChannel channel
    Meets (chip.both .tracing) setup (getSampleRate channel) b (x, trace)
      (fun hz b' t => b' = b ∧ hz = x.2.sampleRate d ∧ t.1.2 = x.2 ∧
        t.2 = trace ++ [answered handle (.sampleRate d) hz])
      fun _ _ _ => False := by
  intro d
  rw [getSampleRate, meets_past_expect last]
  apply meets_chip held
  · trivial
  rintro hz y _ ⟨told, still⟩
  exact ⟨rfl, told, still, rfl⟩

theorem getRationalSampleRate_heard :
    let d := Direction.ofChannel channel
    Meets (chip.both .tracing) setup (getRationalSampleRate channel) b (x, trace)
      (fun r b' t => b' = b ∧ r = .ofWhole (x.2.sampleRate d) ∧ t.1.2 = x.2 ∧
        t.2 = trace ++ [answered handle (.sampleRate d) (x.2.sampleRate d)])
      fun _ _ _ => False := by
  intro d
  rw [getRationalSampleRate, meets_past_expect last, meets_bind, meets_step]
  apply (getSampleRate_heard last held channel).mono _ fun _ _ _ => id
  rintro hz b' y ⟨rfl, rfl, still, made⟩
  exact ⟨rfl, rfl, still, made⟩

/-- A rate is set within its range, and told. -/
theorem setSampleRate_heard (hz : UInt32) :
    let d := Direction.ofChannel channel
    let set := max 2083334 (min hz 61440000)
    Meets (chip.both .tracing) setup (setSampleRate channel hz) b (x, trace)
      (fun _ b' t => b' = b ∧ t.1.2 = { x.2 with sampleRate := update x.2.sampleRate d set } ∧
        t.2 = trace ++ [answered handle (.setSampleRate d set) (), answered handle (.sampleRate d) set])
      fun _ _ _ => False := by
  intro d set
  rw [setSampleRate, meets_past_expect last, meets_bind, meets_clampWord, sampleRateRange_clamp, meets_bind]
  apply meets_chip held
  · trivial
  rintro _ ⟨w, k⟩ _ dials
  obtain rfl : k = _ := dials
  apply (getSampleRate_heard last held channel).mono _ fun _ _ _ => id
  rintro hz' b' y ⟨rfl, rfl, still, made⟩
  refine ⟨rfl, still, ?_⟩
  rw [made, List.append_assoc]
  simp only [Function.update_self]
  rfl

theorem setRationalSampleRate_heard {rate : RationalRate} (proper : rate.den ≠ 0) :
    let d := Direction.ofChannel channel
    let set := max 2083334 (min rate.floor 61440000)
    Meets (chip.both .tracing) setup (setRationalSampleRate channel rate) b (x, trace)
      (fun r b' t => b' = b ∧ r = .ofWhole set ∧
        t.1.2 = { x.2 with sampleRate := update x.2.sampleRate d set } ∧
        t.2 = trace ++ [answered handle (.setSampleRate d set) (), answered handle (.sampleRate d) set,
          answered handle (.sampleRate d) set])
      fun _ _ _ => False := by
  intro d set
  rw [setRationalSampleRate, meets_past_expect last]
  dsimp only
  rw [meets_ite]
  refine ⟨fun zero => absurd zero proper, fun _ => ?_⟩
  rw [meets_bind, meets_step]
  apply (setSampleRate_heard last held channel rate.floor).mono _ fun _ _ _ => id
  rintro _ b' ⟨⟨w, k⟩, made⟩ ⟨rfl, dials, rfl⟩
  obtain rfl : k = _ := dials
  apply (getRationalSampleRate_heard last held channel).mono _ fun _ _ _ => id
  rintro r b'' y ⟨rfl, told, still, grown⟩
  simp only [Function.update_self] at told grown
  refine ⟨rfl, told, still, ?_⟩
  rw [grown, List.append_assoc]
  rfl

end Meets

/-- A rate without a denominator is refused, whatever the collaborators are like. -/
theorem rational_rate_refused (setup : Setup) {b : Board} (last : b.stage = .initialized) (channel : UInt8)
    {rate : RationalRate} (improper : rate.den = 0) {τ : Type} (h : Handler boardInterface τ) (t : τ) :
    let run := ((Operation.setRationalSampleRate channel rate).attempt setup b).run h t
    run.result = (.error (.argument "denominator must be greater than 0"), b) ∧ calls run.events = [] ∧
      run.state = t := by
  intro run
  have refused : Meets (.only fun _ => False) setup (setRationalSampleRate channel rate) b ()
      (fun _ _ _ => False) fun e b' _ => b' = b ∧ e = .argument "denominator must be greater than 0" := by
    rw [setRationalSampleRate, meets_past_expect last]
    dsimp only
    rw [if_pos improper]
    exact ⟨rfl, rfl⟩
  obtain ⟨still, silent, ⟨_, _, never⟩ | ⟨e, result, same, rfl⟩⟩ := refused.silent h t
  · exact never.elim
  · rw [same] at result
    exact ⟨result, silent, still⟩

section Runs

variable {σ : Type} {h : Handler boardInterface σ} {view : σ → Panel} (like : Panel.HasTransceiver h view)
  (setup : Setup) {b : Board} {handle : Rfic.Handle} (last : b.stage = .initialized)
  (held : b.rfic = some handle) (channel : UInt8) (s : σ)

include like last held

theorem run_rationalSampleRate :
    (((Operation.rationalSampleRate channel).attempt setup b).run h s).result.1 =
      .ok (.ofWhole ((view s).2.sampleRate (Direction.ofChannel channel))) := by
  have heard : Meets (chip.both .tracing) setup (getRationalSampleRate channel) b (view s, []) _ _ :=
    getRationalSampleRate_heard last held channel
  obtain ⟨_, _, ⟨r, answer, _, rfl, _⟩ | ⟨_, _, never⟩⟩ := heard.traced like rfl
  · exact congrArg Prod.fst answer
  · exact never.elim

theorem run_setRationalSampleRate {rate : RationalRate} (proper : rate.den ≠ 0) :
    let d := Direction.ofChannel channel
    let run := ((Operation.setRationalSampleRate channel rate).attempt setup b).run h s
    let hz := max 2083334 (min rate.floor 61440000)
    run.result = (.ok (.ofWhole hz), b) ∧
      calls run.events = [answered handle (.setSampleRate d hz) (), answered handle (.sampleRate d) hz,
        answered handle (.sampleRate d) hz] ∧
      (view run.state).2 = { (view s).2 with sampleRate := update (view s).2.sampleRate d hz } := by
  intro d run hz
  have heard : Meets (chip.both .tracing) setup (setRationalSampleRate channel rate) b (view s, []) _ _ :=
    setRationalSampleRate_heard last held channel proper
  obtain ⟨y, seen, ⟨r, result, same, rfl, dials, made⟩ | ⟨_, _, never⟩⟩ := heard.traced like rfl
  · rw [same] at result
    subst seen
    exact ⟨result, made, dials⟩
  · exact never.elim

end Runs

/-- A rate without a denominator is refused without a call. Of any other the exact number is set, brought into
the range of rates, and told from then on. -/
theorem rational_rate_settled (setup : Setup) {b : Board} (last : b.stage = .initialized) (channel : UInt8) :
    let d := Direction.ofChannel channel
    (∀ rate, rate.den = 0 → ∀ (σ : Type) (h : Handler boardInterface σ) (s : σ),
      let run := ((Operation.setRationalSampleRate channel rate).attempt setup b).run h s
      run.result = (.error (.argument "denominator must be greater than 0"), b) ∧ calls run.events = []) ∧
    ∀ (σ : Type) (h : Handler boardInterface σ) (view : σ → Panel), Panel.HasTransceiver h view →
      ∀ handle, b.rfic = some handle → ∀ s : σ,
      let set (rate : RationalRate) := ((Operation.setRationalSampleRate channel rate).attempt setup b).run h s
      let told (rate : RationalRate) :=
        ((Operation.rationalSampleRate channel).attempt setup (set rate).result.2).run h (set rate).state
      (∀ rate, rate.den ≠ 0 → ∃ hz : UInt32, (hz.toNat : Int) = max 2083334 (min ⌊rate.exact⌋ 61440000) ∧
        (set rate).result.1 = .ok ⟨hz.toUInt64, 0, 1⟩ ∧
        calls (set rate).events = [answered handle (.setSampleRate d hz) (), answered handle (.sampleRate d) hz,
          answered handle (.sampleRate d) hz] ∧
        (view (set rate).state).2.sampleRate = update (view s).2.sampleRate d hz ∧
        (told rate).result.1 = .ok ⟨hz.toUInt64, 0, 1⟩) ∧
      ∀ rate rate', rate.den ≠ 0 → rate'.den ≠ 0 → rate.exact ≤ rate'.exact → ∀ r r',
        (set rate).result.1 = .ok r → (set rate').result.1 = .ok r' → r.exact ≤ r'.exact := by
  intro d
  refine ⟨?_, fun σ h view like handle held s => ?_⟩
  · intro rate improper σ h s run
    obtain ⟨refused, silent, _⟩ := rational_rate_refused setup last channel improper h s
    exact ⟨refused, silent⟩
  intro set told
  refine ⟨?_, ?_⟩
  · intro rate proper
    obtain ⟨result, made, dials⟩ := run_setRationalSampleRate like setup last held channel s proper
    refine ⟨_, rate.toNat_clamped, congrArg Prod.fst result, made, congrArg Dials.sampleRate dials, ?_⟩
    have board : (set rate).result.2 = b := congrArg Prod.snd result
    have answer := run_rationalSampleRate like setup (b := (set rate).result.2) (by rw [board]; exact last)
      (by rw [board]; exact held) channel (set rate).state
    have shown : (view (set rate).state).2.sampleRate d = max 2083334 (min rate.floor 61440000) := by
      rw [dials]
      exact Function.update_self ..
    rw [shown] at answer
    exact answer
  · intro rate rate' proper proper' less r r' first second
    have settled := (run_setRationalSampleRate like setup last held channel s proper).1
    have settled' := (run_setRationalSampleRate like setup last held channel s proper').1
    obtain rfl := Except.ok.inj (first.symm.trans (congrArg Prod.fst settled))
    obtain rfl := Except.ok.inj (second.symm.trans (congrArg Prod.fst settled'))
    have order := RationalRate.settled_mono less
    rw [← RationalRate.toNat_clamped, ← RationalRate.toNat_clamped] at order
    rw [RationalRate.exact_ofWhole, RationalRate.exact_ofWhole]
    exact_mod_cast order

/-- A sum that has no room in 64 bits, and no room in 32 bits after its fraction is left out. -/
theorem rational_rate_settled_bench :
    let s := ((start .plain).run Bench.Fine.handler ⟨.configured, rfl⟩).state
    let b := onBench .plain
    let set (rate : RationalRate) :=
      ((Operation.setRationalSampleRate 1 rate).attempt .plain b).run Bench.Fine.handler s
    b.stage = .initialized ∧ b.rfic = some ⟨1⟩ ∧
      (set ⟨18446744073709551615, 18446744073709551615, 1⟩).result.1 = .ok ⟨61440000, 0, 1⟩ ∧
      (set ⟨4000000, 7, 2⟩).result.1 = .ok ⟨4000003, 0, 1⟩ := by
  intro s b set
  have last : b.stage = .initialized := by decide +kernel
  have held : b.rfic = some ⟨1⟩ := by decide +kernel
  have settled :=
    ((rational_rate_settled .plain last 1).2 _ _ _ Bench.Fine.isView.hasTransceiver _ held s).1
  refine ⟨last, held, ?_, ?_⟩
  · obtain ⟨hz, value, done, _⟩ := settled ⟨18446744073709551615, 18446744073709551615, 1⟩ (by decide)
    rw [RationalRate.floor_exact] at value
    have cut : (hz.toNat : Int) = 61440000 := value.trans (by decide +kernel)
    obtain rfl : hz = 61440000 := UInt32.toNat_inj.mp (by exact_mod_cast cut)
    exact done
  · obtain ⟨hz, value, done, _⟩ := settled ⟨4000000, 7, 2⟩ (by decide)
    rw [RationalRate.floor_exact] at value
    have cut : (hz.toNat : Int) = 4000003 := value.trans (by decide +kernel)
    obtain rfl : hz = 4000003 := UInt32.toNat_inj.mp (by exact_mod_cast cut)
    exact done

end Board
end RadioBoard
