import RadioBoard.Proofs.Ranges
import RadioBoard.Proofs.Transceiver

/-!
Gains are told as they were set.

A gain that is set is brought between two bounds in whole decibels. A transmitter has the same bounds at every
frequency and takes the gain as an attenuation; those of a receiver are told by the frequency that it is tuned
to, and at a frequency without them neither setting nor asking gets as far as the gain. Main statement: which
calls setting a gain makes, and what asking for it tells then.
-/

namespace RadioBoard.Board

open Panel (chip meets_chip meets_lo_chip)

/-- The bounds of a direction's gain in whole decibels. -/
def gainBounds? : Direction → UInt64 → Option (Int32 × Int32)
  | .tx, _ => some (-89, 0)
  | .rx, hz => receiveBounds? hz

/-- The range of the gain that has these bounds. -/
def boundedRange : Direction → Int32 × Int32 → ScaledRange Rat
  | .rx, bounds => ⟨bounds.1.toInt64, bounds.2.toInt64, 1, 1⟩
  | .tx, _ => txGainRange

/-- The gain that the dials show. -/
def shownGain (k : Dials) (pair : UInt8) : Direction → Int32
  | .rx => k.rxGain pair
  | .tx => gainOfAttenuation txGainRange (k.attenuation pair)

/-- The calls before a gain is set or told. -/
def gainQuery (handle : Rfic.Handle) (x : Panel) : Direction → List (Event boardInterface)
  | .rx => [answered handle (.lo .rx) (x.1.lo .rx)]
  | .tx => []

/-- The call that sets a gain. -/
def gainCommand (handle : Rfic.Handle) (pair : UInt8) (db : Int32) : Direction → Event boardInterface
  | .rx => answered handle (.setRxGain pair db) ()
  | .tx => answered handle (.setAttenuation pair (attenuationFor txGainRange db.toInt64)) ()

theorem gainBounds_ordered {d : Direction} {hz : UInt64} {bounds : Int32 × Int32}
    (known : gainBounds? d hz = some bounds) : bounds.1 ≤ bounds.2 := by
  cases d with
  | tx =>
    cases known
    decide
  | rx =>
    rw [gainBounds?, receiveBounds?] at known
    split_ifs at known
    all_goals
      cases known
      decide

/-- What a range holds is between its bounds. -/
theorem boundedRange_contains {d : Direction} {hz : UInt64} {bounds : Int32 × Int32}
    (inForce : gainBounds? d hz = some bounds) (db : Int32) :
    (boundedRange d bounds).contains db.toInt64 = true ↔ bounds.1 ≤ db ∧ db ≤ bounds.2 := by
  rw [Int32.le_iff_toInt_le, Int32.le_iff_toInt_le]
  cases d with
  | tx =>
    cases inForce
    rw [boundedRange, txGainRange_contains, Int32.toInt_toInt64]
    exact Iff.rfl
  | rx =>
    rw [boundedRange, ScaledRange.contains_iff rfl, Int32.toInt_toInt64, Int32.toInt_toInt64,
      Int32.toInt_toInt64]

section Meets

variable {setup : Setup} {b : Board} {x : Panel} {trace : List (Event boardInterface)} {handle : Rfic.Handle}
  (last : b.stage = .initialized) (held : b.rfic = some handle) {channel : UInt8}

include last held

/-- The range of a gain is that of its bounds. -/
theorem meets_gainRange_chip {d : Direction} (own : Direction.ofChannel channel = d)
    {ok : ScaledRange Rat → Board → Panel × List (Event boardInterface) → Prop}
    {fail : Error → Board → Panel × List (Event boardInterface) → Prop}
    (found : ∀ bounds, gainBounds? d (x.1.lo d) = some bounds →
      ok (boundedRange d bounds) b (x, trace ++ gainQuery handle x d))
    (absent : gainBounds? d (x.1.lo d) = none → fail .outOfRange b (x, trace ++ gainQuery handle x d)) :
    Meets (chip.both .tracing) setup (getGainRange channel) b (x, trace) ok fail := by
  rw [getGainRange, meets_past_expect last, own]
  cases d with
  | tx =>
    have done := found (-89, 0) rfl
    rw [gainQuery, List.append_nil] at done
    exact done
  | rx =>
    dsimp only
    rw [meets_bind, meets_step, getFrequency, meets_past_expect last, own]
    apply meets_lo_chip held
    rw [rxGainRange?_eq]
    cases known : receiveBounds? (x.1.lo .rx) with
    | none => exact absent known
    | some bounds => exact found bounds known

variable (known : Channel.onBoard channel = true)

include known

/-- A gain is set between its bounds. -/
theorem setGain_heard {d : Direction} (own : Direction.ofChannel channel = d) (db : Int32) :
    let pair := Channel.pair channel
    Meets (chip.both .tracing) setup (setGain channel db) b (x, trace)
      (fun _ b' t => b' = b ∧ ∃ bounds, gainBounds? d (x.1.lo d) = some bounds ∧
        let set := max bounds.1 (min db bounds.2)
        t.1.1.lo = x.1.lo ∧ shownGain t.1.2 pair d = set ∧
          t.2 = trace ++ gainQuery handle x d ++ [gainCommand handle pair set d])
      fun e b' t => b' = b ∧ e = .outOfRange ∧ gainBounds? d (x.1.lo d) = none ∧
        t = (x, trace ++ gainQuery handle x d) := by
  intro pair
  have permitted : pair = 0 ∨ pair = 1 := (pair_permitted channel).mpr (of_decide_eq_true known)
  rw [setGain, meets_past_expect last, meets_bind, meets_step]
  apply meets_gainRange_chip last held own
  · intro bounds inForce
    have order := gainBounds_ordered inForce
    rw [meets_bind, meets_clampTo, own]
    cases d with
    | tx =>
      cases inForce
      apply meets_chip held
      · exact permitted
      rintro _ ⟨w, k⟩ ⟨registers, hardware⟩ dials
      obtain rfl : w = _ := hardware
      obtain rfl : k = _ := dials
      refine ⟨rfl, (-89, 0), rfl, rfl, ?_, ?_⟩
      · simp only [shownGain, pair, Function.update_self]
        exact txGain_round_trip db
      · rw [boundedRange, txGainRange_clamp]
        rfl
    | rx =>
      have clamped := gainFor_clamp (r := boundedRange .rx bounds) rfl rfl rfl order db
      apply meets_chip held
      · exact permitted
      rintro _ ⟨w, k⟩ ⟨registers, hardware⟩ dials
      obtain rfl : w = _ := hardware
      obtain rfl : k = _ := dials
      refine ⟨rfl, bounds, inForce, rfl, ?_, ?_⟩
      · simp only [shownGain, pair, Function.update_self, clamped]
      · rw [clamped]
        rfl
  · intro absent
    exact ⟨rfl, rfl, absent, rfl⟩

/-- The gain that is told is the one that the dials show. -/
theorem getGain_heard {d : Direction} (own : Direction.ofChannel channel = d) :
    Meets (chip.both .tracing) setup (getGain channel) b (x, trace)
      (fun v _ _ => v = shownGain x.2 (Channel.pair channel) d ∧ ∃ bounds, gainBounds? d (x.1.lo d) = some bounds)
      fun e b' t => b' = b ∧ e = .outOfRange ∧ gainBounds? d (x.1.lo d) = none ∧
        t = (x, trace ++ gainQuery handle x d) := by
  have permitted : Channel.pair channel = 0 ∨ Channel.pair channel = 1 :=
    (pair_permitted channel).mpr (of_decide_eq_true known)
  rw [getGain, meets_past_expect last, meets_bind, meets_step]
  apply meets_gainRange_chip last held own
  · intro bounds inForce
    rw [own]
    cases d with
    | tx =>
      rw [meets_bind]
      apply meets_chip held
      · exact permitted
      rintro mdb y _ ⟨rfl, _⟩
      exact ⟨rfl, bounds, inForce⟩
    | rx =>
      rw [meets_bind]
      apply meets_chip held
      · exact permitted
      rintro db y _ ⟨rfl, _⟩
      exact ⟨gainOfReading_eq rfl _, bounds, inForce⟩
  · intro absent
    exact ⟨rfl, rfl, absent, rfl⟩

end Meets

/-! Runs. -/

section Runs

variable {σ : Type} {h : Handler boardInterface σ} {view : σ → Panel} (like : Panel.HasTransceiver h view)
  (setup : Setup) {b : Board} {handle : Rfic.Handle} (last : b.stage = .initialized)
  (held : b.rfic = some handle) {channel : UInt8} {d : Direction} (own : Direction.ofChannel channel = d) {s : σ}

include like last held own

/-- The range that is told is the one of the bounds. -/
theorem run_gainRange {r : ScaledRange Rat}
    (told : (((Operation.gainRange channel).attempt setup b).run h s).result.1 = .ok r) :
    ∃ bounds, gainBounds? d ((view s).1.lo d) = some bounds ∧ r = boundedRange d bounds := by
  have heard : Meets (chip.both .tracing) setup (getGainRange channel) b (view s, [])
      (fun r _ _ => ∃ bounds, gainBounds? d ((view s).1.lo d) = some bounds ∧ r = boundedRange d bounds)
      fun _ _ _ => True :=
    meets_gainRange_chip last held own (fun bounds inForce => ⟨bounds, inForce, rfl⟩) fun _ => trivial
  obtain ⟨_, _, ⟨r', result, bounds⟩ | ⟨e, result, _⟩⟩ := heard.traced like rfl
  · obtain rfl : r = r' := Except.ok.inj (told.symm.trans (congrArg Prod.fst result))
    exact bounds
  · cases told.symm.trans (congrArg Prod.fst result)

variable (known : Channel.onBoard channel = true)

include known

/-- Asking for a gain that has bounds. -/
theorem run_gain {bounds : Int32 × Int32} (inForce : gainBounds? d ((view s).1.lo d) = some bounds) :
    (((Operation.gain channel).attempt setup b).run h s).result.1 =
      .ok (shownGain (view s).2 (Channel.pair channel) d) := by
  have heard : Meets (chip.both .tracing) setup (getGain channel) b (view s, []) _ _ :=
    getGain_heard last held known own
  obtain ⟨_, _, ⟨v, result, shown, _⟩ | ⟨e, _, _, _, absent, _⟩⟩ := heard.traced like rfl
  · rw [shown] at result
    exact congrArg Prod.fst result
  · cases absent.symm.trans inForce

/-- Asking for a gain that has none. -/
theorem run_gain_of_none (absent : gainBounds? d ((view s).1.lo d) = none) :
    let run := ((Operation.gain channel).attempt setup b).run h s
    run.result.1 = .error .outOfRange ∧ calls run.events = gainQuery handle (view s) d := by
  intro run
  have heard : Meets (chip.both .tracing) setup (getGain channel) b (view s, []) _ _ :=
    getGain_heard last held known own
  obtain ⟨_, _, ⟨v, _, _, bounds, inForce⟩ | ⟨e, result, _, rfl, _, trace⟩⟩ := heard.traced like rfl
  · cases absent.symm.trans inForce
  · exact ⟨congrArg Prod.fst result, congrArg Prod.snd trace⟩

/-- Setting a gain that has bounds, and asking for it. -/
theorem run_gain_of_set {bounds : Int32 × Int32} (inForce : gainBounds? d ((view s).1.lo d) = some bounds)
    (db : Int32) :
    let set := ((Operation.setGain channel db).attempt setup b).run h s
    let told := ((Operation.gain channel).attempt setup set.result.2).run h set.state
    let v := max bounds.1 (min db bounds.2)
    set.result.1 = .ok () ∧
      calls set.events = gainQuery handle (view s) d ++ [gainCommand handle (Channel.pair channel) v d] ∧
      told.result.1 = .ok v := by
  intro set told v
  have heard : Meets (chip.both .tracing) setup (setGain channel db) b (view s, []) _ _ :=
    setGain_heard last held known own db
  obtain ⟨y, seen, ⟨_, result, same, bounds', found, lo, shown, trace⟩ | ⟨e, _, _, _, absent, _⟩⟩ :=
    heard.traced like rfl
  · obtain rfl : bounds = bounds' := Option.some.inj (inForce.symm.trans found)
    subst seen
    have still : gainBounds? d ((view set.state).1.lo d) = some bounds := by
      rw [show (view set.state).1.lo = _ from lo]
      exact inForce
    have board : set.result.2 = b := same
    refine ⟨congrArg Prod.fst result, trace, ?_⟩
    have answer := run_gain like setup (b := set.result.2) (by rw [board]; exact last)
      (by rw [board]; exact held) own known still
    rw [show shownGain (view set.state).2 _ d = v from shown] at answer
    exact answer
  · cases absent.symm.trans inForce

/-- Setting a gain that has none. -/
theorem run_setGain_of_none (absent : gainBounds? d ((view s).1.lo d) = none) (db : Int32) :
    let run := ((Operation.setGain channel db).attempt setup b).run h s
    run.result = (.error .outOfRange, b) ∧ calls run.events = gainQuery handle (view s) d ∧
      view run.state = view s := by
  intro run
  have heard : Meets (chip.both .tracing) setup (setGain channel db) b (view s, []) _ _ :=
    setGain_heard last held known own db
  obtain ⟨y, seen, ⟨_, _, _, bounds, inForce, _⟩ | ⟨e, result, same, rfl, _, trace⟩⟩ := heard.traced like rfl
  · cases absent.symm.trans inForce
  · rw [same] at result
    exact ⟨result, congrArg Prod.snd trace, seen.symm.trans (congrArg Prod.fst trace)⟩

/-- A higher gain is not told as a lower one. -/
theorem run_gain_mono {db db' v v' : Int32} (less : db ≤ db') :
    let set (db : Int32) := ((Operation.setGain channel db).attempt setup b).run h s
    let told (db : Int32) := ((Operation.gain channel).attempt setup (set db).result.2).run h (set db).state
    (told db).result.1 = .ok v → (told db').result.1 = .ok v' → v ≤ v' := by
  intro set told first second
  cases inForce : gainBounds? d ((view s).1.lo d) with
  | none =>
    obtain ⟨refused, _, still⟩ := run_setGain_of_none like setup last held own known inForce db
    have board : (set db).result.2 = b := congrArg Prod.snd refused
    rw [← still] at inForce
    have untold := run_gain_of_none like setup (b := (set db).result.2) (by rw [board]; exact last)
      (by rw [board]; exact held) own known inForce
    cases first.symm.trans untold.1
  | some bounds =>
    have answer (db : Int32) := (run_gain_of_set like setup last held own known inForce db).2.2
    obtain rfl := Except.ok.inj (first.symm.trans (answer db))
    obtain rfl := Except.ok.inj (second.symm.trans (answer db'))
    rw [Int32.le_iff_toInt_le] at less
    rw [Int32.le_iff_toInt_le, Int32.toInt_max, Int32.toInt_min, Int32.toInt_max, Int32.toInt_min]
    omega

end Runs

/-- A gain that is set is brought between its bounds, and asking for it tells what it became. -/
theorem gain_told_as_set {σ : Type} {h : Handler boardInterface σ} {view : σ → Panel}
    (like : Panel.HasTransceiver h view) (setup : Setup) {b : Board} {handle : Rfic.Handle}
    (last : b.stage = .initialized) (held : b.rfic = some handle) {channel : UInt8}
    (known : Channel.onBoard channel = true) (s : σ) :
    let d := Direction.ofChannel channel
    let pair := Channel.pair channel
    let hz := (view s).1.lo .rx
    let tuned := answered handle (.lo .rx) hz
    let set (db : Int32) := ((Operation.setGain channel db).attempt setup b).run h s
    let told (db : Int32) := ((Operation.gain channel).attempt setup (set db).result.2).run h (set db).state
    (d = .tx → ∀ db, ∃ mdb v,
      (set db).result.1 = .ok () ∧ calls (set db).events = [answered handle (.setAttenuation pair mdb) ()] ∧
      (mdb.toNat : Int) = 1000 * min (max (-db.toInt) 0) 89 ∧ mdb.toNat ≤ 89750 ∧ 250 ∣ mdb.toNat ∧
      (told db).result.1 = .ok v ∧ v.toInt = -min (max (-db.toInt) 0) 89) ∧
    (d = .rx → ∀ lo hi, receiveBounds? hz = some (lo, hi) → ∀ db,
      let v := min (max db lo) hi
      (set db).result.1 = .ok () ∧ calls (set db).events = [tuned, answered handle (.setRxGain pair v) ()] ∧
      (told db).result.1 = .ok v) ∧
    (d = .rx → receiveBounds? hz = none →
      let get := ((Operation.gain channel).attempt setup b).run h s
      get.result.1 = .error .outOfRange ∧ calls get.events = [tuned] ∧
      ∀ db, (set db).result.1 = .error .outOfRange ∧ calls (set db).events = [tuned]) ∧
    (∀ r, (((Operation.gainRange channel).attempt setup b).run h s).result.1 = .ok r →
      ∀ db, r.contains db.toInt64 = true → (told db).result.1 = .ok db) ∧
    ∀ db db' v v', db ≤ db' → (told db).result.1 = .ok v → (told db').result.1 = .ok v' → v ≤ v' := by
  intro d pair hz tuned set told
  have bounded {e : Direction} (own : d = e) (bounds : Int32 × Int32)
      (inForce : gainBounds? e ((view s).1.lo e) = some bounds) (db : Int32) :=
    run_gain_of_set like setup last held own known inForce db
  refine ⟨?_, ?_, ?_, ?_, ?_⟩
  · intro own db
    have ends : (-89 : Int32).toInt = -89 ∧ (0 : Int32).toInt = 0 := by decide
    have inRange : (max (-89) (min db 0)).toInt = max (-89) (min db.toInt 0) := by
      rw [Int32.toInt_max, Int32.toInt_min, ends.1, ends.2]
    obtain ⟨done, made, answer⟩ := bounded own (-89, 0) rfl db
    have attenuation : (attenuationFor txGainRange (max (-89) (min db 0)).toInt64).toNat = _ :=
      toNat_attenuationFor (by omega) (by omega)
    refine ⟨attenuationFor txGainRange (max (-89) (min db 0)).toInt64, max (-89) (min db 0), done, made, ?_, ?_, ?_,
      answer, ?_⟩
    all_goals omega
  · intro own lo hi inForce db v
    obtain ⟨done, made, answer⟩ := bounded own (lo, hi) inForce db
    have order : lo ≤ hi := gainBounds_ordered (d := .rx) inForce
    rw [Int32.le_iff_toInt_le] at order
    have same : max lo (min db hi) = v := by
      apply Int32.toInt_inj.mp
      simp only [v, Int32.toInt_max, Int32.toInt_min]
      omega
    rw [same] at made answer
    exact ⟨done, made, answer⟩
  · intro own absent get
    obtain ⟨refused, made⟩ := run_gain_of_none like setup last held own known absent
    refine ⟨refused, made, fun db => ?_⟩
    have refuses := run_setGain_of_none like setup last held own known absent db
    exact ⟨congrArg Prod.fst refuses.1, refuses.2.1⟩
  · intro r range db contained
    obtain ⟨bounds, inForce, rfl⟩ := run_gainRange like setup last held rfl range
    obtain ⟨lower, upper⟩ := (boundedRange_contains inForce db).mp contained
    obtain ⟨_, _, answer⟩ := bounded rfl bounds inForce db
    rw [Int32.le_iff_toInt_le] at lower upper
    have same : max bounds.1 (min db bounds.2) = db := by
      apply Int32.toInt_inj.mp
      rw [Int32.toInt_max, Int32.toInt_min]
      omega
    rw [same] at answer
    exact answer
  · exact fun db db' v v' => run_gain_mono like setup last held rfl known

theorem gain_told_as_set_bench :
    let s := ((start .plain).run Bench.Fine.handler ⟨.configured, rfl⟩).state
    let b := onBench .plain
    let attenuate := ((Operation.setGain 3 (-17)).attempt .plain b).run Bench.Fine.handler s
    let amplify := ((Operation.setGain 0 100).attempt .plain b).run Bench.Fine.handler s
    let told := ((Operation.gain 0).attempt .plain amplify.result.2).run Bench.Fine.handler amplify.state
    b.stage = .initialized ∧ b.rfic = some ⟨1⟩ ∧ Channel.onBoard 3 = true ∧ Channel.onBoard 0 = true ∧
      (∃ mdb, calls attenuate.events = [answered ⟨1⟩ (.setAttenuation 1 mdb) ()] ∧ mdb.toNat = 17000) ∧
      told.result.1 = .ok 71 := by
  intro s b attenuate amplify told
  have last : b.stage = .initialized := by decide +kernel
  have held : b.rfic = some ⟨1⟩ := by decide +kernel
  have like := Bench.Fine.isView.hasTransceiver
  have bounds : receiveBounds? ((Bench.Fine.view s).1.lo .rx) = some (-4, 71) := by decide +kernel
  have transmit := gain_told_as_set like .plain last held (by decide : Channel.onBoard 3 = true) s
  have receive := gain_told_as_set like .plain last held (by decide : Channel.onBoard 0 = true) s
  refine ⟨last, held, rfl, rfl, ?_, ?_⟩
  · obtain ⟨mdb, _, _, made, attenuation, _⟩ := transmit.1 rfl (-17)
    refine ⟨mdb, made, ?_⟩
    have value : (mdb.toNat : Int) = 17000 := attenuation
    omega
  · obtain ⟨_, _, answer⟩ := receive.2.1 rfl _ _ bounds 100
    have highest : min (max 100 (-4)) 71 = (71 : Int32) := by decide
    dsimp only at answer
    rw [highest] at answer
    dsimp only [told, amplify]
    exact answer

end RadioBoard.Board
