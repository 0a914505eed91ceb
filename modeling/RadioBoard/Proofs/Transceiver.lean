import RadioBoard.Proofs.Dials
import RadioBoard.Proofs.DriverChannels

/-!
A transceiver that behaves like registers.

Nothing is known of its neighbours: they may fail, and what they do may change the transceiver, too. Calls are
kept as they are made, so that a statement can say which ones an operation makes. Main statement: what it
takes for an action to meet its conditions with such a transceiver, call by call.
-/

namespace RadioBoard

/-- A call that the driver has answered. -/
def answered (handle : Rfic.Handle) (c : Rfic.Call) (reply : c.Reply) : Event boardInterface :=
  .called (.inr (.rfic handle c)) (.ok reply)

namespace Panel

open Board (Meets Permitted)

/-- The driver answers for the channels that it has, and its calls have their outcome. -/
def chip : Contract boardInterface Panel where
  allows _ _ := True
  answers x
    | .inr (.rfic _ c), a, y =>
      Permitted c → ∃ reply, a = .ok reply ∧ x.1.rfic c reply y.1 ∧ x.2.rfic c reply y.2
    | _, _, _ => True

/-- What is seen of the transceiver behaves like registers. -/
def HasTransceiver {σ : Type} (h : Handler boardInterface σ) (view : σ → Panel) : Prop :=
  chip.KeptBy h fun s x => x = view s

theorem IsView.hasTransceiver {σ : Type} {h : Handler boardInterface σ} {view : σ → Panel}
    (like : IsView h view) : HasTransceiver h view := by
  intro s x c same
  obtain ⟨y, answers, seen⟩ := like s x c same
  refine ⟨y, ?_, seen⟩
  match c with
  | .inr (.rfic _ c) =>
    obtain ⟨⟨reply, told, hardware⟩, ⟨reply', told', dials⟩⟩ := answers
    obtain rfl : reply = reply' := Except.ok.inj (told.symm.trans told')
    exact fun _ => ⟨reply, told, hardware, dials⟩
  | .inl _ | .inr (.startRfic _) | .inr (.releaseRfic _) | .inr (.streaming _) | .inr (.removeStream _)
  | .inr (.stopSync _) | .inr (.flash _) | .inr (.trigger _) => trivial

section Rules

variable {setup : Setup} {b : Board} {x : Panel} {trace : List (Event boardInterface)}
  {handle : Rfic.Handle} (held : b.rfic = some handle)

include held

theorem meets_chip (operation : String) (c : Rfic.Call) (detail : String) (permitted : Permitted c)
    {ok : c.Reply → Board → Panel × List (Event boardInterface) → Prop}
    {fail : Error → Board → Panel × List (Event boardInterface) → Prop}
    (next : ∀ reply y, x.1.rfic c reply y.1 → x.2.rfic c reply y.2 →
      ok reply b (y, trace ++ [answered handle c reply])) :
    Meets (chip.both .tracing) setup (Board.transceiver operation c detail) b (x, trace) ok fail := by
  rw [Board.meets_transceiver]
  refine ⟨?_, fun none => absurd (held.symm.trans none) (by simp)⟩
  intro d same
  obtain rfl : handle = d := Option.some.inj (held.symm.trans same)
  refine ⟨⟨trivial, trivial⟩, ?_, ?_⟩
  · rintro reply ⟨y, made⟩ ⟨outcome, grown⟩
    obtain rfl : made = _ := grown
    obtain ⟨reply', told, hardware, dials⟩ := outcome permitted
    obtain rfl : reply = reply' := Except.ok.inj told
    exact next reply y hardware dials
  · rintro code ⟨y, made⟩ ⟨outcome, _⟩
    obtain ⟨_, told, _⟩ := outcome permitted
    cases told

theorem meets_lo_chip (operation : String) (d : Direction) (detail : String)
    {ok : UInt64 → Board → Panel × List (Event boardInterface) → Prop}
    {fail : Error → Board → Panel × List (Event boardInterface) → Prop}
    (next : ok (x.1.lo d) b (x, trace ++ [answered handle (.lo d) (x.1.lo d)])) :
    Meets (chip.both .tracing) setup (Board.transceiver operation (.lo d) detail) b (x, trace) ok fail := by
  apply meets_chip held operation (.lo d) detail trivial
  intro hz y hardware dials
  obtain ⟨rfl, still⟩ := hardware
  obtain rfl : y = x := Prod.ext still dials
  exact next

end Rules

end Panel
end RadioBoard
