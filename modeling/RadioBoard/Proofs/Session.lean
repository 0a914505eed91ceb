import RadioBoard.Board.Operation
import RadioBoard.Proofs.Action

/-!
Sessions.

What every operation keeps, whether it succeeds or not, holds after every session. A session is cut
wherever one likes: what its first part leaves is what the rest begins with.
-/

namespace RadioBoard.Board

section Meets

variable {σ : Type} {K : Contract boardInterface σ} {setup : Setup}

theorem session_meets {inv : Board → σ → Prop}
    (step : ∀ (o : Operation) (b : Board) (s : σ), inv b s →
      Meets K setup o.perform b s (fun _ => inv) fun _ => inv)
    (ops : List Operation) {b : Board} {s : σ} (start : inv b s) :
    (session setup ops b).Meets K s inv := by
  induction ops generalizing b s with
  | nil => exact start
  | cons o ops ih =>
    have first : Meets K setup o.perform b s _ _ := step o b s start
    rw [session, Program.bind_eq, Program.meets_bind]
    apply Program.Meets.mono first
    intro r t post
    rcases r with ⟨r | r, b'⟩
    · exact ih post
    · exact ih post

end Meets

section Run

variable {σ : Type} (h : Handler boardInterface σ) (setup : Setup)

theorem run_session_cons (o : Operation) (ops : List Operation) (b : Board) (s : σ) :
    (session setup (o :: ops) b).run h s =
      let first := (o.attempt setup b).run h s
      let rest := (session setup ops first.result.2).run h first.state
      ⟨first.events ++ rest.events, rest.result, rest.state⟩ :=
  Program.run_bind h (o.attempt setup b) (fun r => session setup ops r.2) s

theorem run_session_append (earlier later : List Operation) (b : Board) (s : σ) :
    (session setup (earlier ++ later) b).run h s =
      let first := (session setup earlier b).run h s
      let rest := (session setup later first.result).run h first.state
      ⟨first.events ++ rest.events, rest.result, rest.state⟩ := by
  induction earlier generalizing b s with
  | nil => rfl
  | cons o ops ih =>
    simp only [List.cons_append, run_session_cons, ih, List.append_assoc]

/-- Every operation of a session succeeds, each on what the one before has left. -/
def Succeeds : List Operation → Board → σ → Prop
  | [], _, _ => True
  | o :: ops, b, s =>
    let run := (o.attempt setup b).run h s
    run.result.1.isOk = true ∧ Succeeds ops run.result.2 run.state

instance Succeeds.decidable : (ops : List Operation) → (b : Board) → (s : σ) →
    Decidable (Succeeds h setup ops b s)
  | [], _, _ => inferInstanceAs (Decidable True)
  | _ :: ops, _, _ =>
    have := Succeeds.decidable ops
    inferInstanceAs (Decidable (_ ∧ _))

theorem succeeds_append (earlier later : List Operation) (b : Board) (s : σ) :
    Succeeds h setup (earlier ++ later) b s ↔
      let first := (session setup earlier b).run h s
      Succeeds h setup earlier b s ∧ Succeeds h setup later first.result first.state := by
  induction earlier generalizing b s with
  | nil => simp [Succeeds, session, Program.run]
  | cons o ops ih =>
    rw [run_session_cons]
    simp only [List.cons_append, Succeeds, ih, and_assoc]

end Run

end RadioBoard.Board
