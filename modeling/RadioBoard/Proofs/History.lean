import RadioBoard.Proofs.Contract

/-!
What is known of a run at each of its calls.

A record is a state that follows from the calls made so far and their answers; the calls themselves are one,
the trace. Main statement: if a program meets a contract whose states are records, then in each run the
contract allowed every call in the state that was recorded until then.
-/

namespace RadioBoard

/-- The calls among the events of a run. -/
def calls {I : Interface} : List (Event I) → List (Event I)
  | [] => []
  | .said _ :: events => calls events
  | .called c x :: events => .called c x :: calls events

theorem calls_append {I : Interface} (before after : List (Event I)) :
    calls (before ++ after) = calls before ++ calls after := by
  induction before with
  | nil => rfl
  | cons e before ih => cases e <;> simp [calls, ih]

theorem mem_calls {I : Interface} {events : List (Event I)} {c : I.Call} {x : I.Answer c}
    (made : .called c x ∈ events) : .called c x ∈ calls events := by
  obtain ⟨before, after, rfl⟩ := List.append_of_mem made
  rw [calls_append, calls]
  exact List.mem_append_right _ (.head _)

/-- What is read off the calls of a run alone. -/
theorem filterMap_calls {I : Interface} {β : Type} {f : Event I → Option β} (silent : ∀ n, f (.said n) = none)
    (events : List (Event I)) : (calls events).filterMap f = events.filterMap f := by
  induction events with
  | nil => rfl
  | cons e events ih =>
    cases e with
    | said n => rw [calls, ih, List.filterMap_cons_none (silent n)]
    | called c x => rw [calls, List.filterMap_cons, List.filterMap_cons, ih]

theorem split_at {I : Interface} {events : List (Event I)} {k : Nat} {e : Event I} (here : events[k]? = some e) :
    events = events.take k ++ e :: events.drop (k + 1) := by
  obtain ⟨within, rfl⟩ := List.getElem?_eq_some_iff.mp here
  rw [List.getElem_cons_drop, List.take_append_drop]

namespace Contract

variable {I : Interface} {σ τ : Type}

/-- A contract whose states are records. Calls may be answered in any way. -/
def recording (allows : σ → I.Call → Prop) (next : σ → (c : I.Call) → I.Answer c → σ) : Contract I σ where
  allows := allows
  answers s c x t := t = next s c x

variable (next : σ → (c : I.Call) → I.Answer c → σ)

/-- What is recorded after some events. -/
def record : σ → List (Event I) → σ
  | s, [] => s
  | s, .said _ :: events => record s events
  | s, .called c x :: events => record (next s c x) events

/-- Each call is one of those that `P` has for what is recorded until then. -/
def Along (P : σ → I.Call → Prop) : σ → List (Event I) → Prop
  | _, [] => True
  | s, .said _ :: events => Along P s events
  | s, .called c x :: events => P s c ∧ Along P (next s c x) events

variable {next}

theorem record_append (s : σ) (before after : List (Event I)) :
    record next s (before ++ after) = record next (record next s before) after := by
  induction before generalizing s with
  | nil => rfl
  | cons e before ih =>
    cases e with
    | said n => exact ih s
    | called c x => exact ih (next s c x)

theorem record_of_calls_eq_nil {events : List (Event I)} (s : σ) (none : calls events = []) :
    record next s events = s := by
  induction events with
  | nil => rfl
  | cons e events ih =>
    cases e with
    | said n => exact ih none
    | called c x => cases none

/-- What has come to hold of a record came to hold with one of the calls. -/
theorem exists_of_record {s : σ} {events : List (Event I)} {Q : σ → Prop} (final : Q (record next s events)) :
    Q s ∨ ∃ t c x, .called c x ∈ events ∧ ¬Q t ∧ Q (next t c x) := by
  induction events generalizing s with
  | nil => exact .inl final
  | cons e events ih =>
    cases e with
    | said n =>
      obtain now | ⟨t, c, x, made, turned⟩ := ih final
      · exact .inl now
      · exact .inr ⟨t, c, x, .tail _ made, turned⟩
    | called c x =>
      by_cases now : Q s
      · exact .inl now
      obtain turned | ⟨t, c, x, made, turned⟩ := ih final
      · exact .inr ⟨s, c, x, .head _, now, turned⟩
      · exact .inr ⟨t, c, x, .tail _ made, turned⟩

theorem along_append {P : σ → I.Call → Prop} {s : σ} {before after : List (Event I)} :
    Along next P s (before ++ after) ↔ Along next P s before ∧ Along next P (record next s before) after := by
  induction before generalizing s with
  | nil => simp [Along, record]
  | cons e before ih =>
    cases e with
    | said n => exact ih
    | called c x => rw [List.cons_append, Along, Along, record, ih, and_assoc]

/-- Everything may be called and answered in any way, and the state is what was called until then. -/
def tracing : Contract I (List (Event I)) :=
  recording (fun _ _ => True) fun trace c x => trace ++ [.called c x]

theorem record_trace (trace events : List (Event I)) :
    record (fun trace c x => trace ++ [.called c x]) trace events = trace ++ calls events := by
  induction events generalizing trace with
  | nil => exact (List.append_nil _).symm
  | cons e events ih =>
    cases e with
    | said n => exact ih trace
    | called c x =>
      rw [record, ih, calls, List.append_assoc]
      rfl

/-- A trace beside another contract is the calls that were made. -/
theorem trace_of_leads {K : Contract I σ} {s s' : σ × List (Event I)} {events : List (Event I)}
    (leads : (K.both tracing).Leads s events s') : s'.2 = s.2 ++ calls events := by
  induction events generalizing s with
  | nil =>
    cases leads
    exact (List.append_nil _).symm
  | cons e events ih =>
    cases e with
    | said n => exact ih leads
    | called c x =>
      obtain ⟨-, t, ⟨-, next⟩, rest⟩ := leads
      have grown : t.2 = s.2 ++ [.called c x] := next
      rw [ih rest, grown, calls, List.append_assoc]
      rfl

theorem Along.at {P : σ → I.Call → Prop} {s : σ} {events : List (Event I)} (along : Along next P s events)
    {k : Nat} {c : I.Call} {x : I.Answer c} (here : events[k]? = some (.called c x)) :
    P (record next s (events.take k)) c ∧
      Along next P (next (record next s (events.take k)) c x) (events.drop (k + 1)) := by
  rw [split_at here] at along
  exact (along_append.mp along).2

end Contract

namespace Program

variable {I : Interface} {σ τ α : Type}

open Contract

/-- A run of a program that meets a recording contract. -/
theorem Meets.recorded {allows : σ → I.Call → Prop} {next : σ → (c : I.Call) → I.Answer c → σ}
    {p : Program I α} {s : σ} {post : α → σ → Prop} (met : p.Meets (recording allows next) s post)
    (h : Handler I τ) (t : τ) :
    Along next allows s (p.run h t).events ∧
      post (p.run h t).result (record next s (p.run h t).events) := by
  induction p generalizing s t with
  | done a => exact ⟨trivial, met⟩
  | say n p ih => exact ih met t
  | call c k ih =>
    obtain ⟨allowed, rest⟩ := ih _ (met.2 _ _ rfl) (h c t).2
    exact ⟨⟨met.1, allowed⟩, rest⟩

/-- Every call of a run is among those that its program makes. -/
theorem called_of_meets {C : I.Call → Prop} {p : Program I α} {post : α → Unit → Prop}
    (met : p.Meets (.only C) () post) {h : Handler I τ} {t : τ} {c : I.Call} {x : I.Answer c}
    (made : .called c x ∈ (p.run h t).events) : C c := by
  induction p generalizing t with
  | done a => cases made
  | say n p ih =>
    cases made with
    | tail _ later => exact ih met later
  | call c' k ih =>
    cases made with
    | head => exact met.1
    | tail _ later => exact ih _ (met.2 _ () trivial) later

/-- A program that makes no calls leaves its collaborators alone. -/
theorem Meets.silent {p : Program I α} {post : α → Unit → Prop} (met : p.Meets (.only fun _ => False) () post)
    (h : Handler I τ) (t : τ) :
    post (p.run h t).result () ∧ (p.run h t).state = t ∧ calls (p.run h t).events = [] := by
  induction p with
  | done a => exact ⟨met, rfl, rfl⟩
  | say n p ih => exact ih met
  | call c k ih => exact met.1.elim

/-- Every answer of a run was given by the collaborators. -/
theorem answer_of_run {h : Handler I τ} {p : Program I α} {t : τ} {c : I.Call} {x : I.Answer c}
    (made : .called c x ∈ calls (p.run h t).events) : ∃ u, (h c u).1 = x := by
  induction p generalizing t with
  | done a => cases made
  | say n p ih => exact ih made
  | call c' k ih =>
    cases made with
    | head => exact ⟨t, rfl⟩
    | tail _ later => exact ih _ later

/-- A run with collaborators that keep a contract, and its trace. -/
theorem Meets.traced {K : Contract I σ} {h : Handler I τ} {rel : τ → σ → Prop} (kept : K.KeptBy h rel)
    {p : Program I α} {t : τ} {s : σ} {post : α → σ × List (Event I) → Prop} (start : rel t s)
    (met : p.Meets (K.both tracing) (s, []) post) :
    ∃ s', rel (p.run h t).state s' ∧ post (p.run h t).result (s', calls (p.run h t).events) := by
  have keeps : (K.both tracing).KeptBy h fun t u => rel t u.1 := by
    intro t u c related
    obtain ⟨s', answered, next⟩ := kept t u.1 c related
    exact ⟨(s', _), ⟨answered, rfl⟩, next⟩
  obtain ⟨⟨s', trace⟩, leads, final, last⟩ := met.run keeps start
  have made : trace = calls (p.run h t).events := trace_of_leads leads
  exact ⟨s', last, made ▸ final⟩

/-- A program that meets a contract meets every other that allows no less and whose answers are among
those reckoned with, as far as `rel` ties the states of the two. -/
theorem Meets.simulate {K : Contract I σ} {L : Contract I τ} {p : Program I α} {s : σ} {t : τ}
    {post : α → σ → Prop} (rel : σ → τ → Prop) (met : p.Meets K s post) (start : rel s t)
    (keeps : ∀ s t c, rel s t → K.allows s c →
      L.allows t c ∧ ∀ x t', L.answers t c x t' → ∃ s', K.answers s c x s' ∧ rel s' t') :
    p.Meets L t fun a t' => ∃ s', rel s' t' ∧ post a s' := by
  induction p generalizing s t with
  | done a => exact ⟨s, start, met⟩
  | say n p ih => exact ih met start
  | call c k ih =>
    obtain ⟨allowed, answered⟩ := keeps s t c start met.1
    refine ⟨allowed, fun x t' answer => ?_⟩
    obtain ⟨s', same, related⟩ := answered x t' answer
    exact ih x (met.2 x s' same) related

end Program
end RadioBoard
