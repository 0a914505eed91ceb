import RadioBoard.Program

/-!
Programs under a contract.

A contract says what may be called in each state of a world, how a call may be answered there, and which
states may follow. Main statement: if a program meets a contract and its collaborators keep it, then what
the program was shown to establish holds at the end of the run, and the contract allowed every call on
the way.
-/

namespace RadioBoard

structure Contract (I : Interface) (σ : Type) where
  allows : σ → I.Call → Prop
  answers : σ → (c : I.Call) → I.Answer c → σ → Prop

namespace Contract

variable {I : Interface} {σ τ : Type}

/-- Only certain calls are made, and nothing is known of the answers. -/
def only (C : I.Call → Prop) : Contract I Unit where
  allows _ c := C c
  answers _ _ _ _ := True

/-- Two contracts at once, each with a state of its own. -/
def both (K : Contract I σ) (L : Contract I τ) : Contract I (σ × τ) where
  allows s c := K.allows s.1 c ∧ L.allows s.2 c
  answers s c x t := K.answers s.1 c x t.1 ∧ L.answers s.2 c x t.2

/-- Collaborators keep a contract if `rel` ties their states to those of the contract. -/
def KeptBy (K : Contract I σ) (h : Handler I τ) (rel : τ → σ → Prop) : Prop :=
  ∀ t s c, rel t s → ∃ s', K.answers s c (h c t).1 s' ∧ rel (h c t).2 s'

/-- The events between two states, all of them within the contract. -/
def Leads (K : Contract I σ) : σ → List (Event I) → σ → Prop
  | s, [], s' => s' = s
  | s, .said _ :: events, s' => K.Leads s events s'
  | s, .called c x :: events, s' =>
    K.allows s c ∧ ∃ t, K.answers s c x t ∧ K.Leads t events s'

end Contract

namespace Program

variable {I : Interface} {σ τ α β : Type}

/-- From this state on, the program only makes calls that the contract allows, and ends as `post` says,
however its calls are answered within the contract. -/
def Meets (K : Contract I σ) : Program I α → σ → (α → σ → Prop) → Prop
  | done a, s, post => post a s
  | say _ p, s, post => p.Meets K s post
  | call c k, s, post => K.allows s c ∧ ∀ x t, K.answers s c x t → (k x).Meets K t post

theorem meets_bind (K : Contract I σ) (p : Program I α) (f : α → Program I β) (s : σ)
    (post : β → σ → Prop) :
    (p.bind f).Meets K s post ↔ p.Meets K s fun a t => (f a).Meets K t post := by
  induction p generalizing s with
  | done a => rfl
  | say n p ih => exact ih s
  | call c k ih => simp only [bind, Meets, ih]

theorem Meets.mono {K : Contract I σ} {p : Program I α} {s : σ} {post out : α → σ → Prop}
    (h : p.Meets K s post) (implies : ∀ a t, post a t → out a t) : p.Meets K s out := by
  induction p generalizing s with
  | done a => exact implies a s h
  | say n p ih => exact ih h
  | call c k ih => exact ⟨h.1, fun x t answered => ih x (h.2 x t answered)⟩

/-- What is shown in two parts holds as a whole. -/
theorem Meets.and {K : Contract I σ} {p : Program I α} {s : σ} {post also : α → σ → Prop}
    (h : p.Meets K s post) (h' : p.Meets K s also) : p.Meets K s fun a t => post a t ∧ also a t := by
  induction p generalizing s with
  | done a => exact ⟨h, h'⟩
  | say n p ih => exact ih h h'
  | call c k ih => exact ⟨h.1, fun x t answered => ih x (h.2 x t answered) (h'.2 x t answered)⟩

/-- Where everything may be called, every program ends somehow. -/
theorem meets_true {K : Contract I σ} (allowed : ∀ s c, K.allows s c) (p : Program I α) (s : σ) :
    p.Meets K s fun _ _ => True := by
  induction p generalizing s with
  | done a => trivial
  | say n p ih => exact ih s
  | call c k ih => exact ⟨allowed s c, fun x t _ => ih x t⟩

/-- What a program does under every answer it also does under a contract that allows its calls. An
invariant that these calls keep holds at the end. -/
theorem Meets.under {C : I.Call → Prop} {K : Contract I σ} {p : Program I α} {s : σ}
    {post : α → Prop} {inv : σ → Prop} (h : p.Meets (.only C) () fun a _ => post a) (start : inv s)
    (keeps : ∀ c, C c → ∀ s, inv s → K.allows s c ∧ ∀ x t, K.answers s c x t → inv t) :
    p.Meets K s fun a t => post a ∧ inv t := by
  induction p generalizing s with
  | done a => exact ⟨h, start⟩
  | say n p ih => exact ih h start
  | call c k ih =>
    obtain ⟨allowed, kept⟩ := keeps c h.1 s start
    exact ⟨allowed, fun x t answered => ih x (h.2 x () trivial) (kept x t answered)⟩

/-- What is shown under each of two contracts holds under both. -/
theorem Meets.both {K : Contract I σ} {L : Contract I τ} {p : Program I α} {s : σ} {t : τ}
    {post : α → σ → Prop} {out : α → τ → Prop} (first : p.Meets K s post) (second : p.Meets L t out) :
    p.Meets (K.both L) (s, t) fun a u => post a u.1 ∧ out a u.2 := by
  induction p generalizing s t with
  | done a => exact ⟨first, second⟩
  | say n p ih => exact ih first second
  | call c k ih =>
    exact ⟨⟨first.1, second.1⟩, fun x u answered =>
      ih x (first.2 x u.1 answered.1) (second.2 x u.2 answered.2)⟩

/-- A run with collaborators that keep the contract. -/
theorem Meets.run {K : Contract I σ} {h : Handler I τ} {rel : τ → σ → Prop} (kept : K.KeptBy h rel)
    {p : Program I α} {t : τ} {s : σ} {post : α → σ → Prop} (start : rel t s)
    (met : p.Meets K s post) :
    ∃ s', K.Leads s (p.run h t).events s' ∧ post (p.run h t).result s' ∧
      rel (p.run h t).state s' := by
  induction p generalizing t s with
  | done a => exact ⟨s, rfl, met, start⟩
  | say n p ih => exact ih start met
  | call c k ih =>
    obtain ⟨s₁, answered, next⟩ := kept t s c start
    obtain ⟨s', leads, final, last⟩ := ih _ next (met.2 _ _ answered)
    exact ⟨s', ⟨met.1, s₁, answered, leads⟩, final, last⟩

end Program
end RadioBoard
