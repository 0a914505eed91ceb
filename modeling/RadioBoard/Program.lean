/-!
Programs that talk to collaborators.

A program is a tree: it is done, it says something that needs no answer, or it makes a call and goes
on with the answer. Nothing else happens between two calls, so a property of a program for every
behaviour of its collaborators is a property of the tree. A `Handler` answers calls and `Program.run`
follows the tree with it, keeping the events on the way.
-/

namespace RadioBoard

/-- The calls that a program can make, each with the kind of its answer. -/
structure Interface where
  Call : Type
  Answer : Call → Type

namespace Interface

/-- An interface without calls. -/
def silent : Interface := ⟨Empty, nofun⟩

/-- The calls of both interfaces. -/
abbrev sum (I J : Interface) : Interface where
  Call := I.Call ⊕ J.Call
  Answer
    | .inl c => I.Answer c
    | .inr c => J.Answer c

end Interface

inductive Level
  | error | warn | info
  deriving DecidableEq

/-- What a program says without waiting for an answer. -/
inductive Note
  | log (level : Level) (text : String)
  | line (text : String)
  | pause (milliseconds : Nat)
  deriving DecidableEq

inductive Program (I : Interface) (α : Type)
  | done (a : α)
  | say (n : Note) (next : Program I α)
  | call (c : I.Call) (next : I.Answer c → Program I α)

/-- One thing that happened in a run. -/
inductive Event (I : Interface)
  | said (n : Note)
  | called (c : I.Call) (answer : I.Answer c)

/-- Collaborators with a state of type `σ`. -/
abbrev Handler (I : Interface) (σ : Type) := (c : I.Call) → σ → I.Answer c × σ

structure Outcome (I : Interface) (σ α : Type) where
  events : List (Event I)
  result : α
  state : σ

namespace Program

variable {I J : Interface} {σ τ α β : Type}

def bind : Program I α → (α → Program I β) → Program I β
  | done a, f => f a
  | say n p, f => say n (p.bind f)
  | call c k, f => call c fun x => (k x).bind f

instance : Monad (Program I) where
  pure := done
  bind := bind

def ask (c : I.Call) : Program I (I.Answer c) := call c done

def note (n : Note) : Program I Unit := say n (done ())

def run (h : Handler I σ) : Program I α → σ → Outcome I σ α
  | done a, s => ⟨[], a, s⟩
  | say n p, s =>
    let rest := run h p s
    ⟨.said n :: rest.events, rest.result, rest.state⟩
  | call c k, s =>
    let answer := h c s
    let rest := run h (k answer.1) answer.2
    ⟨.called c answer.1 :: rest.events, rest.result, rest.state⟩

/-- Makes every call by a program of its own over another interface, with a state kept in between. -/
def expand (f : (c : I.Call) → τ → Program J (I.Answer c × τ)) :
    Program I α → τ → Program J (α × τ)
  | done a, t => done (a, t)
  | say n p, t => say n (expand f p t)
  | call c k, t => (f c t).bind fun (answer, t) => expand f (k answer) t

/-- The same program where more calls can be made. -/
def left : Program I α → Program (I.sum J) α
  | done a => done a
  | say n p => say n p.left
  | call c k => .call (I := I.sum J) (.inl c) fun x => (k x).left

def right : Program J α → Program (I.sum J) α
  | done a => done a
  | say n p => say n p.right
  | call c k => .call (I := I.sum J) (.inr c) fun x => (k x).right

@[simp] theorem pure_eq (a : α) : (pure a : Program I α) = done a := rfl

@[simp] theorem bind_eq (p : Program I α) (f : α → Program I β) : p >>= f = p.bind f := rfl

theorem bind_done (p : Program I α) : p.bind done = p := by
  induction p with
  | done a => rfl
  | say n p ih => rw [bind, ih]
  | call c k ih => simp only [bind, ih]

theorem bind_assoc {γ : Type} (p : Program I α) (f : α → Program I β) (g : β → Program I γ) :
    (p.bind f).bind g = p.bind fun a => (f a).bind g := by
  induction p with
  | done a => rfl
  | say n p ih => simp only [bind, ih]
  | call c k ih => simp only [bind, ih]

instance : LawfulMonad (Program I) :=
  LawfulMonad.mk' (Program I) bind_done (fun _ _ => rfl) bind_assoc

theorem left_bind (p : Program I α) (f : α → Program I β) :
    ((p.bind f).left : Program (I.sum J) β) = p.left.bind fun a => (f a).left := by
  induction p with
  | done a => rfl
  | say n p ih => simp only [bind, left, ih]
  | call c k ih => simp only [bind, left, ih]

/-- A run of one program after another is a run of both in turn. -/
theorem run_bind (h : Handler I σ) (p : Program I α) (f : α → Program I β) (s : σ) :
    (p.bind f).run h s =
      let first := p.run h s
      let second := (f first.result).run h first.state
      ⟨first.events ++ second.events, second.result, second.state⟩ := by
  induction p generalizing s with
  | done a => rfl
  | say n p ih => simp only [bind, run, ih, List.cons_append]
  | call c k ih => simp only [bind, run, ih, List.cons_append]

end Program

/-- Monads in which notes can be left. -/
class MonadNote (m : Type → Type) where
  note : Note → m Unit

export MonadNote (note)

instance {I : Interface} : MonadNote (Program I) := ⟨Program.note⟩

instance {m n : Type → Type} [MonadLift m n] [MonadNote m] : MonadNote n :=
  ⟨fun x => monadLift (note x : m Unit)⟩

def logError {m : Type → Type} [MonadNote m] (text : String) : m Unit := note (.log .error text)
def logWarn {m : Type → Type} [MonadNote m] (text : String) : m Unit := note (.log .warn text)
def logInfo {m : Type → Type} [MonadNote m] (text : String) : m Unit := note (.log .info text)
def pause {m : Type → Type} [MonadNote m] (milliseconds : Nat) : m Unit := note (.pause milliseconds)

end RadioBoard
