import Mathlib.Logic.Basic
import Mathlib.Data.List.Basic

/-!
# Programs that act, call out and may raise

A `Prog σ ε α` is an imperative program in an environment with states `σ`.  It performs *actions*
of type `ε`, which are logged in order; it calls operations of the environment, any of which may
raise; and it ends by returning a value of type `α`, by raising, or not yet: a loop is cut off
after a number of turns that is a parameter, so that every finite part of an endless run is a run.

* `act`, `call`, `tryFinally` and `repeatUntil` are the constructs, besides the monad operations.
* `wp m Q` is the weakest precondition: `Q` holds of the ending, of the whole log and of the last
  state when `m` is run after the log and from the state it is applied to.  There is one rule for
  each construct (`wp_pure` to `wp_repeatUntil`), and `wp_mono` for everything else.
-/

set_option autoImplicit false

namespace Effects

/-- How a program ends. -/
inductive Ending (α : Type)
  | returned (value : α)
  | raised
  /-- A loop was cut off. -/
  | running
deriving DecidableEq, Repr

/-- A program: the actions it performs, the state it leaves, and how it ends. -/
def Prog (σ ε α : Type) : Type := σ → List ε × σ × Ending α

namespace Prog

variable {σ ε α β : Type}

/-- The actions of a run. -/
def log (m : Prog σ ε α) (s : σ) : List ε := (m s).1

/-- The state after a run. -/
def state (m : Prog σ ε α) (s : σ) : σ := (m s).2.1

/-- How a run ends. -/
def ending (m : Prog σ ε α) (s : σ) : Ending α := (m s).2.2

/-- Return at once. -/
def ret (a : α) : Prog σ ε α := fun s ↦ ([], s, .returned a)

/-- Go on with the value of a program, if it returns one. -/
def andThen (m : Prog σ ε α) (f : α → Prog σ ε β) : Prog σ ε β := fun s ↦
  match m s with
  | (l, s', .returned a) =>
    let r := f a s'
    (l ++ r.1, r.2)
  | (l, s', .raised) => (l, s', .raised)
  | (l, s', .running) => (l, s', .running)

instance : Monad (Prog σ ε) where
  pure := ret
  bind := andThen

/-- Perform an action. -/
def act (e : ε) : Prog σ ε Unit := fun s ↦ ([e], s, .returned ())

/-- Call an operation of the environment; it raises when it has no answer. -/
def call (f : σ → Option α × σ) : Prog σ ε α := fun s ↦
  match f s with
  | (some a, s') => ([], s', .returned a)
  | (none, s') => ([], s', .raised)

/-- Call an operation of the environment that never raises. -/
def perform (f : σ → α × σ) : Prog σ ε α := call fun s ↦ (some (f s).1, (f s).2)

/-- `try: m finally: cleanup`. -/
def tryFinally (m : Prog σ ε α) (cleanup : Prog σ ε Unit) : Prog σ ε α := fun s ↦
  match m s with
  | (l, s', .running) => (l, s', .running)
  | (l, s', ended) =>
    let r := cleanup s'
    (l ++ r.1, r.2.1, match r.2.2 with
      | .returned _ => ended
      | .raised => .raised
      | .running => .running)

/-- Repeat a program until it returns a value, for at most a number of turns. -/
def repeatUntil (body : Prog σ ε (Option β)) : Nat → Prog σ ε β
  | 0 => fun s ↦ ([], s, .running)
  | fuel + 1 => body >>= fun
    | some b => pure b
    | none => repeatUntil body fuel

/-! ## Weakest preconditions -/

/-- What has to hold of the log so far and of the state for `Q` to hold at the end. -/
def wp (m : Prog σ ε α) (Q : Ending α → List ε → σ → Prop) (l : List ε) (s : σ) : Prop :=
  Q (m.ending s) (l ++ m.log s) (m.state s)

variable {m : Prog σ ε α} {Q : Ending α → List ε → σ → Prop} {l : List ε} {s : σ}

theorem wp_pure (a : α) : wp (pure a) Q l s ↔ Q (.returned a) l s := by
  change Q (.returned a) (l ++ []) s ↔ _
  rw [List.append_nil]

theorem wp_bind {f : α → Prog σ ε β} {Q : Ending β → List ε → σ → Prop} :
    wp (m >>= f) Q l s ↔
      wp m (fun ended l s ↦ match ended with
        | .returned a => wp (f a) Q l s
        | .raised => Q .raised l s
        | .running => Q .running l s) l s := by
  change Q (andThen m f s).2.2 (l ++ (andThen m f s).1) (andThen m f s).2.1 ↔ _
  rw [andThen, wp, ending, log, state]
  rcases m s with ⟨l', s', a | _ | _⟩
  · simp only [wp, ending, log, state, List.append_assoc]
  · rfl
  · rfl

theorem wp_act (e : ε) {Q : Ending Unit → List ε → σ → Prop} :
    wp (act e) Q l s ↔ Q (.returned ()) (l ++ [e]) s := Iff.rfl

theorem wp_call (f : σ → Option α × σ) :
    wp (call f) Q l s ↔
      match (f s).1 with
      | some a => Q (.returned a) l (f s).2
      | none => Q .raised l (f s).2 := by
  rw [wp, ending, log, state, call]
  rcases f s with ⟨_ | a, s'⟩ <;> simp only [List.append_nil]

/-- What follows an operation of the environment has to cope with every answer. -/
theorem wp_bind_call {f : σ → Option α × σ} {g : α → Prog σ ε β}
    {Q : Ending β → List ε → σ → Prop} (hreturned : ∀ a s, wp (g a) Q l s)
    (hraised : ∀ s, Q .raised l s) : wp (call f >>= g) Q l s := by
  rw [wp_bind, wp_call]
  rcases (f s).1 with _ | a
  · exact hraised _
  · exact hreturned a _

theorem wp_bind_act {e : ε} {g : Unit → Prog σ ε β} {Q : Ending β → List ε → σ → Prop} :
    wp (act e >>= g) Q l s ↔ wp (g ()) Q (l ++ [e]) s := by
  rw [wp_bind, wp_act]

theorem wp_perform (f : σ → α × σ) :
    wp (perform f) Q l s ↔ Q (.returned (f s).1) l (f s).2 := wp_call _

theorem wp_bind_perform {f : σ → α × σ} {g : α → Prog σ ε β} {Q : Ending β → List ε → σ → Prop} :
    wp (perform f >>= g) Q l s ↔ wp (g (f s).1) Q l (f s).2 := by
  rw [wp_bind, wp_perform]

theorem wp_mono {Q' : Ending α → List ε → σ → Prop} (h : wp m Q l s)
    (hQ : ∀ ended l s, Q ended l s → Q' ended l s) : wp m Q' l s := hQ _ _ _ h

theorem wp_tryFinally {cleanup : Prog σ ε Unit} :
    wp (tryFinally m cleanup) Q l s ↔
      wp m (fun ended l s ↦ ended = .running ∧ Q .running l s ∨
        ended ≠ .running ∧ wp cleanup (fun ended' l s ↦ match ended' with
          | .returned _ => Q ended l s
          | .raised => Q .raised l s
          | .running => Q .running l s) l s) l s := by
  simp only [wp, ending, log, state, tryFinally]
  rcases m s with ⟨l', s', a | _ | _⟩
  · rcases hc : cleanup s' with ⟨l'', s'', _ | _ | _⟩ <;> simp [hc]
  · rcases hc : cleanup s' with ⟨l'', s'', _ | _ | _⟩ <;> simp [hc]
  · simp

/-- **The rule for loops.**  An invariant that every turn keeps, or leaves for the goal. -/
theorem wp_repeatUntil {body : Prog σ ε (Option β)} {Q : Ending β → List ε → σ → Prop}
    {I : List ε → σ → Prop}
    (hbody : ∀ l s, I l s → wp body (fun ended l s ↦ match ended with
      | .returned (some b) => Q (.returned b) l s
      | .returned none => I l s
      | .raised => Q .raised l s
      | .running => Q .running l s) l s)
    (hcut : ∀ l s, I l s → Q .running l s) (fuel : Nat) (hI : I l s) :
    wp (repeatUntil body fuel) Q l s := by
  induction fuel generalizing l s with
  | zero =>
    change Q .running (l ++ []) s
    rw [List.append_nil]
    exact hcut l s hI
  | succ fuel ih =>
    rw [repeatUntil, wp_bind]
    refine wp_mono (hbody l s hI) fun ended l s h ↦ ?_
    match ended, h with
    | .returned (some b), h => exact (wp_pure b).mpr h
    | .returned none, h => exact ih h
    | .raised, h => exact h
    | .running, h => exact h

end Prog

end Effects
