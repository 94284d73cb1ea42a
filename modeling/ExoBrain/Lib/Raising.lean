import Mathlib.Logic.Basic

/-!
# Computations that raise exceptions, over a state

A `Comp σ ε α` reads and changes a state of type `σ`, and then returns a value of type `α` or raises
an exception of type `ε`.  What it has done to the state before it raises is not undone.

* `raise`, `rescue`, `modify`, `ofExcept` and `attempts` are the constructs, besides the monad
  operations, and `zoom` runs a computation on a part of the state.
* There are lemmas that read a value which was returned backwards: where the value came from, and in
  which states (`bind_eq_ok` to `zoom_eq_ok`).  `fst_bind` and `fst_rescue` run a computation
  forwards, and so do `bind_of_ok` to `rescue_of_error`, with the state.
* The computations are a lawful monad, and `zoom` preserves its operations (`zoom_bind`).
* `Yields m P` says that all values which `m` returns, from whatever state, have a property.  It has
  a rule for each construct, of which `yields_attempts` is the one for loops: what is returned after
  some attempts was returned by one of them.
-/

set_option autoImplicit false

namespace Raising

/-- A computation: what it returns or raises, and the state it leaves. -/
def Comp (σ ε α : Type) : Type := σ → Except ε α × σ

namespace Comp

variable {σ τ ε α β : Type}

/-- Return at once. -/
def ret (a : α) : Comp σ ε α := fun s ↦ (.ok a, s)

/-- Go on with the value of a computation, if it returns one. -/
def andThen (m : Comp σ ε α) (f : α → Comp σ ε β) : Comp σ ε β := fun s ↦
  match m s with
  | (.ok a, s') => f a s'
  | (.error e, s') => (.error e, s')

instance : Monad (Comp σ ε) where
  pure := ret
  bind := andThen

/-- Raise an exception. -/
def raise (e : ε) : Comp σ ε α := fun s ↦ (.error e, s)

/-- `try: m except: handle`. -/
def rescue (m : Comp σ ε α) (handle : ε → Comp σ ε α) : Comp σ ε α := fun s ↦
  match m s with
  | (.ok a, s') => (.ok a, s')
  | (.error e, s') => handle e s'

/-- Change the state. -/
def modify (f : σ → σ) : Comp σ ε Unit := fun s ↦ (.ok (), f s)

/-- Return a value, or raise, and leave the state alone. -/
def ofExcept (x : Except ε α) : Comp σ ε α := fun s ↦ (x, s)

/-- Run a computation again when it raises, for a number of times. -/
def attempts (m : Comp σ ε α) : (more : Nat) → Comp σ ε α
  | 0 => m
  | more + 1 => rescue m fun _ ↦ attempts m more

/-- Run a computation on a part of the state. -/
def zoom (get : τ → σ) (put : σ → τ → τ) (m : Comp σ ε α) : Comp τ ε α := fun t ↦
  ((m (get t)).1, put (m (get t)).2 t)

/-! ## Where a value came from -/

variable {m : Comp σ ε α} {s t : σ} {a : α}

theorem pure_eq_ok {b : α} : (pure a : Comp σ ε α) s = (.ok b, t) ↔ a = b ∧ s = t := by
  change ((.ok a, s) : Except ε α × σ) = (.ok b, t) ↔ _
  rw [Prod.mk.injEq, Except.ok.injEq]

theorem bind_eq_ok {f : α → Comp σ ε β} {b : β} :
    (m >>= f) s = (.ok b, t) ↔ ∃ a s', m s = (.ok a, s') ∧ f a s' = (.ok b, t) := by
  change andThen m f s = _ ↔ _
  rw [andThen]
  rcases m s with ⟨e | a, s'⟩
  · constructor
    · nofun
    · rintro ⟨a, s', h, -⟩
      cases h
  · constructor
    · exact fun h ↦ ⟨a, s', rfl, h⟩
    · rintro ⟨a', s'', h, hf⟩
      cases h
      exact hf

theorem raise_ne_ok {e : ε} : (raise e : Comp σ ε α) s ≠ (.ok a, t) := nofun

theorem rescue_eq_ok {handle : ε → Comp σ ε α} :
    rescue m handle s = (.ok a, t) ↔
      m s = (.ok a, t) ∨ ∃ e s', m s = (.error e, s') ∧ handle e s' = (.ok a, t) := by
  rw [rescue]
  rcases m s with ⟨e | a', s'⟩
  · constructor
    · exact fun h ↦ .inr ⟨e, s', rfl, h⟩
    · rintro (h | ⟨e', s'', h, hhandle⟩)
      · cases h
      · cases h
        exact hhandle
  · constructor
    · exact .inl
    · rintro (h | ⟨e', s'', h, -⟩)
      · exact h
      · cases h

theorem ofExcept_eq_ok {x : Except ε α} :
    (ofExcept x : Comp σ ε α) s = (.ok a, t) ↔ x = .ok a ∧ s = t := by
  rw [ofExcept, Prod.mk.injEq]

theorem zoom_eq_ok {get : τ → σ} {put : σ → τ → τ} {t t' : τ} :
    zoom get put m t = (.ok a, t') ↔ ∃ s, m (get t) = (.ok a, s) ∧ put s t = t' := by
  rw [zoom]
  rcases m (get t) with ⟨x, s⟩
  constructor
  · intro h
    obtain ⟨rfl, rfl⟩ := Prod.mk.inj h
    exact ⟨s, rfl, rfl⟩
  · rintro ⟨s', h, rfl⟩
    obtain ⟨rfl, rfl⟩ := Prod.mk.inj h
    rfl

theorem fst_bind {f : α → Comp σ ε β} {b : β} (hm : (m s).1 = .ok a)
    (hf : (f a (m s).2).1 = .ok b) : ((m >>= f) s).1 = .ok b := by
  have h : (m >>= f) s = (.ok b, (f a (m s).2).2) :=
    bind_eq_ok.mpr ⟨a, (m s).2, Prod.ext hm rfl, Prod.ext hf rfl⟩
  rw [h]

theorem fst_rescue {handle : ε → Comp σ ε α} (hm : (m s).1 = .ok a) :
    (rescue m handle s).1 = .ok a := by
  have h : rescue m handle s = (.ok a, (m s).2) := rescue_eq_ok.mpr (.inl (Prod.ext hm rfl))
  rw [h]

/-! ## Running forwards -/

theorem bind_of_ok {f : α → Comp σ ε β} (h : m s = (.ok a, t)) : (m >>= f) s = f a t := by
  change andThen m f s = _
  rw [andThen, h]

theorem bind_of_error {f : α → Comp σ ε β} {e : ε} (h : m s = (.error e, t)) :
    (m >>= f) s = (.error e, t) := by
  change andThen m f s = _
  rw [andThen, h]

theorem rescue_of_ok {handle : ε → Comp σ ε α} (h : m s = (.ok a, t)) :
    rescue m handle s = (.ok a, t) := by
  rw [rescue, h]

theorem rescue_of_error {handle : ε → Comp σ ε α} {e : ε} (h : m s = (.error e, t)) :
    rescue m handle s = handle e t := by
  rw [rescue, h]

theorem andThen_ret (m : Comp σ ε α) : andThen m ret = m := by
  funext s
  rw [andThen]
  rcases m s with ⟨e | a, t⟩
  · rfl
  · rfl

theorem andThen_assoc {γ : Type} (m : Comp σ ε α) (f : α → Comp σ ε β) (g : β → Comp σ ε γ) :
    andThen (andThen m f) g = andThen m fun a ↦ andThen (f a) g := by
  funext s
  rw [andThen, andThen, andThen]
  rcases m s with ⟨e | a, t⟩
  · rfl
  · rfl

instance : LawfulMonad (Comp σ ε) :=
  LawfulMonad.mk' _ andThen_ret (fun _ _ ↦ rfl) andThen_assoc

/-! ## Parts of the state -/

section
variable {get : τ → σ} {put : σ → τ → τ}

theorem zoom_pure (hput : ∀ t, put (get t) t = t) :
    zoom get put (pure a : Comp σ ε α) = pure a := by
  funext t
  exact Prod.ext rfl (hput t)

theorem zoom_ofExcept (hput : ∀ t, put (get t) t = t) (x : Except ε α) :
    zoom get put (ofExcept x) = ofExcept x := by
  funext t
  exact Prod.ext rfl (hput t)

theorem zoom_bind (hget : ∀ s t, get (put s t) = s) (hput : ∀ s s' t, put s' (put s t) = put s' t)
    (m : Comp σ ε α) (f : α → Comp σ ε β) :
    zoom get put (m >>= f) = zoom get put m >>= fun a ↦ zoom get put (f a) := by
  funext t
  change zoom get put (andThen m f) t = andThen (zoom get put m) _ t
  rw [zoom, andThen, andThen, zoom]
  rcases m (get t) with ⟨e | a, s⟩
  · rfl
  · dsimp only
    rw [zoom, hget, hput]
end

/-! ## What is returned -/

/-- The values that are returned have a property. -/
def Yields (m : Comp σ ε α) (P : α → Prop) : Prop := ∀ s a t, m s = (.ok a, t) → P a

variable {P Q : α → Prop}

theorem Yields.mono (h : Yields m P) (hPQ : ∀ a, P a → Q a) : Yields m Q :=
  fun s a t ha ↦ hPQ a (h s a t ha)

theorem yields_true : Yields m fun _ ↦ True := fun _ _ _ _ ↦ trivial

theorem yields_pure (h : P a) : Yields (pure a : Comp σ ε α) P := by
  intro s b t hb
  rw [← (pure_eq_ok.mp hb).1]
  exact h

theorem yields_raise {e : ε} : Yields (raise e : Comp σ ε α) P := fun _ _ _ h ↦ absurd h raise_ne_ok

theorem yields_bind {f : α → Comp σ ε β} {Q : β → Prop} (hm : Yields m P)
    (hf : ∀ a, P a → Yields (f a) Q) : Yields (m >>= f) Q := by
  intro s b t h
  obtain ⟨a, s', ha, hb⟩ := bind_eq_ok.mp h
  exact hf a (hm s a s' ha) s' b t hb

theorem yields_rescue {handle : ε → Comp σ ε α} (hm : Yields m P)
    (hhandle : ∀ e, Yields (handle e) P) : Yields (rescue m handle) P := by
  intro s a t h
  rcases rescue_eq_ok.mp h with h | ⟨e, s', -, h⟩
  · exact hm s a t h
  · exact hhandle e s' a t h

theorem yields_ofExcept {x : Except ε α} (h : ∀ a, x = .ok a → P a) :
    Yields (ofExcept x : Comp σ ε α) P :=
  fun _ a _ ha ↦ h a (ofExcept_eq_ok.mp ha).1

/-- **The rule for attempts.**  What is returned in the end was returned by an attempt. -/
theorem yields_attempts (h : Yields m P) (more : Nat) : Yields (attempts m more) P := by
  induction more with
  | zero => exact h
  | succ more ih => exact yields_rescue h fun _ ↦ ih

theorem yields_zoom {get : τ → σ} {put : σ → τ → τ} (h : Yields m P) :
    Yields (zoom get put m) P := by
  intro t a t' ha
  obtain ⟨s, hs, -⟩ := zoom_eq_ok.mp ha
  exact h (get t) a s hs

end Comp

end Raising
