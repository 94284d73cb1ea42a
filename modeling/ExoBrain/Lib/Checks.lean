import Mathlib.Data.List.Forall2

/-!
# Checks that raise

A check of the code either raises an exception or lets the execution go on.  `require` goes on with a
value if there is one, `check` if a condition holds, and what they raise otherwise is an argument.

The lemmas read a result backwards: from what came out in the end follows what every check has let
pass (`bind_eq_ok`, `require_eq_ok`, `check_eq_ok`), and a loop has passed for every item
(`mapM_eq_ok`).  What every turn of a loop keeps holds at its end (`foldlM_invariant`).
-/

set_option autoImplicit false

namespace Checks

universe u

variable {ε : Type u} {α β : Type u}

/-- The value, or an exception. -/
def require (o : Option α) (error : ε) : Except ε α :=
  match o with
  | some x => .ok x
  | none => .error error

/-- Raise, unless the condition holds. -/
def check {ε : Type u} (passed : Prop) [Decidable passed] (error : ε) : Except ε Unit :=
  if passed then .ok () else .error error

theorem exists_eq_ok {x : Except ε α} (h : x.isOk = true) : ∃ a, x = .ok a := by
  cases x with
  | ok a => exact ⟨a, rfl⟩
  | error e => cases h

theorem toOption_eq_some {x : Except ε α} {a : α} : x.toOption = some a ↔ x = .ok a := by
  cases x with
  | ok b => rw [Except.toOption, Option.some_inj, Except.ok.injEq]
  | error e => exact iff_of_false nofun nofun

theorem bind_eq_ok {x : Except ε α} {next : α → Except ε β} {y : β} :
    (x >>= next) = .ok y ↔ ∃ a, x = .ok a ∧ next a = .ok y := by
  cases x <;> simp [bind, Except.bind]

theorem require_eq_ok {o : Option α} {error : ε} {x : α} :
    require o error = .ok x ↔ o = some x := by
  cases o <;> simp [require]

theorem check_eq_ok {ε : Type u} {passed : Prop} [Decidable passed] {error : ε} {u : Unit} :
    check passed error = .ok u ↔ passed := by
  by_cases h : passed <;> simp [check, h]

theorem mapError_eq_ok {ε : Type u} {ε' β : Type u} {x : Except ε β} {translate : ε → ε'} {y : β} :
    x.mapError translate = .ok y ↔ x = .ok y := by
  cases x with
  | ok z => rw [Except.mapError, Except.ok.injEq, Except.ok.injEq]
  | error e => exact iff_of_false nofun nofun

theorem map_eq_ok {ε : Type u} {α β : Type u} {f : α → β} {x : Except ε α} {y : β} :
    x.map f = .ok y ↔ ∃ a, x = .ok a ∧ f a = y := by
  cases x <;> simp [Except.map]

/-- A loop that raises nothing has read every item. -/
theorem mapM_eq_ok {read : α → Except ε β} {l : List α} {r : List β}
    (h : l.mapM read = .ok r) : List.Forall₂ (fun x y ↦ read x = .ok y) l r := by
  induction l generalizing r with
  | nil =>
    rw [List.mapM_nil] at h
    obtain rfl := Except.ok.inj h
    exact .nil
  | cons x l ih =>
    rw [List.mapM_cons, bind_eq_ok] at h
    obtain ⟨y, hy, h⟩ := h
    rw [bind_eq_ok] at h
    obtain ⟨ys, hys, h⟩ := h
    obtain rfl := Except.ok.inj h
    exact .cons hy (ih hys)

/-- What every turn of a loop keeps, as long as nothing is raised, holds at its end. -/
theorem foldlM_invariant {σ : Type u} {step : σ → α → Except ε σ} {P : σ → Prop}
    (hstep : ∀ s x t, P s → step s x = .ok t → P t) {s t : σ} {l : List α}
    (h : l.foldlM step s = .ok t) (hs : P s) : P t := by
  induction l generalizing s with
  | nil =>
    obtain rfl := Except.ok.inj h
    exact hs
  | cons x l ih =>
    rw [List.foldlM_cons, bind_eq_ok] at h
    obtain ⟨s', hs', h⟩ := h
    exact ih h (hstep s x s' hs hs')

/-- A loop that collects every item makes the list of them. -/
theorem foldlM_collect {β : Type u} {step : List β → α → Except ε (List β)} {read : β → α}
    {l : List β} (hstep : ∀ before x after, before ++ x :: after = l →
      step before (read x) = .ok (before ++ [x])) : (l.map read).foldlM step [] = .ok l := by
  have hloop (before after : List β) (hl : before ++ after = l) :
      (after.map read).foldlM step before = .ok l := by
    induction after generalizing before with
    | nil =>
      rw [← hl, List.append_nil]
      rfl
    | cons x after ih =>
      rw [List.map_cons, List.foldlM_cons, hstep before x after hl]
      exact ih (before ++ [x]) ((List.append_cons before x after).symm.trans hl)
  exact hloop [] l rfl

end Checks
