import ExoBrain.Lib.Run

/-!
# When two machines answer alike

Two machines take the same inputs.  Some steps they answer alike, and stay related; the others they
do not answer alike.  Then whole runs are answered alike exactly if none of the others is taken
(`trace_eq_iff_along`).

`forall_exec_iff_along_of_kept` is the same for one machine and a property that is seen from outside,
with an invariant behind it.  `filter_trace_eq` is for steps that one of the machines does not take.
-/

set_option autoImplicit false

namespace Run

universe u v w x

variable {σ : Type u} {ι : Type v} {ο : Type w} {τ : Type x} {step : σ → ι → ο × σ}
  {step' : τ → ι → ο × τ} {R : σ → τ → Prop}

/-- **Equal answers.**  If related states answer an input alike exactly if `ok` allows it, and stay
related then, runs from related states are answered alike exactly if all steps are allowed. -/
theorem trace_eq_iff_along {ok : τ → ι → Prop}
    (hans : ∀ s t i, R s t → ((step s i).1 = (step' t i).1 ↔ ok t i))
    (hnext : ∀ s t i, R s t → ok t i → R (step s i).2 (step' t i).2) {s : σ} {t : τ}
    (hR : R s t) (is : List ι) : trace step s is = trace step' t is ↔ Along step' ok t is := by
  induction is generalizing s t with
  | nil => exact iff_of_true rfl trivial
  | cons i is ih =>
    rw [trace, trace, List.cons.injEq, Prod.mk.injEq, Along, ← hans s t i hR]
    constructor
    · rintro ⟨⟨-, heq⟩, hrest⟩
      exact ⟨heq, (ih (hnext s t i hR ((hans s t i hR).mp heq))).mp hrest⟩
    · rintro ⟨heq, hrest⟩
      exact ⟨⟨rfl, heq⟩, (ih (hnext s t i hR ((hans s t i hR).mp heq))).mpr hrest⟩

/-- **An invariant behind a property.**  If the invariant implies the property, and a step from where it
holds keeps the property exactly if `ok` allows it, and then keeps the invariant too, the property holds
all along a run exactly if all steps are allowed. -/
theorem forall_exec_iff_along_of_kept {ok : σ → ι → Prop} {D : ι → Prop} {P Q : σ → Prop}
    (hPQ : ∀ s, P s → Q s)
    (hstep : ∀ s i, D i → P s → (Q (step s i).2 ↔ ok s i) ∧ (ok s i → P (step s i).2)) {s : σ}
    {is : List ι} (hD : ∀ i ∈ is, D i) (hP : P s) :
    (∀ js, js <+: is → Q (exec step s js)) ↔ Along step ok s is := by
  induction is generalizing s with
  | nil =>
    refine ⟨fun _ ↦ trivial, fun _ js hjs ↦ ?_⟩
    rw [List.prefix_nil.mp hjs]
    exact hPQ s hP
  | cons i is ih =>
    obtain ⟨hi, his⟩ := List.forall_mem_cons.mp hD
    obtain ⟨hiff, hkept⟩ := hstep s i hi hP
    constructor
    · intro h
      have hok := hiff.mp (h [i] ⟨is, rfl⟩)
      exact ⟨hok, (ih his (hkept hok)).mp fun js hjs ↦
        h (i :: js) (List.cons_prefix_cons.mpr ⟨rfl, hjs⟩)⟩
    · rintro ⟨hok, hrest⟩ js hjs
      cases js with
      | nil => exact hPQ s hP
      | cons j js =>
        obtain ⟨rfl, hrun⟩ := List.cons_prefix_cons.mp hjs
        exact (ih his (hkept hok)).mpr hrest js hrun

/-- The machine of which less of the answers is seen. -/
def mapAnswers {ρ : Type*} (f : ο → ρ) (step : σ → ι → ο × σ) (s : σ) (i : ι) : ρ × σ :=
  (f (step s i).1, (step s i).2)

theorem trace_mapAnswers {ρ : Type*} (f : ο → ρ) (s : σ) (is : List ι) :
    trace (mapAnswers f step) s is = (trace step s is).map fun e ↦ (e.1, f e.2) := by
  induction is generalizing s with
  | nil => rfl
  | cons i is ih =>
    rw [trace, trace, List.map_cons, ← ih]
    rfl

/-- If related states always answer alike and stay related, so do runs. -/
theorem trace_eq_of_forall (hans : ∀ s t i, R s t → (step s i).1 = (step' t i).1)
    (hnext : ∀ s t i, R s t → R (step s i).2 (step' t i).2) {s : σ} {t : τ} (hR : R s t)
    (is : List ι) : trace step s is = trace step' t is := by
  have hany : Along step' (fun _ _ ↦ True) t is := along_of_forall (fun _ _ ↦ trivial) t is
  exact (trace_eq_iff_along (fun s t i h ↦ iff_of_true (hans s t i h) trivial)
    (fun s t i h _ ↦ hnext s t i h) hR is).mpr hany

/-- **Steps that are not noticed.**  If steps that are left out keep the relation, and the others are
answered alike and keep it, what is answered to the others is what is answered to them alone. -/
theorem filter_trace_eq {keep : ι → Bool} (hskip : ∀ s t i, R s t → keep i = false → R (step s i).2 t)
    (hkeep : ∀ s t i, R s t → keep i = true →
      (step s i).1 = (step' t i).1 ∧ R (step s i).2 (step' t i).2) {s : σ} {t : τ} (hR : R s t)
    (is : List ι) :
    (trace step s is).filter (fun e ↦ keep e.1) = trace step' t (is.filter keep) := by
  induction is generalizing s t with
  | nil => rfl
  | cons i is ih =>
    cases hkept : keep i with
    | false =>
      rw [trace, List.filter_cons_of_neg (by simp [hkept]), List.filter_cons_of_neg (by simp [hkept])]
      exact ih (hskip s t i hR hkept)
    | true =>
      obtain ⟨hanswer, hnext⟩ := hkeep s t i hR hkept
      rw [trace, List.filter_cons_of_pos (by simp [hkept]), List.filter_cons_of_pos (by simp [hkept]),
        trace, hanswer, ih hnext]

end Run
