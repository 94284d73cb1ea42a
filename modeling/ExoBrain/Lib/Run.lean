import Mathlib.Logic.Basic
import Mathlib.Data.List.Basic

/-!
# Runs of a deterministic machine

A *machine* is a step function `step : σ → ι → ο × σ`: from a state and an input it computes an
answer and the next state.  This file is about running one over a list of inputs.

* `exec` is the state a run ends in, `trace` the inputs with their answers, in order.
* `Along ok` says that every step of a run starts in a state, and with an input, that `ok` allows;
  `along_iff_forall_prefix` spells it out.
* `exec_invariant` and `trace_invariant` are the two induction rules: a property of states that
  every allowed step keeps holds at the end of every allowed run, and so does a property of the
  history together with the state.  `forall_mem_trace` is the same for the single answers.
* `forall_exec_iff_along` and `forall_exec_iff_along_of_along` are for a property that some steps keep
  and the others break: it holds all along a run exactly if none of the others is taken.
  `forall_exec_rel_iff_along` is the same for a relation between two machines, and
  `forall_trace_iff_along` for one between the history and the state.  `map_trace_filter_iff_along`
  compares a run with what is left of it when some of its steps are left out.
* `length_le_of_decreasing` bounds a run all of whose steps make a quantity smaller,
  `exists_exec_of_decreasing` finds one that gets to where it should, and `exists_exec_of_isPrefix`
  finds the state behind a prefix of a log.
* `both` runs two machines side by side, and `trace_eq_of_simulation` is the rule for that: if
  related states give equal answers and stay related, whole runs give equal traces.
-/

set_option autoImplicit false

namespace Run

universe u v w x

variable {σ : Type u} {ι : Type v} {ο : Type w} {τ : Type x}

/-- The state a run ends in. -/
def exec (step : σ → ι → ο × σ) (s : σ) : List ι → σ
  | [] => s
  | i :: is => exec step (step s i).2 is

/-- The inputs of a run, each with its answer. -/
def trace (step : σ → ι → ο × σ) (s : σ) : List ι → List (ι × ο)
  | [] => []
  | i :: is => (i, (step s i).1) :: trace step (step s i).2 is

/-- Every step of the run is one that `ok` allows, in the state it is taken in. -/
def Along (step : σ → ι → ο × σ) (ok : σ → ι → Prop) (s : σ) : List ι → Prop
  | [] => True
  | i :: is => ok s i ∧ Along step ok (step s i).2 is

instance decidableAlong (step : σ → ι → ο × σ) (ok : σ → ι → Prop) [∀ s i, Decidable (ok s i)]
    (s : σ) : (is : List ι) → Decidable (Along step ok s is)
  | [] => isTrue trivial
  | i :: is =>
    have := decidableAlong step ok (step s i).2 is
    inferInstanceAs (Decidable (_ ∧ _))

variable {step : σ → ι → ο × σ} {ok : σ → ι → Prop}

theorem exec_append (s : σ) (is js : List ι) :
    exec step s (is ++ js) = exec step (exec step s is) js := by
  induction is generalizing s with
  | nil => rfl
  | cons i is ih => exact ih (step s i).2

theorem trace_append (s : σ) (is js : List ι) :
    trace step s (is ++ js) = trace step s is ++ trace step (exec step s is) js := by
  induction is generalizing s with
  | nil => rfl
  | cons i is ih => rw [List.cons_append, trace, ih]; rfl

theorem map_fst_trace (s : σ) (is : List ι) : (trace step s is).map Prod.fst = is := by
  induction is generalizing s with
  | nil => rfl
  | cons i is ih => rw [trace, List.map_cons, ih]

/-- A place in a trace is one in the run. -/
theorem trace_eq_append_cons {s : σ} {is : List ι} {before after : List (ι × ο)} {e : ι × ο}
    (h : trace step s is = before ++ e :: after) :
    ∃ js i ks, is = js ++ i :: ks ∧ before = trace step s js ∧
      e = (i, (step (exec step s js) i).1) ∧
        after = trace step (step (exec step s js) i).2 ks := by
  induction before generalizing s is with
  | nil =>
    cases is with
    | nil => cases h
    | cons i is =>
      obtain ⟨rfl, rfl⟩ := List.cons.inj h
      exact ⟨[], i, is, rfl, rfl, rfl, rfl⟩
  | cons e' before ih =>
    cases is with
    | nil => cases h
    | cons i is =>
      obtain ⟨rfl, hrest⟩ := List.cons.inj h
      obtain ⟨js, j, ks, rfl, rfl, rfl, rfl⟩ := ih hrest
      exact ⟨i :: js, j, ks, rfl, rfl, rfl, rfl⟩

theorem along_append {s : σ} {is js : List ι} :
    Along step ok s (is ++ js) ↔ Along step ok s is ∧ Along step ok (exec step s is) js := by
  induction is generalizing s with
  | nil => simp [Along, exec]
  | cons i is ih => simp only [List.cons_append, Along, exec, ih, and_assoc]

theorem along_and {ok' : σ → ι → Prop} {s : σ} {is : List ι} (h : Along step ok s is)
    (h' : Along step ok' s is) : Along step (fun s i ↦ ok s i ∧ ok' s i) s is := by
  induction is generalizing s with
  | nil => trivial
  | cons i is ih => exact ⟨⟨h.1, h'.1⟩, ih h.2 h'.2⟩

theorem along_congr {ok' : σ → ι → Prop} (h : ∀ s i, ok s i ↔ ok' s i) {s : σ} {is : List ι} :
    Along step ok s is ↔ Along step ok' s is := by
  induction is generalizing s with
  | nil => exact Iff.rfl
  | cons i is ih => exact and_congr (h s i) ih

/-- Every step of the run, spelled out. -/
theorem along_iff_forall_prefix {s : σ} {is : List ι} :
    Along step ok s is ↔ ∀ js i, js ++ [i] <+: is → ok (exec step s js) i := by
  constructor
  · rintro h js i ⟨ks, rfl⟩
    exact (along_append.mp (along_append.mp h).1).2.1
  · intro h
    induction is generalizing s with
    | nil => trivial
    | cons i is ih =>
      refine ⟨h [] i ⟨is, rfl⟩, ih fun js j hjs ↦ h (i :: js) j ?_⟩
      exact List.cons_prefix_cons.mpr ⟨rfl, hjs⟩

theorem along_of_forall (h : ∀ s i, ok s i) (s : σ) (is : List ι) : Along step ok s is := by
  induction is generalizing s with
  | nil => trivial
  | cons i is ih => exact ⟨h s i, ih _⟩

/-- **Invariants of a run.**  What every allowed step keeps, every allowed run keeps. -/
theorem exec_invariant {P : σ → Prop} (hstep : ∀ s i, ok s i → P s → P (step s i).2) {s : σ}
    {is : List ι} (hok : Along step ok s is) (h : P s) : P (exec step s is) := by
  induction is generalizing s with
  | nil => exact h
  | cons i is ih => exact ih hok.2 (hstep s i hok.1 h)

/-- **Invariants of a history.**  The same for a property that relates the inputs and answers so
far to the state they led to. -/
theorem trace_invariant {P : List (ι × ο) → σ → Prop}
    (hstep : ∀ h s i, ok s i → P h s → P (h ++ [(i, (step s i).1)]) (step s i).2) {s : σ}
    {is : List ι} (hok : Along step ok s is) {h : List (ι × ο)} (hP : P h s) :
    P (h ++ trace step s is) (exec step s is) := by
  induction is generalizing s h with
  | nil => simpa [trace, exec] using hP
  | cons i is ih =>
    have h' := ih hok.2 (hstep h s i hok.1 hP)
    rwa [List.append_assoc] at h'

/-- **What every step of a run answers.**  If an invariant makes every allowed step answer in a
certain way, all the answers of an allowed run are of that kind. -/
theorem forall_mem_trace {P : σ → Prop} {Q : ι × ο → Prop}
    (hstep : ∀ s i, ok s i → P s → P (step s i).2 ∧ Q (i, (step s i).1)) {s : σ} {is : List ι}
    (hok : Along step ok s is) (h : P s) : ∀ e ∈ trace step s is, Q e := by
  induction is generalizing s with
  | nil => exact fun e he ↦ absurd he (by simp [trace])
  | cons i is ih =>
    obtain ⟨hnext, hans⟩ := hstep s i hok.1 h
    exact List.forall_mem_cons.mpr ⟨hans, ih hok.2 hnext⟩

/-- A run all of whose inputs are allowed in every state is allowed. -/
theorem along_of_forall_mem {is : List ι} (h : ∀ i ∈ is, ∀ s, ok s i) (s : σ) :
    Along step ok s is := by
  induction is generalizing s with
  | nil => trivial
  | cons i is ih =>
    exact ⟨h i List.mem_cons_self s, ih (fun j hj ↦ h j (List.mem_cons_of_mem i hj)) _⟩

/-- If an invariant allows every input, every run is allowed. -/
theorem along_of_invariant {P : σ → Prop} (hok : ∀ s i, P s → ok s i)
    (hstep : ∀ s i, P s → P (step s i).2) {s : σ} (hP : P s) (is : List ι) :
    Along step ok s is := by
  induction is generalizing s with
  | nil => trivial
  | cons i is ih => exact ⟨hok s i hP, ih (hstep s i hP)⟩

/-- **Two conditions on the steps of a run** are the same if they are the same in the states with an
invariant, and the steps that meet them keep it. -/
theorem along_iff_along {ok' : σ → ι → Prop} {P : σ → Prop} (hiff : ∀ s i, P s → (ok s i ↔ ok' s i))
    (hstep : ∀ s i, P s → ok s i → P (step s i).2) {s : σ} (hP : P s) (is : List ι) :
    Along step ok s is ↔ Along step ok' s is := by
  induction is generalizing s with
  | nil => exact Iff.rfl
  | cons i is ih =>
    rw [Along, Along, ← hiff s i hP]
    exact and_congr_right fun hok ↦ ih (hstep s i hP hok)

/-- **What breaks a property.**  Suppose that, from states with an invariant, the steps that `ok`
allows keep a property and the others break it; `D` may restrict the steps.  Then the property
holds in every state of a run exactly if all steps of the run are allowed. -/
theorem forall_exec_iff_along_of_along {D : σ → ι → Prop} {P Q : σ → Prop}
    (hinv : ∀ s i, D s i → P s → P (step s i).2)
    (hstep : ∀ s i, D s i → P s → Q s → (Q (step s i).2 ↔ ok s i)) {s : σ} {is : List ι}
    (hD : Along step D s is) (hP : P s) (hQ : Q s) :
    (∀ js, js <+: is → Q (exec step s js)) ↔ Along step ok s is := by
  induction is generalizing s with
  | nil =>
    refine ⟨fun _ ↦ trivial, fun _ js hjs ↦ ?_⟩
    rw [List.prefix_nil.mp hjs]
    exact hQ
  | cons i is ih =>
    obtain ⟨hi, his⟩ := hD
    constructor
    · intro h
      have hnext : Q (step s i).2 := h [i] ⟨is, rfl⟩
      exact ⟨(hstep s i hi hP hQ).mp hnext, (ih his (hinv s i hi hP) hnext).mp fun js hjs ↦
        h (i :: js) (List.cons_prefix_cons.mpr ⟨rfl, hjs⟩)⟩
    · rintro ⟨hok, hrest⟩ js hjs
      cases js with
      | nil => exact hQ
      | cons j js =>
        obtain ⟨rfl, hrun⟩ := List.cons_prefix_cons.mp hjs
        exact (ih his (hinv s j hi hP) ((hstep s j hi hP hQ).mpr hok)).mpr hrest js hrun

/-- What the steps of two machines keep between them, whole runs keep. -/
theorem exec_rel {ο' : Type*} {step' : τ → ι → ο' × τ} {R : σ → τ → Prop}
    (hstep : ∀ s t i, R s t → R (step s i).2 (step' t i).2) {s : σ} {t : τ} (hR : R s t)
    (is : List ι) : R (exec step s is) (exec step' t is) := by
  induction is generalizing s t with
  | nil => exact hR
  | cons i is ih => exact ih (hstep s t i hR)

/-- **What breaks a refinement.**  The same for a relation between two machines that take the same
inputs: it holds all along a run exactly if all steps of the run are allowed. -/
theorem forall_exec_rel_iff_along {ο' : Type*} {step' : τ → ι → ο' × τ} {P R : σ → τ → Prop}
    (hinv : ∀ s t i, P s t → P (step s i).2 (step' t i).2)
    (hstep : ∀ s t i, P s t → R s t → (R (step s i).2 (step' t i).2 ↔ ok s i)) {s : σ} {t : τ}
    {is : List ι} (hP : P s t) (hR : R s t) :
    (∀ js, js <+: is → R (exec step s js) (exec step' t js)) ↔ Along step ok s is := by
  induction is generalizing s t with
  | nil =>
    refine ⟨fun _ ↦ trivial, fun _ js hjs ↦ ?_⟩
    rw [List.prefix_nil.mp hjs]
    exact hR
  | cons i is ih =>
    have hnext := hstep s t i hP hR
    constructor
    · intro h
      have hi : R (step s i).2 (step' t i).2 := h [i] ⟨is, rfl⟩
      exact ⟨hnext.mp hi, (ih (hinv s t i hP) hi).mp fun js hjs ↦
        h (i :: js) (List.cons_prefix_cons.mpr ⟨rfl, hjs⟩)⟩
    · rintro ⟨hok, hrest⟩ js hjs
      cases js with
      | nil => exact hR
      | cons j js =>
        obtain ⟨rfl, hrun⟩ := List.cons_prefix_cons.mp hjs
        exact (ih (hinv s t j hP) (hnext.mpr hok)).mpr hrest js hrun

/-- The same, if the inputs alone are restricted. -/
theorem forall_exec_iff_along {D : ι → Prop} {P Q : σ → Prop}
    (hinv : ∀ s i, D i → P s → P (step s i).2)
    (hstep : ∀ s i, D i → P s → Q s → (Q (step s i).2 ↔ ok s i)) {s : σ} {is : List ι}
    (hD : ∀ i ∈ is, D i) (hP : P s) (hQ : Q s) :
    (∀ js, js <+: is → Q (exec step s js)) ↔ Along step ok s is :=
  forall_exec_iff_along_of_along hinv hstep (along_of_forall_mem (fun i hi _ ↦ hD i hi) s) hP hQ

/-- A machine that keeps its history in its state. -/
def recorded (step : σ → ι → ο × σ) (p : List (ι × ο) × σ) (i : ι) : ο × (List (ι × ο) × σ) :=
  ((step p.2 i).1, (p.1 ++ [(i, (step p.2 i).1)], (step p.2 i).2))

theorem exec_recorded (h : List (ι × ο)) (s : σ) (is : List ι) :
    exec (recorded step) (h, s) is = (h ++ trace step s is, exec step s is) := by
  induction is generalizing h s with
  | nil => rw [trace, List.append_nil]; rfl
  | cons i is ih =>
    rw [trace, List.append_cons]
    exact ih _ _

theorem along_recorded {h : List (ι × ο)} {s : σ} {is : List ι} :
    Along (recorded step) (fun p i ↦ ok p.2 i) (h, s) is ↔ Along step ok s is := by
  induction is generalizing h s with
  | nil => exact Iff.rfl
  | cons i is ih => exact and_congr_right fun _ ↦ ih

theorem trace_recorded (h : List (ι × ο)) (s : σ) (is : List ι) :
    trace (recorded step) (h, s) is = trace step s is := by
  induction is generalizing h s with
  | nil => rfl
  | cons i is ih => exact congrArg (_ :: ·) (ih _ _)

/-- **What breaks a property of the history.**  The same for a property that relates the inputs and
answers so far to the state they led to. -/
theorem forall_trace_iff_along {D : ι → Prop} {P Q : List (ι × ο) → σ → Prop}
    (hinv : ∀ h s i, D i → P h s → P (h ++ [(i, (step s i).1)]) (step s i).2)
    (hstep : ∀ h s i, D i → P h s → Q h s →
      (Q (h ++ [(i, (step s i).1)]) (step s i).2 ↔ ok s i))
    {s : σ} {is : List ι} (hD : ∀ i ∈ is, D i) (hP : P [] s) (hQ : Q [] s) :
    (∀ js, js <+: is → Q (trace step s js) (exec step s js)) ↔ Along step ok s is := by
  have hiff : (∀ js, js <+: is → Q (exec (recorded step) ([], s) js).1
      (exec (recorded step) ([], s) js).2) ↔
        Along (recorded step) (fun p i ↦ ok p.2 i) ([], s) is :=
    forall_exec_iff_along (P := fun p : List (ι × ο) × σ ↦ P p.1 p.2)
      (Q := fun p : List (ι × ο) × σ ↦ Q p.1 p.2) (fun p i ↦ hinv p.1 p.2 i)
      (fun p i ↦ hstep p.1 p.2 i) hD hP hQ
  rw [along_recorded] at hiff
  simpa only [exec_recorded, List.nil_append] using hiff

/-- **Leaving steps out.**  Suppose that a step which is left out keeps a relation to the run without
it, and that another step is answered alike in both runs exactly if `ok` allows it, and then keeps
the relation too.  Then the steps that are not left out are answered alike exactly if all of them
are allowed; `D` may restrict the steps, and `f` says what of an answer counts. -/
theorem map_trace_filter_iff_along {α : Type*} {step' : τ → ι → ο × τ} {D : σ → ι → Prop}
    {R : σ → τ → Prop} {keep : ι → Bool} {f : ι × ο → α}
    (hskip : ∀ s t i, D s i → R s t → keep i = false → R (step s i).2 t ∧ ok s i)
    (hkeep : ∀ s t i, D s i → R s t → keep i = true →
      (f (i, (step s i).1) = f (i, (step' t i).1) ↔ ok s i) ∧
        (ok s i → R (step s i).2 (step' t i).2))
    {s : σ} {t : τ} {is : List ι} (hD : Along step D s is) (hR : R s t) :
    ((trace step s is).filter fun e ↦ keep e.1).map f = (trace step' t (is.filter keep)).map f ↔
      Along step ok s is := by
  induction is generalizing s t with
  | nil => exact iff_of_true rfl trivial
  | cons i is ih =>
    obtain ⟨hi, his⟩ := hD
    cases hkept : keep i with
    | false =>
      obtain ⟨hnext, hok⟩ := hskip s t i hi hR hkept
      rw [trace, List.filter_cons_of_neg (by simp [hkept]), List.filter_cons_of_neg (by simp [hkept]),
        ih his hnext]
      exact (and_iff_right hok).symm
    | true =>
      obtain ⟨hans, hnext⟩ := hkeep s t i hi hR hkept
      rw [trace, List.filter_cons_of_pos (by simp [hkept]), List.filter_cons_of_pos (by simp [hkept]),
        trace, List.map_cons, List.map_cons, List.cons.injEq, hans]
      exact and_congr_right fun hok ↦ ih his (hnext hok)

/-- **Runs that end.**  If every allowed step makes a quantity smaller, an allowed run is no longer
than the quantity at its start. -/
theorem length_le_of_decreasing {P : σ → Prop} {μ : σ → Nat}
    (hstep : ∀ s i, ok s i → P s → P (step s i).2 ∧ μ (step s i).2 < μ s) {s : σ} {is : List ι}
    (hok : Along step ok s is) (hP : P s) : is.length ≤ μ s := by
  induction is generalizing s with
  | nil => exact Nat.zero_le _
  | cons i is ih =>
    obtain ⟨hnext, hlt⟩ := hstep s i hok.1 hP
    have hrest := ih hok.2 hnext
    rw [List.length_cons]
    omega

/-- **Runs that get there.**  If from every state that is not yet of a certain kind some input makes
a quantity smaller, some run ends in a state of that kind. -/
theorem exists_exec_of_decreasing {P Q : σ → Prop} {μ : σ → Nat}
    (hstep : ∀ s, P s → ¬Q s → ∃ i, P (step s i).2 ∧ μ (step s i).2 < μ s) {s : σ} (hP : P s) :
    ∃ is, Q (exec step s is) := by
  induction hμ : μ s using Nat.strongRecOn generalizing s with
  | _ bound ih =>
    by_cases hQ : Q s
    · exact ⟨[], hQ⟩
    · obtain ⟨i, hnext, hlt⟩ := hstep s hP hQ
      obtain ⟨is, his⟩ := ih _ (hμ ▸ hlt) hnext rfl
      exact ⟨i :: is, his⟩

/-- **Prefixes of a log.**  If a step adds at most one entry to a log, every prefix of the log at
the end of a run, from the log at its beginning on, is the log of a state that can be reached. -/
theorem exists_exec_of_isPrefix {κ : Type x} {log : σ → List κ}
    (hstep : ∀ s i, log (step s i).2 = log s ∨ ∃ x, log (step s i).2 = log s ++ [x]) {s : σ}
    {is : List ι} {l : List κ} (hl : log s <+: l) (hinitial : l <+: log (exec step s is)) :
    ∃ is', log (exec step s is') = l := by
  induction is generalizing s with
  | nil => exact ⟨[], hl.eq_of_length_le hinitial.length_le⟩
  | cons i is ih =>
    by_cases hnext : log (step s i).2 <+: l
    · obtain ⟨is', his'⟩ := ih hnext hinitial
      exact ⟨i :: is', his'⟩
    · have hgrows : log (step s i).2 <+: log (exec step (step s i).2 is) := by
        refine exec_invariant (P := fun t ↦ log (step s i).2 <+: log t) (fun t j _ ht ↦ ?_)
          (along_of_forall (fun _ _ ↦ trivial) _ is) (List.prefix_refl _)
        rcases hstep t j with hsame | ⟨x, hadded⟩
        · exact hsame ▸ ht
        · exact ht.trans (hadded ▸ List.prefix_append _ _)
      have hle : l <+: log (step s i).2 :=
        (List.prefix_or_prefix_of_prefix hgrows hinitial).resolve_left hnext
      rcases hstep s i with hsame | ⟨x, hadded⟩
      · exact absurd (hsame ▸ hl) hnext
      · rw [hadded] at hle hnext
        rcases List.prefix_concat_iff.mp hle with heq | hle
        · exact absurd (heq ▸ List.prefix_refl _) hnext
        · exact ⟨[], hl.eq_of_length_le hle.length_le⟩

/-- The sum of a quantity over the steps of a run. -/
def total (step : σ → ι → ο × σ) (f : σ → ι → Nat) (s : σ) : List ι → Nat
  | [] => 0
  | i :: is => f s i + total step f (step s i).2 is

theorem total_append (f : σ → ι → Nat) (s : σ) (is js : List ι) :
    total step f s (is ++ js) = total step f s is + total step f (exec step s is) js := by
  induction is generalizing s with
  | nil => rw [total, Nat.zero_add]; rfl
  | cons i is ih => rw [List.cons_append, total, total, ih, Nat.add_assoc]; rfl

theorem total_eq_zero {f : σ → ι → Nat} {P : σ → Prop}
    (hstep : ∀ s i, P s → P (step s i).2) {is : List ι}
    (h : ∀ s, P s → ∀ i ∈ is, f s i = 0) {s : σ} (hP : P s) : total step f s is = 0 := by
  induction is generalizing s with
  | nil => rfl
  | cons i is ih =>
    rw [total, h s hP i List.mem_cons_self,
      ih (fun s hs j hj ↦ h s hs j (List.mem_cons_of_mem i hj)) (hstep s i hP)]

/-- **Counters of a run.**  A counter that every allowed step raises by a quantity has been raised
by its total at the end. -/
theorem exec_counter {P : σ → Prop} {c : σ → Nat} {f : σ → ι → Nat}
    (hstep : ∀ s i, ok s i → P s → P (step s i).2 ∧ c (step s i).2 = c s + f s i)
    {s : σ} {is : List ι} (hok : Along step ok s is) (hP : P s) :
    c (exec step s is) = c s + total step f s is := by
  induction is generalizing s with
  | nil => rfl
  | cons i is ih =>
    obtain ⟨hnext, hcount⟩ := hstep s i hok.1 hP
    rw [exec, total, ih hok.2 hnext, hcount, Nat.add_assoc]

/-- Two machines over the same inputs, side by side. -/
def both (step : σ → ι → ο × σ) (step' : τ → ι → ο × τ) (p : σ × τ) (i : ι) :
    (ο × ο) × (σ × τ) :=
  (((step p.1 i).1, (step' p.2 i).1), ((step p.1 i).2, (step' p.2 i).2))

/-- **Simulation.**  Two machines that answer alike from related states, and stay related, answer
alike on whole runs; `ok` may restrict the inputs by the states of both. -/
theorem trace_eq_of_simulation {step' : τ → ι → ο × τ} {R : σ → τ → Prop}
    {ok : σ × τ → ι → Prop}
    (hsim : ∀ s t i, ok (s, t) i → R s t →
      (step s i).1 = (step' t i).1 ∧ R (step s i).2 (step' t i).2)
    {s : σ} {t : τ} {is : List ι} (hok : Along (both step step') ok (s, t) is) (hR : R s t) :
    trace step s is = trace step' t is := by
  induction is generalizing s t with
  | nil => rfl
  | cons i is ih =>
    obtain ⟨hans, hnext⟩ := hsim s t i hok.1 hR
    rw [trace, trace, hans, ih hok.2 hnext]

/-- **Simulation up to a relation on answers.**  Two machines whose answers are related from
related states, and that stay related, give related answers on whole runs and end in related
states; `ok` may restrict the inputs by the states of the second. -/
theorem forall₂_trace_of_simulation {ο' : Type*} {step' : τ → ι → ο' × τ} {R : σ → τ → Prop}
    {A : ο → ο' → Prop} {ok : τ → ι → Prop}
    (hsim : ∀ s t i, ok t i → R s t →
      A (step s i).1 (step' t i).1 ∧ R (step s i).2 (step' t i).2)
    {s : σ} {t : τ} {is : List ι} (hok : Along step' ok t is) (hR : R s t) :
    List.Forall₂ (fun a b ↦ a.1 = b.1 ∧ A a.2 b.2) (trace step s is) (trace step' t is) ∧
      R (exec step s is) (exec step' t is) := by
  induction is generalizing s t with
  | nil => exact ⟨List.Forall₂.nil, hR⟩
  | cons i is ih =>
    obtain ⟨hans, hnext⟩ := hsim s t i hok.1 hR
    obtain ⟨htrace, hend⟩ := ih hok.2 hnext
    exact ⟨List.Forall₂.cons ⟨rfl, hans⟩ htrace, hend⟩

end Run
