import Mathlib.Order.Basic

/-!
# One writer at a time

Many share a store.  Whoever writes holds a transaction, which nobody else sees before it is committed,
and nobody else writes in the meantime.  A write may also be committed at once.

`Holds` is for what is true of every content.  Where contents are ordered, a later one above an earlier
one, `Ordered` says that the open transaction is above what is committed.  Operations that go up from what
their owner sees keep it, and what everybody else sees does not go down either (`view_write_of_ne`,
`le_view_put`, `le_view_commit`, `view_rollback_of_ne`).
-/

set_option autoImplicit false

universe u v

/-- What is committed, and the open transaction with its owner. -/
structure SingleWriter (ι : Type u) (δ : Type v) where
  committed : δ
  writer : Option (ι × δ) := none

namespace SingleWriter

variable {ι : Type u} {δ : Type v}

/-- A write in a transaction, which it opens if there is none. -/
def write (i : ι) (d : δ) (s : SingleWriter ι δ) : SingleWriter ι δ := { s with writer := some (i, d) }

/-- A write that opens no transaction: in the open one, or committed at once. -/
def put (i : ι) (d : δ) (s : SingleWriter ι δ) : SingleWriter ι δ :=
  if s.writer.isSome then s.write i d else { s with committed := d }

theorem committed_write (i : ι) (d : δ) (s : SingleWriter ι δ) :
    (s.write i d).committed = s.committed := rfl

theorem put_of_none {s : SingleWriter ι δ} (h : s.writer = none) (i : ι) (d : δ) :
    s.put i d = ⟨d, none⟩ := by
  rw [put, h]
  rfl

theorem put_of_owner {s : SingleWriter ι δ} {t : ι × δ} (h : s.writer = some t) (i : ι) (d : δ) :
    s.put i d = s.write i d := by
  rw [put, h]
  rfl

variable [DecidableEq ι]

/-- What someone sees: the owner of the transaction what is in it, everybody else what is committed. -/
def view (i : ι) (s : SingleWriter ι δ) : δ :=
  match s.writer with
  | some (j, d) => if j = i then d else s.committed
  | none => s.committed

/-- Someone else holds the transaction. -/
def blocked (i : ι) (s : SingleWriter ι δ) : Bool :=
  s.writer.any fun t ↦ decide (t.1 ≠ i)

/-- The transaction of `i`, if it has one, is committed. -/
def commit (i : ι) (s : SingleWriter ι δ) : SingleWriter ι δ where
  committed := s.view i
  writer := s.writer.filter fun t ↦ decide (t.1 ≠ i)

/-- The transaction of `i`, if it has one, is undone. -/
def rollback (i : ι) (s : SingleWriter ι δ) : SingleWriter ι δ where
  committed := s.committed
  writer := s.writer.filter fun t ↦ decide (t.1 ≠ i)

variable {i j : ι} {d : δ} {s : SingleWriter ι δ}

theorem view_of_none (h : s.writer = none) (i : ι) : s.view i = s.committed := by
  rw [view, h]

theorem view_of_owner (h : s.writer = some (i, d)) : s.view i = d := by
  rw [view, h]
  exact if_pos rfl

theorem view_of_other (h : s.writer = some (i, d)) (hne : j ≠ i) : s.view j = s.committed := by
  rw [view, h]
  exact if_neg hne.symm

/-- Who is not blocked holds the transaction, or there is none. -/
theorem owner_of_free (hfree : s.blocked i = false) : s.writer = none ∨ ∃ d, s.writer = some (i, d) := by
  rw [blocked] at hfree
  cases hwriter : s.writer with
  | none => exact .inl rfl
  | some t =>
    rw [hwriter, Option.any_some, decide_eq_false_iff_not, Decidable.not_not] at hfree
    exact .inr ⟨t.2, by rw [← hfree]⟩

/-- While someone can write, the others see what is committed. -/
theorem view_of_free (hfree : s.blocked i = false) (hne : j ≠ i) : s.view j = s.committed := by
  rcases owner_of_free hfree with hnone | ⟨d, howner⟩
  · exact view_of_none hnone j
  · exact view_of_other howner hne

@[simp] theorem view_write (i : ι) (d : δ) (s : SingleWriter ι δ) : (s.write i d).view i = d :=
  view_of_owner rfl

theorem view_write_of_ne (hfree : s.blocked i = false) (hne : j ≠ i) :
    (s.write i d).view j = s.view j := by
  rw [view_of_free hfree hne, view_of_other (s := s.write i d) rfl hne, committed_write]

theorem view_put (hfree : s.blocked i = false) : (s.put i d).view i = d := by
  rcases owner_of_free hfree with hnone | ⟨d', howner⟩
  · rw [put_of_none hnone, view_of_none rfl]
  · rw [put_of_owner howner, view_write]

theorem blocked_write (i : ι) (d : δ) (s : SingleWriter ι δ) : (s.write i d).blocked i = false := by
  rw [blocked, write, Option.any_some, decide_eq_false_iff_not, Decidable.not_not]

theorem blocked_put (hfree : s.blocked i = false) : (s.put i d).blocked i = false := by
  rcases owner_of_free hfree with hnone | ⟨d', howner⟩
  · rw [put_of_none hnone]
    rfl
  · rw [put_of_owner howner, blocked_write]

/-- When the transaction of someone ends, the others see what is committed then, or what they saw. -/
theorem view_of_ended {c : δ} (hne : j ≠ i) :
    (⟨c, s.writer.filter fun t ↦ decide (t.1 ≠ i)⟩ : SingleWriter ι δ).view j =
      match s.writer with
      | some (k, d) => if k = j then d else c
      | none => c := by
  rw [view]
  cases hwriter : s.writer with
  | none => rfl
  | some t =>
    by_cases howner : t.1 = i
    · rw [Option.filter_some, if_neg (by simpa using howner)]
      exact (if_neg fun heq ↦ hne (heq.symm.trans howner)).symm
    · rw [Option.filter_some, if_pos (by simpa using howner)]

theorem view_rollback_of_ne (hne : j ≠ i) : (s.rollback i).view j = s.view j := by
  rw [rollback, view_of_ended hne, view]

/-! ## What holds of all contents -/

/-- Something holds of what is committed and of what is in the transaction. -/
def Holds (C : δ → Prop) (s : SingleWriter ι δ) : Prop :=
  C s.committed ∧ ∀ i d, s.writer = some (i, d) → C d

variable {C : δ → Prop}

theorem Holds.view (h : Holds C s) (i : ι) : C (s.view i) := by
  rw [SingleWriter.view]
  cases hwriter : s.writer with
  | none => exact h.1
  | some t =>
    dsimp only
    split
    · exact h.2 t.1 t.2 hwriter
    · exact h.1

omit [DecidableEq ι] in
theorem Holds.write (h : Holds C s) (hd : C d) : Holds C (s.write i d) := by
  refine ⟨h.1, fun j d' hwriter ↦ ?_⟩
  cases hwriter
  exact hd

omit [DecidableEq ι] in
theorem Holds.put (h : Holds C s) (hd : C d) : Holds C (s.put i d) := by
  cases hwriter : s.writer with
  | none =>
    rw [put_of_none hwriter]
    refine ⟨hd, fun j d' heq ↦ ?_⟩
    cases heq
  | some t =>
    rw [put_of_owner hwriter]
    exact h.write hd

theorem Holds.commit (h : Holds C s) (i : ι) : Holds C (s.commit i) :=
  ⟨h.view i, fun j d hwriter ↦ h.2 j d (Option.filter_eq_some_iff.mp hwriter).1⟩

theorem Holds.rollback (h : Holds C s) (i : ι) : Holds C (s.rollback i) :=
  ⟨h.1, fun j d hwriter ↦ h.2 j d (Option.filter_eq_some_iff.mp hwriter).1⟩

/-! ## What only goes up -/

variable [Preorder δ]

/-- The open transaction is above what is committed. -/
def Ordered (s : SingleWriter ι δ) : Prop :=
  ∀ i d, s.writer = some (i, d) → s.committed ≤ d

/-- So is what anybody sees. -/
theorem Ordered.le_view (h : Ordered s) (i : ι) : s.committed ≤ s.view i := by
  rw [view]
  cases hwriter : s.writer with
  | none => exact le_rfl
  | some t =>
    dsimp only
    split
    · exact h t.1 t.2 hwriter
    · exact le_rfl

theorem Ordered.write (h : Ordered s) (hle : s.view i ≤ d) : Ordered (s.write i d) := by
  intro j d' hwriter
  cases hwriter
  exact (h.le_view i).trans hle

theorem Ordered.put (h : Ordered s) (hle : s.view i ≤ d) : Ordered (s.put i d) := by
  cases hwriter : s.writer with
  | none =>
    rw [put_of_none hwriter]
    intro j d' heq
    cases heq
  | some t =>
    rw [put_of_owner hwriter]
    exact h.write hle

theorem Ordered.rollback (h : Ordered s) (i : ι) : Ordered (s.rollback i) :=
  fun j d hwriter ↦ h j d (Option.filter_eq_some_iff.mp hwriter).1

theorem Ordered.commit (h : Ordered s) (i : ι) : Ordered (s.commit i) := by
  intro j d hwriter
  obtain ⟨hopen, hother⟩ := Option.filter_eq_some_iff.mp hwriter
  have hne : i ≠ j := fun heq ↦ of_decide_eq_true hother heq.symm
  rw [SingleWriter.commit, view_of_other hopen hne]
  exact h j d hopen

/-- What the others see goes up, too. -/
theorem le_view_put (hfree : s.blocked i = false) (hle : s.view i ≤ d) (hne : j ≠ i) :
    s.view j ≤ (s.put i d).view j := by
  rcases owner_of_free hfree with hnone | ⟨d', howner⟩
  · rw [put_of_none hnone, view_of_none hnone, view_of_none rfl]
    rwa [view_of_none hnone] at hle
  · rw [put_of_owner howner, view_write_of_ne hfree hne]

theorem le_view_commit (h : Ordered s) (hne : j ≠ i) : s.view j ≤ (s.commit i).view j := by
  rw [SingleWriter.commit, view_of_ended hne, view]
  cases hwriter : s.writer with
  | none => exact h.le_view i
  | some t =>
    dsimp only
    split
    · exact le_rfl
    · exact h.le_view i

end SingleWriter
