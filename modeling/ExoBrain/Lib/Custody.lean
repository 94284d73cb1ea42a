import Mathlib.Data.Finset.Insert
import Mathlib.Data.Finset.Erase
import Mathlib.Logic.Function.Basic

/-!
# Who holds the handles that are open

A program opens handles (spans, files, slots) on behalf of its tasks.  Each task is to close what was
opened for it, and while it runs it remembers, or *holds*, at most one handle.  A task that forgets
its handle before it has closed it leaks it, since nobody else knows the handle.

* `Handles` are the handles there have been, numbered in the order in which they were opened, and
  the ones that are open still.  Which of them is held is a function of the tasks, the *owners*.
* `Kept` says that what is held is open, and `Accounted` that what is open is held, both of them by
  the owner it was opened for.
* `Moves` relates two such states, between which some of the owners have done something.  The
  account of these owners stays complete exactly under a condition, and nothing ever repairs it; the
  accounts of the others do not change.
* There is a rule for each thing an owner does, `moves_opening`, `moves_closing` and `moves_losing`,
  the last two of which `moves_releasing` puts together.  They compose by `Moves.trans`.
-/

set_option autoImplicit false

namespace Custody

universe u

variable {ω : Type u}

/-- The handles there have been. -/
structure Handles (ω : Type u) where
  /-- The owner each was opened for. -/
  owners : List ω
  /-- The ones that are open. -/
  opened : Finset Nat

/-- Open a handle for an owner. -/
def Handles.opening (o : ω) (H : Handles ω) : Handles ω :=
  ⟨H.owners ++ [o], insert H.owners.length H.opened⟩

/-- Close a handle. -/
def Handles.closing (id : Nat) (H : Handles ω) : Handles ω := ⟨H.owners, H.opened.erase id⟩

/-- Close a handle that somebody held, if they have closed it. -/
def Handles.releasing (held : Option Nat) (closed : Bool) (H : Handles ω) : Handles ω :=
  match held, closed with
  | some id, true => H.closing id
  | _, _ => H

@[simp] theorem releasing_none (closed : Bool) (H : Handles ω) : H.releasing none closed = H := by
  cases closed <;> rfl

@[simp] theorem releasing_false (held : Option Nat) (H : Handles ω) :
    H.releasing held false = H := by
  cases held <;> rfl

/-- Another handle is open as before. -/
theorem mem_opened_releasing {held : Option Nat} {closed : Bool} {H : Handles ω} {id : Nat}
    (hne : held ≠ some id) (h : id ∈ H.opened) : id ∈ (H.releasing held closed).opened := by
  cases held with
  | none => rwa [releasing_none]
  | some id' =>
    cases closed with
    | false => rwa [releasing_false]
    | true => exact Finset.mem_erase.mpr ⟨fun heq ↦ hne (congrArg some heq.symm), h⟩

/-! ## Accounts -/

/-- What is held is open, and was opened for who holds it. -/
def Kept (H : Handles ω) (holds : ω → Option Nat) : Prop :=
  ∀ o id, holds o = some id → id ∈ H.opened ∧ H.owners[id]? = some o

/-- What is open is held, as far as it was opened for an owner in `P`. -/
def Accounted (P : ω → Prop) (H : Handles ω) (holds : ω → Option Nat) : Prop :=
  ∀ id ∈ H.opened, ∀ o, H.owners[id]? = some o → P o → holds o = some id

variable {H H' H'' : Handles ω} {holds holds' holds'' : ω → Option Nat} {P : ω → Prop}
  {c c' : Prop} {o : ω} {id : Nat}

/-- No handle is held by two owners. -/
theorem Kept.inj (h : Kept H holds) {o' : ω} (ho : holds o = some id) (ho' : holds o' = some id) :
    o = o' :=
  Option.some.inj ((h o id ho).2.symm.trans (h o' id ho').2)

theorem getElem?_owners_opening {o' : ω} (h : H.owners[id]? = some o') :
    (H.opening o).owners[id]? = some o' := by
  have hlt := (List.getElem?_eq_some_iff.mp h).1
  rw [Handles.opening, List.getElem?_append_left hlt, h]

section Updates

variable [DecidableEq ω]

theorem Kept.opening (h : Kept H holds) (o : ω) :
    Kept (H.opening o) (Function.update holds o (some H.owners.length)) := by
  intro o' id hid
  by_cases ho' : o' = o
  · subst ho'
    rw [Function.update_self] at hid
    cases hid
    exact ⟨Finset.mem_insert_self _ _, List.getElem?_concat_length ..⟩
  · rw [Function.update_of_ne ho'] at hid
    obtain ⟨hopen, howner⟩ := h o' id hid
    exact ⟨Finset.mem_insert_of_mem hopen, getElem?_owners_opening howner⟩

theorem accounted_opening (hfree : holds o = none) :
    Accounted P (H.opening o) (Function.update holds o (some H.owners.length)) ↔
      Accounted P H holds := by
  constructor
  · intro hall id hid o' howner hP
    have hheld := hall id (Finset.mem_insert_of_mem hid) o' (getElem?_owners_opening howner) hP
    by_cases ho' : o' = o
    · subst ho'
      rw [Function.update_self] at hheld
      cases hheld
      exact absurd (List.getElem?_eq_some_iff.mp howner).1 (lt_irrefl _)
    · rwa [Function.update_of_ne ho'] at hheld
  · intro hall id hid o' howner hP
    rcases lt_or_ge id H.owners.length with hlt | hge
    · rw [Handles.opening, List.getElem?_append_left hlt] at howner
      have hheld := hall id (Finset.mem_of_mem_insert_of_ne hid hlt.ne) o' howner hP
      rwa [Function.update_of_ne]
      rintro rfl
      rw [hfree] at hheld
      cases hheld
    · rw [Handles.opening, List.getElem?_append_right hge, List.getElem?_singleton] at howner
      split at howner
      · cases howner
        rw [Function.update_self, show id = H.owners.length by omega]
      · cases howner

theorem Kept.forget (h : Kept H holds) (o : ω) : Kept H (Function.update holds o none) := by
  intro o' id hid
  by_cases ho' : o' = o
  · rw [ho', Function.update_self] at hid
    cases hid
  · rw [Function.update_of_ne ho'] at hid
    exact h o' id hid

theorem Kept.closing (h : Kept H holds) (hid : holds o = some id) :
    Kept (H.closing id) (Function.update holds o none) := by
  intro o' id' hid'
  obtain ⟨hopen, howner⟩ := h.forget o o' id' hid'
  refine ⟨Finset.mem_erase.mpr ⟨?_, hopen⟩, howner⟩
  rintro rfl
  rw [← Option.some.inj (howner.symm.trans (h o id' hid).2), Function.update_self] at hid'
  cases hid'

theorem accounted_closing (h : Kept H holds) (hid : holds o = some id) :
    Accounted P (H.closing id) (Function.update holds o none) ↔ Accounted P H holds := by
  constructor
  · intro hall id' hopen o' howner hP
    by_cases hsame : id' = id
    · subst hsame
      rwa [← Option.some.inj ((h o id' hid).2.symm.trans howner)]
    · have hheld := hall id' (Finset.mem_erase.mpr ⟨hsame, hopen⟩) o' howner hP
      by_cases ho' : o' = o
      · rw [ho', Function.update_self] at hheld
        cases hheld
      · rwa [Function.update_of_ne ho'] at hheld
  · intro hall id' hid' o' howner hP
    obtain ⟨hsame, hopen⟩ := Finset.mem_erase.mp hid'
    have hheld := hall id' hopen o' howner hP
    rwa [Function.update_of_ne]
    rintro rfl
    rw [hid] at hheld
    exact hsame (Option.some.inj hheld).symm

theorem accounted_forget (h : Kept H holds) (hid : holds o = some id) :
    Accounted P H (Function.update holds o none) ↔ Accounted P H holds ∧ ¬P o := by
  constructor
  · intro hall
    have hnot : ¬P o := by
      intro hP
      have hheld := hall id (h o id hid).1 o (h o id hid).2 hP
      rw [Function.update_self] at hheld
      cases hheld
    refine ⟨fun id' hopen o' howner hP ↦ ?_, hnot⟩
    have hheld := hall id' hopen o' howner hP
    rwa [Function.update_of_ne] at hheld
    rintro rfl
    exact hnot hP
  · rintro ⟨hall, hnot⟩ id' hopen o' howner hP
    rw [Function.update_of_ne]
    · exact hall id' hopen o' howner hP
    · rintro rfl
      exact hnot hP

end Updates

/-! ## Moves -/

/-- Owners in `P` have done something, and have lost no handle that is open exactly if `c`. -/
structure Moves (P : ω → Prop) (H : Handles ω) (holds : ω → Option Nat) (H' : Handles ω)
    (holds' : ω → Option Nat) (c : Prop) : Prop where
  kept : Kept H' holds'
  accounted_iff : Accounted P H' holds' ↔ Accounted P H holds ∧ c
  others : ∀ Q : ω → Prop, (∀ o, P o → ¬Q o) → (Accounted Q H' holds' ↔ Accounted Q H holds)

theorem moves_refl (h : Kept H holds) (hc : c) : Moves P H holds H holds c :=
  ⟨h, (and_iff_left hc).symm, fun _ _ ↦ Iff.rfl⟩

theorem Moves.trans (h : Moves P H holds H' holds' c) (h' : Moves P H' holds' H'' holds'' c') :
    Moves P H holds H'' holds'' (c ∧ c') := by
  refine ⟨h'.kept, ?_, fun Q hQ ↦ (h'.others Q hQ).trans (h.others Q hQ)⟩
  rw [h'.accounted_iff, h.accounted_iff, and_assoc]

theorem Moves.congr (h : Moves P H holds H' holds' c) (hc : c ↔ c') :
    Moves P H holds H' holds' c' :=
  ⟨h.kept, h.accounted_iff.trans (and_congr_right' hc), h.others⟩

variable [DecidableEq ω]

/-- **Opening.**  An owner that holds nothing opens a handle and holds it. -/
theorem moves_opening (h : Kept H holds) (hfree : holds o = none) (hc : c) :
    Moves P H holds (H.opening o) (Function.update holds o (some H.owners.length)) c :=
  ⟨h.opening o, (accounted_opening hfree).trans (and_iff_left hc).symm,
    fun _ _ ↦ accounted_opening hfree⟩

/-- **Closing.**  An owner closes the handle it holds, and forgets it. -/
theorem moves_closing (h : Kept H holds) (hid : holds o = some id) (hc : c) :
    Moves P H holds (H.closing id) (Function.update holds o none) c :=
  ⟨h.closing hid, (accounted_closing h hid).trans (and_iff_left hc).symm,
    fun _ _ ↦ accounted_closing h hid⟩

/-- **Losing.**  An owner forgets a handle that is open. -/
theorem moves_losing (h : Kept H holds) (hid : holds o = some id) (ho : P o) (hc : ¬c) :
    Moves P H holds H (Function.update holds o none) c := by
  refine ⟨h.forget o, (accounted_forget h hid).trans (and_congr_right' ?_), fun Q hQ ↦ ?_⟩
  · exact iff_of_false (not_not_intro ho) hc
  · exact (accounted_forget h hid).trans (and_iff_left (hQ o ho))

/-- An owner forgets what it holds, and has closed it, or has not. -/
theorem moves_releasing (h : Kept H holds) (ho : P o) (closed : Bool) :
    Moves P H holds (H.releasing (holds o) closed) (Function.update holds o none)
      (holds o ≠ none → closed = true) := by
  cases hheld : holds o with
  | none =>
    have hsame : Function.update holds o none = holds := hheld ▸ Function.update_eq_self o holds
    rw [hsame, releasing_none]
    exact moves_refl h fun hne ↦ absurd rfl hne
  | some id =>
    cases closed with
    | true => exact moves_closing h hheld fun _ ↦ rfl
    | false =>
      exact moves_losing h hheld ho fun hc ↦ Bool.false_ne_true (hc (Option.some_ne_none id))

end Custody
