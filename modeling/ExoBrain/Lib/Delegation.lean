import Mathlib.Logic.Relation

/-!
# Who has a right from whom

Some principals have their rights from outside, the *roots*; everybody else has them from somebody who
could grant them.  `Derived` says that there is a chain of grants from a root.

* `Derived.grant` adds a link, and `Derived.mono` keeps a chain when there are more roots and grants.
* `Derived.closed` is the induction: what roots have, and grants pass on, all have.  In particular
  nobody but the roots has rights if no root may grant any (`Derived.root_of_powerless`).
-/

set_option autoImplicit false

namespace Delegation

variable {P : Type*} {root root' : P → Prop} {grants grants' : P → P → Prop} {p q : P}

/-- A chain of grants leads from a root to the principal. -/
def Derived (root : P → Prop) (grants : P → P → Prop) (p : P) : Prop :=
  ∃ r, root r ∧ Relation.ReflTransGen grants r p

theorem Derived.of_root (h : root p) : Derived root grants p := ⟨p, h, .refl⟩

theorem Derived.grant (h : Derived root grants p) (hgrant : grants p q) : Derived root grants q := by
  obtain ⟨r, hr, hchain⟩ := h
  exact ⟨r, hr, hchain.tail hgrant⟩

theorem Derived.mono (h : Derived root grants p) (hroot : ∀ q, root q → root' q)
    (hgrants : ∀ q q', grants q q' → grants' q q') : Derived root' grants' p := by
  obtain ⟨r, hr, hchain⟩ := h
  exact ⟨r, hroot r hr, Relation.ReflTransGen.mono hgrants _ _ hchain⟩

/-- **Induction on a chain.** -/
theorem Derived.closed {C : P → Prop} (h : Derived root grants p) (hroot : ∀ q, root q → C q)
    (hgrants : ∀ q q', C q → grants q q' → C q') : C p := by
  obtain ⟨r, hr, hchain⟩ := h
  induction hchain with
  | refl => exact hroot r hr
  | tail _ hgrant ih => exact hgrants _ _ ih hgrant

/-- Grants take a power.  If no root has it, there is nobody but the roots. -/
theorem Derived.root_of_powerless {power : P → Prop} (h : Derived root grants p)
    (hgrants : ∀ q q', grants q q' → power q) (hroot : ∀ q, root q → ¬power q) : root p :=
  h.closed (fun _ hq ↦ hq) fun q q' hq hgrant ↦ absurd (hgrants q q' hgrant) (hroot q hq)

end Delegation
