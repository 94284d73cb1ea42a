import ExoBrain.Lib.Dict

/-!
# A table of several tenants

The rows of a table are filed under a tenant and a key.  A tenant asks for a key: it is given its own
row (`plainGet`), and where it has none, some tables look whether another tenant has one, and refuse
(`guardedGet`).

`guardedGet_eq_plainGet_iff`: the two differ exactly for a key that only others have a row under.
There the refusal names one of them (`guardedGet_of_not_own`).
-/

set_option autoImplicit false

universe u v w

/-- Writing a key commutes with a translation of the values. -/
theorem Dict.mapVals_set {κ : Type u} {ν : Type v} {μ : Type w} [DecidableEq κ] (f : ν → μ) (k : κ)
    (x : ν) (d : Dict κ ν) : (d.set k x).mapVals (fun _ ↦ f) = (d.mapVals fun _ ↦ f).set k (f x) := by
  rw [set, modify, mapVals_mapVals, set, modify, ← mapVals_setDefault (fun _ ↦ f) k x d,
    mapVals_mapVals]
  refine mapVals_congr fun k' y _ ↦ ?_
  exact apply_ite f (k' = k) x y

namespace TenantTable

variable {κ : Type u} {ν : Type v} [DecidableEq κ]

/-- What a tenant finds under a key. -/
inductive Lookup (ν : Type v)
  | found (row : ν)
  | absent
  | foreign (storedTenantId : String)
deriving DecidableEq, Repr

def Lookup.map {μ : Type w} (f : ν → μ) : Lookup ν → Lookup μ
  | found row => found (f row)
  | absent => absent
  | foreign storedTenantId => foreign storedTenantId

/-- The tenants with a row under a key. -/
def holders (t : Dict (String × κ) ν) (k : κ) : List String :=
  (t.keys.filter fun key ↦ key.2 = k).map Prod.fst

/-- A row of the tenant's own. -/
def plainGet (t : Dict (String × κ) ν) (tenantId : String) (k : κ) : Lookup ν :=
  match t.get? (tenantId, k) with
  | some row => .found row
  | none => .absent

/-- The same, but another tenant's row under the key is refused.  `pick` is the row that is looked at. -/
def guardedGet (pick : List String → Option String) (t : Dict (String × κ) ν) (tenantId : String)
    (k : κ) : Lookup ν :=
  match t.get? (tenantId, k) with
  | some row => .found row
  | none =>
    match pick (holders t k) with
    | none => .absent
    | some storedTenantId =>
      if storedTenantId ≠ tenantId then .foreign storedTenantId else .absent

/-- `pick` finds one if there is one. -/
structure Picks (pick : List String → Option String) : Prop where
  mem : ∀ l a, pick l = some a → a ∈ l
  nil : ∀ l, pick l = none → l = []

theorem picks_head? : Picks List.head? where
  mem _ _ h := List.mem_of_head? h
  nil _ h := List.head?_eq_none_iff.mp h

/-- The tenant has a row under the key, or nobody has. -/
def Own (t : Dict (String × κ) ν) (tenantId : String) (k : κ) : Prop :=
  (tenantId, k) ∈ t.keys ∨ ∀ other, (other, k) ∉ t.keys

variable {t : Dict (String × κ) ν} {tenantId : String} {k : κ} {pick : List String → Option String}

theorem mem_holders : tenantId ∈ holders t k ↔ (tenantId, k) ∈ t.keys := by
  simp [holders]

theorem holders_mapVals {μ : Type w} (f : String × κ → ν → μ) (t : Dict (String × κ) ν) (k : κ) :
    holders (t.mapVals f) k = holders t k := by
  rw [holders, Dict.keys_mapVals, holders]

theorem plainGet_mapVals {μ : Type w} (f : ν → μ) (t : Dict (String × κ) ν) (tenantId : String)
    (k : κ) : plainGet (t.mapVals fun _ ↦ f) tenantId k = (plainGet t tenantId k).map f := by
  rw [plainGet, plainGet, Dict.get?_mapVals]
  cases t.get? (tenantId, k) <;> rfl

omit [DecidableEq κ] in
theorem own_mapVals {μ : Type w} (f : String × κ → ν → μ) :
    Own (t.mapVals f) tenantId k ↔ Own t tenantId k := by
  rw [Own, Own, Dict.keys_mapVals]

theorem guardedGet_of_own (hpick : Picks pick) (h : Own t tenantId k) :
    guardedGet pick t tenantId k = plainGet t tenantId k := by
  rw [guardedGet, plainGet]
  cases hrow : t.get? (tenantId, k) with
  | some row => rfl
  | none =>
    have hnobody : holders t k = [] := by
      refine List.eq_nil_iff_forall_not_mem.mpr fun other hother ↦ ?_
      exact h.resolve_left (Dict.get?_eq_none_iff.mp hrow) other (mem_holders.mp hother)
    cases hpicked : pick (holders t k) with
    | none => rfl
    | some other => exact absurd (hnobody ▸ hpick.mem _ _ hpicked) List.not_mem_nil

/-- **A refusal names another tenant that has a row.** -/
theorem guardedGet_of_not_own (hpick : Picks pick) (h : ¬Own t tenantId k) :
    plainGet t tenantId k = .absent ∧ ∃ other, guardedGet pick t tenantId k = .foreign other ∧
      other ≠ tenantId ∧ (other, k) ∈ t.keys := by
  obtain ⟨hmine, hothers⟩ := not_or.mp h
  have hrow := Dict.get?_eq_none_iff.mpr hmine
  refine ⟨by rw [plainGet, hrow], ?_⟩
  rw [guardedGet, hrow]
  cases hpicked : pick (holders t k) with
  | none =>
    refine absurd (fun other hother ↦ ?_) hothers
    exact absurd (hpick.nil _ hpicked ▸ mem_holders.mpr hother) List.not_mem_nil
  | some other =>
    have hheld := mem_holders.mp (hpick.mem _ _ hpicked)
    have hne : other ≠ tenantId := by
      rintro rfl
      exact hmine hheld
    exact ⟨other, if_pos hne, hne, hheld⟩

/-- **Where the refusal makes a difference.** -/
theorem guardedGet_eq_plainGet_iff (hpick : Picks pick) :
    guardedGet pick t tenantId k = plainGet t tenantId k ↔ Own t tenantId k := by
  refine ⟨fun heq ↦ ?_, guardedGet_of_own hpick⟩
  by_contra hown
  obtain ⟨habsent, other, hforeign, -⟩ := guardedGet_of_not_own hpick hown
  rw [hforeign, habsent] at heq
  cases heq

end TenantTable
