import Mathlib.Data.List.Forall2
import Mathlib.Data.List.Induction

/-!
# Chains of hashes

Each entry of a chain holds a payload, the hash of the entry before it, and its own hash, which
`link` makes of the two.  A chain begins after a hash of no entry, `start`.

* `chain` is the chain of some payloads, and `Linked` says of entries that they are one.
* `Binds` is what is asked of `link`: hashes determine what was hashed, up to `Same`, and none of
  them is `start`.  It is asked of hashes that are `Good` and of payloads that `Fit` only.
* `Binds.foldl_eq_iff` and `Binds.linked_ext`: then the last hash determines the whole chain, whatever
  its length.
-/

set_option autoImplicit false

namespace HashChain

variable {π η : Type*}

/-- An entry of a chain. -/
structure Entry (π η : Type*) where
  payload : π
  previousHash : η
  recordHash : η

/-- The chain of some payloads, after a hash. -/
def chain (link : η → π → η) : η → List π → List (Entry π η)
  | _, [] => []
  | previous, p :: payloads =>
    ⟨p, previous, link previous p⟩ :: chain link (link previous p) payloads

/-- Each entry has the hash before it and the hash of the two. -/
def Linked (link : η → π → η) : η → List (Entry π η) → Prop
  | _, [] => True
  | previous, e :: entries =>
    e.recordHash = link previous e.payload ∧ e.previousHash = previous ∧
      Linked link e.recordHash entries

/-- The hash of the last entry, or the one that the chain begins after. -/
def lastHash (start : η) (entries : List (Entry π η)) : η :=
  (entries.getLast?.map Entry.recordHash).getD start

section
variable {link : η → π → η}

/-- Entries are linked exactly if they are the chain of their payloads. -/
theorem linked_iff {start : η} {entries : List (Entry π η)} :
    Linked link start entries ↔ entries = chain link start (entries.map Entry.payload) := by
  induction entries generalizing start with
  | nil => exact iff_of_true trivial rfl
  | cons e entries ih =>
    obtain ⟨p, previous, hash⟩ := e
    rw [Linked, List.map_cons, chain, ih, List.cons.injEq, Entry.mk.injEq]
    dsimp only
    constructor
    · rintro ⟨rfl, rfl, hentries⟩
      exact ⟨⟨rfl, rfl, rfl⟩, hentries⟩
    · rintro ⟨⟨-, rfl, rfl⟩, hentries⟩
      exact ⟨rfl, rfl, hentries⟩

theorem linked_chain (start : η) (payloads : List π) : Linked link start (chain link start payloads) := by
  induction payloads generalizing start with
  | nil => trivial
  | cons p payloads ih => exact ⟨rfl, rfl, ih (link start p)⟩

theorem lastHash_cons (start : η) (e : Entry π η) (entries : List (Entry π η)) :
    lastHash start (e :: entries) = lastHash e.recordHash entries := by
  rw [lastHash, lastHash, List.getLast?_cons]
  cases entries.getLast? <;> rfl

/-- The last hash is what the payloads are folded into. -/
theorem lastHash_chain (start : η) (payloads : List π) :
    lastHash start (chain link start payloads) = payloads.foldl link start := by
  induction payloads generalizing start with
  | nil => rfl
  | cons p payloads ih => rw [chain, lastHash_cons, List.foldl_cons, ih]

/-- The same entry, up to the payload. -/
def SameEntry (Same : π → π → Prop) (e e' : Entry π η) : Prop :=
  Same e.payload e'.payload ∧ e.previousHash = e'.previousHash ∧ e.recordHash = e'.recordHash

section
variable {Same : π → π → Prop} {payloads payloads' : List π}

/-- Payloads that link alike make the same last hash. -/
theorem foldl_congr (hcongr : ∀ h p p', Same p p' → link h p = link h p')
    (h : List.Forall₂ Same payloads payloads') (first : η) :
    payloads.foldl link first = payloads'.foldl link first := by
  induction h generalizing first with
  | nil => rfl
  | cons hsame _ ih => rw [List.foldl_cons, List.foldl_cons, hcongr _ _ _ hsame, ih]

theorem chain_congr (hcongr : ∀ h p p', Same p p' → link h p = link h p')
    (h : List.Forall₂ Same payloads payloads') (first : η) :
    List.Forall₂ (SameEntry Same) (chain link first payloads) (chain link first payloads') := by
  induction h generalizing first with
  | nil => exact List.Forall₂.nil
  | cons hsame _ ih =>
    rw [chain, chain, hcongr _ _ _ hsame]
    exact List.Forall₂.cons ⟨hsame, rfl, rfl⟩ (ih _)

end

end

/-! ## What the last hash determines -/

/-- The hashes of a chain determine what was hashed. -/
structure Binds (link : η → π → η) (start : η) (Good : η → Prop) (Fit : π → Prop)
    (Same : π → π → Prop) : Prop where
  start_good : Good start
  link_good : ∀ {h p}, Good h → Fit p → Good (link h p)
  link_ne_start : ∀ {h p}, Good h → Fit p → link h p ≠ start
  link_inj : ∀ {h h' p p'}, Good h → Good h' → Fit p → Fit p' → link h p = link h' p' →
    h = h' ∧ Same p p'
  link_congr : ∀ h p p', Same p p' → link h p = link h p'

namespace Binds

variable {link : η → π → η} {start : η} {Good : η → Prop} {Fit : π → Prop} {Same : π → π → Prop}

theorem foldl_good (hbinds : Binds link start Good Fit Same) {payloads : List π}
    (h : ∀ p ∈ payloads, Fit p) : Good (payloads.foldl link start) := by
  induction payloads using List.reverseRecOn with
  | nil => exact hbinds.start_good
  | append_singleton payloads p ih =>
    rw [List.foldl_append]
    exact hbinds.link_good (ih fun q hq ↦ h q (List.mem_append_left _ hq))
      (h p (List.mem_append_right _ (List.mem_singleton.mpr rfl)))

/-- **Histories of any lengths with the same last hash are the same.**  The induction is from their
ends: the last hash is no start, so both histories have a last payload, and it determines that payload
and the hash before it. -/
theorem forall₂_of_foldl_eq (hbinds : Binds link start Good Fit Same) {payloads payloads' : List π}
    (hfit : ∀ p ∈ payloads, Fit p) (hfit' : ∀ p ∈ payloads', Fit p)
    (h : payloads.foldl link start = payloads'.foldl link start) :
    List.Forall₂ Same payloads payloads' := by
  induction payloads using List.reverseRecOn generalizing payloads' with
  | nil =>
    rcases List.eq_nil_or_concat' payloads' with rfl | ⟨front, q, rfl⟩
    · exact List.Forall₂.nil
    · obtain ⟨hfront, hq⟩ := List.forall_mem_append.mp hfit'
      rw [List.foldl_append] at h
      exact absurd h.symm (hbinds.link_ne_start (hbinds.foldl_good hfront)
        (hq q (List.mem_singleton.mpr rfl)))
  | append_singleton payloads p ih =>
    obtain ⟨hfits, hp⟩ := List.forall_mem_append.mp hfit
    have hp := hp p (List.mem_singleton.mpr rfl)
    rcases List.eq_nil_or_concat' payloads' with rfl | ⟨front, q, rfl⟩
    · rw [List.foldl_append] at h
      exact absurd h (hbinds.link_ne_start (hbinds.foldl_good hfits) hp)
    · obtain ⟨hfront, hq⟩ := List.forall_mem_append.mp hfit'
      rw [List.foldl_append, List.foldl_append] at h
      obtain ⟨hprevious, hsame⟩ := hbinds.link_inj (hbinds.foldl_good hfits)
        (hbinds.foldl_good hfront) hp (hq q (List.mem_singleton.mpr rfl)) h
      exact List.rel_append (ih hfits hfront hprevious) (List.Forall₂.cons hsame List.Forall₂.nil)

/-- **The last hash stands for the whole history.** -/
theorem foldl_eq_iff (hbinds : Binds link start Good Fit Same) {payloads payloads' : List π}
    (hfit : ∀ p ∈ payloads, Fit p) (hfit' : ∀ p ∈ payloads', Fit p) :
    payloads.foldl link start = payloads'.foldl link start ↔ List.Forall₂ Same payloads payloads' :=
  ⟨hbinds.forall₂_of_foldl_eq hfit hfit', fun h ↦ foldl_congr hbinds.link_congr h start⟩

/-- **Linked entries with the same last hash are the same.** -/
theorem linked_ext (hbinds : Binds link start Good Fit Same) {entries entries' : List (Entry π η)}
    (hfit : ∀ e ∈ entries, Fit e.payload) (hfit' : ∀ e ∈ entries', Fit e.payload)
    (hlinked : Linked link start entries) (hlinked' : Linked link start entries')
    (h : lastHash start entries = lastHash start entries') :
    List.Forall₂ (SameEntry Same) entries entries' := by
  rw [linked_iff] at hlinked hlinked'
  rw [hlinked, hlinked', lastHash_chain, lastHash_chain] at h
  rw [hlinked, hlinked']
  refine chain_congr hbinds.link_congr (hbinds.forall₂_of_foldl_eq ?_ ?_ h) start
  · exact List.forall_mem_map.mpr hfit
  · exact List.forall_mem_map.mpr hfit'

end Binds
end HashChain
