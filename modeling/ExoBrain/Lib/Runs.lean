import Mathlib.Data.List.Basic
import Mathlib.Data.List.DropRight
import Mathlib.Data.List.Infix

/-!
# Runs of elements

Names are made safe in two ways: what is not wanted at the ends is trimmed, and a run of elements
that are not wanted in between is replaced by one mark.

* `trimEnds p` drops elements with `p` from both ends.  It is the only list that does not begin or
  end with such an element and has only such elements around it (`trimEnds_eq`).
* `squash keep mark` replaces every maximal run of elements that are not kept by one mark.
* `Alike` says without squashing when two lists are squashed to the same list
  (`squash_eq_squash_iff`): they are cut into the same elements that are kept, and into marks, each
  of which stands in either list for itself or for a maximal run.
* `trimEnds_squash`: trimming marks off what is squashed is trimming before squashing.

Two lists are also put together with an element in between.  `cut_unique_iff` says when the place
where they were put together can be told.
-/

set_option autoImplicit false

universe u

namespace Runs

variable {α : Type u}

/-! ## Trimming -/

/-- The list without the elements at its ends that satisfy `p`. -/
def trimEnds (p : α → Bool) (l : List α) : List α := (l.dropWhile p).rdropWhile p

/-- Neither end satisfies `p`. -/
def Trimmed (p : α → Bool) (l : List α) : Prop :=
  (∀ x ∈ l.head?, p x = false) ∧ ∀ x ∈ l.getLast?, p x = false

/-- Mapping the elements changes nothing about the ends if `p` does not see the difference. -/
theorem Trimmed.map {p : α → Bool} {f : α → α} (hf : ∀ x, p (f x) = p x) {l : List α}
    (h : Trimmed p l) : Trimmed p (l.map f) := by
  constructor
  · intro y hy
    rw [List.head?_map] at hy
    obtain ⟨x, hx, rfl⟩ := Option.map_eq_some_iff.mp hy
    exact (hf x).trans (h.1 x hx)
  · intro y hy
    rw [List.getLast?_map] at hy
    obtain ⟨x, hx, rfl⟩ := Option.map_eq_some_iff.mp hy
    exact (hf x).trans (h.2 x hx)

theorem dropWhile_append_of_head {p : α → Bool} {a l : List α} (ha : ∀ x ∈ a, p x = true)
    (hl : ∀ x ∈ l.head?, p x = false) : (a ++ l).dropWhile p = l := by
  rw [List.dropWhile_append_of_pos ha, List.dropWhile_eq_self_iff]
  intro hpos
  rw [hl l[0] (List.head?_eq_getElem? ▸ List.getElem?_eq_getElem hpos)]
  exact Bool.false_ne_true

/-- **Trimming is unique.** -/
theorem trimEnds_eq {p : α → Bool} {a c b : List α} (ha : ∀ x ∈ a, p x = true)
    (hb : ∀ x ∈ b, p x = true) (hc : Trimmed p c) : trimEnds p (a ++ c ++ b) = c := by
  cases c with
  | nil =>
    have hall : ∀ x ∈ a ++ [] ++ b, p x = true := by
      intro x hx
      rw [List.append_nil] at hx
      exact (List.mem_append.mp hx).elim (ha x) (hb x)
    rw [trimEnds, List.dropWhile_eq_nil_iff.mpr hall]
    rfl
  | cons y c =>
    have hlast : ∀ x ∈ (y :: c).reverse.head?, p x = false := by
      rw [List.head?_reverse]
      exact hc.2
    have hfront : (a ++ (y :: c ++ b)).dropWhile p = y :: c ++ b :=
      dropWhile_append_of_head ha fun x hx ↦ hc.1 x hx
    rw [trimEnds, List.append_assoc, hfront, List.rdropWhile, List.reverse_append,
      dropWhile_append_of_head (fun x hx ↦ hb x (List.mem_reverse.mp hx)) hlast,
      List.reverse_reverse]

/-- What is trimmed off, on either side. -/
theorem trimEnds_spec (p : α → Bool) (l : List α) : ∃ a b, l = a ++ trimEnds p l ++ b ∧
    (∀ x ∈ a, p x = true) ∧ (∀ x ∈ b, p x = true) ∧ Trimmed p (trimEnds p l) := by
  refine ⟨l.takeWhile p, (l.dropWhile p).rtakeWhile p, ?_, fun x hx ↦ List.mem_takeWhile_imp hx,
    fun x hx ↦ List.mem_rtakeWhile_imp hx, ?_, ?_⟩
  · rw [trimEnds, List.append_assoc, List.rdropWhile_append_rtakeWhile,
      List.takeWhile_append_dropWhile]
  · intro x hx
    obtain ⟨rest, hrest⟩ := List.rdropWhile_prefix p (l := l.dropWhile p)
    have hhead : (l.dropWhile p).head? = some x := by
      rw [← hrest, List.head?_append]
      exact Option.or_eq_some_iff.mpr (.inl hx)
    have hnot := List.head?_dropWhile_not p l
    rw [hhead] at hnot
    exact hnot
  · intro x hx
    have hne : trimEnds p l ≠ [] := by
      rintro hnil
      rw [hnil] at hx
      cases hx
    have hnot := List.rdropWhile_last_not p (l.dropWhile p) hne
    rw [List.getLast?_eq_some_getLast hne, Option.mem_def, Option.some_inj] at hx
    rw [← hx]
    exact Bool.eq_false_iff.mpr hnot

/-- Trimming goes by the elements that are there. -/
theorem trimEnds_congr {p q : α → Bool} {l : List α} (h : ∀ x ∈ l, p x = q x) :
    trimEnds p l = trimEnds q l := by
  obtain ⟨a, b, hl, ha, hb, hhead, hlast⟩ := trimEnds_spec q l
  have hmem {x : α} (hx : x ∈ a ∨ x ∈ trimEnds q l ∨ x ∈ b) : x ∈ l := by
    rw [hl, List.mem_append, List.mem_append, or_assoc]
    exact hx
  calc trimEnds p l = trimEnds p (a ++ trimEnds q l ++ b) := by rw [← hl]
    _ = trimEnds q l := by
      refine trimEnds_eq (fun x hx ↦ ?_) (fun x hx ↦ ?_) ⟨fun x hx ↦ ?_, fun x hx ↦ ?_⟩
      · rw [h x (hmem (.inl hx)), ha x hx]
      · rw [h x (hmem (.inr (.inr hx))), hb x hx]
      · rw [h x (hmem (.inr (.inl (List.mem_of_head? hx)))), hhead x hx]
      · rw [h x (hmem (.inr (.inl (List.mem_of_getLast? hx)))), hlast x hx]

/-- Trimming less before changes nothing. -/
theorem trimEnds_trimEnds {p q : α → Bool} (hqp : ∀ x, q x = true → p x = true) (l : List α) :
    trimEnds p (trimEnds q l) = trimEnds p l := by
  obtain ⟨a, b, hl, ha, hb, -⟩ := trimEnds_spec q l
  obtain ⟨a', b', hl', ha', hb', htrimmed⟩ := trimEnds_spec p (trimEnds q l)
  have hwhole : l = (a ++ a') ++ trimEnds p (trimEnds q l) ++ (b' ++ b) := by
    rw [hl'] at hl
    simpa only [List.append_assoc] using hl
  calc trimEnds p (trimEnds q l)
      = trimEnds p ((a ++ a') ++ trimEnds p (trimEnds q l) ++ (b' ++ b)) := by
        refine (trimEnds_eq (fun x hx ↦ ?_) (fun x hx ↦ ?_) htrimmed).symm
        · exact (List.mem_append.mp hx).elim (fun h ↦ hqp x (ha x h)) (ha' x)
        · exact (List.mem_append.mp hx).elim (hb' x) fun h ↦ hqp x (hb x h)
    _ = trimEnds p l := by rw [← hwhole]

/-! ## Squashing -/

section Squash

variable (keep : α → Bool) (mark : α)

/-- The list begins with an element that is not kept. -/
def BeginsRun (l : List α) : Prop := ∃ x ∈ l.head?, keep x = false

instance (l : List α) : Decidable (BeginsRun keep l) :=
  match l with
  | [] => isFalse fun h ↦ by obtain ⟨x, hx, -⟩ := h; cases hx
  | x :: l => decidable_of_iff (keep x = false)
      ⟨fun h ↦ ⟨x, rfl, h⟩, fun ⟨_, hy, h⟩ ↦ Option.some.inj hy ▸ h⟩

/-- Every maximal run of elements that are not kept becomes one mark, which stands in the place of
its last element. -/
def squash : List α → List α
  | [] => []
  | x :: l =>
    if keep x = true then x :: squash l
    else if BeginsRun keep l then squash l
    else mark :: squash l

variable {keep mark}

theorem beginsRun_cons {x : α} {l : List α} : BeginsRun keep (x :: l) ↔ keep x = false :=
  ⟨fun ⟨_, hy, h⟩ ↦ Option.some.inj hy ▸ h, fun h ↦ ⟨x, rfl, h⟩⟩

theorem not_beginsRun_nil : ¬BeginsRun keep ([] : List α) := fun ⟨_, hx, _⟩ ↦ by cases hx

theorem squash_cons (x : α) (l : List α) : squash keep mark (x :: l) =
    if keep x = true then x :: squash keep mark l
    else if BeginsRun keep l then squash keep mark l
    else mark :: squash keep mark l := rfl

theorem squash_cons_of_keep {x : α} (h : keep x = true) (l : List α) :
    squash keep mark (x :: l) = x :: squash keep mark l := by
  rw [squash, if_pos h]

/-- What is squashed has elements of the list, and marks. -/
theorem mem_squash {l : List α} {x : α} (h : x ∈ squash keep mark l) :
    (x ∈ l ∧ keep x = true) ∨ x = mark := by
  induction l with
  | nil => cases h
  | cons y l ih =>
    rw [squash] at h
    split_ifs at h with hkeep hrun
    · rcases List.mem_cons.mp h with rfl | h
      · exact .inl ⟨List.mem_cons_self, hkeep⟩
      · exact (ih h).imp_left fun h ↦ ⟨List.mem_cons_of_mem _ h.1, h.2⟩
    · exact (ih h).imp_left fun h ↦ ⟨List.mem_cons_of_mem _ h.1, h.2⟩
    · rcases List.mem_cons.mp h with rfl | h
      · exact .inr rfl
      · exact (ih h).imp_left fun h ↦ ⟨List.mem_cons_of_mem _ h.1, h.2⟩

/-- A run becomes a mark. -/
theorem squash_run {u l : List α} (hne : u ≠ []) (hu : ∀ x ∈ u, keep x = false)
    (hl : ¬BeginsRun keep l) : squash keep mark (u ++ l) = mark :: squash keep mark l := by
  induction u with
  | nil => exact absurd rfl hne
  | cons x u ih =>
    have hx := hu x List.mem_cons_self
    rw [List.cons_append, squash, if_neg (by rw [hx]; exact Bool.false_ne_true)]
    cases u with
    | nil => rw [List.nil_append, if_neg hl]
    | cons y u =>
      have hrest := fun z hz ↦ hu z (List.mem_cons_of_mem _ hz)
      have hbegins : BeginsRun keep (y :: u ++ l) :=
        beginsRun_cons.mpr (hrest y List.mem_cons_self)
      rw [if_pos hbegins, ih (List.cons_ne_nil y u) hrest]

/-- A list is squashed in two parts, if no run goes over from the first to the second. -/
theorem squash_append {l l' : List α}
    (h : ¬BeginsRun keep l' ∨ ∀ x ∈ l.getLast?, keep x = true) :
    squash keep mark (l ++ l') = squash keep mark l ++ squash keep mark l' := by
  induction l with
  | nil => rfl
  | cons x l ih =>
    cases l with
    | nil =>
      rw [List.singleton_append, squash_cons, squash_cons, if_neg not_beginsRun_nil]
      by_cases hx : keep x = true
      · rw [if_pos hx, if_pos hx]
        rfl
      · have hl' : ¬BeginsRun keep l' := h.resolve_right fun hlast ↦ hx (hlast x rfl)
        rw [if_neg hx, if_neg hx, if_neg hl']
        rfl
    | cons y l =>
      have hrest := ih (h.imp_right fun hlast z hz ↦ hlast z (by rwa [List.getLast?_cons_cons]))
      have hbegins : BeginsRun keep (y :: l ++ l') ↔ BeginsRun keep (y :: l) := by
        rw [List.cons_append, beginsRun_cons, beginsRun_cons]
      rw [List.cons_append, squash_cons x (y :: l ++ l'), squash_cons x (y :: l), hrest,
        if_congr hbegins rfl rfl]
      split_ifs <;> rfl

/-- **Trimming what is squashed** is squashing what is trimmed, when marks and whatever becomes a
mark are trimmed. -/
theorem trimEnds_squash {p : α → Bool} (hmark : p mark = true)
    (hrun : ∀ x, keep x = false → p x = true) (l : List α) :
    trimEnds p (squash keep mark l) = squash keep mark (trimEnds p l) := by
  obtain ⟨a, b, hl, ha, hb, hhead, hlast⟩ := trimEnds_spec p l
  have hall {m : List α} (hm : ∀ x ∈ m, p x = true) : ∀ x ∈ squash keep mark m, p x = true := by
    intro x hx
    rcases mem_squash hx with ⟨hmem, -⟩ | rfl
    · exact hm x hmem
    · exact hmark
  have hkept {x : α} (hx : p x = false) : keep x = true := by
    by_contra hkeep
    rw [hrun x (Bool.eq_false_iff.mpr hkeep)] at hx
    cases hx
  cases hc : trimEnds p l with
  | nil =>
    rw [hc, List.append_nil] at hl
    have hwhole : ∀ x ∈ l, p x = true := by
      intro x hx
      rw [hl] at hx
      exact (List.mem_append.mp hx).elim (ha x) (hb x)
    rw [trimEnds, List.dropWhile_eq_nil_iff.mpr (hall hwhole)]
    rfl
  | cons y c =>
    rw [hc] at hl hhead hlast
    have hy : ¬BeginsRun keep (y :: c) := by
      rw [beginsRun_cons, hkept (hhead y rfl)]
      exact Bool.noConfusion
    obtain ⟨z, hz⟩ : ∃ z, (y :: c).getLast? = some z := ⟨_, List.getLast?_cons⟩
    have hzkept : keep z = true := hkept (hlast z hz)
    obtain ⟨front, hfront⟩ := List.getLast?_eq_some_iff.mp hz
    have hzrun : ¬BeginsRun keep [z] := by
      rw [beginsRun_cons, hzkept]
      exact Bool.noConfusion
    have hsplit : squash keep mark l =
        squash keep mark a ++ squash keep mark (y :: c) ++ squash keep mark b := by
      rw [hl, squash_append (.inr ?_), squash_append (.inl hy)]
      intro x hx
      rw [List.getLast?_append, hz] at hx
      exact Option.some.inj hx ▸ hzkept
    rw [hsplit]
    refine trimEnds_eq (hall ha) (hall hb) ⟨fun x hx ↦ ?_, fun x hx ↦ ?_⟩
    · rw [squash_cons_of_keep (hkept (hhead y rfl))] at hx
      exact Option.some.inj hx ▸ hhead y rfl
    · rw [hfront, squash_append (.inl hzrun), squash_cons_of_keep hzkept, List.getLast?_append] at hx
      exact Option.some.inj hx ▸ hlast z hz

/-! ### Lists that are squashed alike -/

variable (keep mark) in
/-- `u`, with `rest` after it, is squashed to one mark: it is the mark, or a whole run. -/
def IsMark (u rest : List α) : Prop :=
  u = [mark] ∨ (u ≠ [] ∧ (∀ x ∈ u, keep x = false) ∧ ¬BeginsRun keep rest)

variable (keep mark) in
/-- Two lists are cut into the same elements that are kept, and into marks. -/
inductive Alike : List α → List α → Prop
  | nil : Alike [] []
  | kept {x : α} {l l' : List α} (hx : keep x = true) (h : Alike l l') : Alike (x :: l) (x :: l')
  | marks {u u' l l' : List α} (hu : IsMark keep mark u l) (hu' : IsMark keep mark u' l')
      (h : Alike l l') : Alike (u ++ l) (u' ++ l')

theorem IsMark.squash (hmark : keep mark = true) {u l : List α} (h : IsMark keep mark u l) :
    squash keep mark (u ++ l) = mark :: squash keep mark l := by
  rcases h with rfl | ⟨hne, hu, hl⟩
  · exact squash_cons_of_keep hmark l
  · exact squash_run hne hu hl

/-- A list that is not empty begins with an element that is kept, or with a run. -/
theorem exists_run (x : α) (l : List α) (hx : keep x = false) :
    ∃ u rest, x :: l = u ++ rest ∧ u ≠ [] ∧ (∀ y ∈ u, keep y = false) ∧ ¬BeginsRun keep rest := by
  refine ⟨(x :: l).takeWhile fun y ↦ !keep y, (x :: l).dropWhile fun y ↦ !keep y,
    List.takeWhile_append_dropWhile.symm, ?_, fun y hy ↦ ?_, ?_⟩
  · rw [List.takeWhile_cons_of_pos (by rw [hx]; rfl)]
    exact List.cons_ne_nil _ _
  · simpa using List.mem_takeWhile_imp hy
  · rintro ⟨y, hy, hkeep⟩
    have hnot := List.head?_dropWhile_not (fun y ↦ !keep y) (x :: l)
    rw [hy] at hnot
    simp only [hkeep, Bool.not_false, Bool.true_eq_false] at hnot

/-- What is squashed to nothing is nothing. -/
theorem squash_eq_nil {l : List α} (h : squash keep mark l = []) : l = [] := by
  cases l with
  | nil => rfl
  | cons x l =>
    cases hx : keep x with
    | true =>
      rw [squash_cons_of_keep hx] at h
      cases h
    | false =>
      obtain ⟨u, rest, hl, hne, hu, hrest⟩ := exists_run x l hx
      rw [hl, squash_run hne hu hrest] at h
      cases h

/-- What is squashed to a list that begins with something else than a mark begins with that. -/
theorem squash_eq_cons {l r : List α} {y : α} (h : squash keep mark l = y :: r) (hy : y ≠ mark) :
    ∃ rest, l = y :: rest ∧ keep y = true ∧ squash keep mark rest = r := by
  cases l with
  | nil => cases h
  | cons x l =>
    cases hx : keep x with
    | true =>
      rw [squash_cons_of_keep hx] at h
      obtain ⟨rfl, hrest⟩ := List.cons.inj h
      exact ⟨l, rfl, hx, hrest⟩
    | false =>
      obtain ⟨u, rest, hl, hne, hu, hrest⟩ := exists_run x l hx
      rw [hl, squash_run hne hu hrest] at h
      exact absurd (List.cons.inj h).1.symm hy

/-- What is squashed to a list that begins with a mark begins with a mark. -/
theorem squash_eq_mark_cons {l r : List α} (h : squash keep mark l = mark :: r) :
    ∃ u rest, l = u ++ rest ∧ IsMark keep mark u rest ∧ squash keep mark rest = r ∧
      rest.length < l.length := by
  cases l with
  | nil => cases h
  | cons x l =>
    cases hx : keep x with
    | true =>
      rw [squash_cons_of_keep hx] at h
      obtain ⟨rfl, hrest⟩ := List.cons.inj h
      exact ⟨[x], l, rfl, .inl rfl, hrest, Nat.lt_succ_self _⟩
    | false =>
      obtain ⟨u, rest, hl, hne, hu, hrest⟩ := exists_run x l hx
      rw [hl, squash_run hne hu hrest] at h
      refine ⟨u, rest, hl, .inr ⟨hne, hu, hrest⟩, (List.cons.inj h).2, ?_⟩
      rw [hl, List.length_append]
      have := List.length_pos_iff.mpr hne
      omega

/-- **Lists that are squashed to the same list.** -/
theorem squash_eq_squash_iff (hmark : keep mark = true) {l l' : List α} :
    squash keep mark l = squash keep mark l' ↔ Alike keep mark l l' := by
  constructor
  · intro h
    -- The longest piece that both begin with is cut off.
    induction hn : l.length using Nat.strong_induction_on generalizing l l' with
    | _ n ih =>
      subst hn
      cases hsquash : squash keep mark l with
      | nil =>
        rw [squash_eq_nil hsquash, squash_eq_nil (h.symm.trans hsquash)]
        exact .nil
      | cons y r =>
        by_cases hy : y = mark
        · subst hy
          obtain ⟨u, rest, hl, hu, hrest, hlt⟩ := squash_eq_mark_cons hsquash
          obtain ⟨u', rest', rfl, hu', hrest', -⟩ := squash_eq_mark_cons (h.symm.trans hsquash)
          have halike := ih rest.length hlt (hrest.trans hrest'.symm) rfl
          rw [hl]
          exact .marks hu hu' halike
        · obtain ⟨rest, hl, hkeep, hrest⟩ := squash_eq_cons hsquash hy
          obtain ⟨rest', rfl, -, hrest'⟩ := squash_eq_cons (h.symm.trans hsquash) hy
          have hlt : rest.length < l.length := by
            rw [hl]
            exact Nat.lt_succ_self _
          have halike := ih rest.length hlt (hrest.trans hrest'.symm) rfl
          rw [hl]
          exact .kept hkeep halike
  · intro h
    induction h with
    | nil => rfl
    | kept hx _ ih => rw [squash_cons_of_keep hx, squash_cons_of_keep hx, ih]
    | marks hu hu' _ ih => rw [hu.squash hmark, hu'.squash hmark, ih]

end Squash

/-! ## Cutting at an element -/

/-- **Where a list was put together.**  Two lists are the only ones, other than empty ones, that make
up the same list with `x` in between, exactly if `x` stands in the first at most at its beginning, and
in the second at most at its end. -/
theorem cut_unique_iff {x : α} {a b : List α} (ha : a ≠ []) (hb : b ≠ []) :
    (∀ a' b', a' ≠ [] → b' ≠ [] → a' ++ x :: b' = a ++ x :: b → a' = a ∧ b' = b) ↔
      x ∉ a.tail ∧ x ∉ b.dropLast := by
  constructor
  · intro hunique
    constructor
    · intro hmem
      obtain ⟨first, a, rfl⟩ := List.exists_cons_of_ne_nil ha
      obtain ⟨front, back, rfl⟩ := List.append_of_mem hmem
      obtain ⟨heq, -⟩ := hunique (first :: front) (back ++ x :: b) (by simp) (by simp) (by simp)
      simp at heq
    · intro hmem
      obtain ⟨b, last, rfl⟩ := List.eq_nil_or_concat' b |>.resolve_left hb
      rw [List.dropLast_concat] at hmem
      obtain ⟨front, back, rfl⟩ := List.append_of_mem hmem
      obtain ⟨-, heq⟩ := hunique (a ++ x :: front) (back ++ [last]) (by simp) (by simp) (by simp)
      have hlength := congrArg List.length heq
      simp only [List.length_append, List.length_cons, List.length_nil] at hlength
      omega
  · rintro ⟨hfirst, hlast⟩ a' b' ha' hb' heq
    rcases List.append_eq_append_iff.mp heq with ⟨between, rfl, hrest⟩ | ⟨between, rfl, hrest⟩
    · cases between with
      | nil => exact ⟨(List.append_nil a').symm, (List.cons.inj hrest).2⟩
      | cons y between =>
        obtain ⟨rfl, -⟩ := List.cons.inj hrest
        rw [List.tail_append_of_ne_nil ha'] at hfirst
        exact absurd (List.mem_append_right _ List.mem_cons_self) hfirst
    · cases between with
      | nil => exact ⟨List.append_nil a, (List.cons.inj hrest).2.symm⟩
      | cons y between =>
        rw [List.cons_append] at hrest
        obtain ⟨rfl, rfl⟩ := List.cons.inj hrest
        rw [List.dropLast_append_of_ne_nil (List.cons_ne_nil x b')] at hlast
        refine absurd (List.mem_append_right _ ?_) hlast
        rw [List.dropLast_cons_of_ne_nil hb']
        exact List.mem_cons_self

end Runs
