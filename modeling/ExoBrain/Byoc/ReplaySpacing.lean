import ExoBrain.Byoc.Replay

/-!
# What a replay guard lets through

A key that has been marked is refused until its time is over, and then it can be marked again.  What
has expired is forgotten whenever somebody marks any key, or cleans up.

* `ExactReplayGuard` is what `LawfulReplayGuard` leaves open: a guard remembers nothing that has not
  been marked, and refuses nothing that it does not remember.
* `marks` are the successful marks of a run, and `GuardInvariant` says what a guard remembers of them.
* `replay_guard_spacing` is about every run of both guards.
-/

set_option autoImplicit false

namespace ExoBrain
namespace Byoc

open Text

/-! ## Calls of a guard -/

/-- A call of a guard, with the clock that it reads. -/
inductive GuardCall
  | markOnce (now : Epoch) (key : String) (ttlSeconds : Int)
  | cleanupRetention (now : Epoch) (tenantId : String)
deriving DecidableEq

/-- What the clock shows. -/
def GuardCall.now : GuardCall → Epoch
  | markOnce now _ _ => now
  | cleanupRetention now _ => now

/-- What is returned. -/
inductive GuardAnswer
  | marked (answer : Bool)
  | pruned (replayKeysPruned : Nat)
deriving DecidableEq

/-- One call. -/
def GuardBackend.call (G : GuardBackend) (g : G.State) : GuardCall → GuardAnswer × G.State
  | .markOnce now key ttlSeconds =>
    let r := G.guard.markOnce now key ttlSeconds g
    (.marked r.1, r.2)
  | .cleanupRetention now tenantId =>
    let r := G.guard.cleanupRetention now tenantId g
    (.pruned r.1, r.2)

/-- A successful mark of a trimmed key. -/
structure Mark where
  key : String
  time : Epoch
  ttlSeconds : Int

/-- When the time of a mark is over. -/
def Mark.over (m : Mark) : Epoch := m.time + ttlTicks m.ttlSeconds

/-- The mark that a call has set. -/
def mark? : GuardCall × GuardAnswer → Option Mark
  | (.markOnce now key ttlSeconds, .marked true) => some ⟨strip key, now, ttlSeconds⟩
  | _ => none

/-- The marks that have been set. -/
def marks (history : List (GuardCall × GuardAnswer)) : List Mark := history.filterMap mark?

/-! ## What is remembered -/

/-- What a guard remembers has been marked, and what it refuses it remembers. -/
structure ExactReplayGuard {ρ : Type} (guard : ReplayGuard ρ)
    (remembers : ρ → String → Epoch → Prop) (init : ρ) : Prop where
  init_remembers : ∀ {k t}, ¬remembers init k t
  refuses_only : ∀ {now key ttl g}, (guard.markOnce now key ttl g).1 = false → strip key ≠ "" →
    ∃ t, remembers g (strip key) t ∧ now < t
  markOnce_only : ∀ {now key ttl g k t}, remembers (guard.markOnce now key ttl g).2 k t →
    remembers g k t ∨
      ((guard.markOnce now key ttl g).1 = true ∧ k = strip key ∧ t = now + ttlTicks ttl)
  cleanup_only : ∀ {now tenantId g k t}, remembers (guard.cleanupRetention now tenantId g).2 k t →
    remembers g k t

theorem InMemoryReplayGuard.get?_of_cleanup {now : Epoch} {g : InMemoryReplayGuard} {k : String}
    {t : Epoch} (h : (g.cleanup now).expiresAtEpoch.get? k = some t) :
    g.expiresAtEpoch.get? k = some t ∧ now < t := by
  rw [InMemoryReplayGuard.cleanup, Dict.get?_filter, Option.filter_eq_some_iff] at h
  exact ⟨h.1, of_decide_eq_true h.2⟩

theorem InMemoryReplayGuard.exact : ExactReplayGuard inMemoryReplayGuard
    (fun g k t ↦ g.expiresAtEpoch.get? k = some t) .init where
  init_remembers h := by cases h
  refuses_only {now key ttl g} h hkey := by
    simp only [inMemoryReplayGuard, InMemoryReplayGuard.markOnce] at h
    rw [if_neg hkey] at h
    split at h
    · rename_i hthere
      obtain ⟨t, ht⟩ := Dict.mem_keys_iff.mp hthere
      exact ⟨t, InMemoryReplayGuard.get?_of_cleanup ht⟩
    · cases h
  markOnce_only {now key ttl g k t} h := by
    simp only [inMemoryReplayGuard, InMemoryReplayGuard.markOnce] at h ⊢
    split at h
    · exact .inl h
    · rename_i hkey
      split at h
      · exact .inl (InMemoryReplayGuard.get?_of_cleanup h).1
      · rename_i hnew
        rw [if_neg hkey, if_neg hnew]
        rw [Dict.get?_set] at h
        split at h
        · rename_i hk
          exact .inr ⟨rfl, hk, (Option.some.inj h).symm⟩
        · exact .inl (InMemoryReplayGuard.get?_of_cleanup h).1
  cleanup_only h := (InMemoryReplayGuard.get?_of_cleanup h).1

theorem SQLiteReplayGuard.get?_of_filter {p : String → Epoch → Bool} {g : SQLiteReplayGuard}
    {k : String} {t : Epoch} (h : (g.rows.filter p).get? k = some t) :
    g.rows.get? k = some t ∧ p k t = true := by
  rw [Dict.get?_filter, Option.filter_eq_some_iff] at h
  exact h

theorem SQLiteReplayGuard.exact : ExactReplayGuard sqliteReplayGuard
    (fun g k t ↦ g.rows.get? k = some t) .init where
  init_remembers h := by cases h
  refuses_only {now key ttl g} h hkey := by
    simp only [sqliteReplayGuard, SQLiteReplayGuard.markOnce] at h
    rw [if_neg hkey] at h
    split at h
    · rename_i hthere
      obtain ⟨t, ht⟩ := Dict.mem_keys_iff.mp hthere
      obtain ⟨hbefore, hlive⟩ := SQLiteReplayGuard.get?_of_filter ht
      exact ⟨t, hbefore, of_decide_eq_true hlive⟩
    · cases h
  markOnce_only {now key ttl g k t} h := by
    simp only [sqliteReplayGuard, SQLiteReplayGuard.markOnce] at h ⊢
    split at h
    · exact .inl h
    · rename_i hkey
      split at h
      · exact .inl (SQLiteReplayGuard.get?_of_filter h).1
      · rename_i hnew
        rw [if_neg hkey, if_neg hnew]
        rw [Dict.get?_setDefault] at h
        split at h
        · rename_i hk
          rw [hk, Dict.get?_eq_none_iff.mpr hnew, Option.getD_none] at h
          have ht := Option.some.inj h
          exact .inr ⟨rfl, hk, ht.symm⟩
        · exact .inl (SQLiteReplayGuard.get?_of_filter h).1
  cleanup_only {now tenantId g k t} h := by
    simp only [sqliteReplayGuard, SQLiteReplayGuard.cleanupRetention] at h
    split at h
    · exact h
    · rw [Dict.get?_filter, Option.filter_eq_some_iff] at h
      exact h.1

/-! ## Runs -/

/-- What a guard remembers after some calls. -/
structure GuardInvariant (G : GuardBackend) (history : List (GuardCall × GuardAnswer))
    (g : G.State) : Prop where
  apart : (marks history).Pairwise fun m m' ↦ m.key = m'.key → m.over ≤ m'.time
  marked : ∀ {k t}, G.remembers g k t → ∃ m ∈ marks history, m.key = k ∧ m.over = t
  remembered : ∀ m ∈ marks history, (∀ e ∈ history, e.1.now < m.over) → G.remembers g m.key m.over

section Runs

variable {G : GuardBackend} {history : List (GuardCall × GuardAnswer)} {g : G.State}

theorem marks_concat (history : List (GuardCall × GuardAnswer)) (e : GuardCall × GuardAnswer) :
    marks (history ++ [e]) = marks history ++ (mark? e).toList := by
  rw [marks, List.filterMap_append, marks]
  cases h : mark? e <;> simp [h]

/-- A call that marks nothing. -/
theorem GuardInvariant.unmarked (h : GuardInvariant G history g) {e : GuardCall × GuardAnswer}
    (hmark : mark? e = none) {g' : G.State}
    (honly : ∀ {k t}, G.remembers g' k t → G.remembers g k t)
    (hkeeps : ∀ {k t}, G.remembers g k t → e.1.now < t → G.remembers g' k t) :
    GuardInvariant G (history ++ [e]) g' := by
  have hmarks : marks (history ++ [e]) = marks history := by
    rw [marks_concat, hmark, Option.toList_none, List.append_nil]
  refine ⟨?_, fun hg' ↦ ?_, fun m hm hlive ↦ ?_⟩
  · rw [hmarks]
    exact h.apart
  · rw [hmarks]
    exact h.marked (honly hg')
  · rw [hmarks] at hm
    rw [List.forall_mem_append, List.forall_mem_singleton] at hlive
    exact hkeeps (h.remembered m hm hlive.1) hlive.2

/-- One call, at a time that is not before the others. -/
theorem GuardInvariant.call (h : GuardInvariant G history g)
    (hexact : ExactReplayGuard G.guard G.remembers G.init) {c : GuardCall}
    (hclock : ∀ e ∈ history, e.1.now ≤ c.now) :
    GuardInvariant G (history ++ [(c, (G.call g c).1)]) (G.call g c).2 := by
  cases c with
  | cleanupRetention now tenantId => exact h.unmarked rfl hexact.cleanup_only G.lawful.cleanup_keeps
  | markOnce now key ttlSeconds =>
    cases hanswer : (G.guard.markOnce now key ttlSeconds g).1 with
    | false =>
      refine h.unmarked ?_ (fun hg' ↦ ?_) G.lawful.markOnce_keeps
      · dsimp only [GuardBackend.call]
        rw [hanswer]
        rfl
      · refine (hexact.markOnce_only hg').resolve_right fun hmarked ↦ ?_
        rw [hanswer] at hmarked
        cases hmarked.1
    | true =>
      have hmarks : marks (history ++ [(.markOnce now key ttlSeconds,
          (G.call g (.markOnce now key ttlSeconds)).1)]) =
            marks history ++ [⟨strip key, now, ttlSeconds⟩] := by
        dsimp only [GuardBackend.call]
        rw [marks_concat, hanswer]
        rfl
      refine ⟨?_, fun hg' ↦ ?_, fun m hm hlive ↦ ?_⟩
      · rw [hmarks, List.pairwise_append]
        refine ⟨h.apart, List.pairwise_singleton .., fun m hm m' hm' hkey ↦ ?_⟩
        obtain rfl := List.mem_singleton.mp hm'
        -- As long as an earlier mark is not over, it is remembered, and the key is refused.
        by_contra hearly
        rw [not_le] at hearly
        have hthere := h.remembered m hm fun e he ↦ (hclock e he).trans_lt hearly
        rw [hkey] at hthere
        have hrefused : (G.guard.markOnce now key ttlSeconds g).1 = false :=
          G.lawful.refuses hthere hearly
        rw [hanswer] at hrefused
        cases hrefused
      · rw [hmarks]
        rcases hexact.markOnce_only hg' with hbefore | ⟨-, rfl, rfl⟩
        · obtain ⟨m, hm, hmark⟩ := h.marked hbefore
          exact ⟨m, List.mem_append_left _ hm, hmark⟩
        · exact ⟨_, List.mem_append_right _ (List.mem_singleton.mpr rfl), rfl, rfl⟩
      · rw [hmarks] at hm
        rw [List.forall_mem_append, List.forall_mem_singleton] at hlive
        rcases List.mem_append.mp hm with hm | hm
        · exact G.lawful.markOnce_keeps (h.remembered m hm hlive.1) hlive.2
        · obtain rfl := List.mem_singleton.mp hm
          exact G.lawful.marks hanswer

theorem mem_trace_of_call {e : GuardCall × GuardAnswer} {calls : List GuardCall}
    (h : e ∈ Run.trace G.call g calls) : e.1 ∈ calls := by
  have hcalls : (Run.trace G.call g calls).map Prod.fst = calls := Run.map_fst_trace g calls
  rw [← hcalls]
  exact List.mem_map_of_mem h

theorem exec_guardInvariant (hexact : ExactReplayGuard G.guard G.remembers G.init)
    {calls : List GuardCall} (hclock : (calls.map GuardCall.now).Pairwise (· ≤ ·)) :
    GuardInvariant G (Run.trace G.call G.init calls) (Run.exec G.call G.init calls) := by
  induction calls using List.reverseRecOn with
  | nil =>
    refine ⟨List.Pairwise.nil, fun h ↦ absurd h hexact.init_remembers, fun m hm ↦ ?_⟩
    cases hm
  | append_singleton calls c ih =>
    rw [List.map_append, List.pairwise_append] at hclock
    rw [Run.trace_append, Run.exec_append]
    refine (ih hclock.1).call hexact fun e he ↦ ?_
    exact hclock.2.2 _ (List.mem_map_of_mem (mem_trace_of_call he)) _ (List.mem_singleton.mpr rfl)

/-- A mark of a run is set at the time of a call of it. -/
theorem exists_of_mem_marks {m : Mark} {calls : List GuardCall}
    (h : m ∈ marks (Run.trace G.call g calls)) : ∃ c ∈ calls, c.now = m.time := by
  obtain ⟨e, he, hmark⟩ := List.mem_filterMap.mp h
  refine ⟨e.1, mem_trace_of_call he, ?_⟩
  unfold mark? at hmark
  split at hmark
  · rw [← Option.some.inj hmark]
    rfl
  · cases hmark

/-- What is refused has been marked, and its time is not over. -/
theorem exists_mark_of_refused (hexact : ExactReplayGuard G.guard G.remembers G.init)
    {calls : List GuardCall} (hclock : (calls.map GuardCall.now).Pairwise (· ≤ ·))
    {before after : List (GuardCall × GuardAnswer)} {now : Epoch} {key : String} {ttlSeconds : Int}
    (htrace : Run.trace G.call G.init calls =
      before ++ (.markOnce now key ttlSeconds, .marked false) :: after) (hkey : strip key ≠ "") :
    ∃ m ∈ marks before, m.key = strip key ∧ m.time ≤ now ∧ now < m.time + ttlTicks m.ttlSeconds := by
  obtain ⟨js, i, ks, rfl, rfl, he, -⟩ := Run.trace_eq_append_cons htrace
  obtain ⟨hcall, hanswer⟩ := Prod.mk.inj he
  rw [← hcall] at hanswer hclock
  rw [List.map_append, List.pairwise_append] at hclock
  have hrefused : (G.guard.markOnce now key ttlSeconds (Run.exec G.call G.init js)).1 = false :=
    (GuardAnswer.marked.inj hanswer).symm
  obtain ⟨t, ht, hlive⟩ := hexact.refuses_only hrefused hkey
  obtain ⟨m, hm, hmkey, rfl⟩ := (exec_guardInvariant hexact hclock.1).marked ht
  obtain ⟨c, hc, htime⟩ := exists_of_mem_marks hm
  refine ⟨m, hm, hmkey, ?_, hlive⟩
  rw [← htime]
  exact hclock.2.2 _ (List.mem_map_of_mem hc) now (List.mem_map.mpr ⟨_, List.mem_cons_self, rfl⟩)

end Runs

/-- **What a replay guard lets through**, and what not.  In every run of either guard whose clock does
not go back: two successful marks of a key are apart by the time of the first one, and a key is refused
only within the time of a successful mark of it. -/
theorem replay_guard_spacing (G : GuardBackend) (hG : G = .inMemory ∨ G = .sqlite)
    (calls : List GuardCall) (hclock : (calls.map GuardCall.now).Pairwise (· ≤ ·)) :
    let trace := Run.trace G.call G.init calls
    ((marks trace).Pairwise fun m m' ↦ m.key = m'.key → m.time + ttlTicks m.ttlSeconds ≤ m'.time) ∧
      ∀ before now key ttlSeconds after,
        trace = before ++ (.markOnce now key ttlSeconds, .marked false) :: after → strip key ≠ "" →
          ∃ m ∈ marks before, m.key = strip key ∧ m.time ≤ now ∧
            now < m.time + ttlTicks m.ttlSeconds := by
  have hexact : ExactReplayGuard G.guard G.remembers G.init := by
    rcases hG with rfl | rfl
    · exact InMemoryReplayGuard.exact
    · exact SQLiteReplayGuard.exact
  exact ⟨(exec_guardInvariant hexact hclock).apart,
    fun _ _ _ _ _ htrace hkey ↦ exists_mark_of_refused hexact hclock htrace hkey⟩

/-- A key is marked for a second, and again just before the second is over and when it is. -/
def markedAgain : List GuardCall :=
  [.markOnce 0 "t:k" 1, .markOnce (ticksPerSecond - 1) " t:k" 60, .markOnce ticksPerSecond "t:k " 1]

/-- It is refused once, and the other marks are a second apart. -/
theorem replay_guard_spacing_boundary :
    (Run.trace GuardBackend.sqlite.call GuardBackend.sqlite.init markedAgain).map Prod.snd =
        [.marked true, .marked false, .marked true] ∧
      (marks (Run.trace GuardBackend.sqlite.call GuardBackend.sqlite.init markedAgain)).Pairwise
        fun m m' ↦ m.key = m'.key → m.time + ttlTicks m.ttlSeconds ≤ m'.time :=
  ⟨by decide +kernel,
    (replay_guard_spacing .sqlite (.inr rfl) markedAgain (by decide)).1⟩

end Byoc
end ExoBrain
