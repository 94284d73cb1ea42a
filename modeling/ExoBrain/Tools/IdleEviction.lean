import ExoBrain.Tools.SandboxPool

/-!
# Idle workers

`evict_idle` lists the tenants whose workers have not been used for a while, gives the lock away, and
then takes their workers from them one by one.  Meanwhile a worker may be handed out again.

* `SparesActive` says of the removal of a worker by `evict_idle` that it has not been handed out
  within the time that makes it idle.
* `Undisturbed` says of a step that no worker is handed out whose tenant is on such a list, and that
  no tenant gets on a list whose worker was handed out within that time.
* `idle_eviction_spares_iff`: all removals spare active workers, in a run and if its calls of
  `evict_idle` go on at any moment, exactly if every step of the run is undisturbed.
* `active_worker_evicted` removes a worker that has just been handed out.
-/

set_option autoImplicit false

namespace ExoBrain
namespace Tools

/-! ## Normal forms -/

theorem normalizedTenant_normalizedTenant (tenantId : String) :
    normalizedTenant (normalizedTenant tenantId) = normalizedTenant tenantId := by
  rw [normalizedTenant]
  by_cases hblank : Text.strip tenantId = ""
  · rw [normalizedTenant, if_pos hblank]
    decide
  · rw [normalizedTenant, if_neg hblank, Text.strip_strip, if_neg hblank]

/-! ## Removals and hand-outs -/

namespace PoolRun

/-- The worker of the tenant, if there is one, was handed out more than some seconds ago. -/
def IdleFor (s : PoolRun) (seconds : ℚ) (tenantId : String) : Prop :=
  tenantId ∈ s.pool.workers.keys → ∀ time ∈ s.handedOut.get? tenantId, time + seconds < s.clock

instance (s : PoolRun) (seconds : ℚ) (tenantId : String) : Decidable (s.IdleFor seconds tenantId) :=
  inferInstanceAs (Decidable (_ → _))

/-- If the step is the removal of a worker by `evict_idle`, the worker was handed out more than the
given seconds ago. -/
def SparesActive (s : PoolRun) : PoolStep → Prop
  | .evictNext call => ∀ sweep ∈ s.sweeps.get? call, ∀ tenantId ∈ sweep.listed.head?,
      s.IdleFor sweep.threshold (normalizedTenant tenantId)
  | _ => True

instance (s : PoolRun) : (step : PoolStep) → Decidable (s.SparesActive step)
  | .evictNext call =>
    inferInstanceAs (Decidable (∀ sweep ∈ s.sweeps.get? call, ∀ tenantId ∈ sweep.listed.head?,
      s.IdleFor sweep.threshold (normalizedTenant tenantId)))
  | .tick _ | .acquire _ _ | .acquireLocked _ | .evictTenant _ _ | .evictIdle _ _ | .listIdle _
  | .close => isTrue trivial

/-- No worker is handed out whose tenant is on the list of an `evict_idle`, and no tenant is put on
such a list whose worker was handed out within the given seconds. -/
def Undisturbed (s : PoolRun) : PoolStep → Prop
  | .acquireLocked call => ∀ acquiring ∈ s.acquiring.get? call, ∀ other sweep,
      s.sweeps.get? other = some sweep → acquiring.normalizedTenant ∉ sweep.listed
  | .listIdle call => ∀ sweep ∈ s.sweeps.get? call, sweep.toEvict = none →
      ∀ tenantId ∈ s.pool.idleTenants sweep.threshold sweep.nowMonotonic,
        s.IdleFor sweep.threshold tenantId
  | _ => True

/-- All workers that are on a list could be removed now. -/
def Spared (s : PoolRun) : Prop :=
  ∀ call sweep, s.sweeps.get? call = some sweep →
    ∀ tenantId ∈ sweep.listed, s.IdleFor sweep.threshold tenantId

/-- The names of tenants are in normal form. -/
structure Inv (s : PoolRun) : Prop where
  workers : ∀ tenantId ∈ s.pool.workers.keys, normalizedTenant tenantId = tenantId
  acquiring : ∀ call acquiring, s.acquiring.get? call = some acquiring →
    normalizedTenant acquiring.normalizedTenant = acquiring.normalizedTenant
  listed : ∀ call sweep, s.sweeps.get? call = some sweep →
    ∀ tenantId ∈ sweep.listed, normalizedTenant tenantId = tenantId

end PoolRun

/-! ## The workers that are left -/

namespace TenantSandboxPool

variable {pool : TenantSandboxPool}

theorem mem_keys_removeWorker {tenantId reason other : String} :
    other ∈ (pool.removeWorker tenantId reason).2.workers.keys ↔
      other ≠ tenantId ∧ other ∈ pool.workers.keys := by
  rw [removeWorker]
  split
  · rename_i habsent
    refine (and_iff_right_of_imp fun hmem heq ↦ habsent ?_).symm
    rw [← heq]
    exact hmem
  · exact Dict.mem_keys_erase

theorem mem_keys_of_evictOneForCapacity {tenantId : String}
    (h : tenantId ∈ pool.evictOneForCapacity.workers.keys) : tenantId ∈ pool.workers.keys := by
  unfold evictOneForCapacity at h
  split at h
  · exact h
  · split at h
    · exact h
    · split at h
      · exact h
      · exact (mem_keys_removeWorker.mp h).2

theorem mem_keys_of_acquire {tenantId other : String} {nowMonotonic : ℚ}
    (h : other ∈ (pool.acquire tenantId nowMonotonic).2.workers.keys) :
    other = tenantId ∨ other ∈ pool.workers.keys := by
  unfold acquire at h
  split at h
  · exact Dict.mem_keys_set.mp h
  · exact (Dict.mem_keys_set.mp h).imp_right mem_keys_of_evictOneForCapacity

theorem mem_keys_acquire (tenantId : String) (nowMonotonic : ℚ) :
    tenantId ∈ (pool.acquire tenantId nowMonotonic).2.workers.keys := by
  unfold acquire
  split <;> exact Dict.mem_keys_set.mpr (.inl rfl)

theorem mem_keys_of_close {tenantId : String} (h : tenantId ∈ pool.close.workers.keys) :
    tenantId ∈ pool.workers.keys := by
  suffices hall : ∀ (tenantIds : List String) (pool : TenantSandboxPool), tenantId ∈
      (tenantIds.foldl (fun pool tenantId ↦ (pool.removeWorker tenantId "close").2)
        pool).workers.keys → tenantId ∈ pool.workers.keys from hall _ pool h
  intro tenantIds
  induction tenantIds with
  | nil => exact fun _ h ↦ h
  | cons first tenantIds ih => exact fun pool h ↦ (mem_keys_removeWorker.mp (ih _ h)).2

end TenantSandboxPool

/-! ## One step -/

namespace PoolRun

variable {s s' : PoolRun}

/-- Time may pass, and workers may be removed. -/
theorem IdleFor.mono {seconds : ℚ} {tenantId : String} (h : s.IdleFor seconds tenantId)
    (hworkers : tenantId ∈ s'.pool.workers.keys → tenantId ∈ s.pool.workers.keys)
    (hhanded : s'.handedOut.get? tenantId = s.handedOut.get? tenantId) (hclock : s.clock ≤ s'.clock) :
    s'.IdleFor seconds tenantId := fun hmem time htime ↦
  (h (hworkers hmem) time (hhanded ▸ htime)).trans_le hclock

theorem mem_listed {sweep : IdleSweep} {tenantIds : List String} {tenantId : String}
    (h : sweep.toEvict = some tenantIds) : tenantId ∈ sweep.listed ↔ tenantId ∈ tenantIds := by
  rw [IdleSweep.listed, h, Option.getD_some]

theorem step_evictNext {call : Nat} {sweep : IdleSweep} {tenantId : String}
    {tenantIds : List String} (hsweep : s.sweeps.get? call = some sweep)
    (hlist : sweep.toEvict = some (tenantId :: tenantIds)) :
    ∃ evicted, (s.step (.evictNext call)).2 = { s with
      pool := (s.pool.removeWorker (normalizedTenant tenantId) "idle_ttl").2
      sweeps := s.sweeps.set call
        { sweep with toEvict := some tenantIds, evicted := evicted } } := by
  rw [step, hsweep]
  dsimp only
  rw [hlist]
  exact ⟨_, rfl⟩

/-- A turn of the loop of `evict_idle` changes nothing, ends the call or removes a worker. -/
theorem evictNext_cases (s : PoolRun) (call : Nat) :
    (s.step (.evictNext call)).2 = s ∨
      (s.step (.evictNext call)).2 = { s with sweeps := s.sweeps.erase call } ∨
      ∃ sweep tenantId tenantIds, s.sweeps.get? call = some sweep ∧
        sweep.toEvict = some (tenantId :: tenantIds) := by
  rw [step]
  cases hcall : s.sweeps.get? call with
  | none => exact .inl rfl
  | some sweep =>
    dsimp only
    cases hlist : sweep.toEvict with
    | none => exact .inl rfl
    | some tenantIds =>
      cases tenantIds with
      | nil => exact .inr (.inl rfl)
      | cons tenantId tenantIds => exact .inr (.inr ⟨sweep, tenantId, tenantIds, rfl, hlist⟩)

theorem mem_keys_of_mem_idleTenants {pool : TenantSandboxPool} {threshold nowMonotonic : ℚ}
    {tenantId : String} (h : tenantId ∈ pool.idleTenants threshold nowMonotonic) :
    tenantId ∈ pool.workers.keys := by
  obtain ⟨e, he, rfl⟩ := List.mem_map.mp h
  rw [Dict.entries_filter] at he
  exact List.mem_map_of_mem (List.mem_filter.mp he).1

theorem Inv.init (maxTenants : Option Int) (clock : ℚ) : Inv (.init maxTenants clock) where
  workers _ h := nomatch h
  acquiring _ _ h := nomatch h
  listed _ _ h := nomatch h

theorem Inv.step (h : Inv s) (i : PoolStep) : Inv (s.step i).2 := by
  cases i with
  | tick seconds => exact ⟨h.workers, h.acquiring, h.listed⟩
  | acquire call tenantId =>
    rw [PoolRun.step]
    split
    · exact h
    · exact ⟨h.workers, Dict.forall_get?_set (normalizedTenant_normalizedTenant tenantId) h.acquiring,
        h.listed⟩
  | acquireLocked call =>
    rw [PoolRun.step]
    cases hcall : s.acquiring.get? call with
    | none => exact h
    | some acquiring =>
      refine ⟨fun tenantId hmem ↦ ?_,
        fun call' acquiring' h' ↦ h.acquiring call' acquiring' (Dict.get?_of_erase h'), h.listed⟩
      rcases TenantSandboxPool.mem_keys_of_acquire hmem with rfl | hmem
      · exact h.acquiring call acquiring hcall
      · exact h.workers tenantId hmem
  | evictTenant tenantId reason =>
    exact ⟨fun other hmem ↦ h.workers other (TenantSandboxPool.mem_keys_removeWorker.mp hmem).2,
      h.acquiring, h.listed⟩
  | evictIdle call maxIdleSeconds =>
    rw [PoolRun.step]
    split
    · exact h
    · exact ⟨h.workers, h.acquiring, Dict.forall_get?_set (fun _ hmem ↦ nomatch hmem) h.listed⟩
  | listIdle call =>
    rw [PoolRun.step]
    cases hcall : s.sweeps.get? call with
    | none => exact h
    | some sweep =>
      dsimp only
      split
      · exact h
      · refine ⟨h.workers, h.acquiring, Dict.forall_get?_set (fun tenantId hmem ↦ ?_) h.listed⟩
        exact h.workers tenantId (mem_keys_of_mem_idleTenants hmem)
  | evictNext call =>
    rcases evictNext_cases s call with heq | heq | ⟨sweep, tenantId, tenantIds, hcall, hlist⟩
    · rw [heq]
      exact h
    · rw [heq]
      exact ⟨h.workers, h.acquiring,
        fun call' sweep' h' ↦ h.listed call' sweep' (Dict.get?_of_erase h')⟩
    · obtain ⟨evicted, heq⟩ := step_evictNext hcall hlist
      rw [heq]
      refine ⟨fun other hmem ↦ h.workers other
        (TenantSandboxPool.mem_keys_removeWorker.mp hmem).2, h.acquiring,
        Dict.forall_get?_set (fun other hmem ↦ h.listed call sweep hcall other ?_) h.listed⟩
      exact (mem_listed hlist).mpr (List.mem_cons_of_mem tenantId hmem)
  | close =>
    exact ⟨fun other hmem ↦ h.workers other (TenantSandboxPool.mem_keys_of_close hmem),
      h.acquiring, h.listed⟩

/-- **One step.**  All workers on a list can be removed after a step, if they could be before,
exactly if the step is undisturbed. -/
theorem spared_step_iff (hspared : Spared s) (i : PoolStep) :
    Spared (s.step i).2 ↔ Undisturbed s i := by
  cases i with
  | tick seconds =>
    refine iff_of_true (fun call sweep hsweep tenantId hmem ↦ ?_) trivial
    exact (hspared call sweep hsweep tenantId hmem).mono (fun hworker ↦ hworker) rfl
      (le_add_of_nonneg_right (le_max_left 0 seconds))
  | acquire call tenantId =>
    refine iff_of_true ?_ trivial
    rw [PoolRun.step]
    split <;> exact hspared
  | acquireLocked call =>
    rw [PoolRun.step, Undisturbed]
    cases hcall : s.acquiring.get? call with
    | none => exact iff_of_true hspared fun _ h ↦ nomatch h
    | some acquiring =>
      simp only [Option.mem_some_iff, forall_eq']
      constructor
      · -- A worker that is handed out now has not been idle for any time.
        intro hnext other sweep hsweep hmem
        have hlt := hnext other sweep hsweep acquiring.normalizedTenant hmem
          (TenantSandboxPool.mem_keys_acquire _ _) s.clock
          ((Dict.get?_set ..).trans (if_pos rfl))
        exact absurd hlt (not_lt.mpr (le_add_of_nonneg_right sweep.threshold_nonneg))
      · intro hfree other sweep hsweep tenantId hmem
        have hne : tenantId ≠ acquiring.normalizedTenant := fun heq ↦
          hfree other sweep hsweep (heq ▸ hmem)
        exact (hspared other sweep hsweep tenantId hmem).mono
          (fun hworker ↦ (TenantSandboxPool.mem_keys_of_acquire hworker).resolve_left hne)
          ((Dict.get?_set ..).trans (if_neg hne)) le_rfl
  | evictTenant tenantId reason =>
    refine iff_of_true (fun call sweep hsweep other hmem ↦ ?_) trivial
    exact (hspared call sweep hsweep other hmem).mono
      (fun hworker ↦ (TenantSandboxPool.mem_keys_removeWorker.mp hworker).2) rfl le_rfl
  | evictIdle call maxIdleSeconds =>
    refine iff_of_true ?_ trivial
    rw [PoolRun.step]
    split
    · exact hspared
    · exact Dict.forall_get?_set (fun _ hmem ↦ nomatch hmem) hspared
  | listIdle call =>
    rw [PoolRun.step, Undisturbed]
    cases hcall : s.sweeps.get? call with
    | none => exact iff_of_true hspared fun _ h ↦ nomatch h
    | some sweep =>
      simp only [Option.mem_some_iff, forall_eq']
      split
      · rename_i hlist
        exact iff_of_true hspared fun hnone ↦ by rw [hnone] at hlist; cases hlist
      · rename_i hlist
        constructor
        · intro hnext _ tenantId hmem
          exact hnext call _ ((Dict.get?_set ..).trans (if_pos rfl)) tenantId hmem
        · intro hidle
          exact Dict.forall_get?_set (hidle (Option.not_isSome_iff_eq_none.mp hlist)) hspared
  | evictNext call =>
    refine iff_of_true ?_ trivial
    rcases evictNext_cases s call with heq | heq | ⟨sweep, tenantId, tenantIds, hcall, hlist⟩
    · rw [heq]
      exact hspared
    · rw [heq]
      exact fun call' sweep' h' ↦ hspared call' sweep' (Dict.get?_of_erase h')
    · obtain ⟨evicted, heq⟩ := step_evictNext hcall hlist
      rw [heq]
      refine Dict.forall_get?_set (fun other hmem ↦ ?_) fun call' sweep' hsweep' other hmem ↦ ?_
      · have hlisted := (mem_listed hlist).mpr (List.mem_cons_of_mem tenantId hmem)
        exact (hspared call sweep hcall other hlisted).mono
          (fun hworker ↦ (TenantSandboxPool.mem_keys_removeWorker.mp hworker).2) rfl le_rfl
      · exact (hspared call' sweep' hsweep' other hmem).mono
          (fun hworker ↦ (TenantSandboxPool.mem_keys_removeWorker.mp hworker).2) rfl le_rfl
  | close =>
    refine iff_of_true (fun call sweep hsweep other hmem ↦ ?_) trivial
    exact (hspared call sweep hsweep other hmem).mono TenantSandboxPool.mem_keys_of_close rfl le_rfl

/-! ## Runs -/

theorem sparesActive_of_spared (h : Inv s) (hspared : Spared s) (i : PoolStep) :
    SparesActive s i := by
  cases i with
  | evictNext call =>
    intro sweep hsweep tenantId hhead
    have hmem : tenantId ∈ sweep.listed := List.mem_of_mem_head? hhead
    rw [h.listed call sweep hsweep tenantId hmem]
    exact hspared call sweep hsweep tenantId hmem
  | _ => trivial

/-- If a call of `evict_idle` may go through the rest of its list at once, all workers on it can be
removed. -/
theorem idleFor_of_along (h : Inv s) {call : Nat} {sweep : IdleSweep}
    (hsweep : s.sweeps.get? call = some sweep)
    (hspares : Run.Along step SparesActive s
      (List.replicate sweep.listed.length (.evictNext call))) :
    ∀ tenantId ∈ sweep.listed, s.IdleFor sweep.threshold tenantId := by
  induction hlist : sweep.listed generalizing s sweep with
  | nil => exact fun _ hmem ↦ nomatch hmem
  | cons first tenantIds ih =>
    have hsome : sweep.toEvict = some (first :: tenantIds) := by
      rw [IdleSweep.listed] at hlist
      cases htoEvict : sweep.toEvict with
      | none =>
        rw [htoEvict] at hlist
        cases hlist
      | some l =>
        rw [htoEvict] at hlist
        exact congrArg some hlist
    rw [hlist, List.length_cons, List.replicate_succ] at hspares
    obtain ⟨hfirst, hrest⟩ := hspares
    obtain ⟨evicted, heq⟩ := step_evictNext hsweep hsome
    have hnormal : normalizedTenant first = first :=
      h.listed call sweep hsweep first (hlist ▸ List.mem_cons_self)
    have hidle : s.IdleFor sweep.threshold first :=
      hnormal ▸ hfirst sweep hsweep first (by rw [hlist]; rfl)
    have hnext : (s.step (.evictNext call)).2.sweeps.get? call =
        some { sweep with toEvict := some tenantIds, evicted := evicted } := by
      rw [heq]
      exact (Dict.get?_set ..).trans (if_pos rfl)
    have hothers := ih (h.step (.evictNext call)) hnext hrest rfl
    intro tenantId hmem
    rcases List.mem_cons.mp hmem with rfl | hmem
    · exact hidle
    · by_cases hsame : tenantId = first
      · rw [hsame]
        exact hidle
      · -- The worker is still there when it is its turn, and nothing else has changed for it.
        intro hworker time htime
        have hlater := hothers tenantId hmem
        rw [heq] at hlater
        refine hlater (TenantSandboxPool.mem_keys_removeWorker.mpr ⟨?_, hworker⟩) time htime
        rw [hnormal]
        exact hsame

/-- **Idle eviction spares active workers, and when.**  Whatever calls use a pool, and however they
take turns: in the run, and if a call of `evict_idle` goes on undisturbed from any moment of it, every
worker that `evict_idle` removes was handed out more than the given seconds ago, exactly if every
step is undisturbed. -/
theorem idle_eviction_spares_iff (maxTenants : Option Int) (clock : ℚ) (steps : List PoolStep) :
    (∀ done, done <+: steps → ∀ call turns, Run.Along step SparesActive (.init maxTenants clock)
      (done ++ List.replicate turns (.evictNext call))) ↔
      Run.Along step Undisturbed (.init maxTenants clock) steps := by
  have hinit : Inv (.init maxTenants clock) := .init maxTenants clock
  have hnone : Spared (.init maxTenants clock) := fun _ _ hsweep ↦ nomatch hsweep
  have hany (steps : List PoolStep) :
      Run.Along step (fun _ _ ↦ True) (.init maxTenants clock) steps :=
    Run.along_of_forall (fun _ _ ↦ trivial) _ steps
  have hiff (steps : List PoolStep) :
      (∀ done, done <+: steps → Spared (Run.exec step (.init maxTenants clock) done)) ↔
        Run.Along step Undisturbed (.init maxTenants clock) steps :=
    Run.forall_exec_iff_along_of_along (D := fun _ _ ↦ True) (P := Inv) (Q := Spared)
      (fun _ i _ h ↦ h.step i) (fun _ i _ _ hspared ↦ spared_step_iff hspared i) (hany steps) hinit
      hnone
  have hinv (steps : List PoolStep) : Inv (Run.exec step (.init maxTenants clock) steps) :=
    Run.exec_invariant (fun _ i _ h ↦ h.step i) (hany steps) hinit
  rw [← hiff]
  constructor
  · intro hspares done hdone call sweep hsweep
    exact idleFor_of_along (hinv done) hsweep (Run.along_append.mp
      (hspares done hdone call sweep.listed.length)).2
  · rintro hspared done ⟨rest, rfl⟩ call turns
    rw [Run.along_iff_forall_prefix]
    intro before i hbefore
    refine sparesActive_of_spared (hinv before) ?_ i
    -- Going on with a list is undisturbed, so that the whole run is.
    have hundisturbed : Run.Along step Undisturbed (.init maxTenants clock)
        (done ++ List.replicate turns (.evictNext call)) := by
      refine Run.along_append.mpr ⟨(Run.along_append.mp ((hiff _).mp hspared)).1, ?_⟩
      refine Run.along_of_forall_mem (fun i hi _ ↦ ?_) _
      rw [List.eq_of_mem_replicate hi]
      trivial
    exact (hiff _).mpr hundisturbed before ((List.prefix_append before [i]).trans hbefore)

/-- A worker is idle, and is handed out again between the list and the removal. -/
theorem active_worker_evicted :
    let steps : List PoolStep := [.acquire 0 "acme", .acquireLocked 0, .tick 10, .evictIdle 1 5,
      .listIdle 1, .acquire 2 "acme", .acquireLocked 2]
    let s := Run.exec step (.init none 0) steps
    s.handedOut.get? "acme" = some s.clock ∧ "acme" ∈ s.pool.workers.keys ∧
      "acme" ∉ (s.step (.evictNext 1)).2.pool.workers.keys ∧ ¬SparesActive s (.evictNext 1) := by
  decide +kernel

end PoolRun

end Tools
end ExoBrain
