import ExoBrain.Tools.IdleEviction

/-!
# The accounts of a pool

A pool counts the workers that it makes, and those that it takes away, in all and for each of four
reasons.  When it is full, it makes room for a tenant by taking away the worker that was used least
recently.

* `call` is a call of a pool that nobody else uses.  The readings of the clock are inputs, in any order.
  `PoolRun.exec_turns` says that such a call is one of the ways in which calls take turns.
* `Balanced` is what the accounts say, and holds however calls take turns (`PoolRun.exec_balanced`).
* `EvictsOldest` is about the room that is made for a tenant: `lastAcquire` is read off the calls.
* `pool_accounting` is about every sequence of calls.
-/

set_option autoImplicit false

namespace ExoBrain
namespace Tools

/-! ## Calls -/

/-- A call, with the clock that it reads. -/
inductive PoolCall
  | acquire (tenantId : String) (nowMonotonic : ℚ)
  | evictTenant (tenantId reason : String)
  | evictIdle (maxIdleSeconds nowMonotonic : ℚ)
  | close
deriving DecidableEq

/-- The tenant whose worker is handed out, and when. -/
def PoolCall.acquired? : PoolCall → Option (String × ℚ)
  | .acquire tenantId nowMonotonic => some (normalizedTenant tenantId, nowMonotonic)
  | _ => none

/-- What the clock shows. -/
def PoolCall.reading? : PoolCall → Option ℚ
  | .acquire _ nowMonotonic => some nowMonotonic
  | .evictIdle _ nowMonotonic => some nowMonotonic
  | _ => none

/-- When the worker of a tenant was last handed out. -/
def lastAcquire (calls : List PoolCall) (tenantId : String) : Option ℚ :=
  Dict.lastWritten Prod.fst Prod.snd (calls.filterMap PoolCall.acquired?) tenantId

/-- The reasons that have a counter. -/
def builtInReasons : List String := ["explicit", "idle_ttl", "capacity_lru", "close"]

namespace TenantSandboxPool

/-- `evict_idle`. -/
def evictIdle (maxIdleSeconds nowMonotonic : ℚ) (pool : TenantSandboxPool) :
    List String × TenantSandboxPool :=
  (pool.idleTenants (max 0 maxIdleSeconds) nowMonotonic).foldl (fun r tenantId ↦
    let (removed, pool) := r.2.evictTenant tenantId "idle_ttl"
    (r.1 ++ if removed then [tenantId] else [], pool)) ([], pool)

/-- A call that has the pool to itself. -/
def call (pool : TenantSandboxPool) : PoolCall → PoolAnswer × TenantSandboxPool
  | .acquire tenantId nowMonotonic =>
    let (worker, pool) := pool.acquire (normalizedTenant tenantId) nowMonotonic
    (.worker worker, pool)
  | .evictTenant tenantId reason =>
    let (removed, pool) := pool.evictTenant tenantId reason
    (.evicted removed, pool)
  | .evictIdle maxIdleSeconds nowMonotonic =>
    let (evicted, pool) := pool.evictIdle maxIdleSeconds nowMonotonic
    (.idleEvicted evicted, pool)
  | .close => (.nothing, pool.close)

/-- The removals that have been counted for a reason. -/
def byReason (pool : TenantSandboxPool) : Nat :=
  pool.evictedWorkersExplicit + pool.evictedWorkersIdle + pool.evictedWorkersCapacity +
    pool.closedWorkers

/-- What has been made is there or has been taken away, for one reason at most, and there are no more
workers than the pool may have. -/
structure Balanced (pool : TenantSandboxPool) : Prop where
  created : pool.createdWorkers = pool.workers.keys.length + pool.evictedWorkersTotal
  reasons : pool.byReason ≤ pool.evictedWorkersTotal
  live : ∀ n ∈ pool.maxTenants, pool.workers.keys.length ≤ n

/-- All removals have been counted for a reason. -/
def Explained (pool : TenantSandboxPool) : Prop := pool.byReason = pool.evictedWorkersTotal

/-- `acquire` makes no room, or takes away one worker, which was handed out last no later than any
other that is there, and counts it. -/
def EvictsOldest (calls : List PoolCall) (tenantId : String) (nowMonotonic : ℚ)
    (pool : TenantSandboxPool) : Prop :=
  let after := (pool.call (.acquire tenantId nowMonotonic)).2
  (after.evictedWorkersCapacity = pool.evictedWorkersCapacity ∧
      ∀ kept ∈ pool.workers.keys, kept ∈ after.workers.keys) ∨
    ∃ gone ∈ pool.workers.keys, gone ∉ after.workers.keys ∧
      after.evictedWorkersCapacity = pool.evictedWorkersCapacity + 1 ∧
      ∀ kept ∈ pool.workers.keys, kept ≠ gone → kept ∈ after.workers.keys ∧
        ∃ oldest ∈ lastAcquire calls gone, ∃ time ∈ lastAcquire calls kept, oldest ≤ time

variable {pool : TenantSandboxPool}

/-! ## Workers that are taken away -/

theorem removeWorker_of_not_mem {tenantId : String} (h : tenantId ∉ pool.workers.keys)
    (reason : String) : (pool.removeWorker tenantId reason).2 = pool := by
  rw [removeWorker, if_pos h]

/-- What taking a worker away changes in the accounts.  A reason has one counter at most. -/
theorem removeWorker_of_mem {tenantId : String} (h : tenantId ∈ pool.workers.keys) (reason : String) :
    let after := (pool.removeWorker tenantId reason).2
    after.maxTenants = pool.maxTenants ∧ after.createdWorkers = pool.createdWorkers ∧
      after.workers.keys.length + 1 = pool.workers.keys.length ∧
      after.evictedWorkersTotal = pool.evictedWorkersTotal + 1 ∧
      after.byReason = pool.byReason + if reason ∈ builtInReasons then 1 else 0 := by
  rw [removeWorker, if_neg (not_not.mpr h)]
  refine ⟨rfl, rfl, Dict.length_keys_erase h, rfl, ?_⟩
  dsimp only [byReason]
  by_cases hreason : reason ∈ builtInReasons
  · rw [if_pos hreason]
    simp only [builtInReasons, List.mem_cons, List.not_mem_nil, or_false] at hreason
    rcases hreason with rfl | rfl | rfl | rfl <;> simp <;> omega
  · rw [if_neg hreason]
    simp only [builtInReasons, List.mem_cons, List.not_mem_nil, or_false, not_or] at hreason
    simp [hreason]

theorem maxTenants_removeWorker (tenantId reason : String) :
    (pool.removeWorker tenantId reason).2.maxTenants = pool.maxTenants := by
  by_cases hthere : tenantId ∈ pool.workers.keys
  · exact (removeWorker_of_mem hthere reason).1
  · rw [removeWorker_of_not_mem hthere]

/-- Whoever has a worker after one is taken away has the one that he had before. -/
theorem get?_of_removeWorker {tenantId reason other : String} {worker : TenantSandboxWorker}
    (h : (pool.removeWorker tenantId reason).2.workers.get? other = some worker) :
    pool.workers.get? other = some worker := by
  rw [removeWorker] at h
  split at h
  · exact h
  · exact Dict.get?_of_erase h

theorem Balanced.removeWorker (h : Balanced pool) (tenantId reason : String) :
    Balanced (pool.removeWorker tenantId reason).2 := by
  by_cases hthere : tenantId ∈ pool.workers.keys
  · obtain ⟨hmax, hcreated, hlive, htotal, hreasons⟩ := removeWorker_of_mem hthere reason
    refine ⟨?_, ?_, fun n hn ↦ ?_⟩
    · have hbefore := h.created
      omega
    · have hbefore := h.reasons
      rw [hreasons, htotal]
      split <;> omega
    · rw [hmax] at hn
      have hbefore := h.live n hn
      omega
  · rw [removeWorker_of_not_mem hthere]
    exact h

theorem Explained.removeWorker (h : Explained pool) (tenantId : String) {reason : String}
    (hreason : reason ∈ builtInReasons) : Explained (pool.removeWorker tenantId reason).2 := by
  by_cases hthere : tenantId ∈ pool.workers.keys
  · obtain ⟨-, -, -, htotal, hreasons⟩ := removeWorker_of_mem hthere reason
    rw [if_pos hreason] at hreasons
    rw [Explained, hreasons, htotal, h]
  · rw [removeWorker_of_not_mem hthere]
    exact h

/-- What is true as long as workers are taken away for a reason is true when it has been done to
several tenants. -/
theorem foldl_removeWorker {P : TenantSandboxPool → Prop} {reason : String}
    (hkeeps : ∀ pool tenantId, P pool → P (pool.removeWorker tenantId reason).2) (h : P pool)
    (tenantIds : List String) :
    P (tenantIds.foldl (fun pool tenantId ↦ (pool.removeWorker tenantId reason).2) pool) := by
  induction tenantIds generalizing pool with
  | nil => exact h
  | cons tenantId tenantIds ih => exact ih (hkeeps pool tenantId h)

/-- `evict_idle` takes workers away, and does nothing else to the pool. -/
theorem evictIdle_keeps {P : TenantSandboxPool → Prop}
    (hkeeps : ∀ pool tenantId, P pool → P (pool.removeWorker tenantId "idle_ttl").2) (h : P pool)
    (maxIdleSeconds nowMonotonic : ℚ) : P (pool.evictIdle maxIdleSeconds nowMonotonic).2 := by
  suffices hall : ∀ (tenantIds : List String) (r : List String × TenantSandboxPool), P r.2 →
      P (tenantIds.foldl (fun r tenantId ↦
        let (removed, pool) := r.2.evictTenant tenantId "idle_ttl"
        (r.1 ++ if removed then [tenantId] else [], pool)) r).2 from hall _ _ h
  intro tenantIds
  induction tenantIds with
  | nil => exact fun _ hr ↦ hr
  | cons tenantId tenantIds ih => exact fun r hr ↦ ih _ (hkeeps r.2 _ hr)

/-! ## Room for a tenant -/

/-- Nothing is done as long as there is room.  Else the worker goes that was used least recently. -/
theorem evictOneForCapacity_cases (pool : TenantSandboxPool) :
    (pool.evictOneForCapacity = pool ∧ ∀ n ∈ pool.maxTenants, pool.workers.keys.length < n) ∨
      ∃ gone worker, pool.workers.get? gone = some worker ∧
        pool.evictOneForCapacity = (pool.removeWorker gone "capacity_lru").2 ∧
        ∀ kept other, pool.workers.get? kept = some other →
          worker.lastUsedMonotonic ≤ other.lastUsedMonotonic := by
  unfold evictOneForCapacity
  cases hmax : pool.maxTenants with
  | none => exact .inl ⟨rfl, fun _ hn ↦ by cases hn⟩
  | some n =>
    dsimp only
    split
    · rename_i hroom
      refine .inl ⟨rfl, fun m hm ↦ ?_⟩
      obtain rfl := Option.some.inj hm
      exact hroom
    · rename_i hfull
      cases hlru : pool.workers.entries.argmin fun e ↦ e.2.lastUsedMonotonic with
      | none =>
        have hnil := List.argmin_eq_none.mp hlru
        have hlength : pool.workers.keys.length = 0 := by
          rw [Dict.keys, List.length_map, hnil, List.length_nil]
        have hpos := pool.maxTenants_pos n hmax
        omega
      | some lru =>
        refine .inr ⟨lru.1, lru.2, Dict.mem_entries_iff.mp (List.argmin_mem hlru), rfl, ?_⟩
        intro kept other hkept
        have hle := List.le_of_mem_argmin (Dict.mem_entries_iff.mpr hkept) (Option.mem_def.mpr hlru)
        exact hle

theorem get?_of_evictOneForCapacity {tenantId : String} {worker : TenantSandboxWorker}
    (h : pool.evictOneForCapacity.workers.get? tenantId = some worker) :
    pool.workers.get? tenantId = some worker := by
  unfold evictOneForCapacity at h
  split at h
  · exact h
  · split at h
    · exact h
    · split at h
      · exact h
      · exact get?_of_removeWorker h

/-- Nobody but the tenant gets another worker. -/
theorem get?_of_acquire {tenantId other : String} {nowMonotonic : ℚ} {worker : TenantSandboxWorker}
    (h : (pool.acquire tenantId nowMonotonic).2.workers.get? other = some worker) :
    (other = tenantId ∧ worker.lastUsedMonotonic = nowMonotonic) ∨
      (other ≠ tenantId ∧ pool.workers.get? other = some worker) := by
  unfold acquire at h
  split at h <;> dsimp only at h <;> rw [Dict.get?_set] at h <;> split at h
  · rename_i heq
    obtain rfl := Option.some.inj h
    exact .inl ⟨heq, rfl⟩
  · rename_i hne
    exact .inr ⟨hne, h⟩
  · rename_i heq
    obtain rfl := Option.some.inj h
    exact .inl ⟨heq, rfl⟩
  · rename_i hne
    exact .inr ⟨hne, get?_of_evictOneForCapacity h⟩

theorem Balanced.evictOneForCapacity (h : Balanced pool) : Balanced pool.evictOneForCapacity := by
  rcases evictOneForCapacity_cases pool with ⟨heq, -⟩ | ⟨gone, worker, -, heq, -⟩
  · rw [heq]
    exact h
  · rw [heq]
    exact h.removeWorker gone "capacity_lru"

/-- There is room afterwards. -/
theorem Balanced.room_evictOneForCapacity (h : Balanced pool) :
    ∀ n ∈ pool.evictOneForCapacity.maxTenants, pool.evictOneForCapacity.workers.keys.length < n := by
  rcases evictOneForCapacity_cases pool with ⟨heq, hroom⟩ | ⟨gone, worker, hgone, heq, -⟩
  · rw [heq]
    exact hroom
  · have hthere : gone ∈ pool.workers.keys := Dict.mem_keys_iff.mpr ⟨worker, hgone⟩
    obtain ⟨hmax, -, hless, -⟩ := removeWorker_of_mem hthere "capacity_lru"
    rw [heq, hmax]
    intro n hn
    have hlive := h.live n hn
    omega

theorem Balanced.acquire (h : Balanced pool) (tenantId : String) (nowMonotonic : ℚ) :
    Balanced (pool.acquire tenantId nowMonotonic).2 := by
  rw [TenantSandboxPool.acquire]
  cases hworker : pool.workers.get? tenantId with
  | some worker =>
    have hthere : tenantId ∈ pool.workers.keys := Dict.mem_keys_iff.mpr ⟨worker, hworker⟩
    have hsame (worker : TenantSandboxWorker) :
        (pool.workers.set tenantId worker).keys.length = pool.workers.keys.length := by
      rw [Dict.length_keys_set, if_pos hthere]
    refine ⟨?_, h.reasons, fun n hn ↦ ?_⟩
    · dsimp only
      rw [hsame]
      exact h.created
    · dsimp only
      rw [hsame]
      exact h.live n hn
  | none =>
    have habsent : tenantId ∉ pool.evictOneForCapacity.workers.keys := fun hmem ↦ by
      obtain ⟨worker, hthere⟩ := Dict.mem_keys_iff.mp (mem_keys_of_evictOneForCapacity hmem)
      rw [hworker] at hthere
      cases hthere
    have hmore (worker : TenantSandboxWorker) :
        (pool.evictOneForCapacity.workers.set tenantId worker).keys.length =
          pool.evictOneForCapacity.workers.keys.length + 1 := by
      rw [Dict.length_keys_set, if_neg habsent]
    refine ⟨?_, h.evictOneForCapacity.reasons, fun n hn ↦ ?_⟩
    · have hcreated := h.evictOneForCapacity.created
      dsimp only
      rw [hmore]
      omega
    · have hroom := h.room_evictOneForCapacity n hn
      dsimp only
      rw [hmore]
      exact hroom

theorem Explained.acquire (h : Explained pool) (tenantId : String) (nowMonotonic : ℚ) :
    Explained (pool.acquire tenantId nowMonotonic).2 := by
  rw [TenantSandboxPool.acquire]
  cases pool.workers.get? tenantId with
  | some worker => exact h
  | none =>
    show Explained pool.evictOneForCapacity
    rcases evictOneForCapacity_cases pool with ⟨heq, -⟩ | ⟨gone, worker, -, heq, -⟩
    · rw [heq]
      exact h
    · rw [heq]
      exact h.removeWorker gone (by decide)

/-! ## Sequences of calls -/

theorem Balanced.call (h : Balanced pool) (c : PoolCall) : Balanced (pool.call c).2 := by
  cases c with
  | acquire tenantId nowMonotonic => exact h.acquire _ _
  | evictTenant tenantId reason => exact h.removeWorker _ _
  | evictIdle maxIdleSeconds nowMonotonic =>
    exact evictIdle_keeps (fun _ tenantId h ↦ h.removeWorker tenantId _) h _ _
  | close => exact foldl_removeWorker (fun _ tenantId h ↦ h.removeWorker tenantId _) h _

theorem Explained.call (h : Explained pool) {c : PoolCall}
    (hreason : ∀ tenantId reason, c = .evictTenant tenantId reason → reason ∈ builtInReasons) :
    Explained (pool.call c).2 := by
  cases c with
  | acquire tenantId nowMonotonic => exact h.acquire _ _
  | evictTenant tenantId reason => exact h.removeWorker _ (hreason _ _ rfl)
  | evictIdle maxIdleSeconds nowMonotonic =>
    exact evictIdle_keeps (fun _ tenantId h ↦ h.removeWorker tenantId (by decide)) h _ _
  | close => exact foldl_removeWorker (fun _ tenantId h ↦ h.removeWorker tenantId (by decide)) h _

theorem maxTenants_acquire (tenantId : String) (nowMonotonic : ℚ) :
    (pool.acquire tenantId nowMonotonic).2.maxTenants = pool.maxTenants := by
  rw [acquire]
  cases pool.workers.get? tenantId with
  | some worker => rfl
  | none =>
    show pool.evictOneForCapacity.maxTenants = _
    unfold evictOneForCapacity
    split
    · rfl
    · split
      · rfl
      · split
        · rfl
        · exact maxTenants_removeWorker _ _

theorem maxTenants_call (c : PoolCall) : (pool.call c).2.maxTenants = pool.maxTenants := by
  have hkeeps (reason : String) (p : TenantSandboxPool) (tenantId : String)
      (h : p.maxTenants = pool.maxTenants) :
      (p.removeWorker tenantId reason).2.maxTenants = pool.maxTenants :=
    (maxTenants_removeWorker tenantId reason).trans h
  cases c with
  | acquire tenantId nowMonotonic => exact maxTenants_acquire _ _
  | evictTenant tenantId reason => exact maxTenants_removeWorker _ _
  | evictIdle maxIdleSeconds nowMonotonic =>
    exact evictIdle_keeps (P := fun p ↦ p.maxTenants = pool.maxTenants) (hkeeps "idle_ttl") rfl _ _
  | close =>
    exact foldl_removeWorker (P := fun p ↦ p.maxTenants = pool.maxTenants) (hkeeps "close") rfl _

/-- The time that a worker has been used last is the one that it was handed out last. -/
def NotesAcquires (calls : List PoolCall) (pool : TenantSandboxPool) : Prop :=
  ∀ tenantId worker, pool.workers.get? tenantId = some worker →
    lastAcquire calls tenantId = some worker.lastUsedMonotonic

theorem lastAcquire_concat (calls : List PoolCall) (c : PoolCall) (tenantId : String) :
    lastAcquire (calls ++ [c]) tenantId =
      match c.acquired? with
      | none => lastAcquire calls tenantId
      | some (acquired, time) =>
        if tenantId = acquired then some time else lastAcquire calls tenantId := by
  cases hc : c.acquired? with
  | none => simp [lastAcquire, List.filterMap_append, hc]
  | some acquired =>
    simp only [lastAcquire, List.filterMap_append, Dict.lastWritten, List.reverse_append, hc,
      List.filterMap_cons, List.filterMap_nil, List.reverse_singleton, List.singleton_append,
      List.find?_cons]
    by_cases htenant : tenantId = acquired.1
    · simp [htenant]
    · simp [htenant, Ne.symm htenant]

theorem NotesAcquires.call {calls : List PoolCall} (h : NotesAcquires calls pool) (c : PoolCall) :
    NotesAcquires (calls ++ [c]) (pool.call c).2 := by
  have hkeeps (reason : String) (p : TenantSandboxPool) (tenantId : String)
      (h : NotesAcquires (calls ++ [c]) p) :
      NotesAcquires (calls ++ [c]) (p.removeWorker tenantId reason).2 :=
    fun other worker hother ↦ h other worker (get?_of_removeWorker hother)
  cases c with
  | acquire tenantId nowMonotonic =>
    intro other worker hother
    rw [lastAcquire_concat]
    dsimp only [PoolCall.acquired?]
    rcases get?_of_acquire hother with ⟨heq, htime⟩ | ⟨hne, hbefore⟩
    · rw [if_pos heq, htime]
    · rw [if_neg hne]
      exact h other worker hbefore
  | evictTenant tenantId reason =>
    refine hkeeps reason pool _ fun other worker hother ↦ ?_
    rw [lastAcquire_concat]
    exact h other worker hother
  | evictIdle maxIdleSeconds nowMonotonic =>
    refine evictIdle_keeps (hkeeps "idle_ttl") (fun other worker hother ↦ ?_) _ _
    rw [lastAcquire_concat]
    exact h other worker hother
  | close =>
    refine foldl_removeWorker (hkeeps "close") (fun other worker hother ↦ ?_) _
    rw [lastAcquire_concat]
    exact h other worker hother

/-- **Room for a tenant.**  Whoever was handed out his worker first goes. -/
theorem evictsOldest {calls : List PoolCall} (hnotes : NotesAcquires calls pool) (tenantId : String)
    (nowMonotonic : ℚ) :
    EvictsOldest calls tenantId nowMonotonic pool := by
  unfold EvictsOldest call acquire
  dsimp only
  cases hworker : pool.workers.get? (normalizedTenant tenantId) with
  | some worker => exact .inl ⟨rfl, fun kept hkept ↦ Dict.mem_keys_set.mpr (.inr hkept)⟩
  | none =>
    dsimp only
    rcases evictOneForCapacity_cases pool with ⟨heq, -⟩ | ⟨gone, worker, hgone, heq, holdest⟩
    · rw [heq]
      exact .inl ⟨rfl, fun kept hkept ↦ Dict.mem_keys_set.mpr (.inr hkept)⟩
    · have hthere : gone ∈ pool.workers.keys := Dict.mem_keys_iff.mpr ⟨worker, hgone⟩
      rw [heq]
      refine .inr ⟨gone, hthere, fun hmem ↦ ?_, ?_, fun kept hkept hne ↦ ⟨?_, ?_⟩⟩
      · rcases Dict.mem_keys_set.mp hmem with rfl | hmem
        · rw [hworker] at hgone
          cases hgone
        · exact (mem_keys_removeWorker.mp hmem).1 rfl
      · rw [removeWorker, if_neg (not_not.mpr hthere)]
        rfl
      · exact Dict.mem_keys_set.mpr (.inr (mem_keys_removeWorker.mpr ⟨hne, hkept⟩))
      · obtain ⟨other, hother⟩ := Dict.mem_keys_iff.mp hkept
        exact ⟨_, hnotes gone worker hgone, _, hnotes kept other hother, holdest kept other hother⟩

theorem balanced_init (maxTenants : Option Int) : Balanced (.init maxTenants) :=
  ⟨rfl, le_rfl, fun _ _ ↦ Nat.zero_le _⟩

/-- What is known of a pool after some calls. -/
structure Accounted (maxTenants : Option Int) (calls : List PoolCall) (pool : TenantSandboxPool) :
    Prop where
  limit : pool.maxTenants = (init maxTenants).maxTenants
  balanced : Balanced pool
  notes : NotesAcquires calls pool
  explained : (∀ tenantId reason, .evictTenant tenantId reason ∈ calls → reason ∈ builtInReasons) →
    Explained pool

theorem Accounted.call {maxTenants : Option Int} {calls : List PoolCall}
    (h : Accounted maxTenants calls pool) (c : PoolCall) :
    Accounted maxTenants (calls ++ [c]) (pool.call c).2 where
  limit := (maxTenants_call c).trans h.limit
  balanced := h.balanced.call c
  notes := h.notes.call c
  explained hreasons := by
    refine (h.explained fun tenantId reason hmem ↦ hreasons tenantId reason ?_).call
      fun tenantId reason heq ↦ hreasons tenantId reason ?_
    · exact List.mem_append_left _ hmem
    · rw [heq]
      exact List.mem_append_right _ (List.mem_singleton.mpr rfl)

theorem exec_accounted (maxTenants : Option Int) (calls : List PoolCall) :
    Accounted maxTenants calls (Run.exec call (.init maxTenants) calls) := by
  induction calls using List.reverseRecOn with
  | nil =>
    refine ⟨rfl, balanced_init maxTenants, fun tenantId worker hworker ↦ ?_, fun _ ↦ rfl⟩
    cases hworker
  | append_singleton calls c ih =>
    rw [Run.exec_append]
    exact ih.call c

/-- **The accounts of a pool.**  After any calls, with any reasons and whatever the clock shows: every
worker that was made is there or has been taken away; those that were taken away are at least as many as
have been counted for a reason, and just as many if all reasons have a counter; there are no more
workers than the pool may have, which is one at least; and if room is made for a tenant, then the worker
goes that was handed out last at the earliest time. -/
theorem pool_accounting (maxTenants : Option Int) (calls : List PoolCall) :
    let pool := Run.exec call (.init maxTenants) calls
    pool.createdWorkers = pool.workers.keys.length + pool.evictedWorkersTotal ∧
      pool.byReason ≤ pool.evictedWorkersTotal ∧
      ((∀ tenantId reason, .evictTenant tenantId reason ∈ calls → reason ∈ builtInReasons) →
        pool.byReason = pool.evictedWorkersTotal) ∧
      (∀ n ∈ maxTenants, (pool.workers.keys.length : Int) ≤ max 1 n) ∧
      ∀ tenantId nowMonotonic, EvictsOldest calls tenantId nowMonotonic pool := by
  intro pool
  have h : Accounted maxTenants calls pool := exec_accounted maxTenants calls
  refine ⟨h.balanced.created, h.balanced.reasons, h.explained, fun n hn ↦ ?_, fun tenantId now ↦ ?_⟩
  · have hlive := h.balanced.live (max 1 n).toNat (by rw [h.limit, hn]; rfl)
    omega
  · exact evictsOldest h.notes tenantId now

/-- A limit below one is one.  And who was handed out his worker when the clock showed the same as
another time goes or stays by when his worker was made. -/
theorem pool_over_max_tenants :
    let single := Run.exec call (.init (some 0)) [.acquire "acme" 0]
    let full := Run.exec call (.init (some 2))
      [.acquire "acme" 0, .acquire "globex" 0, .acquire "acme" 0, .acquire "initech" 0]
    (0 : Int) < single.workers.keys.length ∧ full.workers.keys = ["globex", "initech"] := by
  decide +kernel

end TenantSandboxPool

/-! ## Calls that take turns -/

namespace PoolRun

open TenantSandboxPool (Balanced balanced_init)

variable {s : PoolRun}

theorem balanced_step (h : Balanced s.pool) (i : PoolStep) : Balanced (s.step i).2.pool := by
  cases i with
  | acquireLocked call =>
    rw [step]
    cases s.acquiring.get? call with
    | none => exact h
    | some acquiring => exact h.acquire _ _
  | evictTenant tenantId reason => exact h.removeWorker _ _
  | evictNext call =>
    rcases evictNext_cases s call with heq | heq | ⟨sweep, tenantId, tenantIds, hcall, hlist⟩
    · rw [heq]
      exact h
    · rw [heq]
      exact h
    · obtain ⟨evicted, heq⟩ := step_evictNext hcall hlist
      rw [heq]
      exact h.removeWorker _ _
  | close =>
    exact TenantSandboxPool.foldl_removeWorker (fun _ tenantId h ↦ h.removeWorker tenantId _) h _
  | tick seconds => exact h
  | acquire call tenantId =>
    rw [step]
    split <;> exact h
  | evictIdle call maxIdleSeconds =>
    rw [step]
    split <;> exact h
  | listIdle call =>
    rw [step]
    cases s.sweeps.get? call with
    | none => exact h
    | some sweep =>
      dsimp only
      split <;> exact h

/-- **However calls take turns**, a pool is balanced. -/
theorem exec_balanced (maxTenants : Option Int) (clock : ℚ) (steps : List PoolStep) :
    Balanced (Run.exec step (.init maxTenants clock) steps).pool :=
  Run.exec_invariant (P := fun s : PoolRun ↦ Balanced s.pool)
    (fun _ i _ h ↦ balanced_step h i) (Run.along_of_forall (fun _ _ ↦ trivial) _ steps)
    (balanced_init maxTenants)

/-- The turns of a call that is alone, by its number. -/
def turns (number : Nat) (pool : TenantSandboxPool) : PoolCall → List PoolStep
  | .acquire tenantId _ => [.acquire number tenantId, .acquireLocked number]
  | .evictTenant tenantId reason => [.evictTenant tenantId reason]
  | .evictIdle maxIdleSeconds nowMonotonic =>
    .evictIdle number maxIdleSeconds :: .listIdle number ::
      (pool.idleTenants (max 0 maxIdleSeconds) nowMonotonic).map fun _ ↦ .evictNext number
  | .close => [.close]

/-- The rest of an `evict_idle` that is alone. -/
theorem exec_evictNext {number : Nat} {sweep : IdleSweep} {tenantIds : List String}
    (hsweep : s.sweeps.get? number = some sweep) (hlist : sweep.toEvict = some tenantIds)
    (evicted : List String) :
    (Run.exec step s (tenantIds.map fun _ ↦ .evictNext number)).pool =
      (tenantIds.foldl (fun r tenantId ↦
        let (removed, pool) := r.2.evictTenant tenantId "idle_ttl"
        (r.1 ++ if removed then [tenantId] else [], pool)) (evicted, s.pool)).2 := by
  induction tenantIds generalizing s sweep evicted with
  | nil => rfl
  | cons tenantId tenantIds ih =>
    obtain ⟨evicted', heq⟩ := step_evictNext hsweep hlist
    rw [List.map_cons, Run.exec, heq]
    exact ih ((Dict.get?_set ..).trans (if_pos rfl)) rfl _

/-- **A call that is alone** is one of the ways in which calls take turns. -/
theorem exec_turns {number : Nat} (hacquiring : number ∉ s.acquiring.keys)
    (hsweeps : number ∉ s.sweeps.keys) {c : PoolCall} (hclock : ∀ time ∈ c.reading?, time = s.clock) :
    (Run.exec step s (turns number s.pool c)).pool = (s.pool.call c).2 := by
  cases c with
  | acquire tenantId nowMonotonic =>
    obtain rfl := hclock nowMonotonic rfl
    rw [turns, Run.exec, Run.exec, Run.exec, step, if_neg hacquiring, step]
    dsimp only
    rw [Dict.get?_set, if_pos rfl]
    rfl
  | evictTenant tenantId reason => rfl
  | evictIdle maxIdleSeconds nowMonotonic =>
    obtain rfl := hclock nowMonotonic rfl
    rw [turns, Run.exec, step, if_neg hsweeps, Run.exec, step]
    dsimp only
    rw [Dict.get?_set, if_pos rfl]
    exact exec_evictNext ((Dict.get?_set ..).trans (if_pos rfl)) rfl []
  | close => rfl

end PoolRun

end Tools
end ExoBrain
