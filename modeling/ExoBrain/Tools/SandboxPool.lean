import ExoBrain.Lib.Dict
import ExoBrain.Lib.Run
import ExoBrain.Lib.Text
import Mathlib.Algebra.Order.Ring.Rat
import Mathlib.Data.List.MinMax

/-!
# Workers of tenants

`TenantSandboxPool` (`pool.py`) keeps one worker for each tenant, makes it when it is first asked
for, and takes it away again for one of four reasons.  A lock is around each of the operations,
except that the clock is read outside it, and that `evict_idle` takes it once to list the tenants and
then again for each of them.

* `TenantSandboxPool` has the operations, each as what it does while it holds the lock.
* `PoolRun.step` lets any number of calls take turns at the lock.

The clock shows rational numbers.  The executor of a worker and the dates of the events are left out.
-/

set_option autoImplicit false

namespace ExoBrain
namespace Tools

/-- `TenantSandboxWorker`, without its executor and its dates. -/
structure TenantSandboxWorker where
  tenantId : String
  lastUsedMonotonic : ℚ
  executionCount : Nat := 0
deriving DecidableEq

/-- `WorkerCleanupEvent`, without its date. -/
structure WorkerCleanupEvent where
  tenantId : String
  reason : String
deriving DecidableEq, Repr

/-- `TenantSandboxPool`. -/
structure TenantSandboxPool where
  maxTenants : Option Nat
  maxTenants_pos : ∀ n ∈ maxTenants, 0 < n
  workers : Dict String TenantSandboxWorker := Dict.empty
  createdWorkers : Nat := 0
  evictedWorkersTotal : Nat := 0
  evictedWorkersExplicit : Nat := 0
  evictedWorkersIdle : Nat := 0
  evictedWorkersCapacity : Nat := 0
  closedWorkers : Nat := 0
  cleanupEvents : List WorkerCleanupEvent := []

/-- `tenant_id.strip() or "default"`. -/
def normalizedTenant (tenantId : String) : String :=
  if Text.strip tenantId = "" then "default" else Text.strip tenantId

namespace TenantSandboxPool

/-- `__init__`. -/
def init (maxTenants : Option Int) : TenantSandboxPool where
  maxTenants := maxTenants.map fun n ↦ (max 1 n).toNat
  maxTenants_pos n hn := by
    obtain ⟨m, -, rfl⟩ := Option.map_eq_some_iff.mp hn
    omega

/-- `_remove_worker_unlocked`. -/
def removeWorker (tenantId reason : String) (pool : TenantSandboxPool) : Bool × TenantSandboxPool :=
  if tenantId ∉ pool.workers.keys then (false, pool)
  else
    let events := pool.cleanupEvents ++ [⟨tenantId, reason⟩]
    (true, { pool with
      workers := pool.workers.erase tenantId
      evictedWorkersTotal := pool.evictedWorkersTotal + 1
      evictedWorkersExplicit := pool.evictedWorkersExplicit + if reason = "explicit" then 1 else 0
      evictedWorkersIdle := pool.evictedWorkersIdle + if reason = "idle_ttl" then 1 else 0
      evictedWorkersCapacity :=
        pool.evictedWorkersCapacity + if reason = "capacity_lru" then 1 else 0
      closedWorkers := pool.closedWorkers + if reason = "close" then 1 else 0
      cleanupEvents := if 200 < events.length then events.drop (events.length - 200) else events })

/-- `_evict_one_for_capacity_unlocked`. -/
def evictOneForCapacity (pool : TenantSandboxPool) : TenantSandboxPool :=
  match pool.maxTenants with
  | none => pool
  | some maxTenants =>
    if pool.workers.keys.length < maxTenants then pool
    else
      match pool.workers.entries.argmin fun e ↦ e.2.lastUsedMonotonic with
      | none => pool
      | some lru => (pool.removeWorker lru.1 "capacity_lru").2

/-- `acquire` of a tenant whose name is in normal form, under the lock. -/
def acquire (normalizedTenant : String) (nowMonotonic : ℚ) (pool : TenantSandboxPool) :
    TenantSandboxWorker × TenantSandboxPool :=
  match pool.workers.get? normalizedTenant with
  | some worker =>
    let worker := { worker with
      lastUsedMonotonic := nowMonotonic
      executionCount := worker.executionCount + 1 }
    (worker, { pool with workers := pool.workers.set normalizedTenant worker })
  | none =>
    let pool := pool.evictOneForCapacity
    let worker : TenantSandboxWorker := ⟨normalizedTenant, nowMonotonic, 1⟩
    (worker, { pool with
      workers := pool.workers.set normalizedTenant worker
      createdWorkers := pool.createdWorkers + 1 })

/-- `evict_tenant`. -/
def evictTenant (tenantId : String) (reason : String) (pool : TenantSandboxPool) :
    Bool × TenantSandboxPool :=
  pool.removeWorker (normalizedTenant tenantId) reason

/-- The list that `evict_idle` makes under the lock. -/
def idleTenants (threshold nowMonotonic : ℚ) (pool : TenantSandboxPool) : List String :=
  (pool.workers.filter fun _ worker ↦ threshold < nowMonotonic - worker.lastUsedMonotonic).keys

/-- `close`. -/
def close (pool : TenantSandboxPool) : TenantSandboxPool :=
  pool.workers.keys.foldl (fun pool tenantId ↦ (pool.removeWorker tenantId "close").2) pool

end TenantSandboxPool

/-! ## Taking turns -/

/-- A call of `acquire` that has read the clock and waits for the lock. -/
structure Acquiring where
  normalizedTenant : String
  nowMonotonic : ℚ
deriving DecidableEq

/-- A call of `evict_idle` that has read the clock.  It has no list before it has held the lock. -/
structure IdleSweep where
  threshold : ℚ
  threshold_nonneg : 0 ≤ threshold
  nowMonotonic : ℚ
  toEvict : Option (List String) := none
  evicted : List String := []
deriving DecidableEq

/-- The tenants that are still on the list. -/
def IdleSweep.listed (sweep : IdleSweep) : List String := sweep.toEvict.getD []

/-- A pool with the calls that use it, and the clock. -/
structure PoolRun where
  pool : TenantSandboxPool
  clock : ℚ
  acquiring : Dict Nat Acquiring := Dict.empty
  sweeps : Dict Nat IdleSweep := Dict.empty
  /-- When the worker of a tenant was last handed out.  The pool knows nothing of this. -/
  handedOut : Dict String ℚ := Dict.empty

/-- What happens next; `call` is the number of a call. -/
inductive PoolStep
  /-- Time passes. -/
  | tick (seconds : ℚ)
  /-- `acquire`, up to the lock. -/
  | acquire (call : Nat) (tenantId : String)
  /-- The rest of `acquire`. -/
  | acquireLocked (call : Nat)
  | evictTenant (tenantId reason : String)
  /-- `evict_idle`, up to the lock. -/
  | evictIdle (call : Nat) (maxIdleSeconds : ℚ)
  /-- `evict_idle` makes its list. -/
  | listIdle (call : Nat)
  /-- One turn of the loop of `evict_idle`, or its end. -/
  | evictNext (call : Nat)
  | close
deriving DecidableEq

/-- What is returned. -/
inductive PoolAnswer
  | nothing
  | worker (worker : TenantSandboxWorker)
  | evicted (removed : Bool)
  | idleEvicted (tenantIds : List String)
deriving DecidableEq

namespace PoolRun

/-- A new pool. -/
def init (maxTenants : Option Int) (clock : ℚ) : PoolRun where
  pool := .init maxTenants
  clock := clock

/-- The next thing happens. -/
def step (s : PoolRun) : PoolStep → PoolAnswer × PoolRun
  | .tick seconds => (.nothing, { s with clock := s.clock + max 0 seconds })
  | .acquire call tenantId =>
    if call ∈ s.acquiring.keys then (.nothing, s)
    else (.nothing, { s with
      acquiring := s.acquiring.set call ⟨normalizedTenant tenantId, s.clock⟩ })
  | .acquireLocked call =>
    match s.acquiring.get? call with
    | none => (.nothing, s)
    | some acquiring =>
      let (worker, pool) := s.pool.acquire acquiring.normalizedTenant acquiring.nowMonotonic
      (.worker worker, { s with
        pool := pool
        acquiring := s.acquiring.erase call
        handedOut := s.handedOut.set acquiring.normalizedTenant s.clock })
  | .evictTenant tenantId reason =>
    let (removed, pool) := s.pool.evictTenant tenantId reason
    (.evicted removed, { s with pool := pool })
  | .evictIdle call maxIdleSeconds =>
    if call ∈ s.sweeps.keys then (.nothing, s)
    else (.nothing, { s with
      sweeps := s.sweeps.set call
        { threshold := max 0 maxIdleSeconds
          threshold_nonneg := le_max_left 0 maxIdleSeconds
          nowMonotonic := s.clock } })
  | .listIdle call =>
    match s.sweeps.get? call with
    | none => (.nothing, s)
    | some sweep =>
      if sweep.toEvict.isSome then (.nothing, s)
      else (.nothing, { s with
        sweeps := s.sweeps.set call { sweep with
          toEvict := some (s.pool.idleTenants sweep.threshold sweep.nowMonotonic) } })
  | .evictNext call =>
    match s.sweeps.get? call with
    | none => (.nothing, s)
    | some sweep =>
      match sweep.toEvict with
      | none => (.nothing, s)
      | some [] => (.idleEvicted sweep.evicted, { s with sweeps := s.sweeps.erase call })
      | some (tenantId :: tenantIds) =>
        let (removed, pool) := s.pool.evictTenant tenantId "idle_ttl"
        (.nothing, { s with
          pool := pool
          sweeps := s.sweeps.set call { sweep with
            toEvict := some tenantIds
            evicted := sweep.evicted ++ if removed then [tenantId] else [] } })
  | .close => (.nothing, { s with pool := s.pool.close })

end PoolRun

end Tools
end ExoBrain
