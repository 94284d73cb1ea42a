import ExoBrain.Byoc.JobStore
import Mathlib.Data.Finset.Insert

/-!
# The result store and the replay guard

`result_store.py`.  A worker's result is *ingested* under its idempotency key, kept as the payload
of its job, and *consumed* once by the `execute` call that waits for it.  The replay guard
remembers request ids for a while, so that a captured request cannot be sent again.

* `ByocResultStore τ` and `ReplayGuard ρ` are the abstract base classes over their states, without
  the methods that only report metrics; `list_conflict_counts` is a function of each store.
* `InMemoryByocResultStore` and `InMemoryReplayGuard` are the in-memory implementations.

A key is looked up and stored in its stripped form; a payload is stored under the `job_id` of the
result as it came, and consumed under a stripped one.
-/

set_option autoImplicit false

namespace ExoBrain
namespace Byoc

open Text

/-! ## Ingestion -/

/-- `ByocResultIngestOutcome`. -/
structure ByocResultIngestOutcome where
  accepted : Bool
  duplicate : Bool
  reasonCode : String
deriving DecidableEq, Repr

/-- The outcome for a result without an idempotency key. -/
def ByocResultIngestOutcome.keyRequired : ByocResultIngestOutcome :=
  ⟨false, false, "IDEMPOTENCY_KEY_REQUIRED"⟩

/-- The outcome for a key that was ingested before. -/
def ByocResultIngestOutcome.idempotentDuplicate : ByocResultIngestOutcome :=
  ⟨true, true, "IDEMPOTENT_DUPLICATE"⟩

/-- The outcome for a result that loses against the payload its job already has. -/
def ByocResultIngestOutcome.conflictRejected : ByocResultIngestOutcome :=
  ⟨false, false, "BYOC_RESULT_CONFLICT_REJECTED"⟩

/-- The outcome for a result that takes the place of an older payload. -/
def ByocResultIngestOutcome.conflictReplaced : ByocResultIngestOutcome :=
  ⟨true, false, "BYOC_RESULT_CONFLICT_REPLACED"⟩

/-- The outcome for the first result of a job. -/
def ByocResultIngestOutcome.ingested : ByocResultIngestOutcome := ⟨true, false, "INGESTED"⟩

/-- `ByocConflictCountRecord`. -/
structure ByocConflictCountRecord where
  strategy : String
  toolName : String
  toolVersion : String
  reasonCode : String
  count : Nat
deriving DecidableEq, Repr

/-- `ByocResultConflictStrategy`. -/
inductive ByocResultConflictStrategy
  | firstWriteWins
  | lastWriteWins
  | preferSuccess
deriving DecidableEq, Repr

/-- The value of the enumeration. -/
def ByocResultConflictStrategy.value : ByocResultConflictStrategy → String
  | .firstWriteWins => "first_write_wins"
  | .lastWriteWins => "last_write_wins"
  | .preferSuccess => "prefer_success"

/-- `resolve_result_conflict`: should the incoming result replace the existing payload? -/
def resolveResultConflict (existing incoming : ByocToolResultEnvelope)
    (strategy : ByocResultConflictStrategy) : Bool :=
  match strategy with
  | .firstWriteWins => false
  | .lastWriteWins => true
  | .preferSuccess =>
    lower (strip incoming.status) = "success" && lower (strip existing.status) ≠ "success"

/-- `key` and `result` clash with the payload the job has, and the payload stays. -/
def conflictRefused (strategy : ByocResultConflictStrategy)
    (existing : Option ByocToolResultEnvelope) (result : ByocToolResultEnvelope) : Bool :=
  existing.any fun e ↦ strip e.idempotencyKey ≠ strip result.idempotencyKey &&
    !resolveResultConflict e result strategy

/-! ## The contracts -/

/-- The settings the `cleanup_retention` of a result store takes besides the tenant. -/
structure ResultRetentionLimits where
  resultTtlSeconds : Int
  idempotencyTtlSeconds : Int
  maxResultRecords : Int
deriving DecidableEq, Repr

/-- The dictionary it returns. -/
structure ResultPrunedCounts where
  resultPayloadsPruned : Nat
  idempotencyPruned : Nat
deriving DecidableEq, Repr

/-- `ByocResultStore`, with the state made explicit. -/
structure ByocResultStore (τ : Type) where
  ingest : (now : Epoch) → ByocToolResultEnvelope → τ → ByocResultIngestOutcome × τ
  consume : (jobId : String) → τ → Option ByocToolResultEnvelope × τ
  hasIdempotencyKey : (key : String) → τ → Bool
  cleanupRetention : (now : Epoch) → (tenantId : String) → ResultRetentionLimits → τ →
    ResultPrunedCounts × τ

/-- `ReplayGuard`, with the state made explicit. -/
structure ReplayGuard (ρ : Type) where
  markOnce : (now : Epoch) → (key : String) → (ttlSeconds : Int) → ρ → Bool × ρ
  cleanupRetention : (now : Epoch) → (tenantId : String) → ρ → Nat × ρ

/-! ## `InMemoryByocResultStore` -/

/-- The store.  A conflict is counted under its tenant, its reason and `tool@version`. -/
structure InMemoryByocResultStore where
  conflictStrategy : ByocResultConflictStrategy
  seenIdempotencyKeys : Finset String
  resultsByJobId : Dict String ByocToolResultEnvelope
  conflictCounts : Dict (String × String × String) Nat

namespace InMemoryByocResultStore

/-- A fresh store. -/
def init (conflictStrategy : ByocResultConflictStrategy) : InMemoryByocResultStore :=
  ⟨conflictStrategy, ∅, Dict.empty, Dict.empty⟩

/-- `_record_conflict`. -/
def recordConflict (tenantId toolName toolVersion reasonCode : String)
    (s : InMemoryByocResultStore) : InMemoryByocResultStore :=
  let tenant := if strip tenantId = "" then "default" else strip tenantId
  let tool := if strip toolName = "" then "unknown_tool" else strip toolName
  let version := strip toolVersion
  let reason :=
    if strip reasonCode = "" then "BYOC_RESULT_CONFLICT_UNKNOWN" else strip reasonCode
  { s with conflictCounts := s.conflictCounts.increment (tenant, reason, tool ++ "@" ++ version) }

/-- The key and the payload of a result that is taken. -/
def write (key : String) (result : ByocToolResultEnvelope) (s : InMemoryByocResultStore) :
    InMemoryByocResultStore :=
  { s with
    seenIdempotencyKeys := insert key s.seenIdempotencyKeys
    resultsByJobId := s.resultsByJobId.set result.jobId result }

/-- `ingest`. -/
def ingest (result : ByocToolResultEnvelope) (s : InMemoryByocResultStore) :
    ByocResultIngestOutcome × InMemoryByocResultStore :=
  let key := strip result.idempotencyKey
  if key = "" then (.keyRequired, s)
  else if key ∈ s.seenIdempotencyKeys then (.idempotentDuplicate, s)
  else
    match s.resultsByJobId.get? result.jobId with
    | none => (.ingested, s.write key result)
    | some existing =>
      if strip existing.idempotencyKey = key then (.ingested, s.write key result)
      else if resolveResultConflict existing result s.conflictStrategy then
        (.conflictReplaced, (s.write key result).recordConflict result.tenantId result.toolName
          result.toolVersion "BYOC_RESULT_CONFLICT_REPLACED")
      else
        (.conflictRejected, s.recordConflict result.tenantId result.toolName result.toolVersion
          "BYOC_RESULT_CONFLICT_REJECTED")

/-- `consume`. -/
def consume (jobId : String) (s : InMemoryByocResultStore) :
    Option ByocToolResultEnvelope × InMemoryByocResultStore :=
  let normalized := strip jobId
  if normalized = "" then (none, s)
  else
    (s.resultsByJobId.get? normalized,
      { s with resultsByJobId := s.resultsByJobId.erase normalized })

/-- `has_idempotency_key`. -/
def hasIdempotencyKey (key : String) (s : InMemoryByocResultStore) : Bool :=
  strip key ≠ "" && strip key ∈ s.seenIdempotencyKeys

/-- The order of Python on the keys of the counters. -/
def conflictKeyLe (a b : String × String × String) : Bool :=
  a.1 < b.1 || a.1 = b.1 && (a.2.1 < b.2.1 || a.2.1 = b.2.1 && a.2.2 ≤ b.2.2)

/-- A counter, with the tool and its version taken apart again. -/
def conflictRecord (strategy : ByocResultConflictStrategy)
    (entry : (String × String × String) × Nat) : ByocConflictCountRecord :=
  let tool := (rsplit '@' entry.1.2.2).getD (entry.1.2.2, "")
  ⟨strategy.value, tool.1, tool.2, entry.1.2.1, entry.2⟩

/-- `list_conflict_counts`. -/
def listConflictCounts (tenantId : String) (s : InMemoryByocResultStore) :
    List ByocConflictCountRecord :=
  let normalized := strip tenantId
  if normalized = "" then []
  else
    ((s.conflictCounts.entries.mergeSort fun a b ↦ conflictKeyLe a.1 b.1).filter fun e ↦
      e.1.1 = normalized).map (conflictRecord s.conflictStrategy)

end InMemoryByocResultStore

/-- The in-memory store, as an instance of the contract.  Its retention prunes nothing. -/
def inMemoryByocResultStore : ByocResultStore InMemoryByocResultStore where
  ingest _ := InMemoryByocResultStore.ingest
  consume := InMemoryByocResultStore.consume
  hasIdempotencyKey := InMemoryByocResultStore.hasIdempotencyKey
  cleanupRetention _ _ _ s := (⟨0, 0⟩, s)

/-! ## `InMemoryReplayGuard` -/

/-- The guard: the keys it remembers, each with the moment it forgets it. -/
structure InMemoryReplayGuard where
  expiresAtEpoch : Dict String Epoch

namespace InMemoryReplayGuard

/-- A fresh guard. -/
def init : InMemoryReplayGuard := ⟨Dict.empty⟩

/-- `_cleanup_unlocked`. -/
def cleanup (now : Epoch) (g : InMemoryReplayGuard) : InMemoryReplayGuard :=
  ⟨g.expiresAtEpoch.filter fun _ expiry ↦ now < expiry⟩

/-- `mark_once`. -/
def markOnce (now : Epoch) (key : String) (ttlSeconds : Int) (g : InMemoryReplayGuard) :
    Bool × InMemoryReplayGuard :=
  let normalized := strip key
  if normalized = "" then (false, g)
  else
    let g := g.cleanup now
    if normalized ∈ g.expiresAtEpoch.keys then (false, g)
    else (true, ⟨g.expiresAtEpoch.set normalized (now + ttlTicks ttlSeconds)⟩)

/-- The keys of a tenant, by their prefix. -/
def keysOf (tenantId : String) (g : InMemoryReplayGuard) : List String :=
  g.expiresAtEpoch.keys.filter fun key ↦ (tenantId ++ ":").toList.isPrefixOf key.toList

/-- `cleanup_retention`: every expired key goes, the ones of the tenant are counted. -/
def cleanupRetention (now : Epoch) (tenantId : String) (g : InMemoryReplayGuard) :
    Nat × InMemoryReplayGuard :=
  let normalized := strip tenantId
  let after := g.cleanup now
  ((g.keysOf normalized).length - (after.keysOf normalized).length, after)

end InMemoryReplayGuard

/-- The in-memory guard, as an instance of the contract. -/
def inMemoryReplayGuard : ReplayGuard InMemoryReplayGuard where
  markOnce := InMemoryReplayGuard.markOnce
  cleanupRetention := InMemoryReplayGuard.cleanupRetention

end Byoc
end ExoBrain
