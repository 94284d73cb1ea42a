import ExoBrain.Core.Scheduler

/-!
# The checkpoint store

`InMemoryCheckpointStore` (`checkpoint_store.py`) keeps, for each tenant and job, the latest
checkpoint of each node.  A checkpoint is filed under its own tenant, job and node, which the store
carries as a field.

`getCheckpoint_saveCheckpoint` is all there is to know about saving, and `mem_listCheckpoints` and
`nodup_listCheckpoints` say what a list of checkpoints is: one for each node that has any.  The order
of the list is not part of that; the SQL adapters of the store sort it by the ids of the nodes.
-/

set_option autoImplicit false

namespace ExoBrain
namespace Core

variable {α : Type}

/-- `InMemoryCheckpointStore`.  The keys of `records` are a tenant and a job. -/
structure InMemoryCheckpointStore (α : Type) where
  records : Dict (String × String) (Dict String (CheckpointRecord α))
  filed : ∀ key jobRecords, records.get? key = some jobRecords → ∀ n c, jobRecords.get? n = some c →
    (c.tenantId, c.jobId) = key ∧ c.nodeId = n

namespace InMemoryCheckpointStore

/-- `__init__`. -/
def empty : InMemoryCheckpointStore α := ⟨Dict.empty, fun _ _ h ↦ nomatch h⟩

/-- The records of a job. -/
def jobRecords (store : InMemoryCheckpointStore α) (jobId tenantId : String) :
    Dict String (CheckpointRecord α) :=
  (store.records.get? (tenantId, jobId)).getD Dict.empty

/-- The store after `save_checkpoint`. -/
def saveRecords (records : Dict (String × String) (Dict String (CheckpointRecord α)))
    (checkpoint : CheckpointRecord α) : Dict (String × String) (Dict String (CheckpointRecord α)) :=
  let key := (checkpoint.tenantId, checkpoint.jobId)
  (records.setDefault key Dict.empty).modify key fun jobRecords ↦
    jobRecords.set checkpoint.nodeId checkpoint

theorem get?_saveRecords (records : Dict (String × String) (Dict String (CheckpointRecord α)))
    (checkpoint : CheckpointRecord α) (key : String × String) :
    (saveRecords records checkpoint).get? key =
      if key = (checkpoint.tenantId, checkpoint.jobId) then
        some (((records.get? key).getD Dict.empty).set checkpoint.nodeId checkpoint)
      else records.get? key := by
  rw [saveRecords, Dict.get?_modify, Dict.get?_setDefault]
  by_cases hkey : key = (checkpoint.tenantId, checkpoint.jobId) <;> simp [hkey]

/-- `save_checkpoint`. -/
def saveCheckpoint (store : InMemoryCheckpointStore α) (checkpoint : CheckpointRecord α) :
    InMemoryCheckpointStore α where
  records := saveRecords store.records checkpoint
  filed := by
    intro key jobRecords hjob n c hc
    rw [get?_saveRecords] at hjob
    split at hjob
    · rename_i hkey
      obtain rfl := Option.some.inj hjob
      rw [Dict.get?_set] at hc
      split at hc
      · rename_i hn
        obtain rfl := Option.some.inj hc
        exact ⟨hkey.symm, hn.symm⟩
      · cases hold : store.records.get? key with
        | none =>
          rw [hold] at hc
          exact nomatch hc
        | some jobRecords =>
          rw [hold] at hc
          exact store.filed key jobRecords hold n c hc
    · exact store.filed key jobRecords hjob n c hc

/-- `list_checkpoints`. -/
def listCheckpoints (store : InMemoryCheckpointStore α) (jobId tenantId : String) :
    List (CheckpointRecord α) :=
  (store.jobRecords jobId tenantId).entries.map Prod.snd

/-- `get_checkpoint`. -/
def getCheckpoint (store : InMemoryCheckpointStore α) (jobId nodeId tenantId : String) :
    Option (CheckpointRecord α) :=
  (store.jobRecords jobId tenantId).get? nodeId

/-- **What saving does**: the checkpoint is the latest of its node. -/
theorem getCheckpoint_saveCheckpoint (store : InMemoryCheckpointStore α)
    (checkpoint : CheckpointRecord α) (jobId nodeId tenantId : String) :
    (store.saveCheckpoint checkpoint).getCheckpoint jobId nodeId tenantId =
      if (tenantId, jobId) = (checkpoint.tenantId, checkpoint.jobId) ∧ nodeId = checkpoint.nodeId then
        some checkpoint
      else store.getCheckpoint jobId nodeId tenantId := by
  rw [getCheckpoint, jobRecords, saveCheckpoint, get?_saveRecords]
  by_cases hkey : (tenantId, jobId) = (checkpoint.tenantId, checkpoint.jobId)
  · rw [if_pos hkey, Option.getD_some, Dict.get?_set]
    exact if_congr (and_iff_right hkey).symm rfl rfl
  · rw [if_neg hkey, if_neg fun h ↦ hkey h.1]
    rfl

theorem nodeId_of_get?_jobRecords {store : InMemoryCheckpointStore α} {jobId tenantId n : String}
    {c : CheckpointRecord α} (h : (store.jobRecords jobId tenantId).get? n = some c) :
    c.nodeId = n := by
  rw [jobRecords] at h
  cases hjob : store.records.get? (tenantId, jobId) with
  | none =>
    rw [hjob] at h
    exact nomatch h
  | some jobRecords =>
    rw [hjob] at h
    exact (store.filed _ jobRecords hjob n c h).2

/-- The list has the latest checkpoint of each node. -/
theorem mem_listCheckpoints {store : InMemoryCheckpointStore α} {jobId tenantId : String}
    {c : CheckpointRecord α} :
    c ∈ store.listCheckpoints jobId tenantId ↔
      store.getCheckpoint jobId c.nodeId tenantId = some c := by
  simp only [listCheckpoints, List.mem_map, Prod.exists, exists_eq_right, Dict.mem_entries_iff]
  constructor
  · rintro ⟨n, hn⟩
    rw [getCheckpoint, nodeId_of_get?_jobRecords hn]
    exact hn
  · exact fun h ↦ ⟨c.nodeId, h⟩

/-- The list has no two checkpoints of a node. -/
theorem nodup_listCheckpoints (store : InMemoryCheckpointStore α) (jobId tenantId : String) :
    ((store.listCheckpoints jobId tenantId).map CheckpointRecord.nodeId).Nodup := by
  have hkeys : (store.listCheckpoints jobId tenantId).map CheckpointRecord.nodeId =
      (store.jobRecords jobId tenantId).keys := by
    rw [listCheckpoints, List.map_map, Dict.keys]
    refine List.map_congr_left fun e he ↦ ?_
    exact nodeId_of_get?_jobRecords (Dict.mem_entries_iff.mp he)
  rw [hkeys]
  exact Dict.keys_nodup _

end InMemoryCheckpointStore
end Core
end ExoBrain
