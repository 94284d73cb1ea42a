import ExoBrain.Lib.Dict
import ExoBrain.Lib.Journal
import ExoBrain.Lib.JsonPlain
import Mathlib.Data.List.Dedup
import Mathlib.Data.String.Basic

/-!
# The store of agents

`SQLiteAgentStore` (`sqlite.py`) is one table, filed under the tenant and the agent.  A row has the role
in a column of its own, and everything else in one JSON text.

`record_agentRow` says that a record is read as it was written, and `mem_rowsOf` which rows a tenant has.
So a table in which everything was written by the store is `Readable`.
-/

set_option autoImplicit false

namespace ExoBrain
namespace Persistence

/-- `PersistedAgentRecord`. -/
structure PersistedAgentRecord where
  agentId : String
  role : String
  tenantId : String
  capabilityTags : List String := []
  instructions : String := ""
  metadata : List (String × Value) := []

/-- A row of `agents`, without its primary key. -/
structure AgentRow where
  role : String
  dataJson : String
deriving DecidableEq, Repr

/-- The table `agents` of `SQLiteAgentStore`. -/
abbrev AgentTable := Dict (String × String) AgentRow

/-- What is written as JSON of a record. -/
def PersistedAgentRecord.data (record : PersistedAgentRecord) : Value :=
  .dict [("capability_tags", .list (record.capabilityTags.map .str)),
    ("instructions", .str record.instructions), ("metadata", .dict record.metadata)]

/-- The row of a record. -/
def PersistedAgentRecord.row (record : PersistedAgentRecord) : AgentRow where
  role := record.role
  dataJson := Json.dumpsPlain record.data

section
variable (showFloat : String → String)

/-- The record of a row, if its JSON has the shape that is written. -/
def AgentRow.record (tenantId agentId : String) (row : AgentRow) : Option PersistedAgentRecord := do
  let data ← (Json.loads showFloat row.dataJson).bind Value.dict?
  let tags ← ((Value.lookup "capability_tags" data).getD (.list [])).list?
  let capabilityTags ← tags.mapM Value.str?
  let instructions ← ((Value.lookup "instructions" data).getD (.str "")).str?
  let metadata ← ((Value.lookup "metadata" data).getD (.dict [])).dict?
  return { agentId, role := row.role, tenantId, capabilityTags, instructions, metadata }

namespace SQLiteAgentStore

/-- `save_agent`, if everything can be written. -/
def saveAgent (tenantId : String) (record : PersistedAgentRecord) (table : AgentTable) :
    Option AgentTable :=
  if Json.isJson showFloat record.data = true then
    some (table.set (tenantId, record.agentId) record.row)
  else none

/-- `delete_agent`. -/
def deleteAgent (tenantId agentId : String) (table : AgentTable) : AgentTable :=
  table.erase (tenantId, agentId)

/-- The rows of a tenant, in the order of the agents. -/
def rowsOf (tenantId : String) (table : AgentTable) : List ((String × String) × AgentRow) :=
  (table.entries.filter fun entry ↦ entry.1.1 = tenantId).mergeSort fun a b ↦ a.1.2 ≤ b.1.2

/-- `list_agents`. -/
def listAgents (tenantId : String) (table : AgentTable) : Option (List PersistedAgentRecord) :=
  (rowsOf tenantId table).mapM fun entry ↦ entry.2.record showFloat tenantId entry.1.2

/-- `list_tenant_ids`. -/
def listTenantIds (table : AgentTable) : List String :=
  Text.sortedTexts (table.keys.map Prod.fst).dedup

end SQLiteAgentStore

end

variable {showFloat : String → String} {table : AgentTable} {tenantId : String}

theorem areJson_map_str (texts : List String) : Json.areJson showFloat (texts.map .str) = true := by
  induction texts with
  | nil => rfl
  | cons text texts ih => simpa [Json.areJson, Json.isJson] using ih

/-- A record can be written if its metadata can. -/
theorem isJson_data (record : PersistedAgentRecord) :
    Json.isJson showFloat record.data = Json.isJson showFloat (.dict record.metadata) := by
  simp [PersistedAgentRecord.data, Json.isJson, Json.entriesAreJson, areJson_map_str]

theorem mapM_str?_str (texts : List String) : texts.mapM (Value.str? ∘ Value.str) = some texts :=
  Journal.mapM_eq_some rfl

/-- **A record is read as it was written.** -/
theorem record_agentRow {record : PersistedAgentRecord}
    (h : Json.isJson showFloat (.dict record.metadata) = true) :
    record.row.record showFloat record.tenantId record.agentId = some record := by
  rw [← isJson_data] at h
  rw [AgentRow.record, PersistedAgentRecord.row]
  simp only [Json.loads_dumpsPlain h, Option.bind_some]
  simp [PersistedAgentRecord.data, Value.dict?, Value.lookup, Value.list?, mapM_str?_str]
  rfl

namespace SQLiteAgentStore

theorem mem_rowsOf {entry : (String × String) × AgentRow} :
    entry ∈ rowsOf tenantId table ↔ entry.1.1 = tenantId ∧ table.get? entry.1 = some entry.2 := by
  rw [rowsOf, List.mem_mergeSort, List.mem_filter, decide_eq_true_eq, and_comm, ← Dict.mem_entries_iff]

theorem nodup_rowsOf : ((rowsOf tenantId table).map fun entry ↦ entry.1.2).Nodup := by
  have hperm := List.mergeSort_perm (table.entries.filter fun entry ↦ entry.1.1 = tenantId)
    fun a b ↦ decide (a.1.2 ≤ b.1.2)
  rw [rowsOf, (hperm.map fun entry ↦ entry.1.2).nodup_iff]
  refine List.Nodup.map_on ?_ (table.nodup_keys.of_map.filter _)
  intro a ha b hb hkey
  have hsame : a.1 = b.1 := Prod.ext
    ((of_decide_eq_true (List.mem_filter.mp ha).2).trans
      (of_decide_eq_true (List.mem_filter.mp hb).2).symm) hkey
  exact List.inj_on_of_nodup_map table.nodup_keys (List.mem_filter.mp ha).1 (List.mem_filter.mp hb).1
    hsame

/-- A tenant with a row is listed. -/
theorem mem_listTenantIds : tenantId ∈ listTenantIds table ↔
    ∃ agentId, (tenantId, agentId) ∈ table.keys := by
  rw [listTenantIds, Text.sortedTexts, List.mem_mergeSort, List.mem_dedup, List.mem_map]
  constructor
  · rintro ⟨key, hkey, rfl⟩
    exact ⟨key.2, hkey⟩
  · rintro ⟨agentId, hkey⟩
    exact ⟨_, hkey, rfl⟩

/-- The rows of a tenant are all that its list depends on. -/
theorem rowsOf_congr {table' : AgentTable}
    (h : ∀ agentId, table.get? (tenantId, agentId) = table'.get? (tenantId, agentId)) :
    rowsOf tenantId table = rowsOf tenantId table' := by
  have hperm : (table.entries.filter fun entry ↦ entry.1.1 = tenantId).Perm
      (table'.entries.filter fun entry ↦ entry.1.1 = tenantId) := by
    refine (List.perm_ext_iff_of_nodup (table.nodup_keys.of_map.filter _)
      (table'.nodup_keys.of_map.filter _)).mpr fun entry ↦ ?_
    simp only [List.mem_filter, decide_eq_true_eq, Dict.mem_entries_iff (k := entry.1) (x := entry.2)]
    refine and_congr_left fun htenant ↦ ?_
    have hkey : entry.1 = (tenantId, entry.1.2) := Prod.ext htenant rfl
    rw [hkey, h]
  have hnodup : ((rowsOf tenantId table).map fun entry ↦ entry.1.2).Nodup := nodup_rowsOf
  rw [rowsOf, ((List.mergeSort_perm _ _).map _).nodup_iff] at hnodup
  exact Journal.mergeSort_eq_of_perm hperm hnodup

/-- Every row can be read. -/
def Readable (showFloat : String → String) (table : AgentTable) : Prop :=
  ∀ tenantId agentId row, table.get? (tenantId, agentId) = some row →
    ∃ record, row.record showFloat tenantId agentId = some record

theorem Readable.listAgents (h : Readable showFloat table) (tenantId : String) :
    ∃ records, SQLiteAgentStore.listAgents showFloat tenantId table = some records := by
  refine Journal.exists_mapM_eq_some fun entry hentry ↦ ?_
  obtain ⟨rfl, hrow⟩ := mem_rowsOf.mp hentry
  exact h _ _ _ hrow

/-- What is written can be read. -/
theorem Readable.saveAgent {record : PersistedAgentRecord} (h : Readable showFloat table)
    (hjson : Json.isJson showFloat record.data = true) :
    Readable showFloat (table.set (record.tenantId, record.agentId) record.row) := by
  intro tid agentId row hrow
  rw [Dict.get?_set] at hrow
  split at hrow
  · rename_i heq
    obtain ⟨rfl, rfl⟩ := Prod.mk.inj heq
    obtain rfl := Option.some.inj hrow
    exact ⟨record, record_agentRow ((isJson_data record).symm.trans hjson)⟩
  · exact h tid agentId row hrow

theorem Readable.deleteAgent (h : Readable showFloat table) (tenantId agentId : String) :
    Readable showFloat (SQLiteAgentStore.deleteAgent tenantId agentId table) :=
  fun tid id row hrow ↦ h tid id row (Dict.get?_of_erase hrow)

end SQLiteAgentStore

end Persistence
end ExoBrain
