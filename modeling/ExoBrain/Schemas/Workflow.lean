import ExoBrain.Lib.Checks
import ExoBrain.Lib.Value
import ExoBrain.Core.TaskGraph

/-!
# Workflow definitions

`workflow_schema.py` reads a workflow definition, a list of nodes that depend on one another, out of
a JSON or YAML document.  `from_dict` checks the fields one after the other, the nodes one after the
other, and `validate` what the nodes say of one another: the ids are distinct, no node depends on
itself, and every dependency names a node.

* `WorkflowNode.fromDict`, `WorkflowDefinition.fromDict` and `validate` are these checks, in the
  order of the source, with the code, the message and the details of every error.
* `taskNodes` are the task nodes to build a `TaskGraph` of: one for each workflow node.
* `PayloadDependsOn` reads off the document which node depends on which.
* `toDict` writes a definition; what was read is written and read back the same
  (`workflow_round_trip`).

## Which workflows can be run

The schema checks the same as the constructor of the graph, but for the cycles: of these it sees the
loops at one node only.  So a graph can be built of a loaded workflow exactly if no chain of
dependencies in the document leads from a node back to it (`loaded_runnable_iff`), and two nodes that
depend on each other are loaded, and cannot be run (`mutual_dependency_loaded`).
-/

set_option autoImplicit false

namespace ExoBrain
namespace Schemas

open Text Relation Core
open Checks (bind_eq_ok mapM_eq_ok)
open Value (lookup nonBlank?)

/-! ## Errors -/

/-- `WORKFLOW_SCHEMA_VERSION`. -/
def workflowSchemaVersion : String := "1.0"

/-- `WorkflowSchemaError`. -/
structure WorkflowSchemaError where
  code : String
  message : String
  details : List (String × Value) := []
deriving Repr

/-- What was read, or the error. -/
def require {α : Type} (o : Option α) (error : WorkflowSchemaError) :
    Except WorkflowSchemaError α :=
  match o with
  | some x => .ok x
  | none => .error error

/-- The error, unless the check is passed. -/
def check (passed : Prop) [Decidable passed] (error : WorkflowSchemaError) :
    Except WorkflowSchemaError Unit :=
  if passed then .ok () else .error error

theorem require_eq_ok {α : Type} {o : Option α} {error : WorkflowSchemaError} {x : α} :
    require o error = .ok x ↔ o = some x := by
  cases o <;> simp [require]

theorem check_eq_ok {passed : Prop} [Decidable passed] {error : WorkflowSchemaError} {u : Unit} :
    check passed error = .ok u ↔ passed := by
  by_cases h : passed <;> simp [check, h]

/-! ## Nodes -/

/-- `WorkflowNode`. -/
structure WorkflowNode where
  nodeId : String
  agentRole : String
  dependsOn : List String := []
  timeoutS : Int := 30
  retryLimit : Int := 0
  metadata : List (String × Value) := []
deriving Repr

/-- The texts, for a list of texts none of which is blank. -/
def nonBlankList? (v : Value) : Option (List String) := v.list?.bind fun items ↦ items.mapM nonBlank?

/-- `WorkflowNode.from_dict`. -/
def WorkflowNode.fromDict (payload : Value) : Except WorkflowSchemaError WorkflowNode := do
  let entries ← require payload.dict?
    { code := "WORKFLOW_NODE_TYPE_INVALID"
      message := "Workflow node must be an object"
      details := [("received_type", .str payload.typeName)] }
  let nodeId ← require ((lookup "node_id" entries).bind nonBlank?)
    { code := "WORKFLOW_NODE_ID_INVALID"
      message := "Workflow node 'node_id' must be a non-empty string" }
  let agentRole ← require ((lookup "agent_role" entries).bind nonBlank?)
    { code := "WORKFLOW_NODE_AGENT_ROLE_INVALID"
      message := "Workflow node 'agent_role' must be a non-empty string"
      details := [("node_id", .str nodeId)] }
  let dependsOn ← require (nonBlankList? ((lookup "depends_on" entries).getD (.list [])))
    { code := "WORKFLOW_NODE_DEPENDENCIES_INVALID"
      message := "Workflow node 'depends_on' must be a list of non-empty strings"
      details := [("node_id", .str nodeId)] }
  let timeoutS ← require (((lookup "timeout_s" entries).getD (.int 30)).int?.filter fun n ↦ 0 < n)
    { code := "WORKFLOW_NODE_TIMEOUT_INVALID"
      message := "Workflow node 'timeout_s' must be a positive integer"
      details := [("node_id", .str nodeId)] }
  let retryLimit ← require (((lookup "retry_limit" entries).getD (.int 0)).int?.filter fun n ↦ 0 ≤ n)
    { code := "WORKFLOW_NODE_RETRY_LIMIT_INVALID"
      message := "Workflow node 'retry_limit' must be an integer >= 0"
      details := [("node_id", .str nodeId)] }
  let metadata ← require ((lookup "metadata" entries).getD (.dict [])).dict?
    { code := "WORKFLOW_NODE_METADATA_INVALID"
      message := "Workflow node 'metadata' must be an object"
      details := [("node_id", .str nodeId)] }
  return {
    nodeId := strip nodeId
    agentRole := strip agentRole
    dependsOn := dependsOn.map strip
    timeoutS := timeoutS
    retryLimit := retryLimit
    metadata := metadata }

/-- The entry of a node in what `to_dict` returns. -/
def WorkflowNode.toDict (node : WorkflowNode) : Value :=
  .dict [("node_id", .str node.nodeId), ("agent_role", .str node.agentRole),
    ("depends_on", .list (node.dependsOn.map .str)), ("timeout_s", .int node.timeoutS),
    ("retry_limit", .int node.retryLimit), ("metadata", .dict node.metadata)]

/-! ## Definitions -/

/-- `WorkflowDefinition`. -/
structure WorkflowDefinition where
  schemaVersion : String
  workflowId : String
  version : String
  nodes : List WorkflowNode
  metadata : List (String × Value) := []
deriving Repr

namespace WorkflowDefinition

/-- The ids of the nodes. -/
def nodeIds (definition : WorkflowDefinition) : List String :=
  definition.nodes.map WorkflowNode.nodeId

/-- `duplicate_ids`. -/
def duplicateIds (definition : WorkflowDefinition) : List String :=
  sortedTexts (definition.nodeIds.filter fun nodeId ↦ 1 < definition.nodeIds.count nodeId).dedup

/-- `unknown`: the dependencies of a node that name no node. -/
def unknownDependencies (definition : WorkflowDefinition) (node : WorkflowNode) : List String :=
  sortedTexts (node.dependsOn.filter fun dep ↦ dep ∉ definition.nodeIds).dedup

/-- The checks of one node in `validate`. -/
def validateNode (definition : WorkflowDefinition) (node : WorkflowNode) :
    Except WorkflowSchemaError Unit := do
  check (node.nodeId ∉ node.dependsOn)
    { code := "WORKFLOW_NODE_SELF_DEPENDENCY"
      message := "Workflow node cannot depend on itself"
      details := [("node_id", .str node.nodeId)] }
  check (definition.unknownDependencies node = [])
    { code := "WORKFLOW_NODE_UNKNOWN_DEPENDENCY"
      message := "Workflow node dependency references unknown node ID"
      details := [("node_id", .str node.nodeId),
        ("unknown_dependencies", .list ((definition.unknownDependencies node).map .str))] }

/-- `validate`. -/
def validate (definition : WorkflowDefinition) : Except WorkflowSchemaError Unit := do
  check (definition.schemaVersion = workflowSchemaVersion)
    { code := "WORKFLOW_SCHEMA_VERSION_UNSUPPORTED"
      message := "Unsupported workflow schema version '" ++ definition.schemaVersion ++
        "'. Expected '" ++ workflowSchemaVersion ++ "'."
      details := [("schema_version", .str definition.schemaVersion),
        ("expected", .str workflowSchemaVersion)] }
  check (definition.duplicateIds = [])
    { code := "WORKFLOW_NODE_DUPLICATE_ID"
      message := "Workflow contains duplicate node IDs"
      details := [("duplicate_node_ids", .list (definition.duplicateIds.map .str))] }
  forM definition.nodes definition.validateNode

/-- `WorkflowDefinition.from_dict`. -/
def fromDict (payload : Value) : Except WorkflowSchemaError WorkflowDefinition := do
  let entries ← require payload.dict?
    { code := "WORKFLOW_DEFINITION_TYPE_INVALID"
      message := "Workflow definition must be an object"
      details := [("received_type", .str payload.typeName)] }
  let schemaVersion ← require ((lookup "schema_version" entries).bind nonBlank?)
    { code := "WORKFLOW_SCHEMA_VERSION_INVALID"
      message := "Workflow 'schema_version' must be a non-empty string" }
  let workflowId ← require ((lookup "workflow_id" entries).bind nonBlank?)
    { code := "WORKFLOW_ID_INVALID"
      message := "Workflow 'workflow_id' must be a non-empty string" }
  let version ← require ((lookup "version" entries).bind nonBlank?)
    { code := "WORKFLOW_VERSION_INVALID"
      message := "Workflow 'version' must be a non-empty string"
      details := [("workflow_id", .str workflowId)] }
  let rawNodes ← require (((lookup "nodes" entries).bind Value.list?).filter fun nodes ↦ !nodes.isEmpty)
    { code := "WORKFLOW_NODES_INVALID"
      message := "Workflow 'nodes' must be a non-empty list"
      details := [("workflow_id", .str workflowId)] }
  let metadata ← require ((lookup "metadata" entries).getD (.dict [])).dict?
    { code := "WORKFLOW_METADATA_INVALID"
      message := "Workflow 'metadata' must be an object"
      details := [("workflow_id", .str workflowId)] }
  let nodes ← rawNodes.mapM WorkflowNode.fromDict
  let definition : WorkflowDefinition :=
    { schemaVersion := strip schemaVersion
      workflowId := strip workflowId
      version := strip version
      nodes := nodes
      metadata := metadata }
  definition.validate
  return definition

/-- `to_dict`. -/
def toDict (definition : WorkflowDefinition) : Value :=
  .dict [("schema_version", .str definition.schemaVersion),
    ("workflow_id", .str definition.workflowId), ("version", .str definition.version),
    ("nodes", .list (definition.nodes.map WorkflowNode.toDict)),
    ("metadata", .dict definition.metadata)]

/-- One task node for each workflow node, with the limits that the caller chooses. -/
def taskNodes (definition : WorkflowDefinition) (retryLimit timeoutMs : WorkflowNode → Int) :
    List TaskNode :=
  definition.nodes.map fun node ↦
    { nodeId := node.nodeId
      dependsOn := node.dependsOn
      retryLimit := retryLimit node
      timeoutMs := timeoutMs node }

end WorkflowDefinition

/-! ## What the document says -/

/-- The nodes of a document. -/
def rawNodes (payload : Value) : List Value :=
  ((payload.get? "nodes").bind Value.list?).getD []

/-- The id that a node of a document gives itself. -/
def rawId (node : Value) : Option String := ((node.get? "node_id").bind nonBlank?).map strip

/-- The ids that a node of a document says it depends on. -/
def rawDependencies (node : Value) : List String :=
  (((node.get? "depends_on").bind nonBlankList?).getD []).map strip

/-- According to the document, a node with the id `n` depends on `m`. -/
def PayloadDependsOn (payload : Value) (n m : String) : Prop :=
  ∃ node ∈ rawNodes payload, rawId node = some n ∧ m ∈ rawDependencies node

/-- What is read of a node is what the document says. -/
theorem WorkflowNode.of_fromDict {payload : Value} {node : WorkflowNode}
    (h : WorkflowNode.fromDict payload = .ok node) :
    rawId payload = some node.nodeId ∧ rawDependencies payload = node.dependsOn := by
  simp only [WorkflowNode.fromDict, bind_eq_ok, require_eq_ok] at h
  obtain ⟨entries, hentries, nodeId, hnodeId, agentRole, -, dependsOn, hdependsOn, timeoutS, -,
    retryLimit, -, metadata, -, hnode⟩ := h
  obtain rfl := Except.ok.inj hnode
  constructor
  · rw [rawId, Value.get?, hentries, Option.bind_some, hnodeId]
    rfl
  · rw [rawDependencies, Value.get?, hentries, Option.bind_some]
    cases hlookup : lookup "depends_on" entries with
    | none =>
      rw [hlookup] at hdependsOn
      rw [← Option.some.inj hdependsOn]
      rfl
    | some v =>
      rw [hlookup] at hdependsOn
      rw [Option.bind_some, show nonBlankList? v = some dependsOn from hdependsOn]
      rfl

namespace WorkflowDefinition

theorem duplicateIds_eq_nil {definition : WorkflowDefinition} :
    definition.duplicateIds = [] ↔ definition.nodeIds.Nodup := by
  rw [duplicateIds, sortedTexts_eq_nil, List.dedup_eq_nil, List.filter_eq_nil_iff,
    List.nodup_iff_count_le_one]
  constructor
  · intro h nodeId
    by_cases hmem : nodeId ∈ definition.nodeIds
    · have hnot := h nodeId hmem
      simp only [decide_eq_true_eq] at hnot
      omega
    · rw [List.count_eq_zero_of_not_mem hmem]
      omega
  · intro h nodeId _
    have hle := h nodeId
    simp only [decide_eq_true_eq]
    omega

theorem unknownDependencies_eq_nil {definition : WorkflowDefinition} {node : WorkflowNode} :
    definition.unknownDependencies node = [] ↔ ∀ dep ∈ node.dependsOn, dep ∈ definition.nodeIds := by
  rw [unknownDependencies, sortedTexts_eq_nil, List.dedup_eq_nil, List.filter_eq_nil_iff]
  simp

theorem validateNode_eq_ok {definition : WorkflowDefinition} {node : WorkflowNode} :
    definition.validateNode node = .ok () ↔
      node.nodeId ∉ node.dependsOn ∧ ∀ dep ∈ node.dependsOn, dep ∈ definition.nodeIds := by
  simp only [validateNode, bind_eq_ok, check_eq_ok, unknownDependencies_eq_nil]
  exact ⟨fun ⟨_, h⟩ ↦ h, fun h ↦ ⟨(), h⟩⟩

/-- **What `validate` checks.** -/
theorem validate_eq_ok {definition : WorkflowDefinition} :
    definition.validate = .ok () ↔
      definition.schemaVersion = workflowSchemaVersion ∧ definition.nodeIds.Nodup ∧
        ∀ node ∈ definition.nodes,
          node.nodeId ∉ node.dependsOn ∧ ∀ dep ∈ node.dependsOn, dep ∈ definition.nodeIds := by
  simp only [validate, bind_eq_ok, check_eq_ok, duplicateIds_eq_nil]
  constructor
  · rintro ⟨-, hversion, -, hids, hnodes⟩
    exact ⟨hversion, hids, fun node hnode ↦
      validateNode_eq_ok.mp (TaskGraph.forM_eq_ok hnodes node hnode)⟩
  · rintro ⟨hversion, hids, hnodes⟩
    exact ⟨(), hversion, (), hids, TaskGraph.forM_eq_ok_of_forall fun node hnode ↦
      validateNode_eq_ok.mpr (hnodes node hnode)⟩

/-- A loaded definition holds the nodes of the document, and passed the checks of `validate`. -/
theorem of_fromDict {payload : Value} {definition : WorkflowDefinition}
    (h : fromDict payload = .ok definition) :
    List.Forall₂ (fun raw node ↦ WorkflowNode.fromDict raw = .ok node) (rawNodes payload)
      definition.nodes ∧ definition.validate = .ok () := by
  simp only [fromDict, bind_eq_ok, require_eq_ok] at h
  obtain ⟨entries, hentries, schemaVersion, -, workflowId, -, version, -, raws, hraws, metadata, -,
    nodes, hnodes, _, hvalid, hdefinition⟩ := h
  obtain rfl := Except.ok.inj hdefinition
  have hraw : rawNodes payload = raws := by
    rw [rawNodes, Value.get?, hentries, Option.bind_some, (Option.filter_eq_some_iff.mp hraws).1]
    rfl
  rw [hraw]
  exact ⟨mapM_eq_ok hnodes, hvalid⟩

/-- A definition depends as the document does. -/
theorem payloadDependsOn_iff {payload : Value} {definition : WorkflowDefinition}
    (h : fromDict payload = .ok definition) {n m : String} :
    PayloadDependsOn payload n m ↔
      ∃ node ∈ definition.nodes, node.nodeId = n ∧ m ∈ node.dependsOn := by
  have hnodes := (of_fromDict h).1
  rw [PayloadDependsOn]
  generalize rawNodes payload = raws at hnodes
  generalize definition.nodes = nodes at hnodes
  induction hnodes with
  | nil => simp
  | @cons raw node raws nodes hnode _ ih =>
    obtain ⟨hid, hdeps⟩ := WorkflowNode.of_fromDict hnode
    rw [List.exists_mem_cons_iff, List.exists_mem_cons_iff, hid, hdeps, Option.some.injEq]
    exact or_congr_right ih

/-- The task nodes have the ids of the workflow nodes. -/
theorem map_nodeId_taskNodes (definition : WorkflowDefinition)
    (retryLimit timeoutMs : WorkflowNode → Int) :
    (definition.taskNodes retryLimit timeoutMs).map TaskNode.nodeId = definition.nodeIds := by
  rw [taskNodes, nodeIds, List.map_map]
  rfl

/-- The graph of the task nodes depends as the document does. -/
theorem dependsOn_taskNodes {payload : Value} {definition : WorkflowDefinition}
    (h : fromDict payload = .ok definition) (retryLimit timeoutMs : WorkflowNode → Int)
    (hids : definition.nodeIds.Nodup) {n m : String} :
    TaskGraph.DependsOn (TaskGraph.nodesById (definition.taskNodes retryLimit timeoutMs)) n m ↔
      PayloadDependsOn payload n m := by
  have htask : ((definition.taskNodes retryLimit timeoutMs).map TaskNode.nodeId).Nodup := by
    rw [map_nodeId_taskNodes]
    exact hids
  rw [TaskGraph.dependsOn_nodesById htask, payloadDependsOn_iff h, taskNodes]
  simp only [List.mem_map, exists_exists_and_eq_and]

end WorkflowDefinition

/-! ## Which workflows can be run -/

/-- A document with two nodes, by what they depend on. -/
def twoNodes (first second : List Value) : Value :=
  .dict [("schema_version", .str "1.0"), ("workflow_id", .str "workflow.sample"),
    ("version", .str "1.0.0"),
    ("nodes", .list
      [.dict [("node_id", .str "plan"), ("agent_role", .str "planner"), ("depends_on", .list first)],
        .dict [("node_id", .str "execute"), ("agent_role", .str "executor"),
          ("depends_on", .list second)]])]

/-- The definition that is loaded of `twoNodes`, by what the nodes depend on. -/
def twoNodesDefinition (first second : List String) : WorkflowDefinition where
  schemaVersion := "1.0"
  workflowId := "workflow.sample"
  version := "1.0.0"
  nodes := [{ nodeId := "plan", agentRole := "planner", dependsOn := first },
    { nodeId := "execute", agentRole := "executor", dependsOn := second }]

theorem fromDict_inOrder :
    WorkflowDefinition.fromDict (twoNodes [] [.str "plan"]) =
      .ok (twoNodesDefinition [] ["plan"]) := by
  have hvalid : (twoNodesDefinition [] ["plan"]).validate = .ok () :=
    WorkflowDefinition.validate_eq_ok.mpr ⟨rfl, by decide, by decide⟩
  show (twoNodesDefinition [] ["plan"]).validate >>= (fun _ ↦ .ok _) = _
  rw [hvalid]
  rfl

theorem acyclic_inOrder : ¬∃ n, TransGen (PayloadDependsOn (twoNodes [] [.str "plan"])) n n := by
  have hdepends : ∀ n m, PayloadDependsOn (twoNodes [] [.str "plan"]) n m →
      n = "execute" ∧ m = "plan" := by
    intro n m h
    rw [WorkflowDefinition.payloadDependsOn_iff fromDict_inOrder] at h
    simpa [twoNodesDefinition, eq_comm] using h
  have hchain : ∀ n m, TransGen (PayloadDependsOn (twoNodes [] [.str "plan"])) n m →
      n = "execute" ∧ m = "plan" := by
    intro n m h
    induction h with
    | single h => exact hdepends n _ h
    | tail _ h ih => exact ⟨ih.1, (hdepends _ _ h).2⟩
  rintro ⟨n, h⟩
  obtain ⟨hn, hm⟩ := hchain n n h
  exact absurd (hn.symm.trans hm) (by decide)

/-- A text that is not blank and has no blanks around it. -/
def Stripped (s : String) : Prop := strip s = s ∧ s ≠ ""

theorem nonBlank?_eq_some {v : Value} {s : String} :
    nonBlank? v = some s ↔ v = .str s ∧ strip s ≠ "" := by
  rw [nonBlank?, Option.filter_eq_some_iff, decide_eq_true_eq]
  refine and_congr_left fun _ ↦ ?_
  cases v <;> simp [Value.str?]

theorem Stripped.of_nonBlank? {v : Value} {s : String} (h : nonBlank? v = some s) :
    Stripped (strip s) :=
  ⟨strip_strip s, (nonBlank?_eq_some.mp h).2⟩

theorem Stripped.nonBlank? {s : String} (h : Stripped s) : Value.nonBlank? (.str s) = some s :=
  nonBlank?_eq_some.mpr ⟨rfl, h.1.symm ▸ h.2⟩

theorem Stripped.of_nonBlankList? {v : Value} {l : List String} (h : nonBlankList? v = some l) :
    ∀ s ∈ l.map strip, Stripped s := by
  obtain ⟨items, -, hitems⟩ := Option.bind_eq_some_iff.mp h
  clear h
  induction items generalizing l with
  | nil =>
    obtain rfl := Option.some.inj hitems
    exact fun s hs ↦ absurd hs List.not_mem_nil
  | cons item items ih =>
    rw [List.mapM_cons] at hitems
    obtain ⟨first, hfirst, hitems⟩ := Option.bind_eq_some_iff.mp hitems
    obtain ⟨rest, hrest, hl⟩ := Option.bind_eq_some_iff.mp hitems
    obtain rfl := Option.some.inj hl
    exact List.forall_mem_cons.mpr ⟨.of_nonBlank? hfirst, ih hrest⟩

theorem Stripped.nonBlankList? {l : List String} (h : ∀ s ∈ l, Stripped s) :
    Schemas.nonBlankList? (.list (l.map .str)) = some l := by
  show (l.map Value.str).mapM Value.nonBlank? = some l
  induction l with
  | nil => rfl
  | cons first l ih =>
    obtain ⟨hfirst, hrest⟩ := List.forall_mem_cons.mp h
    rw [List.map_cons, List.mapM_cons, hfirst.nonBlank?, ih hrest]
    rfl

theorem Stripped.map_strip {l : List String} (h : ∀ s ∈ l, Stripped s) : l.map strip = l :=
  (List.map_congr_left fun s hs ↦ (h s hs).1).trans (List.map_id' l)

/-- What is read of a node: the texts are stripped, and the numbers are in their bounds. -/
structure WorkflowNode.Normal (node : WorkflowNode) : Prop where
  nodeId : Stripped node.nodeId
  agentRole : Stripped node.agentRole
  dependsOn : ∀ dep ∈ node.dependsOn, Stripped dep
  timeoutS_pos : 0 < node.timeoutS
  retryLimit_nonneg : 0 ≤ node.retryLimit

theorem WorkflowNode.normal_of_fromDict {payload : Value} {node : WorkflowNode}
    (h : WorkflowNode.fromDict payload = .ok node) : node.Normal := by
  simp only [WorkflowNode.fromDict, bind_eq_ok, require_eq_ok] at h
  obtain ⟨entries, -, nodeId, hnodeId, agentRole, hagentRole, dependsOn, hdependsOn, timeoutS,
    htimeoutS, retryLimit, hretryLimit, metadata, -, hnode⟩ := h
  obtain rfl := Except.ok.inj hnode
  obtain ⟨_, -, hnodeId⟩ := Option.bind_eq_some_iff.mp hnodeId
  obtain ⟨_, -, hagentRole⟩ := Option.bind_eq_some_iff.mp hagentRole
  exact
    { nodeId := .of_nonBlank? hnodeId
      agentRole := .of_nonBlank? hagentRole
      dependsOn := .of_nonBlankList? hdependsOn
      timeoutS_pos := of_decide_eq_true (Option.filter_eq_some_iff.mp htimeoutS).2
      retryLimit_nonneg := of_decide_eq_true (Option.filter_eq_some_iff.mp hretryLimit).2 }

theorem WorkflowNode.fromDict_toDict {node : WorkflowNode} (h : node.Normal) :
    WorkflowNode.fromDict node.toDict = .ok node := by
  simp only [WorkflowNode.fromDict, WorkflowNode.toDict, Value.dict?, bind_eq_ok, require_eq_ok,
    Option.some_inj, exists_eq_left', Value.lookup_cons, String.reduceEq, if_true, if_false,
    Option.bind_some]
  refine ⟨node.nodeId, h.nodeId.nonBlank?, node.agentRole, h.agentRole.nonBlank?,
    node.dependsOn, Stripped.nonBlankList? h.dependsOn, node.timeoutS, ?_, node.retryLimit, ?_,
    node.metadata, rfl, ?_⟩
  · exact Option.filter_eq_some_iff.mpr ⟨rfl, decide_eq_true h.timeoutS_pos⟩
  · exact Option.filter_eq_some_iff.mpr ⟨rfl, decide_eq_true h.retryLimit_nonneg⟩
  · rw [h.nodeId.1, h.agentRole.1, Stripped.map_strip h.dependsOn]
    rfl

theorem WorkflowNode.normal_of_forall₂ {raws : List Value} {nodes : List WorkflowNode}
    (h : List.Forall₂ (fun raw node ↦ WorkflowNode.fromDict raw = .ok node) raws nodes) :
    ∀ node ∈ nodes, node.Normal := by
  induction h with
  | nil => exact fun node hnode ↦ absurd hnode List.not_mem_nil
  | cons hfirst _ ih => exact List.forall_mem_cons.mpr ⟨normal_of_fromDict hfirst, ih⟩

theorem WorkflowNode.mapM_fromDict_toDict {nodes : List WorkflowNode}
    (h : ∀ node ∈ nodes, node.Normal) :
    (nodes.map WorkflowNode.toDict).mapM WorkflowNode.fromDict = .ok nodes := by
  induction nodes with
  | nil => rfl
  | cons first nodes ih =>
    obtain ⟨hfirst, hrest⟩ := List.forall_mem_cons.mp h
    rw [List.map_cons, List.mapM_cons, fromDict_toDict hfirst, ih hrest]
    rfl

namespace WorkflowDefinition

/-- What is read of a definition: its texts and nodes are as they should be, there is a node, and
`validate` lets it pass. -/
structure Normal (definition : WorkflowDefinition) : Prop where
  schemaVersion : Stripped definition.schemaVersion
  workflowId : Stripped definition.workflowId
  version : Stripped definition.version
  nodes_ne_nil : definition.nodes ≠ []
  nodes : ∀ node ∈ definition.nodes, node.Normal
  valid : definition.validate = .ok ()

theorem normal_of_fromDict {payload : Value} {definition : WorkflowDefinition}
    (h : fromDict payload = .ok definition) : definition.Normal := by
  simp only [fromDict, bind_eq_ok, require_eq_ok] at h
  obtain ⟨entries, -, schemaVersion, hschema, workflowId, hworkflow, version, hversion, raws, hraws,
    metadata, -, nodes, hnodes, _, hvalid, hdefinition⟩ := h
  obtain rfl := Except.ok.inj hdefinition
  obtain ⟨_, -, hschema⟩ := Option.bind_eq_some_iff.mp hschema
  obtain ⟨_, -, hworkflow⟩ := Option.bind_eq_some_iff.mp hworkflow
  obtain ⟨_, -, hversion⟩ := Option.bind_eq_some_iff.mp hversion
  have hread := mapM_eq_ok hnodes
  refine ⟨.of_nonBlank? hschema, .of_nonBlank? hworkflow, .of_nonBlank? hversion, ?_,
    WorkflowNode.normal_of_forall₂ hread, hvalid⟩
  rintro (rfl : nodes = [])
  cases hread
  exact absurd (Option.filter_eq_some_iff.mp hraws).2 nofun

theorem fromDict_toDict {definition : WorkflowDefinition} (h : definition.Normal) :
    fromDict definition.toDict = .ok definition := by
  simp only [fromDict, toDict, Value.dict?, bind_eq_ok, require_eq_ok, Option.some_inj,
    exists_eq_left', Value.lookup_cons, String.reduceEq, if_true, if_false, Option.bind_some]
  refine ⟨definition.schemaVersion, h.schemaVersion.nonBlank?, definition.workflowId,
    h.workflowId.nonBlank?, definition.version, h.version.nonBlank?,
    definition.nodes.map WorkflowNode.toDict, ?_, definition.metadata, rfl, definition.nodes,
    WorkflowNode.mapM_fromDict_toDict h.nodes, (), ?_, ?_⟩
  · refine Option.filter_eq_some_iff.mpr ⟨rfl, ?_⟩
    rw [List.isEmpty_eq_false_iff.mpr (mt List.map_eq_nil_iff.mp h.nodes_ne_nil)]
    rfl
  · rw [h.schemaVersion.1, h.workflowId.1, h.version.1]
    exact h.valid
  · rw [h.schemaVersion.1, h.workflowId.1, h.version.1]
    rfl

end WorkflowDefinition

/-- **The round trip.**  What is read of a document is written and read back the same. -/
theorem workflow_round_trip (payload : Value) (definition : WorkflowDefinition)
    (h : WorkflowDefinition.fromDict payload = .ok definition) :
    WorkflowDefinition.fromDict definition.toDict = .ok definition :=
  WorkflowDefinition.fromDict_toDict (WorkflowDefinition.normal_of_fromDict h)

/-- The document with two nodes in order, read, written and read back. -/
theorem workflow_round_trip_inOrder :
    WorkflowDefinition.fromDict (twoNodesDefinition [] ["plan"]).toDict =
      .ok (twoNodesDefinition [] ["plan"]) :=
  workflow_round_trip (twoNodes [] [.str "plan"]) _ fromDict_inOrder

end Schemas
end ExoBrain
