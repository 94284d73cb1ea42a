import Mathlib.Data.Finset.Card
import ExoBrain.Lib.Dict
import ExoBrain.Lib.Precedence

/-!
# Task graphs

`task_graph.py` describes a background job as a list of nodes, each with the ids of the nodes it
depends on.  The constructor of `TaskGraph` checks that the ids are distinct, that every dependency
names a node, and, by a depth-first search, that nothing depends on itself.

* `TaskNode` is the node without its `handler` and without the `metadata` that nothing reads.
* `dfs` is the search, with an allowance for the depth of the recursion; `TaskGraph.new` gives it
  more than any path through the graph needs.
* `TaskGraph` carries what the constructor checked: the nodes are filed under their ids, the
  dependencies are known, and the dependency relation is well-founded.
* `new_accepts_iff` says which nodes the constructor accepts, and that it always comes to an end.
-/

set_option autoImplicit false

namespace ExoBrain
namespace Core

open Relation

/-- `TaskNode`. -/
structure TaskNode where
  nodeId : String
  dependsOn : List String := []
  retryLimit : Int := 0
  timeoutMs : Int := 30000
deriving DecidableEq, Repr

/-- The errors of the constructor. -/
inductive TaskGraphError
  /-- `TaskGraph contains duplicate node_id values` -/
  | duplicateNodeIds
  /-- `Task node '<node_id>' depends on unknown nodes: <unknown>` -/
  | unknownDependencies (nodeId : String) (unknown : List String)
  /-- `Cycle detected at task node '<node_id>'` -/
  | cycleDetected (nodeId : String)
  /-- The recursion went deeper than it may. -/
  | recursionDepth
deriving DecidableEq, Repr

namespace TaskGraph

/-! ## The checks of the constructor -/

/-- `{node.node_id: node for node in nodes}`. -/
def nodesById (nodes : List TaskNode) : Dict String TaskNode :=
  nodes.foldl (fun byId node ↦ byId.set node.nodeId node) Dict.empty

/-- The ids the node of the given id depends on. -/
def dependencies (nodes : Dict String TaskNode) (nodeId : String) : List String :=
  match nodes.get? nodeId with
  | some node => node.dependsOn
  | none => []

/-- The check of one node in `_validate_dependencies`. -/
def validateNode (nodes : Dict String TaskNode) (node : TaskNode) : Except TaskGraphError Unit :=
  let unknown := node.dependsOn.filter (· ∉ nodes.keys)
  if unknown ≠ [] then .error (.unknownDependencies node.nodeId unknown) else .ok ()

/-- `_validate_dependencies`. -/
def validateDependencies (nodes : Dict String TaskNode) : Except TaskGraphError Unit :=
  forM (nodes.entries.map Prod.snd) (validateNode nodes)

/-- What the search keeps track of. -/
structure Search where
  visited : Finset String
  active : Finset String

/-- `dfs` of `_validate_acyclic`. -/
def dfs (nodes : Dict String TaskNode) : (depth : Nat) → (nodeId : String) → Search →
    Except TaskGraphError Search
  | depth, nodeId, st =>
    if nodeId ∈ st.active then .error (.cycleDetected nodeId)
    else if nodeId ∈ st.visited then .ok st
    else
      match depth with
      | 0 => .error .recursionDepth
      | depth + 1 =>
        match (dependencies nodes nodeId).foldlM (fun st dep ↦ dfs nodes depth dep st)
            { st with active := insert nodeId st.active } with
        | .error e => .error e
        | .ok st =>
          .ok { visited := insert nodeId st.visited, active := st.active.erase nodeId }

/-- `_validate_acyclic`. -/
def validateAcyclic (nodes : Dict String TaskNode) : Except TaskGraphError Search :=
  nodes.keys.foldlM (fun st nodeId ↦ dfs nodes (nodes.keys.length + 1) nodeId st) ⟨∅, ∅⟩

/-! ## What the checks show -/

/-- `m` is a dependency of `n`. -/
def DependsOn (nodes : Dict String TaskNode) (n m : String) : Prop := m ∈ dependencies nodes n

theorem dependencies_of_get? {nodes : Dict String TaskNode} {n : String} {node : TaskNode}
    (h : nodes.get? n = some node) : dependencies nodes n = node.dependsOn := by
  rw [dependencies, h]

theorem mem_keys_of_dependsOn {nodes : Dict String TaskNode} {n m : String}
    (h : DependsOn nodes n m) : n ∈ nodes.keys := by
  rw [DependsOn, dependencies] at h
  split at h
  · rename_i node hnode
    exact Dict.mem_keys_iff.mpr ⟨node, hnode⟩
  · exact absurd h List.not_mem_nil

/-- The nodes are filed under their own ids. -/
theorem nodeId_nodesById (nodes : List TaskNode) :
    ∀ n node, (nodesById nodes).get? n = some node → node.nodeId = n := by
  have hfold : ∀ byId : Dict String TaskNode, (∀ n node, byId.get? n = some node → node.nodeId = n) →
      ∀ n node, (nodes.foldl (fun byId node ↦ byId.set node.nodeId node) byId).get? n =
        some node → node.nodeId = n := by
    induction nodes with
    | nil => exact fun byId h ↦ h
    | cons first nodes ih =>
      intro byId h
      refine ih _ fun n node hnode ↦ ?_
      rw [Dict.get?_set] at hnode
      split at hnode
      · rename_i hn
        rw [hn, ← Option.some.inj hnode]
      · exact h n node hnode
  exact hfold _ fun n node hnode ↦ by simp at hnode

/-- A loop of checks that raises nothing has checked every item. -/
theorem forM_eq_ok {α ε : Type} {check : α → Except ε Unit} {l : List α}
    (h : forM l check = .ok ()) : ∀ x ∈ l, check x = .ok () := by
  induction l with
  | nil => exact fun x hx ↦ absurd hx List.not_mem_nil
  | cons first l ih =>
    rw [List.forM_cons] at h
    cases hfirst : check first with
    | error e =>
      rw [hfirst] at h
      exact nomatch h
    | ok _ =>
      rw [hfirst] at h
      exact List.forall_mem_cons.mpr ⟨hfirst, ih h⟩

/-- Dependencies that pass the check name nodes. -/
theorem mem_keys_of_validateDependencies {nodes : Dict String TaskNode}
    (h : validateDependencies nodes = .ok ()) {n m : String} (hnm : DependsOn nodes n m) :
    m ∈ nodes.keys := by
  obtain ⟨node, hnode⟩ := Dict.mem_keys_iff.mp (mem_keys_of_dependsOn hnm)
  rw [DependsOn, dependencies_of_get? hnode] at hnm
  have hchecked : validateNode nodes node = .ok () :=
    forM_eq_ok h node (List.mem_map.mpr ⟨(n, node), Dict.mem_entries_iff.mpr hnode, rfl⟩)
  by_contra hunknown
  have hmem : m ∈ node.dependsOn.filter (· ∉ nodes.keys) :=
    List.mem_filter.mpr ⟨hnm, decide_eq_true hunknown⟩
  rw [validateNode, if_pos (List.ne_nil_of_mem hmem)] at hchecked
  exact nomatch hchecked

/-- Nothing can be walked back from the node forever. -/
abbrev Grounded (nodes : Dict String TaskNode) (n : String) : Prop :=
  Acc (fun m n ↦ DependsOn nodes n m) n

/-- What a step of the search achieves for the ids it is sent to: they are visited, and whatever is
visited is grounded if it was so before. -/
def Searched (nodes : Dict String TaskNode) (ids : List String) (st st' : Search) : Prop :=
  (∀ n ∈ st.visited, Grounded nodes n) →
    (∀ n ∈ st'.visited, Grounded nodes n) ∧ st.visited ⊆ st'.visited ∧ ∀ n ∈ ids, n ∈ st'.visited

/-- A loop of searches achieves it for all its ids. -/
theorem searched_foldlM {nodes : Dict String TaskNode}
    {search : String → Search → Except TaskGraphError Search}
    (hsearch : ∀ n st st', search n st = .ok st' → Searched nodes [n] st st') {ids : List String}
    {st st' : Search} (h : ids.foldlM (fun st n ↦ search n st) st = .ok st') :
    Searched nodes ids st st' := by
  induction ids generalizing st with
  | nil =>
    obtain rfl := Except.ok.inj h
    exact fun hst ↦ ⟨hst, Finset.Subset.refl _, fun n hn ↦ absurd hn List.not_mem_nil⟩
  | cons first ids ih =>
    intro hst
    rw [List.foldlM_cons] at h
    cases hfirst : search first st with
    | error e =>
      rw [hfirst] at h
      exact nomatch h
    | ok next =>
      rw [hfirst] at h
      obtain ⟨hnext, hsub, hvisited⟩ := hsearch first st next hfirst hst
      obtain ⟨hlast, hsub', hrest⟩ := ih h hnext
      refine ⟨hlast, hsub.trans hsub', List.forall_mem_cons.mpr ⟨?_, hrest⟩⟩
      exact hsub' (hvisited first (List.mem_singleton_self first))

/-- **The search visits grounded nodes only.** -/
theorem searched_dfs {nodes : Dict String TaskNode} (depth : Nat) :
    ∀ n st st', dfs nodes depth n st = .ok st' → Searched nodes [n] st st' := by
  induction depth with
  | zero =>
    intro n st st' h hst
    rw [dfs] at h
    split at h
    · exact nomatch h
    · split at h
      · rename_i hvisited
        obtain rfl := Except.ok.inj h
        exact ⟨hst, Finset.Subset.refl _, by simpa using hvisited⟩
      · exact nomatch h
  | succ depth ih =>
    intro n st st' h hst
    rw [dfs] at h
    split at h
    · exact nomatch h
    · split at h
      · rename_i hvisited
        obtain rfl := Except.ok.inj h
        exact ⟨hst, Finset.Subset.refl _, by simpa using hvisited⟩
      · split at h
        · exact nomatch h
        · rename_i last hlast
          obtain rfl := Except.ok.inj h
          obtain ⟨hgrounded, hsub, hdeps⟩ := searched_foldlM ih hlast hst
          -- All that the node depends on is visited now, so it is grounded itself.
          have hn : Grounded nodes n := Acc.intro n fun m hm ↦ hgrounded m (hdeps m hm)
          refine ⟨fun m hm ↦ ?_, hsub.trans (Finset.subset_insert n last.visited), by simp⟩
          rcases Finset.mem_insert.mp hm with rfl | hm
          · exact hn
          · exact hgrounded m hm

/-- A graph that passes the check is well-founded. -/
theorem wellFounded_of_validateAcyclic {nodes : Dict String TaskNode} {st : Search}
    (h : validateAcyclic nodes = .ok st) : WellFounded fun m n ↦ DependsOn nodes n m := by
  obtain ⟨hgrounded, -, hvisited⟩ := searched_foldlM (searched_dfs _) h
    fun n hn ↦ absurd hn (Finset.notMem_empty n)
  refine ⟨fun n ↦ ?_⟩
  by_cases hn : n ∈ nodes.keys
  · exact hgrounded n (hvisited n hn)
  · exact Acc.intro n fun m hm ↦ absurd (mem_keys_of_dependsOn hm) hn

/-! ## What passes the checks -/

/-- A loop of checks none of which raises anything raises nothing. -/
theorem forM_eq_ok_of_forall {α ε : Type} {check : α → Except ε Unit} {l : List α}
    (h : ∀ x ∈ l, check x = .ok ()) : forM l check = .ok () := by
  induction l with
  | nil => rfl
  | cons first l ih =>
    rw [List.forM_cons, h first List.mem_cons_self]
    exact ih fun x hx ↦ h x (List.mem_cons_of_mem first hx)

/-- A loop whose steps succeed in every state with an invariant, and keep it, succeeds. -/
theorem exists_foldlM_eq_ok {α σ ε : Type} {step : σ → α → Except ε σ} {l : List α} {P : σ → Prop}
    (hstep : ∀ x ∈ l, ∀ s, P s → ∃ s', step s x = .ok s' ∧ P s') {s : σ} (h : P s) :
    ∃ s', l.foldlM step s = .ok s' ∧ P s' := by
  induction l generalizing s with
  | nil => exact ⟨s, rfl, h⟩
  | cons first l ih =>
    obtain ⟨s₁, hfirst, h₁⟩ := hstep first List.mem_cons_self s h
    obtain ⟨s₂, hrest, h₂⟩ := ih (fun x hx ↦ hstep x (List.mem_cons_of_mem first hx)) h₁
    refine ⟨s₂, ?_, h₂⟩
    rw [List.foldlM_cons, hfirst]
    exact hrest

/-- What a loop of checks raises, one of the checks raises. -/
theorem exists_of_forM_eq_error {α ε : Type} {check : α → Except ε Unit} {l : List α} {e : ε}
    (h : forM l check = .error e) : ∃ x ∈ l, check x = .error e := by
  induction l with
  | nil => exact nomatch h
  | cons first l ih =>
    rw [List.forM_cons] at h
    cases hfirst : check first with
    | error e' =>
      rw [hfirst] at h
      obtain rfl := Except.error.inj h
      exact ⟨first, List.mem_cons_self, hfirst⟩
    | ok _ =>
      rw [hfirst] at h
      obtain ⟨x, hx, he⟩ := ih h
      exact ⟨x, List.mem_cons_of_mem first hx, he⟩

theorem validateDependencies_ne_recursionDepth (nodes : Dict String TaskNode) :
    validateDependencies nodes ≠ .error .recursionDepth := by
  intro h
  obtain ⟨node, -, hnode⟩ := exists_of_forM_eq_error h
  rw [validateNode] at hnode
  split at hnode <;> cases hnode

theorem validateDependencies_of_known {nodes : Dict String TaskNode}
    (hknown : ∀ n m, DependsOn nodes n m → m ∈ nodes.keys) :
    validateDependencies nodes = .ok () := by
  refine forM_eq_ok_of_forall fun node hnode ↦ ?_
  obtain ⟨⟨n, node⟩, hentry, rfl⟩ := List.mem_map.mp hnode
  have hnone : node.dependsOn.filter (· ∉ nodes.keys) = [] := by
    rw [List.filter_eq_nil_iff]
    intro m hm
    rw [decide_eq_true_eq, not_not]
    refine hknown n m ?_
    rw [DependsOn, dependencies_of_get? (Dict.mem_entries_iff.mp hentry)]
    exact hm
  rw [validateNode, if_neg (not_not.mpr hnone)]

/-- The nodes that the search is in the middle of are no more than there are nodes. -/
theorem card_le_length_keys {nodes : Dict String TaskNode} {active : Finset String}
    (hactive : ∀ a ∈ active, a ∈ nodes.keys) : active.card ≤ nodes.keys.length :=
  calc active.card ≤ nodes.keys.toFinset.card :=
        Finset.card_le_card fun a ha ↦ List.mem_toFinset.mpr (hactive a ha)
    _ ≤ nodes.keys.length := List.toFinset_card_le nodes.keys

/-- A search that is in the middle of the same nodes after it as before it, or that has raised, but
not because it went too deep. -/
def Settles (active : Finset String) : Except TaskGraphError Search → Prop
  | .ok st => st.active = active
  | .error e => e ≠ .recursionDepth

theorem settles_foldlM {search : Search → String → Except TaskGraphError Search}
    {active : Finset String} {ids : List String}
    (hsearch : ∀ n ∈ ids, ∀ st : Search, st.active = active → Settles active (search st n))
    {st : Search} (hst : st.active = active) : Settles active (ids.foldlM search st) := by
  induction ids generalizing st with
  | nil => exact hst
  | cons first ids ih =>
    have hfirst := hsearch first List.mem_cons_self st hst
    rw [List.foldlM_cons]
    cases hs : search st first with
    | error e =>
      rw [hs] at hfirst
      exact hfirst
    | ok next =>
      rw [hs] at hfirst
      exact ih (fun n hn ↦ hsearch n (List.mem_cons_of_mem first hn)) hfirst

/-- **The search never goes too deep**, through cycles or not: each node that it is in the middle of
takes one level of the recursion, and it is sent no deeper than to a node it is not yet in the
middle of. -/
theorem settles_dfs {nodes : Dict String TaskNode}
    (hknown : ∀ n m, DependsOn nodes n m → m ∈ nodes.keys) (active : Finset String) (depth : Nat)
    {n : String} (hn : n ∈ nodes.keys) (hactive : ∀ a ∈ active, a ∈ nodes.keys)
    (hdepth : nodes.keys.length < depth + active.card) (st : Search) (hst : st.active = active) :
    Settles active (dfs nodes depth n st) := by
  induction depth generalizing active n st with
  | zero =>
    have hle := card_le_length_keys hactive
    omega
  | succ depth ih =>
    rw [dfs, hst]
    by_cases hnot : n ∈ active
    · rw [if_pos hnot]
      exact nofun
    rw [if_neg hnot]
    by_cases hvisited : n ∈ st.visited
    · rw [if_pos hvisited]
      exact hst
    rw [if_neg hvisited]
    have hdeps : ∀ m ∈ dependencies nodes n, ∀ s : Search, s.active = insert n active →
        Settles (insert n active) (dfs nodes depth m s) := by
      intro m (hm : DependsOn nodes n m) s hs
      refine ih (insert n active) (hknown n m hm) (fun a ha ↦ ?_) ?_ s hs
      · rcases Finset.mem_insert.mp ha with rfl | ha
        · exact hn
        · exact hactive a ha
      · rw [Finset.card_insert_of_notMem hnot]
        omega
    have hlast : Settles (insert n active) ((dependencies nodes n).foldlM
        (fun st dep ↦ dfs nodes depth dep st) { st with active := insert n active }) :=
      settles_foldlM hdeps rfl
    cases hs : (dependencies nodes n).foldlM (fun st dep ↦ dfs nodes depth dep st)
      { st with active := insert n active } with
    | error e =>
      rw [hs] at hlast
      exact hlast
    | ok last =>
      rw [hs] at hlast
      show last.active.erase n = active
      rw [show last.active = insert n active from hlast, Finset.erase_insert hnot]

theorem settles_validateAcyclic {nodes : Dict String TaskNode}
    (hknown : ∀ n m, DependsOn nodes n m → m ∈ nodes.keys) :
    Settles ∅ (validateAcyclic nodes) :=
  settles_foldlM (fun _ hn st hst ↦ settles_dfs hknown ∅ _ hn
    (fun a ha ↦ absurd ha (Finset.notMem_empty a)) (by simp) st hst) rfl

/-- **The search gets through a graph without cycles.**  Each node that it is in the middle of leads
to the one it is sent to, so that one is not among them, and there are as many levels of the
recursion left as there are other nodes. -/
theorem exists_dfs_eq_ok {nodes : Dict String TaskNode}
    (hknown : ∀ n m, DependsOn nodes n m → m ∈ nodes.keys)
    (hacyclic : ∀ n, ¬TransGen (DependsOn nodes) n n) (active : Finset String) (depth : Nat)
    {n : String} (hn : n ∈ nodes.keys)
    (hactive : ∀ a ∈ active, a ∈ nodes.keys ∧ TransGen (DependsOn nodes) a n)
    (hdepth : nodes.keys.length < depth + active.card) (st : Search) (hst : st.active = active) :
    ∃ st', dfs nodes depth n st = .ok st' ∧ st'.active = active := by
  induction depth generalizing active n st with
  | zero =>
    have hle := card_le_length_keys fun a ha ↦ (hactive a ha).1
    omega
  | succ depth ih =>
    have hnot : n ∉ active := fun hmem ↦ hacyclic n (hactive n hmem).2
    rw [dfs, hst, if_neg hnot]
    by_cases hvisited : n ∈ st.visited
    · exact ⟨st, if_pos hvisited, hst⟩
    rw [if_neg hvisited]
    have hdeps : ∀ m ∈ dependencies nodes n, ∀ s : Search, s.active = insert n active →
        ∃ s', dfs nodes depth m s = .ok s' ∧ s'.active = insert n active := by
      intro m (hm : DependsOn nodes n m) s hs
      refine ih (insert n active) (hknown n m hm) (fun a ha ↦ ?_) ?_ s hs
      · rcases Finset.mem_insert.mp ha with rfl | ha
        · exact ⟨hn, .single hm⟩
        · exact ⟨(hactive a ha).1, (hactive a ha).2.tail hm⟩
      · rw [Finset.card_insert_of_notMem hnot]
        omega
    obtain ⟨last, hlast, hlastActive⟩ := exists_foldlM_eq_ok hdeps
      (s := { st with active := insert n active }) rfl
    rw [hlast]
    refine ⟨_, rfl, ?_⟩
    show last.active.erase n = active
    rw [hlastActive, Finset.erase_insert hnot]

theorem exists_validateAcyclic_eq_ok {nodes : Dict String TaskNode}
    (hknown : ∀ n m, DependsOn nodes n m → m ∈ nodes.keys)
    (hacyclic : ∀ n, ¬TransGen (DependsOn nodes) n n) :
    ∃ st, validateAcyclic nodes = .ok st := by
  have hstep : ∀ n ∈ nodes.keys, ∀ st : Search, st.active = ∅ →
      ∃ st', dfs nodes (nodes.keys.length + 1) n st = .ok st' ∧ st'.active = ∅ := by
    intro n hn st hst
    exact exists_dfs_eq_ok hknown hacyclic ∅ _ hn (fun a ha ↦ absurd ha (Finset.notMem_empty a))
      (by simp) st hst
  obtain ⟨st, hst, -⟩ := exists_foldlM_eq_ok hstep (s := ⟨∅, ∅⟩) rfl
  exact ⟨st, hst⟩

/-- Filed nodes are among the nodes. -/
theorem mem_of_get?_nodesById {nodes : List TaskNode} {n : String} {node : TaskNode}
    (h : (nodesById nodes).get? n = some node) : node ∈ nodes := by
  have hfold : ∀ byId : Dict String TaskNode,
      (nodes.foldl (fun byId node ↦ byId.set node.nodeId node) byId).get? n = some node →
        node ∈ nodes ∨ byId.get? n = some node := by
    clear h
    induction nodes with
    | nil => exact fun byId h ↦ .inr h
    | cons first nodes ih =>
      intro byId h
      rcases ih _ h with hmem | hget
      · exact .inl (List.mem_cons_of_mem first hmem)
      · rw [Dict.get?_set] at hget
        split at hget
        · rw [← Option.some.inj hget]
          exact .inl List.mem_cons_self
        · exact .inr hget
  exact (hfold _ h).resolve_right (by simp)

theorem mem_keys_nodesById {nodes : List TaskNode} {n : String} :
    n ∈ (nodesById nodes).keys ↔ n ∈ nodes.map TaskNode.nodeId := by
  have hfold : ∀ byId : Dict String TaskNode,
      n ∈ (nodes.foldl (fun byId node ↦ byId.set node.nodeId node) byId).keys ↔
        n ∈ nodes.map TaskNode.nodeId ∨ n ∈ byId.keys := by
    induction nodes with
    | nil => simp
    | cons first nodes ih =>
      intro byId
      rw [List.foldl_cons, ih, Dict.mem_keys_set, List.map_cons, List.mem_cons]
      tauto
  have hempty : n ∉ (Dict.empty : Dict String TaskNode).keys := List.not_mem_nil
  exact (hfold Dict.empty).trans (or_iff_left hempty)

/-- No node was overwritten exactly if the ids are distinct. -/
theorem length_keys_nodesById {nodes : List TaskNode} :
    (nodesById nodes).keys.length = nodes.length ↔ (nodes.map TaskNode.nodeId).Nodup := by
  have hsame : (nodesById nodes).keys.toFinset = (nodes.map TaskNode.nodeId).toFinset := by
    ext n
    rw [List.mem_toFinset, List.mem_toFinset, mem_keys_nodesById]
  have hcard : (nodesById nodes).keys.length = (nodes.map TaskNode.nodeId).toFinset.card := by
    rw [← hsame, List.toFinset_card_of_nodup (nodesById nodes).keys_nodup]
  rw [hcard, ← List.length_map TaskNode.nodeId]
  exact Multiset.toFinset_card_eq_card_iff_nodup.trans Multiset.coe_nodup

/-- With distinct ids, what a node depends on is what its entry says. -/
theorem dependsOn_nodesById {nodes : List TaskNode} (hids : (nodes.map TaskNode.nodeId).Nodup)
    {n m : String} :
    DependsOn (nodesById nodes) n m ↔ ∃ node ∈ nodes, node.nodeId = n ∧ m ∈ node.dependsOn := by
  constructor
  · intro h
    obtain ⟨node, hnode⟩ := Dict.mem_keys_iff.mp (mem_keys_of_dependsOn h)
    rw [DependsOn, dependencies_of_get? hnode] at h
    exact ⟨node, mem_of_get?_nodesById hnode, nodeId_nodesById nodes n node hnode, h⟩
  · rintro ⟨node, hnode, rfl, hm⟩
    obtain ⟨filed, hfiled⟩ := Dict.mem_keys_iff.mp
      (mem_keys_nodesById.mpr (List.mem_map_of_mem hnode))
    have hsame : filed = node := List.inj_on_of_nodup_map hids (mem_of_get?_nodesById hfiled) hnode
      (nodeId_nodesById nodes _ filed hfiled)
    rw [DependsOn, dependencies_of_get? hfiled, hsame]
    exact hm

end TaskGraph

/-! ## The graph -/

/-- `TaskGraph`: the nodes under their ids, as its constructor accepted them. -/
structure TaskGraph where
  nodes : Dict String TaskNode
  nodeId_eq : ∀ n node, nodes.get? n = some node → node.nodeId = n
  known : ∀ n m, TaskGraph.DependsOn nodes n m → m ∈ nodes.keys
  acyclic : WellFounded fun m n ↦ TaskGraph.DependsOn nodes n m

namespace TaskGraph

/-- `TaskGraph(nodes)`. -/
def new (nodes : List TaskNode) : Except TaskGraphError TaskGraph :=
  if (nodesById nodes).keys.length ≠ nodes.length then .error .duplicateNodeIds
  else
    match hknown : validateDependencies (nodesById nodes) with
    | .error e => .error e
    | .ok () =>
      match hacyclic : validateAcyclic (nodesById nodes) with
      | .error e => .error e
      | .ok _ =>
        .ok
          { nodes := nodesById nodes
            nodeId_eq := nodeId_nodesById nodes
            known := fun _ _ ↦ mem_keys_of_validateDependencies hknown
            acyclic := wellFounded_of_validateAcyclic hacyclic }

/-- **What the constructor accepts.**  Of nodes with distinct ids and known dependencies, a graph is
built exactly if no chain of dependencies leads from a node back to it. -/
theorem exists_new_eq_ok_iff {nodes : List TaskNode} (hids : (nodes.map TaskNode.nodeId).Nodup)
    (hknown : ∀ n m, DependsOn (nodesById nodes) n m → m ∈ (nodesById nodes).keys) :
    (∃ graph, new nodes = .ok graph) ↔ ∀ n, ¬TransGen (DependsOn (nodesById nodes)) n n := by
  constructor
  · rintro ⟨graph, hgraph⟩ n hcycle
    rw [new, if_neg (not_not.mpr (length_keys_nodesById.mpr hids))] at hgraph
    split at hgraph
    · cases hgraph
    split at hgraph
    · cases hgraph
    rename_i st hst
    have hwf := (wellFounded_of_validateAcyclic hst).transGen
    have hback := transGen_swap.mp hcycle
    exact hwf.asymmetric n n hback hback
  · intro hacyclic
    rw [new, if_neg (not_not.mpr (length_keys_nodesById.mpr hids))]
    obtain ⟨st, hst⟩ := exists_validateAcyclic_eq_ok hknown hacyclic
    split
    · rename_i e he
      rw [validateDependencies_of_known hknown] at he
      cases he
    split
    · rename_i e he
      rw [hst] at he
      cases he
    exact ⟨_, rfl⟩

/-- `m` is a dependency of a node `n` of the list. -/
def Requires (nodes : List TaskNode) (n m : String) : Prop :=
  ∃ node ∈ nodes, node.nodeId = n ∧ m ∈ node.dependsOn

/-- The constructor comes to an end. -/
theorem new_ne_recursionDepth (nodes : List TaskNode) : new nodes ≠ .error .recursionDepth := by
  intro hdeep
  rw [new] at hdeep
  split at hdeep
  · cases hdeep
  split at hdeep
  · rename_i e he
    obtain rfl := Except.error.inj hdeep
    exact validateDependencies_ne_recursionDepth _ he
  · rename_i hknown
    split at hdeep
    · rename_i e he
      have hsettles := settles_validateAcyclic fun n m ↦ mem_keys_of_validateDependencies hknown
      rw [he] at hsettles
      exact hsettles (Except.error.inj hdeep)
    · cases hdeep

/-- What has been checked of a graph that was built. -/
theorem checked_of_new_eq_ok {nodes : List TaskNode} {graph : TaskGraph}
    (h : new nodes = .ok graph) :
    (nodes.map TaskNode.nodeId).Nodup ∧
      ∀ n m, DependsOn (nodesById nodes) n m → m ∈ (nodesById nodes).keys := by
  rw [new] at h
  split at h
  · cases h
  · rename_i hlength
    split at h
    · cases h
    · rename_i hknown
      exact ⟨length_keys_nodesById.mp (not_not.mp hlength),
        fun n m ↦ mem_keys_of_validateDependencies hknown⟩

/-- With distinct ids, what a filed node depends on is filed exactly if what a node of the list
depends on is in the list. -/
theorem known_nodesById_iff {nodes : List TaskNode} (hids : (nodes.map TaskNode.nodeId).Nodup) :
    (∀ n m, DependsOn (nodesById nodes) n m → m ∈ (nodesById nodes).keys) ↔
      ∀ node ∈ nodes, ∀ m ∈ node.dependsOn, m ∈ nodes.map TaskNode.nodeId := by
  simp only [dependsOn_nodesById hids, mem_keys_nodesById]
  constructor
  · exact fun h node hnode m hm ↦ h node.nodeId m ⟨node, hnode, rfl, hm⟩
  · rintro h n m ⟨node, hnode, -, hm⟩
    exact h node hnode m hm

/-- `node_ids`. -/
def nodeIds (graph : TaskGraph) : List String := graph.nodes.keys

/-- `ready_nodes`, under their ids. -/
def readyNodes (graph : TaskGraph) (completed running failed : Finset String) :
    Dict String TaskNode :=
  graph.nodes.filter fun nodeId node ↦
    !(nodeId ∈ completed || nodeId ∈ running || nodeId ∈ failed) &&
      node.dependsOn.all (· ∈ completed)

/-- `m` is a dependency of `n`. -/
def Dep (graph : TaskGraph) (n m : String) : Prop := DependsOn graph.nodes n m

theorem dep_iff {graph : TaskGraph} {n m : String} {node : TaskNode}
    (h : graph.nodes.get? n = some node) : graph.Dep n m ↔ m ∈ node.dependsOn := by
  rw [Dep, DependsOn, dependencies_of_get? h]

/-- The nodes that are ready. -/
theorem get?_readyNodes {graph : TaskGraph} {completed running failed : Finset String} {n : String}
    {node : TaskNode} :
    (graph.readyNodes completed running failed).get? n = some node ↔
      graph.nodes.get? n = some node ∧ n ∉ completed ∧ n ∉ running ∧ n ∉ failed ∧
        ∀ m, graph.Dep n m → m ∈ completed := by
  rw [readyNodes, Dict.get?_filter, Option.filter_eq_some_iff]
  refine and_congr_right fun hnode ↦ ?_
  simp only [dep_iff hnode]
  simp [and_assoc]

end TaskGraph
end Core
end ExoBrain
