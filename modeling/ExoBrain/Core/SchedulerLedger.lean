import ExoBrain.Core.Scheduler

/-!
# The books of the scheduler

Between two waves, everything `execute` knows is in its outcomes and its four sets.  `Ledger.Sound`
says what they have to do with the graph: nothing is completed, running or failed before its
dependencies are completed, the cancelled nodes are exactly those that depend, directly or not, on
a node that failed in this run, and every node has the outcome that its set stands for.

The one step with an argument in it is a failure (`markDownstreamCancelled_spec`).  It happens in
the middle of the outcomes of a wave, while nodes of the same wave are still without one.  The
fixpoint loop only looks at nodes without an outcome, so it has to be shown that it does not take
one of those, and that it does not have to go through a node that has one.  Both hold because
whatever depends on a node that is not completed was never started.
-/

set_option autoImplicit false

namespace ExoBrain
namespace Core

open Relation

variable {α : Type}

/-! ## `_mark_downstream_cancelled` -/

namespace TaskGraph

variable {graph : TaskGraph} {failedNodeId : String}

/-- The outcome of a node that is given up. -/
def cancelledOutcome (nodeId : String) : TaskOutcome α :=
  { nodeId := nodeId, status := .cancelled, reasonCode := "UPSTREAM_FAILED" }

/-- The test of the inner loop. -/
def Triggered (graph : TaskGraph) (failedNodeId : String) (cancelled : Finset String) (n : String) :
    Prop :=
  graph.Dep n failedNodeId ∨ ∃ m, graph.Dep n m ∧ m ∈ cancelled

theorem cancelNode_of_triggered {st : Cancelling α} {n : String}
    (h : graph.Triggered failedNodeId st.cancelled n) :
    graph.cancelNode failedNodeId st n =
      { pendingIds := st.pendingIds.erase n
        cancelled := insert n st.cancelled
        outcomes := st.outcomes.set n (cancelledOutcome n)
        changed := true } := by
  rw [cancelNode]
  exact if_pos h

theorem cancelNode_of_not_triggered {st : Cancelling α} {n : String}
    (h : ¬graph.Triggered failedNodeId st.cancelled n) :
    graph.cancelNode failedNodeId st n = st := by
  rw [cancelNode]
  exact if_neg h

/-- What the loops keep true, with `l` the books before and `pending` the ids they begin with. -/
structure CancelInv (graph : TaskGraph) (failedNodeId : String) (l : Ledger α)
    (pending : List String) (st : Cancelling α) : Prop where
  nodup : st.pendingIds.Nodup
  sub : ∀ n ∈ st.pendingIds, n ∈ pending
  cancelled_iff : ∀ n, n ∈ st.cancelled ↔ n ∈ l.cancelled ∨ n ∈ pending ∧ n ∉ st.pendingIds
  downstream : ∀ n ∈ st.cancelled, n ∈ l.cancelled ∨ TransGen graph.Dep n failedNodeId
  outcomes : ∀ n, st.outcomes.get? n =
    if n ∈ pending ∧ n ∉ st.pendingIds then some (cancelledOutcome n) else l.outcomes.get? n

theorem CancelInv.cancelNode {l : Ledger α} {pending : List String} {st : Cancelling α}
    (h : CancelInv graph failedNodeId l pending st)
    (hclosed : ∀ n m, graph.Dep n m → m ∈ l.cancelled → n ∈ l.cancelled) {n : String}
    (hn : n ∈ st.pendingIds) :
    CancelInv graph failedNodeId l pending (graph.cancelNode failedNodeId st n) := by
  by_cases htriggered : graph.Triggered failedNodeId st.cancelled n
  · rw [cancelNode_of_triggered htriggered]
    have hmem : ∀ m, m ∈ st.pendingIds.erase n ↔ m ≠ n ∧ m ∈ st.pendingIds := fun m ↦
      h.nodup.mem_erase_iff
    refine ⟨h.nodup.erase n, fun m hm ↦ h.sub m ((hmem m).mp hm).2, fun m ↦ ?_, fun m hm ↦ ?_,
      fun m ↦ ?_⟩
    · rw [Finset.mem_insert, h.cancelled_iff, hmem]
      by_cases hmn : m = n
      · subst hmn
        simp [h.sub m hn]
      · simp [hmn]
    · rcases Finset.mem_insert.mp hm with rfl | hm
      · rcases htriggered with hdep | ⟨k, hdep, hk⟩
        · exact .inr (.single hdep)
        · rcases h.downstream k hk with hold | hreach
          · exact .inl (hclosed m k hdep hold)
          · exact .inr (.head hdep hreach)
      · exact h.downstream m hm
    · simp only [Dict.get?_set, h.outcomes, hmem]
      by_cases hmn : m = n
      · subst hmn
        simp [h.sub m hn]
      · simp [hmn]
  · rwa [cancelNode_of_not_triggered htriggered]

/-- One pass over ids that are pending: it keeps the invariant, it takes ids out if it changes
anything, and otherwise there was nothing to do. -/
theorem CancelInv.foldl {l : Ledger α} {pending : List String}
    (hclosed : ∀ n m, graph.Dep n m → m ∈ l.cancelled → n ∈ l.cancelled) {todo : List String}
    {st : Cancelling α} (h : CancelInv graph failedNodeId l pending st) (hnodup : todo.Nodup)
    (htodo : ∀ n ∈ todo, n ∈ st.pendingIds) :
    let st' := todo.foldl (graph.cancelNode failedNodeId) st
    CancelInv graph failedNodeId l pending st' ∧
      (st'.changed = false → st' = st ∧
        ∀ n ∈ todo, ¬graph.Triggered failedNodeId st.cancelled n) ∧
      st'.pendingIds.length ≤ st.pendingIds.length ∧
      (st.changed = false → st'.changed = true →
        st'.pendingIds.length < st.pendingIds.length) := by
  induction todo generalizing st with
  | nil =>
    refine ⟨h, fun _ ↦ ⟨rfl, fun n hn ↦ absurd hn List.not_mem_nil⟩, Nat.le_refl _, ?_⟩
    intro hfalse htrue
    exact nomatch hfalse.symm.trans htrue
  | cons first todo ih =>
    rw [List.nodup_cons] at hnodup
    obtain ⟨hfirst, hrest⟩ := List.forall_mem_cons.mp htodo
    by_cases htriggered : graph.Triggered failedNodeId st.cancelled first
    · have hstep := cancelNode_of_triggered htriggered
      have hlater : ∀ n ∈ todo, n ∈ (graph.cancelNode failedNodeId st first).pendingIds := by
        intro n hn
        rw [hstep]
        refine (List.mem_erase_of_ne ?_).mpr (hrest n hn)
        rintro rfl
        exact hnodup.1 hn
      have hlength : (graph.cancelNode failedNodeId st first).pendingIds.length <
          st.pendingIds.length := by
        rw [hstep]
        show (st.pendingIds.erase first).length < st.pendingIds.length
        have herase := List.length_erase_add_one hfirst
        omega
      obtain ⟨hinv, hsame, hle, -⟩ := ih (h.cancelNode hclosed hfirst) hnodup.2 hlater
      refine ⟨hinv, fun hunchanged ↦ ?_, hle.trans hlength.le, fun _ _ ↦ hle.trans_lt hlength⟩
      have hchanged : (graph.cancelNode failedNodeId st first).changed = true := by rw [hstep]
      rw [List.foldl_cons, (hsame hunchanged).1] at hunchanged
      exact nomatch hunchanged.symm.trans hchanged
    · rw [List.foldl_cons, cancelNode_of_not_triggered htriggered]
      obtain ⟨hinv, hsame, hle, hlt⟩ := ih h hnodup.2 hrest
      refine ⟨hinv, fun hunchanged ↦ ?_, hle, hlt⟩
      obtain ⟨heq, hnone⟩ := hsame hunchanged
      exact ⟨heq, List.forall_mem_cons.mpr ⟨htriggered, hnone⟩⟩

/-- **The loop ends at a fixpoint.** -/
theorem CancelInv.cancelLoop {l : Ledger α} {pending : List String}
    (hclosed : ∀ n m, graph.Dep n m → m ∈ l.cancelled → n ∈ l.cancelled) (turns : Nat)
    {st : Cancelling α} (h : CancelInv graph failedNodeId l pending st)
    (hturns : st.pendingIds.length < turns) :
    let st' := graph.cancelLoop failedNodeId turns st
    CancelInv graph failedNodeId l pending st' ∧
      ∀ n ∈ st'.pendingIds, ¬graph.Triggered failedNodeId st'.cancelled n := by
  induction turns generalizing st with
  | zero => exact absurd hturns (Nat.not_lt_zero _)
  | succ turns ih =>
    have hstart : CancelInv graph failedNodeId l pending { st with changed := false } :=
      ⟨h.nodup, h.sub, h.cancelled_iff, h.downstream, h.outcomes⟩
    obtain ⟨hinv, hsame, -, hlt⟩ := hstart.foldl hclosed h.nodup fun n hn ↦ hn
    intro st'
    have hst' : st' = if (graph.cancelPass failedNodeId st).changed then
        graph.cancelLoop failedNodeId turns (graph.cancelPass failedNodeId st)
      else graph.cancelPass failedNodeId st := rfl
    rw [hst']
    cases hchanged : (graph.cancelPass failedNodeId st).changed with
    | true =>
      rw [if_pos rfl]
      have hshorter : (graph.cancelPass failedNodeId st).pendingIds.length <
          st.pendingIds.length := hlt rfl hchanged
      exact ih hinv (by omega)
    | false =>
      rw [if_neg Bool.false_ne_true]
      obtain ⟨heq, hnone⟩ := hsame hchanged
      refine ⟨hinv, ?_⟩
      have hpass : graph.cancelPass failedNodeId st = { st with changed := false } := heq
      rw [hpass]
      exact hnone

theorem mem_pendingIds {l : Ledger α} {n : String} :
    n ∈ graph.pendingIds l ↔ n ∈ graph.nodes.keys ∧ n ∉ l.outcomes.keys ∧ n ∉ l.cancelled := by
  simp [pendingIds, nodeIds]

/-- At the fixpoint, everything downstream is cancelled. -/
theorem CancelInv.mem_cancelled {l : Ledger α} {st : Cancelling α}
    (h : CancelInv graph failedNodeId l (graph.pendingIds l) st)
    (hfree : ∀ n, TransGen graph.Dep n failedNodeId → n ∈ l.outcomes.keys → n ∈ l.cancelled)
    (hfixpoint : ∀ n ∈ st.pendingIds, ¬graph.Triggered failedNodeId st.cancelled n) {n : String}
    (hreach : TransGen graph.Dep n failedNodeId) : n ∈ st.cancelled := by
  -- A node downstream that is not cancelled before is pending, and triggered in the end.
  have hin : ∀ n, TransGen graph.Dep n failedNodeId →
      graph.Triggered failedNodeId st.cancelled n → n ∈ st.cancelled := by
    intro n hreach htriggered
    rw [h.cancelled_iff]
    by_cases hold : n ∈ l.cancelled
    · exact .inl hold
    · obtain ⟨m, hdep, -⟩ := TransGen.head'_iff.mp hreach
      refine .inr ⟨mem_pendingIds.mpr ⟨mem_keys_of_dependsOn hdep, fun hkey ↦ ?_, hold⟩, ?_⟩
      · exact hold (hfree n hreach hkey)
      · exact fun hpending ↦ hfixpoint n hpending htriggered
  have hall := Precedence.transGen_of_closed
    (P := fun n ↦ n ∈ st.cancelled ∧ TransGen graph.Dep n failedNodeId)
    (fun n hdep ↦ ⟨hin n (.single hdep) (.inl hdep), .single hdep⟩)
    (fun n k hdep hk ↦ ⟨hin n (.head hdep hk.2) (.inr ⟨k, hdep, hk.1⟩), .head hdep hk.2⟩) hreach
  exact hall.1

/-- **What a failure cancels**: everything downstream of it, as long as nothing downstream of it
has an outcome of its own. -/
theorem markDownstreamCancelled_spec {l : Ledger α}
    (hclosed : ∀ n m, graph.Dep n m → m ∈ l.cancelled → n ∈ l.cancelled)
    (hfree : ∀ n, TransGen graph.Dep n failedNodeId → n ∈ l.outcomes.keys → n ∈ l.cancelled) :
    ∃ cancelled outcomes,
      graph.markDownstreamCancelled failedNodeId l =
        { l with cancelled := cancelled, outcomes := outcomes } ∧
      (∀ n, n ∈ cancelled ↔ n ∈ l.cancelled ∨ TransGen graph.Dep n failedNodeId) ∧
      ∀ n, outcomes.get? n =
        if n ∈ cancelled ∧ n ∉ l.cancelled then some (cancelledOutcome n)
        else l.outcomes.get? n := by
  have hstart : CancelInv graph failedNodeId l (graph.pendingIds l)
      ⟨graph.pendingIds l, l.cancelled, l.outcomes, true⟩ :=
    ⟨graph.nodes.keys_nodup.filter _, fun n hn ↦ hn, fun n ↦ by simp, fun n hn ↦ .inl hn,
      fun n ↦ by simp⟩
  obtain ⟨hinv, hfixpoint⟩ := hstart.cancelLoop hclosed _ (Nat.lt_succ_self _)
  refine ⟨_, _, rfl, fun n ↦ ⟨hinv.downstream n, ?_⟩, fun n ↦ ?_⟩
  · rintro (hold | hreach)
    · exact (hinv.cancelled_iff n).mpr (.inl hold)
    · exact hinv.mem_cancelled hfree hfixpoint hreach
  · rw [hinv.outcomes]
    refine if_congr ?_ rfl rfl
    rw [hinv.cancelled_iff]
    constructor
    · exact fun h ↦ ⟨.inr h, (mem_pendingIds.mp h.1).2.2⟩
    · exact fun h ↦ h.1.resolve_left h.2

end TaskGraph

/-! ## Sound books -/

namespace Ledger

/-- The status of a node, as far as the sets tell.  `reopened` are the nodes that the run found with
a `RUNNING` checkpoint. -/
def standing (reopened : Finset String) (l : Ledger α) (n : String) : Option TaskStatus :=
  if n ∈ l.completed then some .completed
  else if n ∈ l.failed then some .failed
  else if n ∈ l.cancelled then some .cancelled
  else if n ∈ reopened then some .running
  else none

/-- The node was started, in this run or before it. -/
def Started (reopened : Finset String) (l : Ledger α) (n : String) : Prop :=
  n ∈ l.completed ∨ n ∈ l.running ∨ n ∈ l.failed ∨ n ∈ reopened

/-- **The books are sound.**  `ok` is the verdict on the handlers: the node would succeed if it were
started.  `old` are the nodes that had failed before the run, and `reopened` those it found
running. -/
structure Sound (graph : TaskGraph) (ok : String → Prop) (old reopened : Finset String)
    (l : Ledger α) : Prop where
  known : ∀ n, l.Started reopened n → n ∈ graph.nodes.keys
  /-- Nothing is started before its dependencies are completed. -/
  deps : ∀ n m, l.Started reopened n → graph.Dep n m → m ∈ l.completed
  completed_ok : ∀ n ∈ l.completed, ok n
  failed_not_ok : ∀ n ∈ l.failed, ¬ok n
  running_open : ∀ n ∈ l.running, n ∉ l.completed ∧ n ∉ l.failed
  old_failed : ∀ n ∈ old, n ∈ l.failed
  /-- What is cancelled depends on something that failed in this run. -/
  cancelled_iff : ∀ n, n ∈ l.cancelled ↔ ∃ m ∈ l.failed, m ∉ old ∧ TransGen graph.Dep n m
  /-- The outcomes are those that the sets stand for. -/
  status : ∀ n, (l.outcomes.get? n).map TaskOutcome.status = l.standing reopened n

/-- From `l` to `l'`, the outcomes of the nodes `ids` were entered. -/
structure Advanced (ids : List String) (l l' : Ledger α) : Prop where
  running : ∀ n, n ∈ l'.running ↔ n ∈ l.running ∧ n ∉ ids
  decided : ∀ n, n ∈ l'.completed ∨ n ∈ l'.failed ↔ n ∈ ids ∨ n ∈ l.completed ∨ n ∈ l.failed
  /-- What was completed stays so, with the same output. -/
  kept : ∀ n ∈ l.completed, n ∈ l'.completed ∧ l'.outcomes.get? n = l.outcomes.get? n
  cancelled : ∀ n ∈ l.cancelled, n ∈ l'.cancelled

theorem Advanced.refl (l : Ledger α) : Advanced [] l l where
  running n := by simp
  decided n := by simp
  kept n hn := ⟨hn, rfl⟩
  cancelled n hn := hn

theorem Advanced.trans {ids ids' : List String} {l₁ l₂ l₃ : Ledger α} (h : Advanced ids l₁ l₂)
    (h' : Advanced ids' l₂ l₃) : Advanced (ids ++ ids') l₁ l₃ where
  running n := by rw [h'.running, h.running, List.mem_append, not_or, and_assoc]
  decided n := by
    rw [h'.decided, h.decided, List.mem_append]
    tauto
  kept n hn :=
    have hnext := h.kept n hn
    ⟨(h'.kept n hnext.1).1, (h'.kept n hnext.1).2.trans hnext.2⟩
  cancelled n hn := h'.cancelled n (h.cancelled n hn)

variable {graph : TaskGraph} {ok : String → Prop} {old reopened : Finset String} {l : Ledger α}

namespace Sound

/-- Everything behind a node that was started is completed. -/
theorem completed_of_transGen (h : l.Sound graph ok old reopened) {n m : String}
    (hn : l.Started reopened n) (hreach : TransGen graph.Dep n m) : m ∈ l.completed := by
  induction hreach with
  | single hdep => exact h.deps n _ hn hdep
  | tail _ hdep ih => exact h.deps _ _ (.inl ih) hdep

theorem not_completed_of_failed (h : l.Sound graph ok old reopened) {n : String}
    (hn : n ∈ l.failed) : n ∉ l.completed := fun hcompleted ↦
  h.failed_not_ok n hn (h.completed_ok n hcompleted)

/-- A node whose dependencies are completed is not cancelled. -/
theorem not_cancelled_of_deps (h : l.Sound graph ok old reopened) {n : String}
    (hdeps : ∀ m, graph.Dep n m → m ∈ l.completed) : n ∉ l.cancelled := by
  intro hcancelled
  obtain ⟨m, hm, -, hreach⟩ := (h.cancelled_iff n).mp hcancelled
  obtain ⟨k, hdep, hreach⟩ := TransGen.head'_iff.mp hreach
  rcases reflTransGen_iff_eq_or_transGen.mp hreach with rfl | hreach
  · exact h.not_completed_of_failed hm (hdeps m hdep)
  · exact h.not_completed_of_failed hm (h.completed_of_transGen (.inl (hdeps k hdep)) hreach)

/-- A node that was started is not cancelled. -/
theorem not_cancelled (h : l.Sound graph ok old reopened) {n : String}
    (hn : l.Started reopened n) : n ∉ l.cancelled :=
  h.not_cancelled_of_deps fun m hdep ↦ h.deps n m hn hdep

/-- An outcome belongs to a node that was started or cancelled. -/
theorem mem_keys_outcomes (h : l.Sound graph ok old reopened) {n : String} :
    n ∈ l.outcomes.keys ↔ n ∈ l.completed ∨ n ∈ l.failed ∨ n ∈ l.cancelled ∨ n ∈ reopened := by
  have hstatus := h.status n
  rw [Dict.mem_keys_iff]
  constructor
  · rintro ⟨o, ho⟩
    rw [ho, standing] at hstatus
    by_contra hno
    simp only [not_or] at hno
    rw [if_neg hno.1, if_neg hno.2.1, if_neg hno.2.2.1, if_neg hno.2.2.2] at hstatus
    exact nomatch hstatus
  · intro hn
    have hsome : (l.standing reopened n).isSome := by
      rw [standing]
      split_ifs with h₁ h₂ h₃ h₄
      · rfl
      · rfl
      · rfl
      · rfl
      · exact absurd hn (by simp [h₁, h₂, h₃, h₄])
    rw [← hstatus, Option.isSome_map] at hsome
    exact Option.isSome_iff_exists.mp hsome

/-- The node succeeded. -/
theorem status_eq_completed (h : l.Sound graph ok old reopened) {n : String} :
    (l.outcomes.get? n).map TaskOutcome.status = some .completed ↔ n ∈ l.completed := by
  rw [h.status, standing]
  split_ifs <;> simp_all

/-- The node failed. -/
theorem status_eq_failed (h : l.Sound graph ok old reopened) {n : String} :
    (l.outcomes.get? n).map TaskOutcome.status = some .failed ↔ n ∈ l.failed := by
  have hopen := h.not_completed_of_failed (n := n)
  rw [h.status, standing]
  split_ifs <;> simp_all

/-- The node was given up. -/
theorem status_eq_cancelled (h : l.Sound graph ok old reopened) {n : String} :
    (l.outcomes.get? n).map TaskOutcome.status = some .cancelled ↔ n ∈ l.cancelled := by
  have hopen := h.not_cancelled (n := n)
  rw [h.status, standing]
  simp only [Started] at hopen
  split_ifs <;> simp_all

/-- The cancelled nodes are closed under dependents. -/
theorem cancelled_closed (h : l.Sound graph ok old reopened) {n m : String}
    (hdep : graph.Dep n m) (hm : m ∈ l.cancelled) : n ∈ l.cancelled := by
  obtain ⟨k, hk, hnew, hreach⟩ := (h.cancelled_iff m).mp hm
  exact (h.cancelled_iff n).mpr ⟨k, hk, hnew, .head hdep hreach⟩

/-- The books a scheduler has to keep. -/
theorem books (h : l.Sound graph ok old reopened) :
    Precedence.Books graph.Dep ok (· ∈ l.completed) (· ∈ l.failed) where
  completed_ok := h.completed_ok
  failed_not_ok := h.failed_not_ok
  deps n m hn := h.deps n m (hn.imp_right fun hfailed ↦ .inr (.inl hfailed))

/-- Entering the outcome of a running node starts nothing. -/
theorem started_of_enter {o : TaskOutcome α} (hrunning : o.nodeId ∈ l.running) {n : String}
    (hn : n = o.nodeId ∨ n ∈ l.completed ∨ n ∈ l.running.erase o.nodeId ∨ n ∈ l.failed ∨
      n ∈ reopened) : l.Started reopened n := by
  rcases hn with rfl | hn | hn | hn
  · exact .inr (.inl hrunning)
  · exact .inl hn
  · exact .inr (.inl (Finset.mem_of_mem_erase hn))
  · exact .inr (.inr hn)

/-- The books with the outcome of a node that succeeded. -/
abbrev withCompleted (l : Ledger α) (o : TaskOutcome α) : Ledger α :=
  { l with
    running := l.running.erase o.nodeId
    outcomes := l.outcomes.set o.nodeId o
    completed := insert o.nodeId l.completed }

/-- The books with the outcome of a node that failed, before anything is cancelled. -/
abbrev withFailed (l : Ledger α) (o : TaskOutcome α) : Ledger α :=
  { l with
    running := l.running.erase o.nodeId
    outcomes := l.outcomes.set o.nodeId o
    failed := insert o.nodeId l.failed }

/-- The outcome of a node that succeeded is entered. -/
theorem recordCompleted (h : l.Sound graph ok old reopened) {o : TaskOutcome α}
    (hrunning : o.nodeId ∈ l.running) (hstatus : o.status = .completed) (hok : ok o.nodeId) :
    (withCompleted l o).Sound graph ok old reopened where
  known n hn := h.known n (started_of_enter hrunning (by simpa [Started, or_assoc] using hn))
  deps n m hn hdep :=
    have hstarted : l.Started reopened n :=
      started_of_enter hrunning (by simpa [Started, or_assoc] using hn)
    Finset.mem_insert_of_mem (h.deps n m hstarted hdep)
  completed_ok n hn := by
    rcases Finset.mem_insert.mp hn with rfl | hn
    · exact hok
    · exact h.completed_ok n hn
  failed_not_ok := h.failed_not_ok
  running_open n hn := by
    obtain ⟨hne, hn⟩ := Finset.mem_erase.mp hn
    exact ⟨fun hmem ↦ (h.running_open n hn).1 (Finset.mem_of_mem_insert_of_ne hmem hne),
      (h.running_open n hn).2⟩
  old_failed := h.old_failed
  cancelled_iff := h.cancelled_iff
  status n := by
    rw [Dict.get?_set, standing]
    by_cases hn : n = o.nodeId
    · rw [if_pos hn, if_pos (by simp [hn]), Option.map_some, hstatus]
    · rw [if_neg hn, h.status, standing]
      simp only [Finset.mem_insert, hn, false_or]

theorem advanced_withCompleted (h : l.Sound graph ok old reopened) {o : TaskOutcome α}
    (hrunning : o.nodeId ∈ l.running) : Advanced [o.nodeId] l (withCompleted l o) where
  running n := by simp [and_comm]
  decided n := by simp [or_assoc]
  kept n hn := by
    refine ⟨Finset.mem_insert_of_mem hn, ?_⟩
    rw [Dict.get?_set, if_neg]
    rintro rfl
    exact (h.running_open _ hrunning).1 hn
  cancelled n hn := hn

/-- Nothing downstream of a running node was started. -/
theorem not_started_of_transGen (h : l.Sound graph ok old reopened) {n m : String}
    (hm : m ∈ l.running) (hreach : TransGen graph.Dep n m) : ¬l.Started reopened n := fun hn ↦
  (h.running_open m hm).1 (h.completed_of_transGen hn hreach)

/-- The books after a node failed and what depends on it was cancelled. -/
theorem markDownstreamCancelled_withFailed (h : l.Sound graph ok old reopened) {o : TaskOutcome α}
    (hrunning : o.nodeId ∈ l.running) :
    ∃ cancelled outcomes,
      graph.markDownstreamCancelled o.nodeId (withFailed l o) =
        { withFailed l o with cancelled := cancelled, outcomes := outcomes } ∧
      (∀ n, n ∈ cancelled ↔ n ∈ l.cancelled ∨ TransGen graph.Dep n o.nodeId) ∧
      ∀ n, outcomes.get? n =
        if n = o.nodeId then some o
        else if n ∈ cancelled ∧ n ∉ l.cancelled then some (TaskGraph.cancelledOutcome n)
        else l.outcomes.get? n := by
  have hfree : ∀ n, TransGen graph.Dep n o.nodeId → n ∈ (withFailed l o).outcomes.keys →
      n ∈ l.cancelled := by
    intro n hreach hkey
    have hnot := h.not_started_of_transGen hrunning hreach
    obtain ⟨o', ho'⟩ := Dict.mem_keys_iff.mp hkey
    rw [Dict.get?_set] at ho'
    split at ho'
    · rename_i hn
      exact absurd (.inr (.inl (hn ▸ hrunning))) hnot
    · rcases h.mem_keys_outcomes.mp (Dict.mem_keys_iff.mpr ⟨o', ho'⟩) with hn | hn | hn | hn
      · exact absurd (.inl hn) hnot
      · exact absurd (.inr (.inr (.inl hn))) hnot
      · exact hn
      · exact absurd (.inr (.inr (.inr hn))) hnot
  obtain ⟨cancelled, outcomes, hmark, hcancelled, houtcomes⟩ :=
    TaskGraph.markDownstreamCancelled_spec (l := withFailed l o)
      (fun n m hdep hm ↦ h.cancelled_closed hdep hm) hfree
  refine ⟨cancelled, outcomes, hmark, hcancelled, fun n ↦ ?_⟩
  rw [houtcomes, Dict.get?_set]
  by_cases hn : n = o.nodeId
  · have hself : n ∉ cancelled := by
      rw [hcancelled, hn]
      rintro (hold | hreach)
      · exact h.not_cancelled (.inr (.inl hrunning)) hold
      · exact h.not_started_of_transGen hrunning hreach (.inr (.inl hrunning))
    rw [if_neg fun hnew ↦ hself hnew.1, if_pos hn, if_pos hn]
  · rw [if_neg hn, if_neg hn]

/-- The outcome of a node that failed is entered, and what depends on it is cancelled. -/
theorem recordFailed (h : l.Sound graph ok old reopened) {o : TaskOutcome α}
    (hrunning : o.nodeId ∈ l.running) (hstatus : o.status = .failed) (hok : ¬ok o.nodeId) :
    (graph.markDownstreamCancelled o.nodeId (withFailed l o)).Sound graph ok old reopened := by
  have hopen := h.running_open o.nodeId hrunning
  obtain ⟨cancelled, outcomes, hmark, hcancelled, houtcomes⟩ :=
    h.markDownstreamCancelled_withFailed hrunning
  have hstarted : ∀ n, n ∈ l.completed ∨ n ∈ l.running.erase o.nodeId ∨
      n ∈ insert o.nodeId l.failed ∨ n ∈ reopened → l.Started reopened n := by
    intro n hn
    refine started_of_enter hrunning ?_
    rw [Finset.mem_insert] at hn
    tauto
  rw [hmark]
  refine ⟨fun n hn ↦ h.known n (hstarted n hn), fun n m hn hdep ↦ h.deps n m (hstarted n hn) hdep,
    h.completed_ok, fun n hn ↦ ?_, fun n hn ↦ ?_,
    fun n hn ↦ Finset.mem_insert_of_mem (h.old_failed n hn), fun n ↦ ?_, fun n ↦ ?_⟩
  · rcases Finset.mem_insert.mp hn with rfl | hn
    · exact hok
    · exact h.failed_not_ok n hn
  · obtain ⟨hne, hn⟩ := Finset.mem_erase.mp hn
    exact ⟨(h.running_open n hn).1,
      fun hmem ↦ (h.running_open n hn).2 (Finset.mem_of_mem_insert_of_ne hmem hne)⟩
  · rw [hcancelled, h.cancelled_iff]
    constructor
    · rintro (⟨m, hm, hnew, hreach⟩ | hreach)
      · exact ⟨m, Finset.mem_insert_of_mem hm, hnew, hreach⟩
      · exact ⟨_, Finset.mem_insert_self _ _, fun hold ↦ hopen.2 (h.old_failed _ hold), hreach⟩
    · rintro ⟨m, hm, hnew, hreach⟩
      rcases Finset.mem_insert.mp hm with rfl | hm
      · exact .inr hreach
      · exact .inl ⟨m, hm, hnew, hreach⟩
  · rw [houtcomes, standing]
    by_cases hn : n = o.nodeId
    · rw [if_pos hn, if_neg (hn ▸ hopen.1), if_pos (by simp [hn]), Option.map_some, hstatus]
    · rw [if_neg hn]
      by_cases hnew : n ∈ cancelled ∧ n ∉ l.cancelled
      · have hreach := ((hcancelled n).mp hnew.1).resolve_left hnew.2
        have hnot := h.not_started_of_transGen hrunning hreach
        simp only [Started, not_or] at hnot
        rw [if_pos hnew, if_neg hnot.1, if_neg (by simp [hn, hnot.2.2.1]), if_pos hnew.1]
        rfl
      · have hsame : n ∈ cancelled ↔ n ∈ l.cancelled :=
          ⟨fun hc ↦ by_contra fun hold ↦ hnew ⟨hc, hold⟩, fun hold ↦ (hcancelled n).mpr (.inl hold)⟩
        rw [if_neg hnew, h.status, standing]
        simp only [Finset.mem_insert, hn, false_or, hsame]

theorem advanced_recordFailed (h : l.Sound graph ok old reopened) {o : TaskOutcome α}
    (hrunning : o.nodeId ∈ l.running) :
    Advanced [o.nodeId] l (graph.markDownstreamCancelled o.nodeId (withFailed l o)) := by
  obtain ⟨cancelled, outcomes, hmark, hcancelled, houtcomes⟩ :=
    h.markDownstreamCancelled_withFailed hrunning
  rw [hmark]
  refine ⟨fun n ↦ by simp [and_comm], fun n ↦ ?_, fun n hn ↦ ⟨hn, ?_⟩,
    fun n hn ↦ (hcancelled n).mpr (.inl hn)⟩
  · rw [Finset.mem_insert, List.mem_singleton]
    tauto
  · have hself : n ≠ o.nodeId := by
      rintro rfl
      exact (h.running_open _ hrunning).1 hn
    have hold : ¬(n ∈ cancelled ∧ n ∉ l.cancelled) := by
      rintro ⟨hc, hnew⟩
      have hreach := ((hcancelled n).mp hc).resolve_left hnew
      exact h.not_started_of_transGen hrunning hreach (.inl hn)
    rw [houtcomes, if_neg hself, if_neg hold]

/-- **An outcome of the wave is entered.** -/
theorem recordOutcome (h : l.Sound graph ok old reopened) {o : TaskOutcome α}
    (hrunning : o.nodeId ∈ l.running)
    (hstatus : o.status = .completed ∧ ok o.nodeId ∨ o.status = .failed ∧ ¬ok o.nodeId) :
    (graph.recordOutcome l o).Sound graph ok old reopened ∧
      Advanced [o.nodeId] l (graph.recordOutcome l o) := by
  rcases hstatus with ⟨hstatus, hok⟩ | ⟨hstatus, hok⟩
  · have hrecord : graph.recordOutcome l o = withCompleted l o := by
      rw [TaskGraph.recordOutcome, hstatus]
    rw [hrecord]
    exact ⟨h.recordCompleted hrunning hstatus hok, h.advanced_withCompleted hrunning⟩
  · have hrecord : graph.recordOutcome l o =
        graph.markDownstreamCancelled o.nodeId (withFailed l o) := by
      rw [TaskGraph.recordOutcome, hstatus]
    rw [hrecord]
    exact ⟨h.recordFailed hrunning hstatus hok, h.advanced_recordFailed hrunning⟩

/-- **The outcomes of a wave are entered**, one by one. -/
theorem recordOutcomes (h : l.Sound graph ok old reopened) {outcomes : List (TaskOutcome α)}
    (hnodup : (outcomes.map TaskOutcome.nodeId).Nodup)
    (hrunning : ∀ o ∈ outcomes, o.nodeId ∈ l.running)
    (hstatus : ∀ o ∈ outcomes,
      o.status = .completed ∧ ok o.nodeId ∨ o.status = .failed ∧ ¬ok o.nodeId) :
    (outcomes.foldl graph.recordOutcome l).Sound graph ok old reopened ∧
      Advanced (outcomes.map TaskOutcome.nodeId) l (outcomes.foldl graph.recordOutcome l) := by
  induction outcomes generalizing l with
  | nil => exact ⟨h, .refl l⟩
  | cons first outcomes ih =>
    rw [List.map_cons, List.nodup_cons] at hnodup
    obtain ⟨hsound, hadvanced⟩ :=
      h.recordOutcome (hrunning first List.mem_cons_self) (hstatus first List.mem_cons_self)
    have hlater : ∀ o ∈ outcomes, o.nodeId ∈ (graph.recordOutcome l first).running := by
      intro o ho
      refine (hadvanced.running _).mpr ⟨hrunning o (List.mem_cons_of_mem _ ho), fun hfirst ↦ ?_⟩
      exact hnodup.1 (List.mem_singleton.mp hfirst ▸ List.mem_map_of_mem ho)
    obtain ⟨hend, hrest⟩ := ih hsound hnodup.2 hlater
      fun o ho ↦ hstatus o (List.mem_cons_of_mem _ ho)
    exact ⟨hend, hadvanced.trans hrest⟩

/-- **The next wave is started.** -/
theorem startWave (h : l.Sound graph ok old reopened) {ready : Finset String}
    (hready : ∀ n ∈ ready, n ∈ graph.nodes.keys ∧ n ∉ l.completed ∧ n ∉ l.failed ∧
      ∀ m, graph.Dep n m → m ∈ l.completed) :
    Sound graph ok old reopened { l with running := l.running ∪ ready } where
  known n hn := by
    by_cases hmem : n ∈ ready
    · exact (hready n hmem).1
    · exact h.known n (by simpa [Started, hmem] using hn)
  deps n m hn hdep := by
    by_cases hmem : n ∈ ready
    · exact (hready n hmem).2.2.2 m hdep
    · exact h.deps n m (by simpa [Started, hmem] using hn) hdep
  completed_ok := h.completed_ok
  failed_not_ok := h.failed_not_ok
  running_open n hn := by
    rcases Finset.mem_union.mp hn with hn | hn
    · exact h.running_open n hn
    · exact ⟨(hready n hn).2.1, (hready n hn).2.2.1⟩
  old_failed := h.old_failed
  cancelled_iff := h.cancelled_iff
  status := h.status

end Sound
end Ledger
end Core
end ExoBrain
