import ExoBrain.Byoc.Execute
import ExoBrain.Byoc.RuntimeCalls

/-!
# What tenants pay

`execute` charges the tenant when it learns how a job ended: the cost of the status of the worker's
result, or that of a timeout.  `CostBooks` is where the runtime writes it down, with the windows and
the partitions of the budget, and `costLimitExceeded` is what it later reads.

`BilledRuntime` is the runtime with its books and with the calls of `execute` that it was asked to
make.  Their steps interleave with each other and with everything else that happens to the
runtime: a call begins (`executeBegin`), waits turn by turn (`executeTurn`), and ends.

A runtime that does not wait has nothing to charge for when it answers, and no other place to do it:
what its workers submit later is never paid.  `Unpaid` names those submissions; in every run without
them, `total_eq_due` says, the books have what is due, to the unit.
-/

set_option autoImplicit false

namespace ExoBrain
namespace Byoc

open Core (ToolStatus)
open Text

/-! ## The budget -/

/-- The values of `_budget_partition_scope`. -/
inductive BudgetPartitionScope
  | tenant
  | perProvider
  | perTool
deriving DecidableEq, Repr

/-- The arguments of `__init__` that describe the budget, with their defaults.  `lower` is
`str.lower`. -/
structure BudgetSettings where
  lower : String → String
  costLimitMicrounitsPerTenant : Int := 1000000
  enableCostWindowPolicy : Bool := false
  costWindowSeconds : Int := 3600
  budgetPartitionScope : String := "tenant"
  budgetPartitionLimitsMicrounits : List (String × Int) := []

namespace BudgetSettings

variable (budget : BudgetSettings)

/-- `_cost_limit_microunits_per_tenant`. -/
def costLimit : Int := max budget.costLimitMicrounitsPerTenant 0

/-- `_cost_window_seconds`. -/
def windowSeconds : Int := max budget.costWindowSeconds 1

/-- `_normalize_budget_partition_scope`. -/
def scope : BudgetPartitionScope :=
  let normalized := budget.lower (strip budget.budgetPartitionScope)
  if normalized = "per_provider" ∨ normalized = "provider" then .perProvider
  else if normalized = "per_tool" ∨ normalized = "tool" then .perTool
  else .tenant

/-- `_normalize_budget_partition_limits`. -/
def partitionLimits : Dict String Int :=
  budget.budgetPartitionLimitsMicrounits.foldl (fun limits entry ↦
    let token := budget.lower (strip entry.1)
    if token = "" then limits else limits.set token (max entry.2 0)) Dict.empty

/-- A candidate of `_resolve_partition_limit`: the partition, if it has a limit of its own. -/
def candidateLimit (pre name : String) : Option (String × Int) :=
  let normalized := budget.lower (strip name)
  if normalized = "" then none
  else (budget.partitionLimits.get? (pre ++ normalized)).map fun limit ↦ (pre ++ normalized, limit)

/-- `_resolve_partition_limit`: the key of the partition, its limit, and whether it is one of its
own. -/
def resolvePartitionLimit (providerId toolName : String) : String × Int × Bool :=
  let candidate :=
    match budget.scope with
    | .perProvider => budget.candidateLimit "provider:" providerId
    | .perTool => budget.candidateLimit "tool:" toolName
    | .tenant => none
  match candidate with
  | some (key, limit) => (key, max limit 0, true)
  | none => ("tenant", max budget.costLimit 0, false)

end BudgetSettings

/-! ## The books -/

/-- The totals and windows that `_record_tenant_cost` keeps. -/
structure CostBooks where
  tenantTotal : Dict String Int := Dict.empty
  tenantWindowStarted : Dict String Int := Dict.empty
  tenantWindow : Dict String Int := Dict.empty
  partitionTotal : Dict String (Dict String Int) := Dict.empty
  partitionWindowStarted : Dict String (Dict String Int) := Dict.empty
  partitionWindow : Dict String (Dict String Int) := Dict.empty

/-- `_window_state_unlocked` and the inner part of `_partition_window_state_unlocked`: the start and
the cost of the window of a key, and the two dictionaries they are kept in. -/
def windowState (windowSeconds : Int) (key : String) (now : Int) (started windows : Dict String Int) :
    (Int × Int) × Dict String Int × Dict String Int :=
  let noted := (started.get? key).getD now
  let start := if noted ≤ 0 then now else noted
  let cost := (windows.get? key).getD 0
  if windowSeconds ≤ now - start then ((now, 0), started.set key now, windows.set key 0)
  else ((start, cost), started.setDefault key start, windows.setDefault key cost)

namespace CostBooks

variable (budget : BudgetSettings)

/-- `_window_state_unlocked`. -/
def tenantWindowState (tenantId : String) (now : Int) (books : CostBooks) :
    (Int × Int) × CostBooks :=
  let w := windowState budget.windowSeconds tenantId now books.tenantWindowStarted books.tenantWindow
  (w.1, { books with tenantWindowStarted := w.2.1, tenantWindow := w.2.2 })

/-- `_partition_window_state_unlocked`. -/
def partitionWindowState (tenantId partitionKey : String) (now : Int) (books : CostBooks) :
    (Int × Int) × CostBooks :=
  let started := (books.partitionWindowStarted.get? tenantId).getD Dict.empty
  let windows := (books.partitionWindow.get? tenantId).getD Dict.empty
  let w := windowState budget.windowSeconds partitionKey now started windows
  (w.1,
    { books with
      partitionWindowStarted := books.partitionWindowStarted.set tenantId w.2.1
      partitionWindow := books.partitionWindow.set tenantId w.2.2 })

/-- `_record_tenant_cost`, for a tenant id that is normalized. -/
def recordTenantCost (tenantId providerId toolName : String) (amount : Int) (now : Epoch)
    (books : CostBooks) : CostBooks :=
  let paid := max amount 0
  let partitionKey := (budget.resolvePartitionLimit providerId toolName).1
  let totals := (books.partitionTotal.get? tenantId).getD Dict.empty
  let books :=
    { books with
      tenantTotal := books.tenantTotal.set tenantId ((books.tenantTotal.get? tenantId).getD 0 + paid)
      partitionTotal := books.partitionTotal.set tenantId
        (totals.set partitionKey ((totals.get? partitionKey).getD 0 + paid)) }
  if budget.enableCostWindowPolicy then
    let w := books.tenantWindowState budget tenantId (Epoch.seconds now)
    let books :=
      { w.2 with
        tenantWindowStarted := w.2.tenantWindowStarted.set tenantId w.1.1
        tenantWindow := w.2.tenantWindow.set tenantId (w.1.2 + paid) }
    let p := books.partitionWindowState budget tenantId partitionKey (Epoch.seconds now)
    let started := (p.2.partitionWindowStarted.get? tenantId).getD Dict.empty
    let windows := (p.2.partitionWindow.get? tenantId).getD Dict.empty
    { p.2 with
      partitionWindowStarted :=
        p.2.partitionWindowStarted.set tenantId (started.set partitionKey p.1.1)
      partitionWindow := p.2.partitionWindow.set tenantId (windows.set partitionKey (p.1.2 + paid)) }
  else books

/-- `_cost_limit_exceeded`, for a tenant id that is normalized: the reason code, if it is. -/
def costLimitExceeded (tenantId providerId toolName : String) (now : Epoch) (books : CostBooks) :
    Option String × CostBooks :=
  let (partitionKey, limit, isPartitioned) := budget.resolvePartitionLimit providerId toolName
  if limit ≤ 0 then (none, books)
  else if budget.enableCostWindowPolicy then
    let normalizedPartition := budget.lower (strip partitionKey)
    let p := books.partitionWindowState budget tenantId
      (if normalizedPartition = "" then "tenant" else normalizedPartition) (Epoch.seconds now)
    (if limit ≤ p.1.2 then
      some (if isPartitioned then "BYOC_COST_WINDOW_PARTITION_LIMIT_EXCEEDED"
        else "BYOC_COST_WINDOW_LIMIT_EXCEEDED")
    else none, p.2)
  else
    let totals := (books.partitionTotal.get? tenantId).getD Dict.empty
    (if limit ≤ (totals.get? partitionKey).getD 0 then
      some (if isPartitioned then "BYOC_COST_PARTITION_LIMIT_EXCEEDED"
        else "BYOC_COST_LIMIT_EXCEEDED")
    else none, books)

/-- `tenant_cost_microunits_total`. -/
def total (tenantId : String) (books : CostBooks) : Int := (books.tenantTotal.get? tenantId).getD 0

theorem tenantTotal_costLimitExceeded (tenantId providerId toolName : String) (now : Epoch)
    (books : CostBooks) :
    (books.costLimitExceeded budget tenantId providerId toolName now).2.tenantTotal =
      books.tenantTotal := by
  simp only [costLimitExceeded]
  split
  · rfl
  · split <;> rfl

/-- A charge goes to the total of its tenant. -/
theorem total_recordTenantCost (tenantId providerId toolName : String) (amount : Int) (now : Epoch)
    (books : CostBooks) (t : String) :
    (books.recordTenantCost budget tenantId providerId toolName amount now).total t =
      books.total t + if tenantId = t then max amount 0 else 0 := by
  have htotal : (books.recordTenantCost budget tenantId providerId toolName amount now).tenantTotal =
      books.tenantTotal.set tenantId (books.total tenantId + max amount 0) := by
    simp only [recordTenantCost]
    split <;> rfl
  rw [total, htotal, Dict.get?_set]
  by_cases h : t = tenantId
  · rw [if_pos h, if_pos h.symm, h]
    rfl
  · rw [if_neg h, if_neg (Ne.symm h), Int.add_zero]
    rfl

end CostBooks

/-! ## Calls of `execute` -/

/-- What became of a call of `execute`. -/
inductive ExecutePhase
  /-- The cost limit or fair admission turned it away. -/
  | rejected
  /-- It waits for its result. -/
  | waiting
  /-- It returned at once; then a result for its job was accepted, or not yet. -/
  | queued (accepted : Option ToolStatus)
  /-- It returned with the status of its result, or timed out. -/
  | finished (status : ToolStatus)
deriving DecidableEq, Repr

/-- A call of `execute`. -/
structure ExecuteCall where
  call : ToolCallContext
  descriptor : ToolDescriptor
  jobId : String
  phase : ExecutePhase
deriving DecidableEq, Repr

namespace ExecuteCall

/-- A result for the job is accepted. -/
def accept (result : ByocToolResultEnvelope) (x : ExecuteCall) : ExecuteCall :=
  if x.jobId = result.jobId ∧ x.phase = .queued none then
    { x with phase := .queued (some (toolStatus result.status)) }
  else x

/-- What a tenant owes for a call: the cost of the status its job ended with. -/
def due (settings : ExecuteSettings) (tenantId : String) (x : ExecuteCall) : Int :=
  if executeTenant x.call.tenantId = tenantId then
    match x.phase with
    | .finished status | .queued (some status) => settings.costForStatus status
    | .rejected | .waiting | .queued none => 0
  else 0

end ExecuteCall

/-- The runtime, its books, and the calls of `execute` by their number. -/
structure BilledState (σ τ ρ : Type) where
  runtime : RuntimeState σ τ ρ
  books : CostBooks := {}
  calls : Dict Nat ExecuteCall := Dict.empty

/-- A runtime with all its settings. -/
structure BilledRuntime (σ τ ρ : Type) where
  runtime : TenantByocConnectorRuntime σ τ ρ
  settings : ExecuteSettings
  budget : BudgetSettings
  settings_eq : runtime.settings = settings.toByocRuntimeSettings

/-- What can happen to the runtime, in any order. -/
inductive BilledEvent
  /-- `execute` up to the point where it waits or returns; `admitted` is what fair admission says,
  if it is asked. -/
  | executeBegin (n : Nat) (clock : RuntimeClock) (now : Epoch) (admitted : Bool)
      (call : ToolCallContext) (descriptor : ToolDescriptor) (jobId : String)
  /-- One turn of the loop of a call that waits. -/
  | executeTurn (n : Nat) (clock : RuntimeClock) (now : Epoch) (deadlinePassed : Bool)
  /-- A call of any other method. -/
  | other (c : RuntimeCall)
  /-- `control_stats_for_tenant`. -/
  | controlStatsForTenant (tenantId : String) (now : Epoch)

namespace BilledRuntime

variable {σ τ ρ : Type} (B : BilledRuntime σ τ ρ)

/-- `execute` up to the point where it waits or returns: what it returns, and what becomes of the
call. -/
def executeBegin (clock : RuntimeClock) (now : Epoch) (admitted : Bool) (call : ToolCallContext)
    (descriptor : ToolDescriptor) (jobId : String) (s : BilledState σ τ ρ) :
    (Option ToolResult × ExecutePhase) × BilledState σ τ ρ :=
  let tenantId := executeTenant call.tenantId
  let checked :=
    if B.settings.enforceCostLimit then
      s.books.costLimitExceeded B.budget tenantId call.providerId descriptor.name now
    else (none, s.books)
  let s := { s with books := checked.2 }
  let turnAway := fun (result : ToolResult) ↦
    ((some result, ExecutePhase.rejected),
      { s with runtime := { s.runtime with
        metrics := s.runtime.metrics.incrementTenantRejection tenantId result.error.code } })
  match checked.1 with
  | some reasonCode => turnAway (costLimitResult call reasonCode)
  | none =>
    if B.settings.fairAdmissionEnabled && !admitted then turnAway (fairAdmissionTimeoutResult call)
    else
      let s :=
        { s with runtime := (B.runtime.executeEnqueue clock true call descriptor jobId s.runtime).2 }
      if B.runtime.settings.nonBlockingExecute then
        ((some (queuedResult call jobId), .queued none), s)
      else ((none, .waiting), s)

/-- One turn of the loop of `execute`, and what follows it when it is the last. -/
def executeTurn (clock : RuntimeClock) (now : Epoch) (deadlinePassed : Bool) (x : ExecuteCall)
    (s : BilledState σ τ ρ) : (Option ToolResult × ExecutePhase) × BilledState σ τ ρ :=
  let tenantId := executeTenant x.call.tenantId
  let polled := B.runtime.executePoll clock tenantId x.jobId s.runtime
  let s := { s with runtime := polled.2 }
  let charge := fun (toolName : String) (amount : Int) ↦
    { s with
      books := s.books.recordTenantCost B.budget tenantId x.call.providerId toolName amount now }
  match polled.1 with
  | some result =>
    ((some (mappedResult x.call result), .finished (toolStatus result.status)),
      charge x.call.toolName (B.settings.costForStatus (toolStatus result.status)))
  | none =>
    if deadlinePassed then
      ((some (timeoutResult x.call (max x.descriptor.timeoutMs 1)), .finished .timeout),
        charge x.descriptor.name B.settings.attributes.costTimeoutMicrounits)
    else ((none, .waiting), s)

/-- The result that a call of the runtime accepts, if it does. -/
def acceptedResult (c : RuntimeCall) (s : RuntimeState σ τ ρ) : Option ByocToolResultEnvelope :=
  match c.op, (B.runtime.step s c).1 with
  | .submit sub, .submitted (.ok outcome) =>
    if outcome.accepted && !outcome.duplicate then some sub.result else none
  | _, _ => none

/-- One step of the runtime: what a call of `execute` returns in it, if one does. -/
def step (s : BilledState σ τ ρ) (e : BilledEvent) : Option ToolResult × BilledState σ τ ρ :=
  match e with
  | .executeBegin n clock now admitted call descriptor jobId =>
    if n ∈ s.calls.keys then (none, s)
    else
      let begun := B.executeBegin clock now admitted call descriptor jobId s
      (begun.1.1,
        { begun.2 with calls := s.calls.setDefault n ⟨call, descriptor, jobId, begun.1.2⟩ })
  | .executeTurn n clock now deadlinePassed =>
    match s.calls.get? n with
    | none => (none, s)
    | some x =>
      if x.phase = .waiting then
        let turned := B.executeTurn clock now deadlinePassed x s
        (turned.1.1,
          { turned.2 with calls := s.calls.modify n fun x ↦ { x with phase := turned.1.2 } })
      else (none, s)
  | .other c =>
    match c.op with
    | .executeEnqueue _ _ _ _ | .executePoll _ _ => (none, s)
    | _ =>
      (none,
        { s with
          runtime := (B.runtime.step s.runtime c).2
          calls :=
            match B.acceptedResult c s.runtime with
            | some result => s.calls.mapVals fun _ x ↦ x.accept result
            | none => s.calls })
  | .controlStatsForTenant tenantId now =>
    (none,
      { s with
        books := (s.books.tenantWindowState B.budget (Policies.normalizedTenant tenantId)
          (Epoch.seconds now)).2 })

/-! ## What is due -/

/-- What a tenant owes for all calls. -/
def due (tenantId : String) (calls : Dict Nat ExecuteCall) : Int :=
  (calls.entries.map fun e ↦ e.2.due B.settings tenantId).sum

/-- The step accepts a result, with a cost, for a call that did not wait for it. -/
def Unpaid (s : BilledState σ τ ρ) (e : BilledEvent) : Prop :=
  match e with
  | .other c => ∃ result ∈ B.acceptedResult c s.runtime,
      B.settings.costForStatus (toolStatus result.status) ≠ 0 ∧
        ∃ entry ∈ s.calls.entries, entry.2.jobId = result.jobId ∧ entry.2.phase = .queued none
  | _ => False

theorem due_setDefault {n : Nat} {calls : Dict Nat ExecuteCall} (hnew : n ∉ calls.keys)
    {x : ExecuteCall} (hphase : x.phase = .rejected ∨ x.phase = .waiting ∨ x.phase = .queued none)
    (t : String) : B.due t (calls.setDefault n x) = B.due t calls := by
  have hzero : x.due B.settings t = 0 := by
    rw [ExecuteCall.due]
    split
    · rcases hphase with h | h | h <;> rw [h]
    · rfl
  rw [due, Dict.entries_setDefault hnew, List.map_append, List.sum_append, List.map_singleton,
    List.sum_singleton, hzero, Int.add_zero]
  rfl

/-- A new call charges nothing. -/
theorem executeBegin_spec (clock : RuntimeClock) (now : Epoch) (admitted : Bool)
    (call : ToolCallContext) (descriptor : ToolDescriptor) (jobId : String)
    (s : BilledState σ τ ρ) :
    let begun := B.executeBegin clock now admitted call descriptor jobId s
    begun.2.books.tenantTotal = s.books.tenantTotal ∧
      (begun.1.2 = .rejected ∨ begun.1.2 = .waiting ∨
        begun.1.2 = .queued none ∧ B.runtime.settings.nonBlockingExecute = true) := by
  have hbooks : (if B.settings.enforceCostLimit then
      s.books.costLimitExceeded B.budget (executeTenant call.tenantId) call.providerId
        descriptor.name now else (none, s.books)).2.tenantTotal = s.books.tenantTotal := by
    split
    · exact CostBooks.tenantTotal_costLimitExceeded ..
    · rfl
  simp only [executeBegin]
  split
  · exact ⟨hbooks, .inl rfl⟩
  · split
    · exact ⟨hbooks, .inl rfl⟩
    · split
      · rename_i hnonblocking
        exact ⟨hbooks, .inr (.inr ⟨rfl, hnonblocking⟩)⟩
      · exact ⟨hbooks, .inr (.inl rfl)⟩

theorem costForStatus_nonneg (status : ToolStatus) : 0 ≤ B.settings.costForStatus status := by
  cases status <;> exact Int.le_max_right _ _

/-- **A turn charges what the call then owes.** -/
theorem total_executeTurn (clock : RuntimeClock) (now : Epoch) (deadlinePassed : Bool)
    {x : ExecuteCall} (hwaiting : x.phase = .waiting) (s : BilledState σ τ ρ) (t : String) :
    let turned := B.executeTurn clock now deadlinePassed x s
    turned.2.books.total t = s.books.total t +
      ({ x with phase := turned.1.2 }.due B.settings t - x.due B.settings t) := by
  have hnothing : x.due B.settings t = 0 := by
    rw [ExecuteCall.due, hwaiting]
    split <;> rfl
  simp only [hnothing, Int.sub_zero, executeTurn]
  split
  · rename_i result _
    rw [CostBooks.total_recordTenantCost, ExecuteCall.due,
      Int.max_eq_left (B.costForStatus_nonneg _)]
  · split
    · have htimeout : max B.settings.attributes.costTimeoutMicrounits 0 =
          B.settings.attributes.costTimeoutMicrounits :=
        Int.max_eq_left (B.costForStatus_nonneg .timeout)
      rw [CostBooks.total_recordTenantCost, ExecuteCall.due, htimeout]
      rfl
    · simp only [ExecuteCall.due, ite_self, Int.add_zero]

/-- Accepting a result changes nothing in what is due, unless it is one that nobody pays. -/
theorem due_accept {s : BilledState σ τ ρ} {c : RuntimeCall} {result : ByocToolResultEnvelope}
    (haccepted : B.acceptedResult c s.runtime = some result) (hpaid : ¬B.Unpaid s (.other c))
    (t : String) : B.due t (s.calls.mapVals fun _ x ↦ x.accept result) = B.due t s.calls := by
  rw [due, due, Dict.entries_mapVals, List.map_map]
  refine congrArg List.sum (List.map_congr_left fun entry hentry ↦ ?_)
  rw [Function.comp_apply, ExecuteCall.accept]
  split
  · rename_i hqueued
    have hzero : B.settings.costForStatus (toolStatus result.status) = 0 := by
      by_contra hcost
      exact hpaid ⟨result, haccepted, hcost, entry, hentry, hqueued⟩
    simp only [ExecuteCall.due, hqueued.2, hzero]
  · rfl

/-- **One step.** -/
theorem total_step {s : BilledState σ τ ρ} {e : BilledEvent} (hpaid : ¬B.Unpaid s e)
    (h : ∀ t, s.books.total t = B.due t s.calls) (t : String) :
    (B.step s e).2.books.total t = B.due t (B.step s e).2.calls := by
  cases e with
  | executeBegin n clock now admitted call descriptor jobId =>
    simp only [step]
    split
    · exact h t
    · rename_i hnew
      obtain ⟨hbooks, hphase⟩ := B.executeBegin_spec clock now admitted call descriptor jobId s
      rw [B.due_setDefault hnew (hphase.imp_right (Or.imp_right And.left)), CostBooks.total, hbooks]
      exact h t
  | executeTurn n clock now deadlinePassed =>
    simp only [step]
    split
    · exact h t
    · rename_i x hx
      split
      · rename_i hwaiting
        rw [B.total_executeTurn clock now deadlinePassed hwaiting, h t, due, due,
          Dict.sum_map_modify hx]
      · exact h t
  | other c =>
    simp only [step]
    split
    · exact h t
    · exact h t
    · split
      · rename_i result haccepted
        rw [B.due_accept haccepted hpaid]
        exact h t
      · exact h t
  | controlStatsForTenant tenantId now => exact h t

/-- **Every execution is paid for once.**  In every run in which no result is accepted for a call
that did not wait for it, the total of every tenant is the sum of what his calls owe: the cost of
one status for each call that was admitted and learnt how its job ended. -/
theorem total_eq_due (runtime : RuntimeState σ τ ρ) (events : List BilledEvent)
    (hpaid : Run.Along B.step (fun s e ↦ ¬B.Unpaid s e) { runtime := runtime } events)
    (tenantId : String) :
    (Run.exec B.step { runtime := runtime } events).books.total tenantId =
      B.due tenantId (Run.exec B.step { runtime := runtime } events).calls :=
  Run.exec_invariant (P := fun s ↦ ∀ t, s.books.total t = B.due t s.calls)
    (fun _ _ hpaid h ↦ B.total_step hpaid h) hpaid (fun _ ↦ rfl) tenantId

/-- A runtime that waits for its results has no calls that returned without one. -/
theorem no_queued_step (hblocking : B.runtime.settings.nonBlockingExecute = false)
    {s : BilledState σ τ ρ} (h : ∀ n x, s.calls.get? n = some x → x.phase ≠ .queued none)
    (e : BilledEvent) :
    ∀ n x, (B.step s e).2.calls.get? n = some x → x.phase ≠ .queued none := by
  cases e with
  | executeBegin n clock now admitted call descriptor jobId =>
    simp only [step]
    split
    · exact h
    · rename_i hnew
      intro m x hx
      rw [Dict.get?_setDefault] at hx
      split at hx
      · rename_i hm
        rw [hm, Dict.get?_eq_none_iff.mpr hnew] at hx
        obtain rfl := Option.some.inj hx
        obtain ⟨-, hphase⟩ := B.executeBegin_spec clock now admitted call descriptor jobId s
        intro hqueued
        rcases hphase with hphase | hphase | ⟨-, hnonblocking⟩
        · exact nomatch hqueued.symm.trans hphase
        · exact nomatch hqueued.symm.trans hphase
        · exact nomatch hblocking.symm.trans hnonblocking
      · exact h m x hx
  | executeTurn n clock now deadlinePassed =>
    simp only [step]
    split
    · exact h
    · rename_i y hy
      split
      · intro m x hx
        obtain ⟨z, hz, rfl⟩ := Dict.get?_modify_eq_some hx
        split
        · simp only [executeTurn]
          split
          · exact nofun
          · split <;> exact nofun
        · exact h m z hz
      · exact h
  | other c =>
    simp only [step]
    split
    · exact h
    · exact h
    · split
      · intro m x hx
        rw [Dict.get?_mapVals] at hx
        obtain ⟨y, hy, rfl⟩ := Option.map_eq_some_iff.mp hx
        rw [ExecuteCall.accept]
        split
        · exact nofun
        · exact h m y hy
      · exact h
  | controlStatsForTenant tenantId now => exact h

/-- A runtime that waits for its results makes no call that could go unpaid. -/
theorem paid_of_blocking (hblocking : B.runtime.settings.nonBlockingExecute = false)
    (runtime : RuntimeState σ τ ρ) (events : List BilledEvent) :
    Run.Along B.step (fun s e ↦ ¬B.Unpaid s e) { runtime := runtime } events := by
  have hstart : ∀ n x, ({ runtime := runtime } : BilledState σ τ ρ).calls.get? n = some x →
      x.phase ≠ .queued none := fun n x hx ↦ nomatch hx
  refine Run.along_of_invariant
    (P := fun s : BilledState σ τ ρ ↦ ∀ n x, s.calls.get? n = some x → x.phase ≠ .queued none)
    (fun s e h hunpaid ↦ ?_) (fun s e h ↦ B.no_queued_step hblocking h e)
    hstart events
  · cases e with
    | other c =>
      obtain ⟨_, -, -, entry, hentry, -, hphase⟩ := hunpaid
      exact h entry.1 entry.2 (Dict.mem_entries_iff.mp hentry) hphase
    | executeBegin | executeTurn | controlStatsForTenant => exact hunpaid

end BilledRuntime

/-! ## Waiting and not waiting -/

instance {σ τ ρ : Type} (B : BilledRuntime σ τ ρ) (s : BilledState σ τ ρ) (e : BilledEvent) :
    Decidable (B.Unpaid s e) :=
  match e with
  | .other c => inferInstanceAs (Decidable (∃ result ∈ B.acceptedResult c s.runtime,
      B.settings.costForStatus (toolStatus result.status) ≠ 0 ∧
        ∃ entry ∈ s.calls.entries, entry.2.jobId = result.jobId ∧ entry.2.phase = .queued none))
  | .executeBegin .. | .executeTurn .. | .controlStatsForTenant .. => isFalse id

/-- A runtime with default settings over in-memory stores, which waits for its results or not. -/
def defaultBilled (nonBlocking : Bool) :
    BilledRuntime InMemoryByocJobQueueStore InMemoryByocResultStore InMemoryReplayGuard where
  runtime := JobBackend.inMemory.runtime inMemoryByocResultStore inMemoryReplayGuard
    { workerJwtSecret := "s", nonBlockingExecute := nonBlocking } sampleDecode
  settings := { workerJwtSecret := "s", nonBlockingExecute := nonBlocking }
  budget := { lower := id }
  settings_eq := rfl

/-- Its state before the first call. -/
def billedStart :
    RuntimeState InMemoryByocJobQueueStore InMemoryByocResultStore InMemoryReplayGuard :=
  { jobs := .init, results := .init .firstWriteWins, replay := .init }

/-- A tool call of tenant `t` is executed, and a worker claims the job and submits its result. -/
def billedCalls : List BilledEvent :=
  [.executeBegin 0 (.still 1) 1 true { callId := "c", tenantId := "t", runId := "r" } { name := "n" }
      "j",
    .other ⟨.still 2, .claimNextJob "t" "tok" "n1" "a"⟩,
    .other ⟨.still 3, .submit (sampleSubmission "k")⟩]

/-- The call waits, finds the result, and is charged for a success. -/
theorem total_eq_due_success :
    (Run.exec (defaultBilled false).step { runtime := billedStart }
        (billedCalls ++ [.executeTurn 0 (.still 4) 4 false])).books.total "t" = 100 ∧
      (defaultBilled false).due "t" (Run.exec (defaultBilled false).step { runtime := billedStart }
        (billedCalls ++ [.executeTurn 0 (.still 4) 4 false])).calls = 100 := by
  have hdue := (defaultBilled false).total_eq_due billedStart
    (billedCalls ++ [.executeTurn 0 (.still 4) 4 false]) (by decide) "t"
  have htotal : (Run.exec (defaultBilled false).step { runtime := billedStart }
      (billedCalls ++ [.executeTurn 0 (.still 4) 4 false])).books.total "t" = 100 := by decide
  exact ⟨htotal, hdue.symm.trans htotal⟩

/-- A runtime that does not wait: the same result is accepted, and nobody pays for it. -/
theorem queued_call_unpaid :
    ¬∀ events, (Run.exec (defaultBilled true).step { runtime := billedStart } events).books.total "t" =
      (defaultBilled true).due "t"
        (Run.exec (defaultBilled true).step { runtime := billedStart } events).calls := by
  intro h
  exact absurd (h billedCalls) (by decide)

end Byoc
end ExoBrain
