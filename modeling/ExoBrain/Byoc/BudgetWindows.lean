import ExoBrain.Byoc.Billing
import ExoBrain.Lib.Run
import ExoBrain.Lib.Window

/-!
# Budget windows add up

The runtime writes down what a tenant pays in six dictionaries: a total and a window for the tenant,
and the same for each partition of its budget.  A charge writes all of them, one after the other,
and whoever reads a window first rolls it over if it is over.

* `CostBooks.step` is one charge, one check of the limit, or one reading of the tenant's window for
  its stats.  The log of a tenant (`tenantLog`) or of a partition (`partitionLog`) is what these
  accesses add, and when.
* `Represents` connects a pair of dictionaries to `Window.run`: `windowState_spec` for a reading,
  `represents_charge` for a charge.  `Books` is what a run keeps, `books_run`.
* `budget_windows_add_up` reads the sums and the window starts off it, and the answers of the limit
  check.

Python's `str.lower` is a parameter of the model.  The limit check looks a partition up under its
key in lower case, where the charge left it under the key itself; `LowersKeys` is what makes them
the same.
-/

set_option autoImplicit false

namespace ExoBrain
namespace Byoc

open Text

/-! ## The operations on the books -/

/-- `str(tenant_id).strip() or "default"`. -/
def normalizedTenant (tenantId : String) : String :=
  let normalized := strip tenantId
  if normalized = "" then "default" else normalized

/-- An operation that reads or writes the books. -/
inductive BudgetOp
  /-- `_record_tenant_cost`. -/
  | record (tenantId providerId toolName : String) (amount : Int)
  /-- `_cost_limit_exceeded`. -/
  | check (tenantId providerId toolName : String)
  /-- `_window_state`, which `control_stats_for_tenant` calls. -/
  | stats (tenantId : String)
deriving DecidableEq, Repr

/-- An operation, and its reading of the clock. -/
structure BudgetCall where
  now : Epoch
  op : BudgetOp
deriving DecidableEq, Repr

/-- What an operation returns. -/
inductive BudgetAnswer
  | recorded
  /-- The reason code, if the limit is exceeded. -/
  | exceeded (reason : Option String)
  /-- The start and the cost of the tenant's window. -/
  | window (start cost : Int)
deriving DecidableEq, Repr

/-- One operation. -/
def CostBooks.step (budget : BudgetSettings) (books : CostBooks) (c : BudgetCall) :
    BudgetAnswer × CostBooks :=
  match c.op with
  | .record tenantId providerId toolName amount =>
    (.recorded, books.recordTenantCost budget (normalizedTenant tenantId) providerId toolName amount
      c.now)
  | .check tenantId providerId toolName =>
    let r := books.costLimitExceeded budget (normalizedTenant tenantId) providerId toolName c.now
    (.exceeded r.1, r.2)
  | .stats tenantId =>
    let r := books.tenantWindowState budget (normalizedTenant tenantId) (Epoch.seconds c.now)
    (.window r.1.1 r.1.2, r.2)

/-- The calls are made in the order of their readings of the clock, and it is at least 1. -/
def Ordered (calls : List BudgetCall) : Prop :=
  (calls.Pairwise fun a b ↦ a.now ≤ b.now) ∧ ∀ c ∈ calls, 1 ≤ Epoch.seconds c.now

/-! ## What is written down, and when -/

/-- What the call adds to the books of a tenant, if it reads or writes its window. -/
def tenantAccess (t : String) (c : BudgetCall) : Option (Int × Int) :=
  match c.op with
  | .record tenantId _ _ amount =>
    if normalizedTenant tenantId = t then some (Epoch.seconds c.now, max amount 0) else none
  | .check _ _ _ => none
  | .stats tenantId => if normalizedTenant tenantId = t then some (Epoch.seconds c.now, 0) else none

/-- The same for a partition.  A limit that is not positive is not checked. -/
def partitionAccess (budget : BudgetSettings) (t partition : String) (c : BudgetCall) :
    Option (Int × Int) :=
  match c.op with
  | .record tenantId providerId toolName amount =>
    if normalizedTenant tenantId = t ∧
        (budget.resolvePartitionLimit providerId toolName).1 = partition
    then some (Epoch.seconds c.now, max amount 0) else none
  | .check tenantId providerId toolName =>
    if normalizedTenant tenantId = t ∧
        (budget.resolvePartitionLimit providerId toolName).1 = partition ∧
        0 < (budget.resolvePartitionLimit providerId toolName).2.1
    then some (Epoch.seconds c.now, 0) else none
  | .stats _ => none

/-- The accesses to the window of a tenant. -/
def tenantLog (t : String) (calls : List BudgetCall) : List (Int × Int) :=
  calls.filterMap (tenantAccess t)

/-- The accesses to the window of a partition. -/
def partitionLog (budget : BudgetSettings) (t partition : String) (calls : List BudgetCall) :
    List (Int × Int) :=
  calls.filterMap (partitionAccess budget t partition)

/-- The sum of the amounts. -/
def charged (log : List (Int × Int)) : Int := (log.map Prod.snd).sum

theorem charged_append (log : List (Int × Int)) (access : Option (Int × Int)) :
    charged (log ++ access.toList) = charged log + (access.map Prod.snd).getD 0 := by
  cases access <;> simp [charged]

theorem tenantAccess_record (t : String) (now : Epoch) (tenantId providerId toolName : String)
    (amount : Int) :
    tenantAccess t ⟨now, .record tenantId providerId toolName amount⟩ =
      if t = normalizedTenant tenantId then some ((Epoch.seconds now : Int), max amount 0)
      else none := by
  simp only [tenantAccess, eq_comm]

theorem tenantAccess_stats (t : String) (now : Epoch) (tenantId : String) :
    tenantAccess t ⟨now, .stats tenantId⟩ =
      if t = normalizedTenant tenantId then some ((Epoch.seconds now : Int), 0) else none := by
  simp only [tenantAccess, eq_comm]

theorem partitionAccess_record (budget : BudgetSettings) (t partition : String) (now : Epoch)
    (tenantId providerId toolName : String) (amount : Int) :
    partitionAccess budget t partition ⟨now, .record tenantId providerId toolName amount⟩ =
      if t = normalizedTenant tenantId ∧
          partition = (budget.resolvePartitionLimit providerId toolName).1
      then some ((Epoch.seconds now : Int), max amount 0) else none := by
  simp only [partitionAccess, eq_comm]

theorem partitionAccess_check (budget : BudgetSettings) (t partition : String) (now : Epoch)
    (tenantId providerId toolName : String) :
    partitionAccess budget t partition ⟨now, .check tenantId providerId toolName⟩ =
      if t = normalizedTenant tenantId ∧
          partition = (budget.resolvePartitionLimit providerId toolName).1 ∧
          0 < (budget.resolvePartitionLimit providerId toolName).2.1
      then some ((Epoch.seconds now : Int), 0) else none := by
  simp only [partitionAccess, eq_comm]

theorem tenantLog_append (t : String) (calls : List BudgetCall) (c : BudgetCall) :
    tenantLog t (calls ++ [c]) = tenantLog t calls ++ (tenantAccess t c).toList := by
  rw [tenantLog, List.filterMap_append, tenantLog]
  cases h : tenantAccess t c <;> simp [h]

theorem partitionLog_append (budget : BudgetSettings) (t partition : String)
    (calls : List BudgetCall) (c : BudgetCall) :
    partitionLog budget t partition (calls ++ [c]) =
      partitionLog budget t partition calls ++ (partitionAccess budget t partition c).toList := by
  rw [partitionLog, List.filterMap_append, partitionLog]
  cases h : partitionAccess budget t partition c <;> simp [h]

/-- The access is made when the call is. -/
theorem fst_of_tenantAccess {t : String} {c : BudgetCall} {a : Int × Int}
    (h : tenantAccess t c = some a) : a.1 = Epoch.seconds c.now := by
  unfold tenantAccess at h
  split at h
  · split at h
    · rw [← Option.some.inj h]
    · exact nomatch h
  · exact nomatch h
  · split at h
    · rw [← Option.some.inj h]
    · exact nomatch h

theorem fst_of_partitionAccess {budget : BudgetSettings} {t partition : String} {c : BudgetCall}
    {a : Int × Int} (h : partitionAccess budget t partition c = some a) :
    a.1 = Epoch.seconds c.now := by
  unfold partitionAccess at h
  split at h
  · split at h
    · rw [← Option.some.inj h]
    · exact nomatch h
  · split at h
    · rw [← Option.some.inj h]
    · exact nomatch h
  · exact nomatch h

section Log

variable {access : BudgetCall → Option (Int × Int)} {calls : List BudgetCall}
  (hnow : ∀ c a, access c = some a → a.1 = Epoch.seconds c.now)

include hnow

/-- A window starts when the clock is at least 1. -/
theorem one_le_start (hclock : ∀ c ∈ calls, 1 ≤ Epoch.seconds c.now) {length : Int}
    {w : Window.Counter} (h : Window.run length (calls.filterMap access) = some w) :
    1 ≤ w.start := by
  obtain ⟨a, ha, hstart⟩ := Window.exists_start_eq h
  obtain ⟨c, hc, haccess⟩ := List.mem_filterMap.mp ha
  have hone := hclock c hc
  rw [← hstart, hnow c a haccess]
  omega

/-- The log is in the order of the clock. -/
theorem sorted_log (hclock : calls.Pairwise fun a b ↦ a.now ≤ b.now) :
    (calls.filterMap access).Pairwise fun a b ↦ a.1 ≤ b.1 := by
  refine List.Pairwise.filterMap access (fun c c' hle a ha a' ha' ↦ ?_) hclock
  rw [hnow c a ha, hnow c' a' ha']
  exact Int.ofNat_le.mpr (Nat.div_le_div_right hle)

end Log

/-! ## The key of a partition -/

/-- What the limit check needs of `str.lower`. -/
structure LowersKeys (lower : String → String) : Prop where
  tenant : lower "tenant" = "tenant"
  /-- What is in lower case stays so after one of these. -/
  lowered : ∀ pre ∈ ["provider:", "tool:"], ∀ name, lower (pre ++ lower name) = pre ++ lower name
  /-- A letter does not become a blank. -/
  stripped : ∀ text, strip text = text → strip (lower text) = lower text

section LowersKeys

variable {budget : BudgetSettings} (hlower : LowersKeys budget.lower)

include hlower

theorem LowersKeys.candidateLimit {pre : String} (hpre : pre ∈ ["provider:", "tool:"])
    {name key : String} {limit : Int} (h : budget.candidateLimit pre name = some (key, limit)) :
    budget.lower (strip key) = key ∧ key ≠ "" := by
  simp only [BudgetSettings.candidateLimit] at h
  split at h
  · exact nomatch h
  · rename_i hname
    obtain ⟨limit', -, hkey⟩ := Option.map_eq_some_iff.mp h
    obtain rfl := (Prod.mk.inj hkey).1
    have hstrip : strip pre = pre := by
      rcases List.mem_pair.mp hpre with rfl | rfl <;> decide
    rw [strip_append hstrip (hlower.stripped _ (strip_strip name))]
    refine ⟨hlower.lowered pre hpre (strip name), fun hempty ↦ hname ?_⟩
    exact (String.append_eq_empty_iff.mp hempty).2

/-- The key of a partition is one that the check does not change. -/
theorem LowersKeys.resolvePartitionLimit (providerId toolName : String) :
    budget.lower (strip (budget.resolvePartitionLimit providerId toolName).1) =
        (budget.resolvePartitionLimit providerId toolName).1 ∧
      (budget.resolvePartitionLimit providerId toolName).1 ≠ "" := by
  have htenant : budget.lower (strip "tenant") = "tenant" ∧ "tenant" ≠ "" :=
    ⟨hlower.tenant, by decide⟩
  rw [BudgetSettings.resolvePartitionLimit]
  cases budget.scope with
  | tenant => exact htenant
  | perProvider =>
    cases h : budget.candidateLimit "provider:" providerId with
    | none => exact htenant
    | some candidate => exact hlower.candidateLimit (by simp) h
  | perTool =>
    cases h : budget.candidateLimit "tool:" toolName with
    | none => exact htenant
    | some candidate => exact hlower.candidateLimit (by simp) h

end LowersKeys

/-! ## A pair of dictionaries -/

open Window (Counter roll advance run since)

/-- The dictionaries hold the starts and the amounts of the counters. -/
def Represents (started windows : Dict String Int) (f : String → Option Counter) : Prop :=
  ∀ k, started.get? k = (f k).map Counter.start ∧ windows.get? k = (f k).map Counter.amount

variable {started windows : Dict String Int} {f : String → Option Counter} {key : String}
  {length now : Int}

theorem represents_empty : Represents Dict.empty Dict.empty fun _ ↦ none := fun _ ↦ ⟨rfl, rfl⟩

theorem Represents.set (h : Represents started windows f) (key : String) (w : Counter) :
    Represents (started.set key w.start) (windows.set key w.amount)
      (Function.update f key (some w)) := by
  intro k
  rw [Dict.get?_set, Dict.get?_set, Function.update_apply]
  split
  · exact ⟨rfl, rfl⟩
  · exact h k

/-- Where there is a counter already, it is the one that stays. -/
theorem Represents.setDefault (h : Represents started windows f) {key : String} {w : Counter}
    (hw : ∀ w', f key = some w' → w' = w) :
    Represents (started.setDefault key w.start) (windows.setDefault key w.amount)
      (Function.update f key (some w)) := by
  intro k
  obtain ⟨hs, hc⟩ := h key
  rw [Dict.get?_setDefault, Dict.get?_setDefault, Function.update_apply]
  split
  · rename_i hk
    rw [hk, hs, hc]
    cases hf : f key with
    | none => exact ⟨rfl, rfl⟩
    | some w' =>
      rw [hw w' hf]
      exact ⟨rfl, rfl⟩
  · exact h k

/-- **A reading** of a window whose start is positive sees `roll`, and leaves it. -/
theorem windowState_spec (h : Represents started windows f)
    (hstart : ∀ w, f key = some w → 1 ≤ w.start) (hnow : 1 ≤ now) (length : Int) :
    (windowState length key now started windows).1 =
        ((roll length now (f key)).start, (roll length now (f key)).amount) ∧
      Represents (windowState length key now started windows).2.1
        (windowState length key now started windows).2.2
        (Function.update f key (some (roll length now (f key)))) := by
  obtain ⟨hs, hc⟩ := h key
  rw [windowState, hs, hc]
  cases hf : f key with
  | none =>
    have hpos : ¬now ≤ 0 := by omega
    simp only [Option.map_none, Option.getD_none, if_neg hpos, roll]
    split
    · exact ⟨rfl, h.set key ⟨now, 0⟩⟩
    · refine ⟨rfl, h.setDefault (w := ⟨now, 0⟩) fun w' hw' ↦ ?_⟩
      rw [hf] at hw'
      cases hw'
  | some w =>
    have hpos : ¬w.start ≤ 0 := by have := hstart w hf; omega
    simp only [Option.map_some, Option.getD_some, if_neg hpos, roll]
    split
    · exact ⟨rfl, h.set key ⟨now, 0⟩⟩
    · refine ⟨rfl, h.setDefault (w := w) fun w' hw' ↦ ?_⟩
      rw [hf, Option.some_inj] at hw'
      exact hw'.symm

/-- **A charge** reads the window and writes what it saw with the amount added. -/
theorem represents_charge (h : Represents started windows f)
    (hstart : ∀ w, f key = some w → 1 ≤ w.start) (hnow : 1 ≤ now) (length x : Int) :
    let w := windowState length key now started windows
    Represents (w.2.1.set key w.1.1) (w.2.2.set key (w.1.2 + x))
      (Function.update f key (some (advance length (f key) (now, x)))) := by
  obtain ⟨hseen, hleft⟩ := windowState_spec h hstart hnow length
  have hset := hleft.set key (advance length (f key) (now, x))
  rw [Function.update_idem] at hset
  simp only [hseen]
  exact hset

/-- The counters after a call that accesses one window. -/
theorem run_append_of_access (length : Int) (log : String → List (Int × Int))
    (access : String → Option (Int × Int)) (key : String) {a : Int × Int}
    (hkey : access key = some a) (hother : ∀ k, k ≠ key → access k = none) :
    (fun k ↦ run length (log k ++ (access k).toList)) =
      Function.update (fun k ↦ run length (log k)) key
        (some (advance length (run length (log key)) a)) := by
  funext k
  by_cases hk : k = key
  · rw [hk, Function.update_self, hkey]
    exact Window.run_append length (log key) a
  · rw [Function.update_of_ne hk, hother k hk, Option.toList_none, List.append_nil]

/-! ## The dictionaries of a tenant -/

/-- The inner dictionary of a tenant. -/
def nested (d : Dict String (Dict String Int)) (t : String) : Dict String Int :=
  (d.get? t).getD Dict.empty

theorem nested_set (d : Dict String (Dict String Int)) (t : String) (e : Dict String Int)
    (t' : String) : nested (d.set t e) t' = if t' = t then e else nested d t' := by
  rw [nested, Dict.get?_set]
  split <;> rfl

namespace CostBooks

variable {budget : BudgetSettings} {books : CostBooks} {calls : List BudgetCall}

/-- The total of a partition. -/
def partitionTotalOf (t partition : String) (books : CostBooks) : Int :=
  ((nested books.partitionTotal t).get? partition).getD 0

/-- The sum of the totals of the partitions of a tenant. -/
def partitionSum (t : String) (books : CostBooks) : Int :=
  ((nested books.partitionTotal t).entries.map Prod.snd).sum

theorem partitionTotal_recordTenantCost (budget : BudgetSettings)
    (tenantId providerId toolName : String) (amount : Int) (now : Epoch) (books : CostBooks) :
    (books.recordTenantCost budget tenantId providerId toolName amount now).partitionTotal =
      books.partitionTotal.set tenantId ((nested books.partitionTotal tenantId).set
        (budget.resolvePartitionLimit providerId toolName).1
        (((nested books.partitionTotal tenantId).get?
          (budget.resolvePartitionLimit providerId toolName).1).getD 0 + max amount 0)) := by
  simp only [recordTenantCost]
  split <;> rfl

/-- What a charge does to the windows. -/
theorem windows_recordTenantCost (hpolicy : budget.enableCostWindowPolicy = true)
    (tenantId providerId toolName : String) (amount : Int) (now : Epoch) (books : CostBooks) :
    let books' := books.recordTenantCost budget tenantId providerId toolName amount now
    let partition := (budget.resolvePartitionLimit providerId toolName).1
    let w := windowState budget.windowSeconds tenantId (Epoch.seconds now) books.tenantWindowStarted
      books.tenantWindow
    let p := windowState budget.windowSeconds partition (Epoch.seconds now)
      (nested books.partitionWindowStarted tenantId) (nested books.partitionWindow tenantId)
    books'.tenantWindowStarted = w.2.1.set tenantId w.1.1 ∧
      books'.tenantWindow = w.2.2.set tenantId (w.1.2 + max amount 0) ∧
      ∀ t, nested books'.partitionWindowStarted t =
          (if t = tenantId then p.2.1.set partition p.1.1
          else nested books.partitionWindowStarted t) ∧
        nested books'.partitionWindow t =
          if t = tenantId then p.2.2.set partition (p.1.2 + max amount 0)
          else nested books.partitionWindow t := by
  simp only [recordTenantCost, if_pos hpolicy]
  refine ⟨rfl, rfl, fun t ↦ ?_⟩
  simp only [tenantWindowState, partitionWindowState, nested_set, Dict.get?_set, if_true,
    Option.getD_some]
  constructor
  · split <;> rfl
  · split <;> rfl

/-- What the books hold after the calls. -/
structure Books (budget : BudgetSettings) (calls : List BudgetCall) (books : CostBooks) : Prop where
  total : ∀ t, books.total t = charged (tenantLog t calls)
  partitionTotal : ∀ t partition,
    books.partitionTotalOf t partition = charged (partitionLog budget t partition calls)
  partitionSum : ∀ t, books.total t = books.partitionSum t
  tenantWindow : budget.enableCostWindowPolicy = true →
    Represents books.tenantWindowStarted books.tenantWindow
      fun t ↦ run budget.windowSeconds (tenantLog t calls)
  partitionWindow : budget.enableCostWindowPolicy = true → ∀ t,
    Represents (nested books.partitionWindowStarted t) (nested books.partitionWindow t)
      fun partition ↦ run budget.windowSeconds (partitionLog budget t partition calls)

theorem books_initial (budget : BudgetSettings) : Books budget [] {} where
  total _ := rfl
  partitionTotal _ _ := rfl
  partitionSum _ := rfl
  tenantWindow _ := represents_empty
  partitionWindow _ _ := represents_empty

/-- A charge. -/
theorem Books.record (h : Books budget calls books)
    (hclock : ∀ c ∈ calls, 1 ≤ Epoch.seconds c.now) {now : Epoch} (hnow : 1 ≤ Epoch.seconds now)
    (tenantId providerId toolName : String) (amount : Int) :
    Books budget (calls ++ [⟨now, .record tenantId providerId toolName amount⟩])
      (books.recordTenantCost budget (normalizedTenant tenantId) providerId toolName amount
        now) where
  total t := by
    rw [total_recordTenantCost, h.total, tenantLog_append, charged_append, tenantAccess_record]
    by_cases ht : t = normalizedTenant tenantId
    · rw [if_pos ht, if_pos ht.symm]
      rfl
    · rw [if_neg ht, if_neg (Ne.symm ht)]
      rfl
  partitionTotal t partition := by
    rw [partitionTotalOf, partitionTotal_recordTenantCost, nested_set, partitionLog_append,
      charged_append, ← h.partitionTotal, partitionAccess_record]
    by_cases ht : t = normalizedTenant tenantId
    · rw [if_pos ht, Dict.get?_set]
      by_cases hp : partition = (budget.resolvePartitionLimit providerId toolName).1
      · rw [if_pos hp, if_pos ⟨ht, hp⟩, ht, hp]
        rfl
      · rw [if_neg hp, if_neg fun h ↦ hp h.2, ht]
        exact (Int.add_zero _).symm
    · rw [if_neg ht, if_neg fun h ↦ ht h.1]
      exact (Int.add_zero _).symm
  partitionSum t := by
    rw [total_recordTenantCost, h.partitionSum, CostBooks.partitionSum, CostBooks.partitionSum,
      partitionTotal_recordTenantCost, nested_set]
    by_cases ht : t = normalizedTenant tenantId
    · rw [if_pos ht, if_pos ht.symm, Dict.sum_values_set, ht]
    · rw [if_neg ht, if_neg (Ne.symm ht), Int.add_zero]
  tenantWindow hpolicy := by
    obtain ⟨hs, hw, -⟩ := windows_recordTenantCost hpolicy (normalizedTenant tenantId) providerId
      toolName amount now books
    have hlog := run_append_of_access budget.windowSeconds (fun t ↦ tenantLog t calls)
      (fun t ↦ tenantAccess t ⟨now, .record tenantId providerId toolName amount⟩)
      (normalizedTenant tenantId) (by rw [tenantAccess_record, if_pos rfl])
      fun k hk ↦ by rw [tenantAccess_record, if_neg hk]
    simp only [← tenantLog_append] at hlog
    rw [hs, hw, hlog]
    exact represents_charge (h.tenantWindow hpolicy)
      (fun w hw ↦ one_le_start (fun _ _ ↦ fst_of_tenantAccess) hclock hw) (by omega) _ _
  partitionWindow hpolicy t := by
    obtain ⟨-, -, hp⟩ := windows_recordTenantCost hpolicy (normalizedTenant tenantId) providerId
      toolName amount now books
    rw [(hp t).1, (hp t).2]
    simp only [partitionLog_append]
    by_cases ht : t = normalizedTenant tenantId
    · have hlog := run_append_of_access budget.windowSeconds
        (fun partition ↦ partitionLog budget t partition calls)
        (fun partition ↦ partitionAccess budget t partition
          ⟨now, .record tenantId providerId toolName amount⟩)
        (budget.resolvePartitionLimit providerId toolName).1
        (by rw [partitionAccess_record, if_pos ⟨ht, rfl⟩])
        fun k hk ↦ by rw [partitionAccess_record, if_neg fun h ↦ hk h.2]
      rw [if_pos ht, if_pos ht, hlog, ← ht]
      exact represents_charge (h.partitionWindow hpolicy t)
        (fun w hw ↦ one_le_start (fun _ _ ↦ fst_of_partitionAccess) hclock hw) (by omega) _ _
    · have hnone : ∀ partition, partitionAccess budget t partition
          ⟨now, .record tenantId providerId toolName amount⟩ = none := by
        intro partition
        rw [partitionAccess_record, if_neg fun h ↦ ht h.1]
      simp only [if_neg ht, hnone, Option.toList_none, List.append_nil]
      exact h.partitionWindow hpolicy t

/-- A reading of the tenant's window. -/
theorem Books.stats (h : Books budget calls books)
    (hclock : ∀ c ∈ calls, 1 ≤ Epoch.seconds c.now) {now : Epoch} (hnow : 1 ≤ Epoch.seconds now)
    (tenantId : String) :
    Books budget (calls ++ [⟨now, .stats tenantId⟩])
      (books.tenantWindowState budget (normalizedTenant tenantId) (Epoch.seconds now)).2 where
  total t := by
    have hzero : ((tenantAccess t ⟨now, .stats tenantId⟩).map Prod.snd).getD 0 = 0 := by
      rw [tenantAccess_stats]
      split <;> rfl
    rw [tenantLog_append, charged_append, hzero, Int.add_zero]
    exact h.total t
  partitionTotal t partition := by
    rw [partitionLog_append, partitionAccess, Option.toList_none, List.append_nil]
    exact h.partitionTotal t partition
  partitionSum := h.partitionSum
  tenantWindow hpolicy := by
    have hlog := run_append_of_access budget.windowSeconds (fun t ↦ tenantLog t calls)
      (fun t ↦ tenantAccess t ⟨now, .stats tenantId⟩) (normalizedTenant tenantId)
      (by rw [tenantAccess_stats, if_pos rfl]) fun k hk ↦ by rw [tenantAccess_stats, if_neg hk]
    simp only [← tenantLog_append, Window.advance_zero] at hlog
    rw [hlog]
    exact (windowState_spec (h.tenantWindow hpolicy)
      (fun w hw ↦ one_le_start (fun _ _ ↦ fst_of_tenantAccess) hclock hw) (by omega) _).2
  partitionWindow hpolicy t := by
    have hsame : ∀ partition, partitionLog budget t partition (calls ++ [⟨now, .stats tenantId⟩]) =
        partitionLog budget t partition calls := by
      intro partition
      rw [partitionLog_append, partitionAccess, Option.toList_none, List.append_nil]
    simp only [hsame]
    exact h.partitionWindow hpolicy t

/-! ## The limit check -/

section LimitCheck

variable (hlower : LowersKeys budget.lower) (tenantId providerId toolName : String) (now : Epoch)
  (books : CostBooks)

include hlower

/-- The check looks where the charge wrote. -/
theorem costLimitExceeded_eq :
    books.costLimitExceeded budget tenantId providerId toolName now =
      let r := budget.resolvePartitionLimit providerId toolName
      if r.2.1 ≤ 0 then (none, books)
      else if budget.enableCostWindowPolicy then
        let p := books.partitionWindowState budget tenantId r.1 (Epoch.seconds now)
        (if r.2.1 ≤ p.1.2 then
          some (if r.2.2 then "BYOC_COST_WINDOW_PARTITION_LIMIT_EXCEEDED"
            else "BYOC_COST_WINDOW_LIMIT_EXCEEDED")
        else none, p.2)
      else
        (if r.2.1 ≤ books.partitionTotalOf tenantId r.1 then
          some (if r.2.2 then "BYOC_COST_PARTITION_LIMIT_EXCEEDED" else "BYOC_COST_LIMIT_EXCEEDED")
        else none, books) := by
  obtain ⟨hkey, hne⟩ := hlower.resolvePartitionLimit providerId toolName
  simp only [costLimitExceeded, hkey, if_neg hne]
  rfl

/-- The check says yes if what it found has reached a limit. -/
theorem isSome_costLimitExceeded :
    (books.costLimitExceeded budget tenantId providerId toolName now).1.isSome = true ↔
      let r := budget.resolvePartitionLimit providerId toolName
      0 < r.2.1 ∧
        if budget.enableCostWindowPolicy then
          r.2.1 ≤ (windowState budget.windowSeconds r.1 (Epoch.seconds now)
            (nested books.partitionWindowStarted tenantId)
            (nested books.partitionWindow tenantId)).1.2
        else r.2.1 ≤ books.partitionTotalOf tenantId r.1 := by
  rw [costLimitExceeded_eq hlower]
  dsimp only
  by_cases hlimit : 0 < (budget.resolvePartitionLimit providerId toolName).2.1
  · rw [if_neg (Int.not_le.mpr hlimit), and_iff_right hlimit]
    split
    · rw [Option.isSome_ite]
      rfl
    · rw [Option.isSome_ite]
  · rw [if_pos (Int.not_lt.mp hlimit)]
    exact ⟨nofun, fun h ↦ absurd h.1 hlimit⟩

theorem partitionTotal_costLimitExceeded :
    (books.costLimitExceeded budget tenantId providerId toolName now).2.partitionTotal =
      books.partitionTotal := by
  rw [costLimitExceeded_eq hlower]
  dsimp only
  split
  · rfl
  · split <;> rfl

/-- A check under the window policy reads the window of a partition that has a limit. -/
theorem windows_costLimitExceeded (hpolicy : budget.enableCostWindowPolicy = true) :
    let books' := (books.costLimitExceeded budget tenantId providerId toolName now).2
    let r := budget.resolvePartitionLimit providerId toolName
    let p := windowState budget.windowSeconds r.1 (Epoch.seconds now)
      (nested books.partitionWindowStarted tenantId) (nested books.partitionWindow tenantId)
    books'.tenantWindowStarted = books.tenantWindowStarted ∧
      books'.tenantWindow = books.tenantWindow ∧
      ∀ t, nested books'.partitionWindowStarted t =
          (if t = tenantId ∧ 0 < r.2.1 then p.2.1 else nested books.partitionWindowStarted t) ∧
        nested books'.partitionWindow t =
          if t = tenantId ∧ 0 < r.2.1 then p.2.2 else nested books.partitionWindow t := by
  rw [costLimitExceeded_eq hlower]
  dsimp only
  by_cases hlimit : 0 < (budget.resolvePartitionLimit providerId toolName).2.1
  · rw [if_neg (Int.not_le.mpr hlimit), if_pos hpolicy]
    refine ⟨rfl, rfl, fun t ↦ ?_⟩
    simp only [partitionWindowState, nested_set, hlimit, and_true]
    exact ⟨rfl, rfl⟩
  · rw [if_pos (Int.not_lt.mp hlimit)]
    exact ⟨rfl, rfl, fun t ↦ ⟨(if_neg fun h ↦ hlimit h.2).symm, (if_neg fun h ↦ hlimit h.2).symm⟩⟩

/-- A check. -/
theorem Books.check (h : Books budget calls books)
    (hclock : ∀ c ∈ calls, 1 ≤ Epoch.seconds c.now) (hnow : 1 ≤ Epoch.seconds now) :
    Books budget (calls ++ [⟨now, .check tenantId providerId toolName⟩])
      (books.costLimitExceeded budget (normalizedTenant tenantId) providerId toolName now).2 where
  total t := by
    rw [CostBooks.total, tenantTotal_costLimitExceeded, tenantLog_append, tenantAccess,
      Option.toList_none, List.append_nil]
    exact h.total t
  partitionTotal t partition := by
    have hzero : ((partitionAccess budget t partition
        ⟨now, .check tenantId providerId toolName⟩).map Prod.snd).getD 0 = 0 := by
      rw [partitionAccess_check]
      split <;> rfl
    rw [partitionTotalOf, partitionTotal_costLimitExceeded hlower, partitionLog_append,
      charged_append, hzero, Int.add_zero]
    exact h.partitionTotal t partition
  partitionSum t := by
    rw [CostBooks.total, tenantTotal_costLimitExceeded, CostBooks.partitionSum,
      partitionTotal_costLimitExceeded hlower]
    exact h.partitionSum t
  tenantWindow hpolicy := by
    obtain ⟨hs, hw, -⟩ := windows_costLimitExceeded hlower (normalizedTenant tenantId) providerId
      toolName now books hpolicy
    have hsame : ∀ t, tenantLog t (calls ++ [⟨now, .check tenantId providerId toolName⟩]) =
        tenantLog t calls := by
      intro t
      rw [tenantLog_append, tenantAccess, Option.toList_none, List.append_nil]
    simp only [hsame]
    rw [hs, hw]
    exact h.tenantWindow hpolicy
  partitionWindow hpolicy t := by
    obtain ⟨-, -, hp⟩ := windows_costLimitExceeded hlower (normalizedTenant tenantId) providerId
      toolName now books hpolicy
    rw [(hp t).1, (hp t).2]
    simp only [partitionLog_append]
    by_cases ht : t = normalizedTenant tenantId ∧
        0 < (budget.resolvePartitionLimit providerId toolName).2.1
    · have hlog := run_append_of_access budget.windowSeconds
        (fun partition ↦ partitionLog budget t partition calls)
        (fun partition ↦ partitionAccess budget t partition
          ⟨now, .check tenantId providerId toolName⟩)
        (budget.resolvePartitionLimit providerId toolName).1
        (by rw [partitionAccess_check, if_pos ⟨ht.1, rfl, ht.2⟩])
        fun k hk ↦ by rw [partitionAccess_check, if_neg fun h ↦ hk h.2.1]
      rw [if_pos ht, if_pos ht, hlog, Window.advance_zero, ← ht.1]
      exact (windowState_spec (h.partitionWindow hpolicy t)
        (fun w hw ↦ one_le_start (fun _ _ ↦ fst_of_partitionAccess) hclock hw) (by omega) _).2
    · have hnone : ∀ partition, partitionAccess budget t partition
          ⟨now, .check tenantId providerId toolName⟩ = none := by
        intro partition
        rw [partitionAccess_check, if_neg fun h ↦ ht ⟨h.1, h.2.2⟩]
      simp only [if_neg ht, hnone, Option.toList_none, List.append_nil]
      exact h.partitionWindow hpolicy t

end LimitCheck

/-! ## Runs -/

/-- One operation. -/
theorem Books.step (hlower : LowersKeys budget.lower) (h : Books budget calls books)
    (hclock : ∀ c ∈ calls, 1 ≤ Epoch.seconds c.now) {c : BudgetCall}
    (hnow : 1 ≤ Epoch.seconds c.now) :
    Books budget (calls ++ [c]) (books.step budget c).2 := by
  obtain ⟨now, op⟩ := c
  cases op with
  | record tenantId providerId toolName amount =>
    exact h.record hclock hnow tenantId providerId toolName amount
  | check tenantId providerId toolName =>
    exact h.check hlower tenantId providerId toolName now books hclock hnow
  | stats tenantId => exact h.stats hclock hnow tenantId

/-- **The books after any operations.** -/
theorem books_run (hlower : LowersKeys budget.lower)
    (hclock : ∀ c ∈ calls, 1 ≤ Epoch.seconds c.now) :
    Books budget calls (Run.exec (step budget) {} calls) := by
  induction calls using List.reverseRecOn with
  | nil => exact books_initial budget
  | append_singleton calls c ih =>
    rw [Run.exec_append]
    have hcalls : ∀ c ∈ calls, 1 ≤ Epoch.seconds c.now := fun c' hc' ↦
      hclock c' (List.mem_append_left _ hc')
    exact (ih hcalls).step hlower hcalls (hclock c (by simp))

end CostBooks

/-! ## The windows add up -/

/-- A window that nobody accessed does not exist.  Another has the amounts since its start, and the
last access was less than `length` after it. -/
def WindowAddsUp (length : Int) (log : List (Int × Int)) (started cost : Option Int) : Prop :=
  match log.getLast? with
  | none => started = none ∧ cost = none
  | some last => ∃ start, started = some start ∧ cost = some (since start log) ∧
      start ≤ last.1 ∧ last.1 - start ≤ length - 1

theorem Represents.windowAddsUp {log : String → List (Int × Int)}
    (h : Represents started windows fun k ↦ run length (log k)) (hlength : 1 ≤ length) (k : String)
    (hsorted : (log k).Pairwise fun a b ↦ a.1 ≤ b.1) :
    WindowAddsUp length (log k) (started.get? k) (windows.get? k) := by
  obtain ⟨hstarted, hcost⟩ := h k
  rw [hstarted, hcost, WindowAddsUp]
  dsimp only
  cases hrun : run length (log k) with
  | none =>
    rw [Window.run_eq_none_iff.mp hrun]
    exact ⟨rfl, rfl⟩
  | some w =>
    obtain ⟨hamount, last, hlast, hrecent⟩ := Window.counts_run hlength hsorted hrun
    rw [Option.mem_def.mp hlast]
    exact ⟨w.start, rfl, congrArg some hamount, hrecent⟩

namespace BudgetSettings

variable (budget : BudgetSettings)

theorem one_le_windowSeconds : 1 ≤ budget.windowSeconds := Int.le_max_right _ _

end BudgetSettings

namespace CostBooks

variable {budget : BudgetSettings} {books : CostBooks} {calls : List BudgetCall}

/-- What a check finds under the window policy, and leaves: the amounts since the start of a window
that is not over. -/
theorem Books.found_window (hlower : LowersKeys budget.lower) (h : Books budget calls books)
    {tenantId providerId toolName : String} {now : Epoch}
    (hordered : Ordered (calls ++ [⟨now, .check tenantId providerId toolName⟩]))
    (hpolicy : budget.enableCostWindowPolicy = true)
    (hlimit : 0 < (budget.resolvePartitionLimit providerId toolName).2.1) :
    let t := normalizedTenant tenantId
    let r := budget.resolvePartitionLimit providerId toolName
    let checked := books.costLimitExceeded budget t providerId toolName now
    ∃ w : Counter,
      (windowState budget.windowSeconds r.1 (Epoch.seconds now)
        (nested books.partitionWindowStarted t) (nested books.partitionWindow t)).1 =
          (w.start, w.amount) ∧
      (nested checked.2.partitionWindowStarted t).get? r.1 = some w.start ∧
      w.amount = since w.start (partitionLog budget t r.1 calls) ∧
      w.start ≤ Epoch.seconds now ∧ Epoch.seconds now - w.start ≤ budget.windowSeconds - 1 := by
  intro t r checked
  have hclock : ∀ c ∈ calls, 1 ≤ Epoch.seconds c.now := fun c hc ↦
    hordered.2 c (List.mem_append_left _ hc)
  have hnow : 1 ≤ Epoch.seconds now :=
    hordered.2 _ (List.mem_append_right _ (List.mem_singleton_self _))
  have hstart : ∀ w, run budget.windowSeconds (partitionLog budget t r.1 calls) = some w →
      1 ≤ w.start := fun w hw ↦ one_le_start (fun _ _ ↦ fst_of_partitionAccess) hclock hw
  have hone : (1 : Int) ≤ Epoch.seconds now := by omega
  obtain ⟨hseen, -⟩ := windowState_spec (h.partitionWindow hpolicy t) hstart hone
    budget.windowSeconds
  refine ⟨_, hseen, ?_⟩
  -- the check is one more access of the window, which adds nothing
  have hlog : partitionLog budget t r.1 (calls ++ [⟨now, .check tenantId providerId toolName⟩]) =
      partitionLog budget t r.1 calls ++ [((Epoch.seconds now : Int), 0)] := by
    rw [partitionLog_append, partitionAccess_check, if_pos ⟨rfl, rfl, hlimit⟩]
    rfl
  have hrun : run budget.windowSeconds
      (partitionLog budget t r.1 calls ++ [((Epoch.seconds now : Int), 0)]) =
        some (roll budget.windowSeconds (Epoch.seconds now)
          (run budget.windowSeconds (partitionLog budget t r.1 calls))) := by
    rw [Window.run_append, Window.advance_zero]
  have hsorted : (partitionLog budget t r.1
      (calls ++ [⟨now, .check tenantId providerId toolName⟩])).Pairwise fun a b ↦ a.1 ≤ b.1 :=
    sorted_log (fun _ _ ↦ fst_of_partitionAccess) hordered.1
  rw [hlog] at hsorted
  obtain ⟨hamount, last, hlast, hrecent⟩ :=
    Window.counts_run budget.one_le_windowSeconds hsorted hrun
  rw [List.getLast?_concat, Option.mem_def, Option.some_inj] at hlast
  rw [← hlast] at hrecent
  rw [Window.since_append_zero] at hamount
  have hleft := (h.check hlower tenantId providerId toolName now books hclock hnow).partitionWindow
    hpolicy t r.1
  dsimp only at hleft
  rw [hlog, hrun] at hleft
  exact ⟨hleft.1, hamount, hrecent⟩

/-- **The answer of the limit check**, from the books that the calls before it left. -/
theorem Books.exceeded_iff (hlower : LowersKeys budget.lower) (h : Books budget calls books)
    {tenantId providerId toolName : String} {now : Epoch}
    (hordered : Ordered (calls ++ [⟨now, .check tenantId providerId toolName⟩])) :
    let t := normalizedTenant tenantId
    let r := budget.resolvePartitionLimit providerId toolName
    let checked := books.costLimitExceeded budget t providerId toolName now
    let log := partitionLog budget t r.1 calls
    checked.1.isSome = true ↔ 0 < r.2.1 ∧
      if budget.enableCostWindowPolicy then
        ∃ start ∈ (nested checked.2.partitionWindowStarted t).get? r.1,
          start ≤ Epoch.seconds now ∧ Epoch.seconds now - start ≤ budget.windowSeconds - 1 ∧
            r.2.1 ≤ since start log
      else r.2.1 ≤ charged log := by
  intro t r checked log
  rw [isSome_costLimitExceeded hlower, ← h.partitionTotal]
  refine and_congr_right fun hlimit ↦ ?_
  by_cases hpolicy : budget.enableCostWindowPolicy = true
  · obtain ⟨w, hseen, hstarted, hamount, hstart, hrecent⟩ :=
      h.found_window hlower hordered hpolicy hlimit
    rw [if_pos hpolicy, if_pos hpolicy, hseen, hstarted, hamount]
    constructor
    · intro hle
      exact ⟨w.start, rfl, hstart, hrecent, hle⟩
    · rintro ⟨start, hw, -, -, hle⟩
      rw [Option.mem_def, Option.some_inj] at hw
      rw [hw]
      exact hle
  · rw [if_neg hpolicy, if_neg hpolicy]

end CostBooks

/-- **The budget adds up**, after any charges, checks and readings in the order of the clock.  The
total of a tenant is the sum of the totals of its partitions.  Under the window policy its window
and those of its partitions have what was added since they started, less than the length of the
window before the last access.  The limit check says yes exactly if there is a limit, and what was
charged to the partition has reached it: in the window it found, or in all. -/
theorem budget_windows_add_up (budget : BudgetSettings) (hlower : LowersKeys budget.lower)
    (calls : List BudgetCall) (hordered : Ordered calls) :
    let books := Run.exec (CostBooks.step budget) {} calls
    (∀ t, books.total t = books.partitionSum t ∧ books.total t = charged (tenantLog t calls)) ∧
      (budget.enableCostWindowPolicy = true → ∀ t,
        WindowAddsUp budget.windowSeconds (tenantLog t calls) (books.tenantWindowStarted.get? t)
            (books.tenantWindow.get? t) ∧
          ∀ partition, WindowAddsUp budget.windowSeconds (partitionLog budget t partition calls)
            ((nested books.partitionWindowStarted t).get? partition)
            ((nested books.partitionWindow t).get? partition)) ∧
      ∀ tenantId providerId toolName now,
        Ordered (calls ++ [⟨now, .check tenantId providerId toolName⟩]) →
        let t := normalizedTenant tenantId
        let r := budget.resolvePartitionLimit providerId toolName
        let checked := books.costLimitExceeded budget t providerId toolName now
        let log := partitionLog budget t r.1 calls
        (checked.1.isSome = true ↔ 0 < r.2.1 ∧
          if budget.enableCostWindowPolicy then
            ∃ start ∈ (nested checked.2.partitionWindowStarted t).get? r.1,
              start ≤ Epoch.seconds now ∧ Epoch.seconds now - start ≤ budget.windowSeconds - 1 ∧
                r.2.1 ≤ since start log
          else r.2.1 ≤ charged log) := by
  intro books
  have h : CostBooks.Books budget calls books := CostBooks.books_run hlower hordered.2
  refine ⟨fun t ↦ ⟨h.partitionSum t, h.total t⟩, fun hpolicy t ↦ ⟨?_, fun partition ↦ ?_⟩, ?_⟩
  · exact (h.tenantWindow hpolicy).windowAddsUp budget.one_le_windowSeconds t
      (sorted_log (fun _ _ ↦ fst_of_tenantAccess) hordered.1)
  · exact (h.partitionWindow hpolicy t).windowAddsUp budget.one_le_windowSeconds partition
      (sorted_log (fun _ _ ↦ fst_of_partitionAccess) hordered.1)
  · intro tenantId providerId toolName now hcheck
    exact h.exceeded_iff hlower hcheck

/-- A budget with a partition for tool `a` of its own, and windows of ten seconds. -/
def toolBudget : BudgetSettings where
  lower := id
  enableCostWindowPolicy := true
  costWindowSeconds := 10
  budgetPartitionScope := "per_tool"
  budgetPartitionLimitsMicrounits := [("tool:a", 100)]

/-- Tool `a` is used twice and tool `b` once, and the stats are read in between. -/
def toolCalls : List BudgetCall :=
  [⟨1 * ticksPerSecond, .record "t" "p" "a" 60⟩, ⟨3 * ticksPerSecond, .stats "t"⟩,
    ⟨9 * ticksPerSecond, .record " t" "p" "b" 5⟩, ⟨9 * ticksPerSecond, .record "t" "p" "a" 70⟩]

/-- The limit of tool `a` is reached in the second after, and ten seconds later it is not. -/
theorem budget_windows_add_up_tools :
    (Run.exec (CostBooks.step toolBudget) {} toolCalls).partitionSum "t" = 135 ∧
      ((Run.exec (CostBooks.step toolBudget) {} toolCalls).costLimitExceeded toolBudget "t" "p" "a"
        (10 * ticksPerSecond)).1.isSome = true ∧
      ((Run.exec (CostBooks.step toolBudget) {} toolCalls).costLimitExceeded toolBudget "t" "p" "a"
        (20 * ticksPerSecond)).1.isSome = false := by
  obtain ⟨htotal, -, hcheck⟩ := budget_windows_add_up toolBudget ⟨rfl, fun _ _ _ ↦ rfl, fun _ h ↦ h⟩
    toolCalls ⟨by decide +kernel, by decide +kernel⟩
  refine ⟨(htotal "t").1.symm.trans ((htotal "t").2.trans (by decide +kernel)), ?_, ?_⟩
  · exact (hcheck "t" "p" "a" (10 * ticksPerSecond) ⟨by decide +kernel, by decide +kernel⟩).mpr
      ⟨by decide +kernel, 1, by decide +kernel⟩
  · rw [Bool.eq_false_iff]
    intro hexceeded
    obtain ⟨-, start, hstart, -, -, hreached⟩ := (hcheck "t" "p" "a" (20 * ticksPerSecond)
      ⟨by decide +kernel, by decide +kernel⟩).mp hexceeded
    have hnew : start = 20 := Option.some.inj (hstart.symm.trans (by decide +kernel))
    rw [hnew] at hreached
    exact absurd hreached (by decide +kernel)

end Byoc
end ExoBrain
