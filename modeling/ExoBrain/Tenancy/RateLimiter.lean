import ExoBrain.Lib.Dict
import ExoBrain.Lib.Run
import ExoBrain.Lib.Text
import Mathlib.Data.Fintype.EquivFin
import Mathlib.Order.Lattice

/-!
# A rate limit shared by processes

`SQLiteTenantRateLimiter` (`rate_limiter.py`) counts the requests of a tenant in a window of time in a
row that all processes share.  `allow` reads the row with one statement and writes it with another.
A transaction begins with the second one only, and the lock around both is one of the process.

* `execute` is one statement of one process; any number of processes take turns.
* `Fresh` says of a write that the row has not changed since the process has read it.
* `shared_limit_iff`: as long as the clock stays within one window, no more requests than the limit
  are allowed, now and in whatever follows undisturbed, exactly if every write is fresh.
* `two_processes_over_limit` lets two requests through a limit of one.
-/

set_option autoImplicit false

namespace ExoBrain
namespace Tenancy

/-! ## The limiter -/

/-- `SQLiteTenantRateLimiter`, without the path of the database. -/
structure SQLiteTenantRateLimiter where
  maxRequests : Nat
  windowSeconds : Nat
  windowSeconds_pos : 0 < windowSeconds
  limiterId : String
deriving Repr

/-- `str(text or fallback).strip() or fallback`. -/
def orElse (text fallback : String) : String :=
  let stripped := Text.strip (if text = "" then fallback else text)
  if stripped = "" then fallback else stripped

namespace SQLiteTenantRateLimiter

/-- `__init__`. -/
def init (maxRequests : Int) (windowSeconds : Int := 60) (limiterId : String := "default") :
    SQLiteTenantRateLimiter where
  maxRequests := (max maxRequests 0).toNat
  windowSeconds := (max windowSeconds 1).toNat
  windowSeconds_pos := by omega
  limiterId := orElse limiterId "default"

end SQLiteTenantRateLimiter

/-- The arguments of `allow`, and the time that `int(time.time())` reads. -/
structure AllowRequest where
  tenantId : String
  limiterId : Option String := none
  now : Int
deriving DecidableEq, Repr

/-- A row of `tenant_rate_windows`, under its tenant and limiter. -/
structure RateWindow where
  windowId : Int
  requestCount : Nat
  updatedAtEpoch : Int
deriving DecidableEq, Repr

/-- A call of `allow` between its two statements. -/
structure Started where
  key : String × String
  currentWindow : Int
  requestCount : Nat
  now : Int
deriving DecidableEq, Repr

/-- The table, and the calls that have read it and have not yet written it.  A process holds its lock
from the one statement to the other, so it has at most one. -/
structure SharedTable where
  rows : Dict (String × String) RateWindow
  started : Dict Nat Started := Dict.empty

/-- What `allow` returns, and for whom. -/
structure Verdict where
  key : String × String
  allowed : Bool
  value : Nat
deriving DecidableEq, Repr

/-- A statement of a process. -/
inductive Statement
  | select (process : Nat) (request : AllowRequest)
  | replace (process : Nat)
deriving DecidableEq, Repr

namespace SQLiteTenantRateLimiter

variable (limiter : SQLiteTenantRateLimiter)

/-- `tenant_key` and `limiter_key`. -/
def keyOf (request : AllowRequest) : String × String :=
  (orElse request.tenantId "default", orElse (request.limiterId.getD "") limiter.limiterId)

/-- `current_window`. -/
def windowOf (request : AllowRequest) : Int := request.now / limiter.windowSeconds

end SQLiteTenantRateLimiter

namespace SharedTable

/-- The count that a process reads: nothing has been counted if there is no row, or one of another
window. -/
def counted (window : Int) (key : String × String) (s : SharedTable) : Nat :=
  match s.rows.get? key with
  | none => 0
  | some row => if row.windowId ≠ window then 0 else row.requestCount

variable (limiter : SQLiteTenantRateLimiter)

/-- One statement: `allow` up to the `SELECT` and what follows from it, or the `INSERT OR REPLACE`
with its transaction.  A process whose lock is held waits. -/
def execute (s : SharedTable) : Statement → Option Verdict × SharedTable
  | .select process request =>
    let key := limiter.keyOf request
    if limiter.maxRequests = 0 then (some ⟨key, true, 0⟩, s)
    else if process ∈ s.started.keys then (none, s)
    else
      let currentWindow := limiter.windowOf request
      let requestCount := s.counted currentWindow key
      if limiter.maxRequests ≤ requestCount then (some ⟨key, false, limiter.windowSeconds⟩, s)
      else (none, { s with
        started := s.started.set process ⟨key, currentWindow, requestCount, request.now⟩ })
  | .replace process =>
    match s.started.get? process with
    | none => (none, s)
    | some call =>
      let newCount := call.requestCount + 1
      (some ⟨call.key, true, limiter.maxRequests - newCount⟩,
        { rows := s.rows.set call.key ⟨call.currentWindow, newCount, call.now⟩
          started := s.started.erase process })

/-- A write is fresh: a process that wrote now would read what it has read before. -/
def Fresh (s : SharedTable) : Statement → Prop
  | .select _ _ => True
  | .replace process => ∀ call ∈ s.started.get? process,
      call.requestCount = s.counted call.currentWindow call.key

end SharedTable

/-- The verdict is that a request for the key is allowed. -/
def admits (key : String × String) (verdict : Option Verdict) : Bool :=
  verdict.any fun v ↦ v.key = key && v.allowed

/-- How many requests for a key were allowed. -/
def allowedFor (key : String × String) (history : List (Statement × Option Verdict)) : Nat :=
  history.countP fun e ↦ admits key e.2

/-- The clock shows a time in the window. -/
def Statement.InWindow (limiter : SQLiteTenantRateLimiter) (window : Int) : Statement → Prop
  | .select _ request => limiter.windowOf request = window
  | .replace _ => True

instance (limiter : SQLiteTenantRateLimiter) (window : Int) :
    (statement : Statement) → Decidable (statement.InWindow limiter window)
  | .select _ request => inferInstanceAs (Decidable (limiter.windowOf request = window))
  | .replace _ => isTrue trivial

/-- The two statements of a call that nobody comes between. -/
def AllowRequest.statements (process : Nat) (request : AllowRequest) : List Statement :=
  [.select process request, .replace process]

/-! ## One statement -/

namespace SharedTable

variable {limiter : SQLiteTenantRateLimiter} {s : SharedTable}

/-- **What a statement does**, where there is a limit: nothing that counts, or a call reads the row,
or a call writes it and allows its request. -/
theorem execute_cases (hmax : 0 < limiter.maxRequests) (statement : Statement) :
    (∃ verdict, s.execute limiter statement = (verdict, s) ∧ (∀ key, admits key verdict = false) ∧
        s.Fresh statement) ∨
      (∃ process request, statement = .select process request ∧
        s.counted (limiter.windowOf request) (limiter.keyOf request) < limiter.maxRequests ∧
        s.execute limiter statement = (none, { s with
          started := s.started.set process ⟨limiter.keyOf request, limiter.windowOf request,
            s.counted (limiter.windowOf request) (limiter.keyOf request), request.now⟩ })) ∨
      ∃ process call value, statement = .replace process ∧ s.started.get? process = some call ∧
        s.execute limiter statement = (some ⟨call.key, true, value⟩,
          { rows := s.rows.set call.key ⟨call.currentWindow, call.requestCount + 1, call.now⟩
            started := s.started.erase process }) := by
  cases statement with
  | select process request =>
    rw [execute]
    dsimp only
    rw [if_neg hmax.ne']
    by_cases hwaits : process ∈ s.started.keys
    · rw [if_pos hwaits]
      exact .inl ⟨none, rfl, fun _ ↦ rfl, trivial⟩
    · rw [if_neg hwaits]
      by_cases hfull : limiter.maxRequests ≤
          s.counted (limiter.windowOf request) (limiter.keyOf request)
      · rw [if_pos hfull]
        exact .inl ⟨_, rfl, fun key ↦ by simp [admits], trivial⟩
      · rw [if_neg hfull]
        exact .inr (.inl ⟨process, request, rfl, not_le.mp hfull, rfl⟩)
  | replace process =>
    rw [execute]
    cases hstarted : s.started.get? process with
    | none =>
      refine .inl ⟨none, rfl, fun _ ↦ rfl, fun call hcall ↦ ?_⟩
      rw [hstarted] at hcall
      cases hcall
    | some call => exact .inr (.inr ⟨process, call, _, rfl, hstarted, rfl⟩)

/-- What is read after a write. -/
theorem counted_write (call : Started) (count : Nat) (started : Dict Nat Started)
    (key : String × String) :
    counted call.currentWindow key
        { rows := s.rows.set call.key ⟨call.currentWindow, count, call.now⟩, started := started } =
      if key = call.key then count else s.counted call.currentWindow key := by
  rw [counted, Dict.get?_set]
  by_cases hkey : key = call.key
  · simp [hkey]
  · rw [if_neg hkey, if_neg hkey, counted]

end SharedTable

theorem allowedFor_append (key : String × String) (history later : List (Statement × Option Verdict)) :
    allowedFor key (history ++ later) = allowedFor key history + allowedFor key later :=
  List.countP_append

theorem allowedFor_concat (key : String × String) (history : List (Statement × Option Verdict))
    (statement : Statement) (verdict : Option Verdict) :
    allowedFor key (history ++ [(statement, verdict)]) =
      allowedFor key history + if admits key verdict then 1 else 0 := by
  rw [allowedFor_append, allowedFor, allowedFor, List.countP_singleton]

theorem admits_some (key key' : String × String) (value : Nat) :
    admits key (some ⟨key', true, value⟩) = decide (key = key') := by
  simp [admits, eq_comm]

/-! ## What is counted and what is allowed -/

/-- What is true of the table whatever the processes do: no more is counted than was allowed. -/
structure Counting (limiter : SQLiteTenantRateLimiter) (window : Int)
    (history : List (Statement × Option Verdict)) (s : SharedTable) : Prop where
  started : ∀ {process call}, s.started.get? process = some call →
    call.currentWindow = window ∧ call.requestCount < limiter.maxRequests ∧
      call.requestCount ≤ allowedFor call.key history ∧
      ∃ request, limiter.windowOf request = window ∧ limiter.keyOf request = call.key
  counted_le_max : ∀ key, s.counted window key ≤ limiter.maxRequests
  counted_le_allowed : ∀ key, s.counted window key ≤ allowedFor key history
  requested : ∀ {key}, 0 < allowedFor key history →
    ∃ request, limiter.windowOf request = window ∧ limiter.keyOf request = key

/-- Everything that was allowed is counted. -/
def CountsAll (window : Int) (history : List (Statement × Option Verdict)) (s : SharedTable) : Prop :=
  ∀ key, s.counted window key = allowedFor key history

section Steps

variable {limiter : SQLiteTenantRateLimiter} {window : Int}
  {history : List (Statement × Option Verdict)} {s : SharedTable}

theorem Counting.execute (hmax : 0 < limiter.maxRequests) (h : Counting limiter window history s)
    {statement : Statement} (hwindow : statement.InWindow limiter window) :
    Counting limiter window (history ++ [(statement, (s.execute limiter statement).1)])
      (s.execute limiter statement).2 := by
  rcases s.execute_cases hmax statement with ⟨verdict, heq, hadmits, -⟩ |
    ⟨process, request, rfl, hroom, heq⟩ | ⟨process, call, value, rfl, hcall, heq⟩
  · have hallowed (key : String × String) : allowedFor key (history ++ [(statement, verdict)]) =
        allowedFor key history := by
      rw [allowedFor_concat, hadmits]
      rfl
    rw [heq]
    refine ⟨fun {process call} hcall ↦ ?_, h.counted_le_max, fun key ↦ ?_, fun {key} hpos ↦ ?_⟩
    · rw [hallowed]
      exact h.started hcall
    · rw [hallowed]
      exact h.counted_le_allowed key
    · rw [hallowed] at hpos
      exact h.requested hpos
  · have hallowed (key : String × String) :
        allowedFor key (history ++ [(.select process request, none)]) = allowedFor key history :=
      allowedFor_concat key history _ none
    have hin : limiter.windowOf request = window := hwindow
    rw [heq]
    refine ⟨fun {process' call} hcall ↦ ?_, h.counted_le_max, fun key ↦ ?_, fun {key} hpos ↦ ?_⟩
    · rw [hallowed]
      dsimp only at hcall
      rw [Dict.get?_set] at hcall
      split at hcall
      · obtain rfl := Option.some.inj hcall
        refine ⟨hin, hroom, ?_, request, hin, rfl⟩
        dsimp only
        rw [hin]
        exact h.counted_le_allowed _
      · exact h.started hcall
    · rw [hallowed]
      exact h.counted_le_allowed key
    · rw [hallowed] at hpos
      exact h.requested hpos
  · obtain ⟨rfl, hlt, hle, hrequest⟩ := h.started hcall
    have hallowed (key : String × String) :
        allowedFor key (history ++ [(.replace process, some ⟨call.key, true, value⟩)]) =
          allowedFor key history + if key = call.key then 1 else 0 := by
      rw [allowedFor_concat, admits_some]
      by_cases hkey : key = call.key <;> simp [hkey]
    rw [heq]
    refine ⟨fun {process' call'} hcall' ↦ ?_, fun key ↦ ?_, fun key ↦ ?_, fun {key} hpos ↦ ?_⟩
    · dsimp only at hcall'
      rw [Dict.get?_erase] at hcall'
      split at hcall'
      · cases hcall'
      · obtain ⟨hin, hlt', hle', hrequest'⟩ := h.started hcall'
        refine ⟨hin, hlt', ?_, hrequest'⟩
        rw [hallowed]
        exact hle'.trans (Nat.le_add_right _ _)
    · rw [SharedTable.counted_write]
      split
      · exact hlt
      · exact h.counted_le_max key
    · rw [SharedTable.counted_write, hallowed]
      split
      · rename_i hkey
        rw [hkey]
        omega
      · exact h.counted_le_allowed key
    · rw [hallowed] at hpos
      split at hpos
      · rename_i hkey
        exact hkey ▸ hrequest
      · exact h.requested hpos

/-- **Only a write that is not fresh leaves something uncounted.** -/
theorem countsAll_execute_iff (hmax : 0 < limiter.maxRequests)
    (h : Counting limiter window history s) (hall : CountsAll window history s)
    (statement : Statement) :
    CountsAll window (history ++ [(statement, (s.execute limiter statement).1)])
        (s.execute limiter statement).2 ↔ s.Fresh statement := by
  rcases s.execute_cases hmax statement with ⟨verdict, heq, hadmits, hfresh⟩ |
    ⟨process, request, rfl, -, heq⟩ | ⟨process, call, value, rfl, hcall, heq⟩
  · rw [heq]
    refine iff_of_true (fun key ↦ ?_) hfresh
    rw [allowedFor_concat, hadmits]
    exact hall key
  · rw [heq]
    exact iff_of_true (fun key ↦ (hall key).trans (allowedFor_concat key history _ none).symm) trivial
  · obtain ⟨rfl, -⟩ := h.started hcall
    have hiff (key : String × String) : SharedTable.counted call.currentWindow key
          { rows := s.rows.set call.key ⟨call.currentWindow, call.requestCount + 1, call.now⟩
            started := s.started.erase process } =
        allowedFor key (history ++ [(.replace process, some ⟨call.key, true, value⟩)]) ↔
          (key = call.key → call.requestCount = s.counted call.currentWindow call.key) := by
      rw [SharedTable.counted_write, allowedFor_concat, admits_some, ← hall key]
      by_cases hkey : key = call.key
      · subst hkey
        simp
      · simp [hkey]
    rw [heq, CountsAll, SharedTable.Fresh]
    simp only [hiff, hcall, Option.mem_some_iff, forall_eq']
    exact ⟨fun hkeys ↦ hkeys _ rfl, fun hsame _ _ ↦ hsame⟩

/-! ## Calls that nobody comes between -/

/-- Such a call writes what it has just read, and leaves the process idle. -/
theorem statements_fresh (hmax : 0 < limiter.maxRequests) {process : Nat}
    (hidle : process ∉ s.started.keys) (request : AllowRequest) :
    Run.Along (SharedTable.execute limiter) SharedTable.Fresh s (request.statements process) ∧
      process ∉ (Run.exec (SharedTable.execute limiter) s
        (request.statements process)).started.keys := by
  have hnone : s.started.get? process = none := Dict.get?_eq_none_iff.mpr hidle
  rw [AllowRequest.statements, Run.exec, Run.exec, Run.exec, Run.Along, Run.Along, Run.Along,
    SharedTable.execute]
  dsimp only
  rw [if_neg hmax.ne', if_neg hidle]
  split
  · -- The request is refused, and there is nothing to write.
    rw [SharedTable.execute, hnone]
    refine ⟨⟨trivial, fun call hcall ↦ ?_, trivial⟩, hidle⟩
    rw [hnone] at hcall
    cases hcall
  · rw [SharedTable.execute]
    dsimp only
    rw [Dict.get?_set, if_pos rfl]
    refine ⟨⟨trivial, fun call hcall ↦ ?_, trivial⟩, fun hmem ↦ (Dict.mem_keys_erase.mp hmem).1 rfl⟩
    dsimp only at hcall
    rw [Dict.get?_set, if_pos rfl] at hcall
    obtain rfl := Option.some.inj hcall
    rfl

theorem later_fresh (hmax : 0 < limiter.maxRequests) {process : Nat}
    (hidle : process ∉ s.started.keys) (later : List AllowRequest) :
    Run.Along (SharedTable.execute limiter) SharedTable.Fresh s
      (later.flatMap (AllowRequest.statements process)) := by
  induction later generalizing s with
  | nil => trivial
  | cons request later ih =>
    obtain ⟨hfresh, hidle'⟩ := statements_fresh hmax hidle request
    rw [List.flatMap_cons, Run.along_append]
    exact ⟨hfresh, ih hidle'⟩

/-- As long as there is room, the request of such a call is allowed and counted. -/
theorem statements_allowed {process : Nat} (hidle : process ∉ s.started.keys)
    {request : AllowRequest}
    (hroom : s.counted (limiter.windowOf request) (limiter.keyOf request) < limiter.maxRequests) :
    (Run.exec (SharedTable.execute limiter) s (request.statements process)).counted
        (limiter.windowOf request) (limiter.keyOf request) =
      s.counted (limiter.windowOf request) (limiter.keyOf request) + 1 ∧
    allowedFor (limiter.keyOf request)
      (Run.trace (SharedTable.execute limiter) s (request.statements process)) = 1 := by
  have hmax : limiter.maxRequests ≠ 0 := (Nat.zero_lt_of_lt hroom).ne'
  rw [AllowRequest.statements, Run.exec, Run.exec, Run.exec, Run.trace, Run.trace, Run.trace,
    SharedTable.execute]
  dsimp only
  rw [if_neg hmax, if_neg hidle, if_neg (not_le.mpr hroom), SharedTable.execute]
  dsimp only
  rw [Dict.get?_set, if_pos rfl]
  constructor
  · exact (SharedTable.counted_write _ _ _ _).trans (if_pos rfl)
  · simp [allowedFor, admits]

/-- So any number of them is, up to the limit. -/
theorem later_allowed {process : Nat} {request : AllowRequest} {n : Nat}
    (hidle : process ∉ s.started.keys)
    (hroom : s.counted (limiter.windowOf request) (limiter.keyOf request) + n ≤
      limiter.maxRequests) :
    allowedFor (limiter.keyOf request) (Run.trace (SharedTable.execute limiter) s
      ((List.replicate n request).flatMap (AllowRequest.statements process))) = n := by
  induction n generalizing s with
  | zero => rfl
  | succ n ih =>
    have hlt : s.counted (limiter.windowOf request) (limiter.keyOf request) <
        limiter.maxRequests := by omega
    obtain ⟨hcounted, hone⟩ := statements_allowed hidle hlt
    obtain ⟨-, hidle'⟩ := statements_fresh (Nat.zero_lt_of_lt hlt) hidle request
    have hrest := ih hidle' (by omega)
    rw [List.replicate_succ, List.flatMap_cons, Run.trace_append, allowedFor_append, hone, hrest,
      Nat.add_comm]

end Steps

/-! ## All interleavings -/

/-- The limit holds: whatever part of the statements has been executed, and whatever requests an idle
process then makes in the window with nobody coming between its statements, no more requests are
allowed for a tenant and a limiter than the limit says. -/
def LimitHolds (limiter : SQLiteTenantRateLimiter) (window : Int) (s : SharedTable)
    (statements : List Statement) : Prop :=
  ∀ done, done <+: statements → ∀ process,
    process ∉ (Run.exec (SharedTable.execute limiter) s done).started.keys →
    ∀ later : List AllowRequest, (∀ request ∈ later, limiter.windowOf request = window) →
    ∀ key, allowedFor key (Run.trace (SharedTable.execute limiter) s
      (done ++ later.flatMap (AllowRequest.statements process))) ≤ limiter.maxRequests

theorem Counting.initial (limiter : SQLiteTenantRateLimiter) {window : Int}
    {rows : Dict (String × String) RateWindow}
    (hrows : ∀ {key row}, rows.get? key = some row → row.windowId ≠ window) :
    Counting limiter window [] { rows := rows } ∧ CountsAll window [] { rows := rows } := by
  have hzero (key : String × String) : SharedTable.counted window key { rows := rows } = 0 := by
    rw [SharedTable.counted]
    cases hrow : rows.get? key with
    | none => rfl
    | some row => exact if_pos (hrows hrow)
  refine ⟨⟨fun hcall ↦ (nomatch hcall), fun key ↦ ?_, fun key ↦ ?_, fun {key} hpos ↦ ?_⟩, hzero⟩
  · rw [hzero]
    exact Nat.zero_le _
  · rw [hzero]
    exact Nat.zero_le _
  · exact absurd hpos (Nat.lt_irrefl 0)

/-- **A rate limit shared by processes.**  A window begins: no row of the table belongs to it yet.
However the statements of the processes are interleaved while the clock is within the window, the
limit holds exactly if every write is fresh: no other call has written the row of the tenant and the
limiter since the call has read it. -/
theorem shared_limit_iff (limiter : SQLiteTenantRateLimiter) (window : Int)
    (rows : Dict (String × String) RateWindow) (statements : List Statement)
    (hmax : 0 < limiter.maxRequests)
    (hrows : ∀ {key row}, rows.get? key = some row → row.windowId ≠ window)
    (hwindow : ∀ statement ∈ statements, statement.InWindow limiter window) :
    LimitHolds limiter window { rows := rows } statements ↔
      Run.Along (SharedTable.execute limiter) SharedTable.Fresh { rows := rows } statements := by
  obtain ⟨hinitial, hnothing⟩ := Counting.initial limiter hrows
  have hiff (sts : List Statement) (hsts : ∀ st ∈ sts, st.InWindow limiter window) :
      (∀ done, done <+: sts → CountsAll window
        (Run.trace (SharedTable.execute limiter) { rows := rows } done)
        (Run.exec (SharedTable.execute limiter) { rows := rows } done)) ↔
      Run.Along (SharedTable.execute limiter) SharedTable.Fresh { rows := rows } sts :=
    Run.forall_trace_iff_along (P := Counting limiter window) (Q := CountsAll window)
      (fun _ _ _ hin h ↦ h.execute hmax hin)
      (fun _ _ statement _ h hall ↦ countsAll_execute_iff hmax h hall statement)
      hsts hinitial hnothing
  have hcounting (sts : List Statement) (hsts : ∀ st ∈ sts, st.InWindow limiter window) :
      Counting limiter window (Run.trace (SharedTable.execute limiter) { rows := rows } sts)
        (Run.exec (SharedTable.execute limiter) { rows := rows } sts) := by
    have hstep : ∀ h t (st : Statement), st.InWindow limiter window → Counting limiter window h t →
        Counting limiter window (h ++ [(st, (t.execute limiter st).1)]) (t.execute limiter st).2 :=
      fun _ _ _ hin h ↦ h.execute hmax hin
    exact Run.trace_invariant hstep (Run.along_of_forall_mem (fun st hst _ ↦ hsts st hst) _) hinitial
  have hfront {done : List Statement} (hdone : done <+: statements) :
      ∀ st ∈ done, st.InWindow limiter window := fun st hst ↦ hwindow st (hdone.subset hst)
  constructor
  · intro hholds
    rw [← hiff statements hwindow]
    intro done hdone key
    have hdoneCounting := hcounting done (hfront hdone)
    have hle := hdoneCounting.counted_le_allowed key
    have hcountedMax := hdoneCounting.counted_le_max key
    by_contra hne
    -- Something is not counted, so undisturbed requests can go on beyond the limit.
    have hlt := lt_of_le_of_ne hle hne
    obtain ⟨request, hin, rfl⟩ := hdoneCounting.requested (Nat.zero_lt_of_lt hlt)
    obtain ⟨process, hidle⟩ := Infinite.exists_notMem_finset
      (Run.exec (SharedTable.execute limiter) { rows := rows } done).started.keys.toFinset
    rw [List.mem_toFinset] at hidle
    subst hin
    obtain ⟨n, hroom⟩ := Nat.exists_eq_add_of_le hcountedMax
    have hmore := later_allowed hidle hroom.ge
    have hlimit := hholds done hdone process hidle (List.replicate n request)
      (fun other hother ↦ by rw [List.eq_of_mem_replicate hother]) (limiter.keyOf request)
    rw [Run.trace_append, allowedFor_append, hmore] at hlimit
    omega
  · intro hfresh done hdone process hidle later hlater key
    obtain ⟨rest, rfl⟩ := hdone
    have hsts : ∀ st ∈ done ++ later.flatMap (AllowRequest.statements process),
        st.InWindow limiter window := by
      intro st hst
      rcases List.mem_append.mp hst with hst | hst
      · exact hwindow st (List.mem_append_left rest hst)
      · obtain ⟨request, hrequest, hst⟩ := List.mem_flatMap.mp hst
        rcases List.mem_pair.mp hst with rfl | rfl
        · exact hlater request hrequest
        · trivial
    have hall := (hiff _ hsts).mpr (Run.along_append.mpr
      ⟨(Run.along_append.mp hfresh).1, later_fresh hmax hidle later⟩) _ (List.prefix_refl _) key
    rw [← hall]
    exact (hcounting _ hsts).counted_le_max key

/-- One process makes one request. -/
theorem shared_limit_one_process :
    LimitHolds (.init 1) 0 { rows := Dict.empty }
      (AllowRequest.statements 0 { tenantId := "acme", now := 5 }) :=
  (shared_limit_iff (.init 1) 0 Dict.empty _ (by decide) (fun hrow ↦ nomatch hrow)
    (by decide)).mpr (statements_fresh (by decide) (by decide) _).1

/-- The limit is one request.  Two processes read the row before either of them writes it, and both
requests are allowed. -/
theorem two_processes_over_limit :
    let request : AllowRequest := { tenantId := "acme", now := 5 }
    let statements : List Statement := [.select 0 request, .select 1 request, .replace 0, .replace 1]
    (∀ statement ∈ statements, statement.InWindow (.init 1) 0) ∧
      allowedFor ("acme", "default")
        (Run.trace (SharedTable.execute (.init 1)) { rows := Dict.empty } statements) = 2 := by
  decide +kernel

end Tenancy
end ExoBrain
