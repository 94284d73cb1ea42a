import ExoBrain.Tenancy.RateLimiter

/-!
# The two backends of the rate limiters

A process limits turns and uploads.  Its limiters are in memory (`TenantRateLimiter`), or they share one
table of SQLite (`SQLiteTenantRateLimiter`), each under a name of its own.  A limiter of SQLite holds its
lock from its first statement to its second one, but not against the others, so the statements of several
limiters come in any order.

`limiters_agree`: each of them answers as the limiter in memory would, call by call, whatever the clock
shows and whatever the other limiters do.  With several processes this is false (`shared_limit_iff`).
-/

set_option autoImplicit false

namespace ExoBrain
namespace Tenancy

/-- `TenantRateLimiter`. -/
structure TenantRateLimiter where
  maxRequests : Nat
  windowSeconds : Nat
  windowSeconds_pos : 0 < windowSeconds

namespace TenantRateLimiter

variable (limiter : TenantRateLimiter)

/-- `tenant_key`. -/
def keyOf (request : AllowRequest) : String := orElse request.tenantId "default"

/-- `current_window`. -/
def windowOf (request : AllowRequest) : Int := request.now / limiter.windowSeconds

/-- `allow`, on `_windows`: the window of a tenant and the requests counted in it. -/
def allow (windows : Dict String (Int × Nat)) (request : AllowRequest) :
    (Bool × Nat) × Dict String (Int × Nat) :=
  if limiter.maxRequests = 0 then ((true, 0), windows)
  else
    let currentWindow := limiter.windowOf request
    let (window, count) := (windows.get? (keyOf request)).getD (currentWindow, 0)
    let (window, count) := if window ≠ currentWindow then (currentWindow, 0) else (window, count)
    if limiter.maxRequests ≤ count then ((false, limiter.windowSeconds), windows)
    else ((true, limiter.maxRequests - (count + 1)), windows.set (keyOf request) (window, count + 1))

/-- What is counted for a tenant in a window. -/
def counted (window : Int) : Option (Int × Nat) → Nat
  | none => 0
  | some entry => if entry.1 ≠ window then 0 else entry.2

variable {limiter} {windows : Dict String (Int × Nat)} {request : AllowRequest}

/-- What `allow` does where there is a limit. -/
theorem allow_of_pos (hmax : limiter.maxRequests ≠ 0) (windows : Dict String (Int × Nat))
    (request : AllowRequest) :
    let count := counted (limiter.windowOf request) (windows.get? (keyOf request))
    limiter.allow windows request =
      if limiter.maxRequests ≤ count then ((false, limiter.windowSeconds), windows)
      else ((true, limiter.maxRequests - (count + 1)),
        windows.set (keyOf request) (limiter.windowOf request, count + 1)) := by
  rw [allow, if_neg hmax]
  cases windows.get? (keyOf request) with
  | none =>
    dsimp only [Option.getD_none, counted]
    rw [if_neg (not_not.mpr rfl)]
  | some entry =>
    dsimp only [Option.getD_some, counted]
    by_cases hwindow : entry.1 ≠ limiter.windowOf request
    · rw [if_pos hwindow, if_pos hwindow]
    · rw [if_neg hwindow, if_neg hwindow, not_not.mp hwindow]

end TenantRateLimiter

/-! ## Several limiters over one table -/

namespace SQLiteTenantRateLimiter

/-- The name under which a limiter counts. -/
def name (limiter : SQLiteTenantRateLimiter) : String := orElse "" limiter.limiterId

/-- The limiter in memory with the same limits. -/
def inMemory (limiter : SQLiteTenantRateLimiter) : TenantRateLimiter where
  maxRequests := limiter.maxRequests
  windowSeconds := limiter.windowSeconds
  windowSeconds_pos := limiter.windowSeconds_pos

theorem keyOf_of_none {limiter : SQLiteTenantRateLimiter} {request : AllowRequest}
    (h : request.limiterId = none) :
    limiter.keyOf request = (TenantRateLimiter.keyOf request, limiter.name) := by
  rw [keyOf, h]
  rfl

end SQLiteTenantRateLimiter

/-- The limiter whose statement it is. -/
def Statement.process : Statement → Nat
  | .select process _ | .replace process => process

/-- One statement of one of the limiters. -/
def executeOwn (limiters : Nat → SQLiteTenantRateLimiter) (s : SharedTable) (statement : Statement) :
    Option Verdict × SharedTable :=
  s.execute (limiters statement.process) statement

/-- The lock of a limiter is free when it begins a call. -/
def LockFree (s : SharedTable) : Statement → Prop
  | .select process _ => process ∉ s.started.keys
  | .replace _ => True

instance (s : SharedTable) : (statement : Statement) → Decidable (LockFree s statement)
  | .select process _ => inferInstanceAs (Decidable (process ∉ s.started.keys))
  | .replace _ => isTrue trivial

/-- The calls of a limiter. -/
def requestsOf (l : Nat) (statements : List Statement) : List AllowRequest :=
  statements.filterMap fun
    | .select process request => if process = l then some request else none
    | .replace _ => none

/-- What a limiter has answered. -/
def verdictsOf (l : Nat) (history : List (Statement × Option Verdict)) : List (Bool × Nat) :=
  history.filterMap fun e ↦
    if e.1.process = l then e.2.map fun verdict ↦ (verdict.allowed, verdict.value) else none

/-- What it is about to answer. -/
def verdictInFlight (limiter : SQLiteTenantRateLimiter) (l : Nat) (s : SharedTable) : List (Bool × Nat) :=
  match s.started.get? l with
  | none => []
  | some call => [(true, limiter.maxRequests - (call.requestCount + 1))]

section

variable {limiters : Nat → SQLiteTenantRateLimiter} {s : SharedTable} {l : Nat}

/-- The row of a tenant, as it would be in memory. -/
def entryOf (limiter : SQLiteTenantRateLimiter) (tenant : String) (s : SharedTable) : Option (Int × Nat) :=
  (s.rows.get? (tenant, limiter.name)).map fun row ↦ (row.windowId, row.requestCount)

/-- The windows in memory are the rows of the limiter, after the call that is under way. -/
def Matches (limiter : SQLiteTenantRateLimiter) (l : Nat) (s : SharedTable)
    (windows : Dict String (Int × Nat)) : Prop :=
  ∀ tenant, windows.get? tenant =
    match s.started.get? l with
    | none => entryOf limiter tenant s
    | some call =>
      if tenant = call.key.1 then some (call.currentWindow, call.requestCount + 1)
      else entryOf limiter tenant s

theorem counted_eq (limiter : SQLiteTenantRateLimiter) (window : Int) (tenant : String)
    (s : SharedTable) :
    s.counted window (tenant, limiter.name) =
      TenantRateLimiter.counted window (entryOf limiter tenant s) := by
  rw [SharedTable.counted, entryOf]
  cases s.rows.get? (tenant, limiter.name) <;> rfl

/-- What is known of a limiter after some statements. -/
structure Agrees (limiters : Nat → SQLiteTenantRateLimiter) (l : Nat)
    (history : List (Statement × Option Verdict)) (s : SharedTable) : Prop where
  verdicts : verdictsOf l history ++ verdictInFlight (limiters l) l s =
    (Run.trace (limiters l).inMemory.allow Dict.empty (requestsOf l (history.map Prod.fst))).map Prod.snd
  rows : Matches (limiters l) l s
    (Run.exec (limiters l).inMemory.allow Dict.empty (requestsOf l (history.map Prod.fst)))
  own : ∀ p call, s.started.get? p = some call → call.key.2 = (limiters p).name ∧
    ((limiters p).name = (limiters l).name → p = l)

theorem requestsOf_concat (l : Nat) (statements : List Statement) (statement : Statement) :
    requestsOf l (statements ++ [statement]) = requestsOf l statements ++ requestsOf l [statement] :=
  List.filterMap_append

theorem verdictsOf_concat (l : Nat) (history : List (Statement × Option Verdict))
    (e : Statement × Option Verdict) :
    verdictsOf l (history ++ [e]) = verdictsOf l history ++ verdictsOf l [e] :=
  List.filterMap_append

theorem requestsOf_of_ne {process : Nat} (h : process ≠ l) (request : AllowRequest) :
    requestsOf l [.select process request] = [] := by
  simp [requestsOf, h]

theorem requestsOf_self (l : Nat) (request : AllowRequest) :
    requestsOf l [.select l request] = [request] := by
  simp [requestsOf]

theorem verdictsOf_of_ne {statement : Statement} (h : statement.process ≠ l)
    (verdict : Option Verdict) : verdictsOf l [(statement, verdict)] = [] := by
  simp [verdictsOf, h]

theorem verdictsOf_none (statement : Statement) : verdictsOf l [(statement, none)] = [] := by
  simp [verdictsOf]

theorem verdictsOf_some {statement : Statement} (h : statement.process = l) (verdict : Verdict) :
    verdictsOf l [(statement, some verdict)] = [(verdict.allowed, verdict.value)] := by
  simp [verdictsOf, h]

variable {history : List (Statement × Option Verdict)}

/-- A statement of another limiter, or one that does nothing for this one. -/
theorem Agrees.other {statement : Statement} {verdict : Option Verdict} {s' : SharedTable}
    (h : Agrees limiters l history s) (hrequests : requestsOf l [statement] = [])
    (hverdicts : verdictsOf l [(statement, verdict)] = [])
    (hstarted : s'.started.get? l = s.started.get? l)
    (hrows : ∀ tenant, entryOf (limiters l) tenant s' = entryOf (limiters l) tenant s)
    (hown : ∀ p call, s'.started.get? p = some call → call.key.2 = (limiters p).name ∧
      ((limiters p).name = (limiters l).name → p = l)) :
    Agrees limiters l (history ++ [(statement, verdict)]) s' := by
  have hall : requestsOf l ((history ++ [(statement, verdict)]).map Prod.fst) =
      requestsOf l (history.map Prod.fst) := by
    rw [List.map_append, List.map_singleton, requestsOf_concat, hrequests, List.append_nil]
  refine ⟨?_, ?_, hown⟩
  · rw [hall, verdictsOf_concat, hverdicts, List.append_nil, verdictInFlight, hstarted]
    exact h.verdicts
  · rw [hall, Matches, hstarted]
    intro tenant
    rw [hrows]
    exact h.rows tenant

/-- A call of the limiter, when none is under way. -/
theorem Agrees.called {request : AllowRequest} {verdict : Option Verdict} {s' : SharedTable}
    {answer : Bool × Nat} {w windows : Dict String (Int × Nat)} (h : Agrees limiters l history s)
    (hidle : s.started.get? l = none)
    (hw : Run.exec (limiters l).inMemory.allow Dict.empty (requestsOf l (history.map Prod.fst)) = w)
    (hallow : (limiters l).inMemory.allow w request = (answer, windows))
    (hverdicts : verdictsOf l [(.select l request, verdict)] ++ verdictInFlight (limiters l) l s' = [answer])
    (hrows : Matches (limiters l) l s' windows)
    (hown : ∀ p call, s'.started.get? p = some call → call.key.2 = (limiters p).name ∧
      ((limiters p).name = (limiters l).name → p = l)) :
    Agrees limiters l (history ++ [(.select l request, verdict)]) s' := by
  have hall : requestsOf l ((history ++ [(Statement.select l request, verdict)]).map Prod.fst) =
      requestsOf l (history.map Prod.fst) ++ [request] := by
    rw [List.map_append, List.map_singleton, requestsOf_concat, requestsOf_self]
  have hbefore := h.verdicts
  rw [verdictInFlight, hidle, List.append_nil] at hbefore
  refine ⟨?_, ?_, hown⟩
  · rw [hall, Run.trace_append, List.map_append, ← hbefore, verdictsOf_concat, List.append_assoc,
      hverdicts, hw, Run.trace, hallow]
    rfl
  · rw [hall, Run.exec_append, hw, Run.exec, hallow]
    exact hrows

/-- The first statement of a call. -/
theorem execute_select (limiter : SQLiteTenantRateLimiter) {p : Nat} {request : AllowRequest}
    {tenant : String} {count : Nat} (hname : request.limiterId = none) (hlock : p ∉ s.started.keys)
    (htenant : TenantRateLimiter.keyOf request = tenant)
    (hcount : TenantRateLimiter.counted (limiter.windowOf request) (entryOf limiter tenant s) = count) :
    s.execute limiter (.select p request) =
      if limiter.maxRequests = 0 then (some ⟨(tenant, limiter.name), true, 0⟩, s)
      else if limiter.maxRequests ≤ count then
        (some ⟨(tenant, limiter.name), false, limiter.windowSeconds⟩, s)
      else (none, ⟨s.rows,
        s.started.set p ⟨(tenant, limiter.name), limiter.windowOf request, count, request.now⟩⟩) := by
  rw [SharedTable.execute]
  simp only [SQLiteTenantRateLimiter.keyOf_of_none hname, if_neg hlock, htenant]
  rw [counted_eq, hcount]

/-- A call of the limiter begins. -/
theorem Agrees.select {request : AllowRequest} (h : Agrees limiters l history s)
    (hname : request.limiterId = none) (hlock : l ∉ s.started.keys) :
    Agrees limiters l (history ++ [(.select l request, (executeOwn limiters s (.select l request)).1)])
      (executeOwn limiters s (.select l request)).2 := by
  have hidle : s.started.get? l = none := Dict.get?_eq_none_iff.mpr hlock
  obtain ⟨tenant, htenant⟩ : ∃ tenant, TenantRateLimiter.keyOf request = tenant := ⟨_, rfl⟩
  obtain ⟨count, hcount⟩ : ∃ count, TenantRateLimiter.counted ((limiters l).windowOf request)
      (entryOf (limiters l) tenant s) = count := ⟨_, rfl⟩
  have hstep := execute_select (limiters l) hname hlock htenant hcount
  obtain ⟨w, hw⟩ : ∃ w, Run.exec (limiters l).inMemory.allow Dict.empty
      (requestsOf l (history.map Prod.fst)) = w := ⟨_, rfl⟩
  have hrows : ∀ tenant, w.get? tenant = entryOf (limiters l) tenant s := by
    intro tenant
    rw [← hw, h.rows tenant, hidle]
  have hsame : Matches (limiters l) l s w := by
    rw [Matches, hidle]
    exact hrows
  have hnone : verdictInFlight (limiters l) l s = [] := by rw [verdictInFlight, hidle]
  rw [executeOwn, Statement.process, hstep]
  by_cases hmax : (limiters l).maxRequests = 0
  · have hallow : (limiters l).inMemory.allow w request = ((true, 0), w) := if_pos hmax
    rw [if_pos hmax]
    refine h.called hidle hw hallow ?_ hsame h.own
    dsimp only
    rw [verdictsOf_some (l := l) rfl, hnone]
    rfl
  · have hallow := (limiters l).inMemory.allow_of_pos hmax w request
    have hwindow : (limiters l).inMemory.windowOf request = (limiters l).windowOf request := rfl
    dsimp only at hallow
    rw [htenant, hrows, hwindow, hcount] at hallow
    rw [if_neg hmax]
    by_cases hfull : (limiters l).maxRequests ≤ count
    · rw [if_pos hfull]
      refine h.called hidle hw (hallow.trans (if_pos hfull)) ?_ hsame h.own
      dsimp only
      rw [verdictsOf_some (l := l) rfl, hnone]
      rfl
    · rw [if_neg hfull]
      refine h.called hidle hw (hallow.trans (if_neg hfull)) ?_ ?_ fun p call hcall ↦ ?_
      · dsimp only
        rw [verdictsOf_none, verdictInFlight, Dict.get?_set, if_pos rfl]
        rfl
      · rw [Matches, Dict.get?_set, if_pos rfl]
        intro tenant
        rw [Dict.get?_set, hrows, entryOf, entryOf]
      · rw [Dict.get?_set] at hcall
        by_cases hp : p = l
        · rw [if_pos hp, Option.some.injEq] at hcall
          exact ⟨by rw [hp, ← hcall], fun _ ↦ hp⟩
        · rw [if_neg hp] at hcall
          exact h.own p call hcall

/-- A call of another limiter begins. -/
theorem Agrees.select_other {p : Nat} {request : AllowRequest} (h : Agrees limiters l history s)
    (hname : request.limiterId = none) (hlock : p ∉ s.started.keys) (hp : p ≠ l)
    (hother : (limiters p).name ≠ (limiters l).name) :
    Agrees limiters l (history ++ [(.select p request, (executeOwn limiters s (.select p request)).1)])
      (executeOwn limiters s (.select p request)).2 := by
  obtain ⟨tenant, htenant⟩ : ∃ tenant, TenantRateLimiter.keyOf request = tenant := ⟨_, rfl⟩
  have hstep := execute_select (limiters p) hname hlock htenant rfl
  have hrequests := requestsOf_of_ne hp request
  have hverdicts := verdictsOf_of_ne (l := l) (show Statement.process (.select p request) ≠ l from hp)
  rw [executeOwn, Statement.process, hstep]
  split
  · exact h.other hrequests (hverdicts _) rfl (fun _ ↦ rfl) h.own
  · split
    · exact h.other hrequests (hverdicts _) rfl (fun _ ↦ rfl) h.own
    · refine h.other hrequests (hverdicts _) ((Dict.get?_set _ _ _ _).trans (if_neg (Ne.symm hp)))
        (fun _ ↦ rfl) fun q call hcall ↦ ?_
      rw [Dict.get?_set] at hcall
      by_cases hq : q = p
      · rw [if_pos hq, Option.some.injEq] at hcall
        exact ⟨by rw [hq, ← hcall], fun heq ↦ absurd (hq ▸ heq) hother⟩
      · rw [if_neg hq] at hcall
        exact h.own q call hcall

/-- A call is answered by its second statement. -/
theorem Agrees.replace (h : Agrees limiters l history s) (p : Nat) :
    Agrees limiters l (history ++ [(.replace p, (executeOwn limiters s (.replace p)).1)])
      (executeOwn limiters s (.replace p)).2 := by
  rw [executeOwn, Statement.process, SharedTable.execute]
  cases hcall : s.started.get? p with
  | none => exact h.other rfl (verdictsOf_none _) rfl (fun _ ↦ rfl) h.own
  | some call =>
    obtain ⟨hkey, hother⟩ := h.own p call hcall
    have hown (q : Nat) (call' : Started) (hq : (s.started.erase p).get? q = some call') :
        call'.key.2 = (limiters q).name ∧ ((limiters q).name = (limiters l).name → q = l) := by
      rw [Dict.get?_erase] at hq
      split at hq
      · cases hq
      · exact h.own q call' hq
    by_cases hp : p = l
    · subst hp
      have hall (verdict : Option Verdict) :
          requestsOf p ((history ++ [(Statement.replace p, verdict)]).map Prod.fst) =
            requestsOf p (history.map Prod.fst) := by
        rw [List.map_append, List.map_singleton, requestsOf_concat]
        exact List.append_nil _
      have hidle : (s.started.erase p).get? p = none := (Dict.get?_erase _ _ _).trans (if_pos rfl)
      dsimp only
      refine ⟨?_, ?_, hown⟩
      · rw [hall, verdictsOf_concat, verdictsOf_some (l := p) rfl, verdictInFlight, hidle,
          List.append_nil, ← h.verdicts, verdictInFlight, hcall]
      · rw [hall, Matches, hidle]
        intro tenant
        rw [h.rows tenant, hcall]
        dsimp only [entryOf]
        rw [Dict.get?_set]
        by_cases htenant : tenant = call.key.1
        · have hsame : (tenant, (limiters p).name) = call.key := by rw [htenant, ← hkey]
          rw [if_pos htenant, if_pos hsame]
          rfl
        · rw [if_neg htenant, if_neg fun heq ↦ htenant (congrArg Prod.fst heq)]
    · have hverdicts := verdictsOf_of_ne (l := l) (show Statement.process (.replace p) ≠ l from hp)
      refine h.other rfl (hverdicts _) ((Dict.get?_erase _ _ _).trans (if_neg (Ne.symm hp)))
        (fun tenant ↦ ?_) hown
      rw [entryOf, Dict.get?_set, if_neg fun heq ↦ hp (hother ?_)]
      · rfl
      · rw [← hkey, ← heq]

theorem agrees_initial (limiters : Nat → SQLiteTenantRateLimiter) (l : Nat) :
    Agrees limiters l [] ⟨Dict.empty, Dict.empty⟩ where
  verdicts := rfl
  rows _ := rfl
  own _ _ hcall := by cases hcall

/-- **The two backends agree.**  Several limiters of one process share a table, and no other one has the
name of the `l`-th.  In whatever order their statements come: what the `l`-th limiter has answered, and
what it is about to answer, is what the limiter in memory answers to the same calls. -/
theorem limiters_agree (limiters : Nat → SQLiteTenantRateLimiter) (statements : List Statement) (l : Nat)
    (hown : ∀ p request, .select p request ∈ statements → request.limiterId = none)
    (hnames : ∀ statement ∈ statements,
      (limiters statement.process).name = (limiters l).name → statement.process = l)
    (hlocked : Run.Along (executeOwn limiters) LockFree ⟨Dict.empty, Dict.empty⟩ statements) :
    verdictsOf l (Run.trace (executeOwn limiters) ⟨Dict.empty, Dict.empty⟩ statements) ++
        verdictInFlight (limiters l) l
          (Run.exec (executeOwn limiters) ⟨Dict.empty, Dict.empty⟩ statements) =
      (Run.trace (limiters l).inMemory.allow Dict.empty (requestsOf l statements)).map Prod.snd := by
  have hamong : Run.Along (executeOwn limiters) (fun _ statement ↦ statement ∈ statements)
      ⟨Dict.empty, Dict.empty⟩ statements := Run.along_of_forall_mem (fun _ hmem _ ↦ hmem) _
  have halong := Run.along_and hlocked hamong
  have hagrees := Run.trace_invariant (h := []) (P := Agrees limiters l)
    (fun history s statement hok h ↦ ?_) halong (agrees_initial limiters l)
  · have hverdicts := hagrees.verdicts
    rwa [List.nil_append, Run.map_fst_trace] at hverdicts
  · obtain ⟨hlock, hmem⟩ := hok
    cases statement with
    | select p request =>
      have hname := hown p request hmem
      by_cases hp : p = l
      · subst hp
        exact h.select hname hlock
      · exact h.select_other hname hlock hp fun heq ↦ hp (hnames _ hmem heq)
    | replace p => exact h.replace p

end

/-- A limiter for turns and one for uploads, with room for one turn. -/
def turnsAndUploads (l : Nat) : SQLiteTenantRateLimiter where
  maxRequests := if l = 0 then 1 else 2
  windowSeconds := 60
  windowSeconds_pos := by decide
  limiterId := if l = 0 then "turn_requests" else "tool_uploads"

/-- An upload begins and ends during a turn, and a second turn follows. -/
def turnsDuringUpload : List Statement :=
  [.select 0 ⟨"acme", none, 5⟩, .select 1 ⟨"acme", none, 6⟩, .replace 1, .replace 0,
    .select 0 ⟨"acme", none, 7⟩]

theorem limiters_agree_turns :
    verdictsOf 0 (Run.trace (executeOwn turnsAndUploads) ⟨Dict.empty, Dict.empty⟩ turnsDuringUpload) ++
        verdictInFlight (turnsAndUploads 0) 0
          (Run.exec (executeOwn turnsAndUploads) ⟨Dict.empty, Dict.empty⟩ turnsDuringUpload) =
      (Run.trace (turnsAndUploads 0).inMemory.allow Dict.empty (requestsOf 0 turnsDuringUpload)).map
        Prod.snd := by
  refine limiters_agree turnsAndUploads turnsDuringUpload 0 (fun p request h ↦ ?_) (by decide) (by decide)
  simp only [turnsDuringUpload, List.mem_cons, Statement.select.injEq, reduceCtorEq, List.not_mem_nil,
    or_false, false_or] at h
  rcases h with ⟨-, rfl⟩ | ⟨-, rfl⟩ | ⟨-, rfl⟩ <;> rfl

end Tenancy
end ExoBrain
