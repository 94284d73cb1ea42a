import ExoBrain.Runtime.TenantRuntime

/-!
# Whose session a turn runs on

A turn comes over one of three transports (`turns.py`, `openai_gateway.py`).  Each looks the session
up before it accepts the turn, and `_stream_turn` looks it up again when the turn begins.  All of
them ask `get_session_runtime`, which has the id of the session and nothing else to go by.

`FilesOwners` is what the five operations of the factory keep: the runtimes and `_session_tenant`
have the same keys, and the latter has the tenant of the context the runtime was built from.  So the
dictionary would tell whose session it is.  `turn_isolated_iff` says what it means that nobody asks:
a turn stays on the sessions of its tenant exactly if the id it names is not the one of another
tenant's session at either lookup.
-/

set_option autoImplicit false

namespace ExoBrain
namespace Runtime
namespace TenantRuntimeFactory

variable {settings : RuntimeSettings} {s : TenantRuntimeFactory}

/-! ## The owners of the sessions -/

/-- A runtime is cached exactly for the sessions that have a tenant, and it was built from the
context of that tenant. -/
def FilesOwners (s : TenantRuntimeFactory) : Prop :=
  ∀ sid, (s.sessionRuntimes.get? sid).map (fun host ↦ host.tenantContext.tenantId) =
    s.sessionTenant.get? sid

theorem FilesOwners.initial : FilesOwners initial := fun _ ↦ rfl

theorem FilesOwners.evict (h : FilesOwners s) (sid : String) : FilesOwners (s.evict sid) := by
  intro sid'
  simp only [TenantRuntimeFactory.evict, Dict.get?_erase]
  split
  · rfl
  · exact h sid'

theorem FilesOwners.foldl_evict (h : FilesOwners s) (sids : List String) :
    FilesOwners (sids.foldl TenantRuntimeFactory.evict s) := by
  induction sids generalizing s with
  | nil => exact h
  | cons sid sids ih => exact ih (h.evict sid)

theorem FilesOwners.evictIdleSessionsOnly (h : FilesOwners s) (now : Rat) :
    FilesOwners (s.evictIdleSessionsOnly settings now) := by
  simp only [TenantRuntimeFactory.evictIdleSessionsOnly]
  split
  · exact h
  · exact h.foldl_evict _

theorem FilesOwners.evictUntilUnder (h : FilesOwners s) (maxSess : Int) (sids : List String) :
    FilesOwners (TenantRuntimeFactory.evictUntilUnder maxSess sids s) := by
  induction sids generalizing s with
  | nil => exact h
  | cons sid sids ih =>
    rw [TenantRuntimeFactory.evictUntilUnder]
    split
    · exact h
    · refine ih ?_
      split
      · exact h.evict sid
      · exact h

theorem FilesOwners.evictLruUntilUnderCap (h : FilesOwners s) :
    FilesOwners (s.evictLruUntilUnderCap settings) := by
  simp only [TenantRuntimeFactory.evictLruUntilUnderCap]
  split
  · exact h
  · exact h.evictUntilUnder _ _

theorem FilesOwners.destroy (h : FilesOwners s) (tenantId : String) :
    FilesOwners (s.destroy tenantId) :=
  h.foldl_evict (s.sessionTenant.filter fun _ tid ↦ tid = tenantId).keys

theorem FilesOwners.destroyUntilUnder (h : FilesOwners s) (cap : Int) (turns : Nat) :
    FilesOwners (TenantRuntimeFactory.destroyUntilUnder cap turns s) := by
  induction turns generalizing s with
  | zero => exact h
  | succ turns ih =>
    rw [TenantRuntimeFactory.destroyUntilUnder]
    split
    · split
      · exact h
      · next victim _ => exact ih (h.destroy victim)
    · exact h

theorem FilesOwners.getOrCreate (h : FilesOwners s) (clock : Readings) (tenantId : String) :
    FilesOwners (s.getOrCreate settings clock tenantId).2 := by
  have hidle : FilesOwners (s.evictIdleSessionsOnly settings clock.evict) :=
    h.evictIdleSessionsOnly clock.evict
  have hcapacity : FilesOwners ((s.evictIdleSessionsOnly settings
      clock.evict).evictTenantContextsOverCapacity settings tenantId) := by
    simp only [evictTenantContextsOverCapacity]
    split
    · exact hidle
    · split
      · exact hidle
      · exact hidle.destroyUntilUnder _ _
  exact hcapacity

theorem FilesOwners.file (h : FilesOwners s) (host : HostAdapter) (adapter : RuntimeAdapter)
    (now : Rat) : FilesOwners (s.file host adapter now) := by
  intro sid
  simp only [TenantRuntimeFactory.file, touchSession, Dict.get?_set]
  split
  · rfl
  · exact h sid

theorem FilesOwners.getSessionRuntime (h : FilesOwners s) (clock : Readings) (sessionId : String) :
    FilesOwners (s.getSessionRuntime settings clock sessionId).2 := by
  have hidle : FilesOwners (s.evictIdleSessionsOnly settings clock.evict) :=
    h.evictIdleSessionsOnly clock.evict
  rw [TenantRuntimeFactory.getSessionRuntime]
  split <;> exact hidle

/-- **The owners are kept by every call of the factory.** -/
theorem FilesOwners.step (h : FilesOwners s) (call : FactoryCall) :
    FilesOwners (step settings s call).2 := by
  cases call with
  | getOrCreate clock tenantId => exact h.getOrCreate clock tenantId
  | createSessionRuntime clock tenantContext agentId sessionId adapter =>
    have hroom : FilesOwners ((s.evictIdleSessionsOnly settings
        clock.evict).evictLruUntilUnderCap settings) :=
      (h.evictIdleSessionsOnly clock.evict).evictLruUntilUnderCap
    simp only [TenantRuntimeFactory.step, createSessionRuntime]
    split
    · exact hroom
    · exact hroom.file _ _ _
  | getSessionAdapter clock sessionId =>
    have hidle : FilesOwners (s.evictIdleSessionsOnly settings clock.evict) :=
      h.evictIdleSessionsOnly clock.evict
    simp only [TenantRuntimeFactory.step, getSessionAdapter]
    split <;> exact hidle
  | getSessionRuntime clock sessionId => exact h.getSessionRuntime clock sessionId
  | destroy tenantId => exact h.destroy tenantId
  | evictSessionsForProvider providerId => exact h.foldl_evict _

theorem FilesOwners.exec (h : FilesOwners s) (calls : List FactoryCall) :
    FilesOwners (Run.exec (TenantRuntimeFactory.step settings) s calls) := by
  have hstep : ∀ (t : TenantRuntimeFactory) (call : FactoryCall), True → FilesOwners t →
      FilesOwners (t.step settings call).2 := fun _ call _ h ↦ h.step call
  exact Run.exec_invariant hstep (Run.along_of_forall (fun _ _ ↦ trivial) s calls) h

/-- A session has a tenant exactly if it has a runtime, so `destroy` finds what it deletes. -/
theorem FilesOwners.mem_keys_iff (h : FilesOwners s) (sid : String) :
    sid ∈ s.sessionTenant.keys ↔ sid ∈ s.sessionRuntimes.keys := by
  rw [Dict.mem_keys_iff, Dict.mem_keys_iff, ← h sid]
  simp

end TenantRuntimeFactory

/-! ## Turns -/

/-- The three ways a turn comes in. -/
inductive Transport
  | sse
  | websocket
  | openaiCompat
deriving DecidableEq, Repr

/-- A turn that is authorised for the tenant. -/
structure TurnRequest where
  transport : Transport
  tenantId : String
  sessionId : String
deriving DecidableEq, Repr

/-- What the session part of a turn comes to. -/
inductive TurnAnswer
  /-- Refused with the status of the response, or of the closing frame. -/
  | notFound (status : Nat) (detail : String)
  /-- The only event of the turn is an error. -/
  | errorEvent (code message : String)
  /-- `submit_turn` is called on this runtime. -/
  | executed (host : HostAdapter)
deriving DecidableEq, Repr

/-- `Session '{session_id}' not found`. -/
def sessionNotFound (sessionId : String) : String := "Session '" ++ sessionId ++ "' not found"

/-- The refusal before a turn is accepted. -/
def TurnRequest.refusal (req : TurnRequest) : TurnAnswer :=
  match req.transport with
  | .sse | .openaiCompat => .notFound 404 (sessionNotFound req.sessionId)
  | .websocket => .notFound 4404 (sessionNotFound req.sessionId)

/-- A turn with the clock readings of its three calls of the factory, and the calls that are made by
others after it was accepted and before it begins. -/
structure Turn where
  request : TurnRequest
  context : Readings
  accept : Readings
  meanwhile : List FactoryCall
  begin : Readings
deriving DecidableEq, Repr

namespace TenantRuntimeFactory

variable (settings : RuntimeSettings) (s : TenantRuntimeFactory)

/-- The state the session is looked up in before the turn is accepted: the request has got the
context of its tenant, and the idle sessions are gone. -/
def atAccept (turn : Turn) : TenantRuntimeFactory :=
  ((s.getOrCreate settings turn.context turn.request.tenantId).2).evictIdleSessionsOnly settings
    turn.accept.evict

/-- The state after the turn was accepted, or refused. -/
def afterAccept (turn : Turn) : TenantRuntimeFactory :=
  ((s.getOrCreate settings turn.context turn.request.tenantId).2.getSessionRuntime settings
    turn.accept turn.request.sessionId).2

/-- The state `_stream_turn` looks the session up in. -/
def atBegin (turn : Turn) : TenantRuntimeFactory :=
  (Run.exec (step settings) (s.afterAccept settings turn) turn.meanwhile).evictIdleSessionsOnly
    settings turn.begin.evict

/-- The session part of `submit_turn_sse`, of `websocket_turn`, and of
`iter_governed_turn_dicts_for_transport`, with `_stream_turn`. -/
def turn (turn : Turn) : TurnAnswer :=
  match ((s.getOrCreate settings turn.context turn.request.tenantId).2.getSessionRuntime settings
      turn.accept turn.request.sessionId).1 with
  | none => turn.request.refusal
  | some _ =>
    match ((Run.exec (step settings) (s.afterAccept settings turn) turn.meanwhile).getSessionRuntime
        settings turn.begin turn.request.sessionId).1 with
    | none => .errorEvent "SESSION_NOT_FOUND" (sessionNotFound turn.request.sessionId)
    | some host => .executed host

/-- The session is not cached, or filed under the tenant. -/
def NotForeign (s : TenantRuntimeFactory) (sessionId tenantId : String) : Prop :=
  ∀ owner ∈ s.sessionTenant.get? sessionId, owner = tenantId

instance (s : TenantRuntimeFactory) (sessionId tenantId : String) :
    Decidable (s.NotForeign sessionId tenantId) :=
  inferInstanceAs (Decidable (∀ owner ∈ s.sessionTenant.get? sessionId, owner = tenantId))

/-- The turn is accepted: there is a runtime under the id. -/
def Accepts (turn : Turn) : Prop :=
  turn.request.sessionId ∈ (s.atAccept settings turn).sessionRuntimes.keys

/-- The turn keeps to its tenant: it runs on a runtime that was built from the context of the tenant
only, and if the session it names is another tenant's, when it comes in or when it begins, the
answer is that there is no such session. -/
structure TurnIsolated (turn : Turn) : Prop where
  own : ∀ host, s.turn settings turn = .executed host →
    host.tenantContext.tenantId = turn.request.tenantId
  foreignAtAccept :
    ¬(s.atAccept settings turn).NotForeign turn.request.sessionId turn.request.tenantId →
      s.turn settings turn = turn.request.refusal
  foreignAtBegin : s.Accepts settings turn →
    ¬(s.atBegin settings turn).NotForeign turn.request.sessionId turn.request.tenantId →
      s.turn settings turn =
        .errorEvent "SESSION_NOT_FOUND" (sessionNotFound turn.request.sessionId)

variable {settings s}

theorem getSessionRuntime_fst (clock : Readings) (sessionId : String) :
    (s.getSessionRuntime settings clock sessionId).1 =
      (s.evictIdleSessionsOnly settings clock.evict).sessionRuntimes.get? sessionId := by
  rw [getSessionRuntime]
  cases (s.evictIdleSessionsOnly settings clock.evict).sessionRuntimes.get? sessionId <;> rfl

/-- What the two lookups of a turn read. -/
theorem turn_eq (settings : RuntimeSettings) (s : TenantRuntimeFactory) (turn : Turn) :
    s.turn settings turn =
      match (s.atAccept settings turn).sessionRuntimes.get? turn.request.sessionId with
      | none => turn.request.refusal
      | some _ =>
        match (s.atBegin settings turn).sessionRuntimes.get? turn.request.sessionId with
        | none => .errorEvent "SESSION_NOT_FOUND" (sessionNotFound turn.request.sessionId)
        | some host => .executed host := by
  rw [TenantRuntimeFactory.turn, getSessionRuntime_fst, getSessionRuntime_fst]
  rfl

theorem refusal_ne_errorEvent (req : TurnRequest) (code message : String) :
    .errorEvent code message ≠ req.refusal := by
  rcases req with ⟨transport, tenantId, sessionId⟩
  cases transport <;> simp [TurnRequest.refusal]

theorem executed_ne_refusal (req : TurnRequest) (host : HostAdapter) :
    .executed host ≠ req.refusal := by
  rcases req with ⟨transport, tenantId, sessionId⟩
  cases transport <;> simp [TurnRequest.refusal]

/-- The owner of a cached session is the tenant its runtime was built for. -/
theorem FilesOwners.notForeign_iff (h : FilesOwners s) {sessionId tenantId : String}
    {host : HostAdapter} (hhost : s.sessionRuntimes.get? sessionId = some host) :
    s.NotForeign sessionId tenantId ↔ host.tenantContext.tenantId = tenantId := by
  rw [NotForeign, ← h sessionId, hhost]
  simp

/-- A session that is not cached is nobody's. -/
theorem FilesOwners.notForeign_of_none (h : FilesOwners s) {sessionId : String} (tenantId : String)
    (hnone : s.sessionRuntimes.get? sessionId = none) : s.NotForeign sessionId tenantId := by
  rw [NotForeign, ← h sessionId, hnone]
  simp

theorem FilesOwners.atAccept (h : FilesOwners s) (turn : Turn) :
    FilesOwners (s.atAccept settings turn) :=
  (h.getOrCreate turn.context turn.request.tenantId).evictIdleSessionsOnly turn.accept.evict

theorem FilesOwners.atBegin (h : FilesOwners s) (turn : Turn) :
    FilesOwners (s.atBegin settings turn) :=
  (((h.getOrCreate turn.context turn.request.tenantId).getSessionRuntime turn.accept
    turn.request.sessionId).exec turn.meanwhile).evictIdleSessionsOnly turn.begin.evict

theorem FilesOwners.turnIsolated_iff (h : FilesOwners s) (turn : Turn) :
    s.TurnIsolated settings turn ↔
      (s.atAccept settings turn).NotForeign turn.request.sessionId turn.request.tenantId ∧
      (s.Accepts settings turn →
        (s.atBegin settings turn).NotForeign turn.request.sessionId turn.request.tenantId) := by
  have haccept : FilesOwners (s.atAccept settings turn) := h.atAccept turn
  have hbegin : FilesOwners (s.atBegin settings turn) := h.atBegin turn
  have hturn := turn_eq settings s turn
  rw [Accepts, Dict.mem_keys_iff]
  constructor
  · intro hisolated
    cases hfound : (s.atAccept settings turn).sessionRuntimes.get? turn.request.sessionId with
    | none => exact ⟨haccept.notForeign_of_none _ hfound, fun ⟨_, hsome⟩ ↦ by cases hsome⟩
    | some accepted =>
      rw [hfound] at hturn
      have haccepts : s.Accepts settings turn := Dict.mem_keys_iff.mpr ⟨accepted, hfound⟩
      cases hagain : (s.atBegin settings turn).sessionRuntimes.get? turn.request.sessionId with
      | none =>
        rw [hagain] at hturn
        refine ⟨?_, fun _ ↦ hbegin.notForeign_of_none _ hagain⟩
        by_contra hforeign
        exact refusal_ne_errorEvent _ _ _ (hturn.symm.trans (hisolated.foreignAtAccept hforeign))
      | some host =>
        rw [hagain] at hturn
        refine ⟨?_, fun _ ↦ (hbegin.notForeign_iff hagain).mpr (hisolated.own host hturn)⟩
        by_contra hforeign
        exact executed_ne_refusal _ _ (hturn.symm.trans (hisolated.foreignAtAccept hforeign))
  · rintro ⟨hfirst, hsecond⟩
    refine ⟨fun host hexecuted ↦ ?_, fun hforeign ↦ absurd hfirst hforeign, fun haccepts hforeign ↦
      absurd (hsecond (Dict.mem_keys_iff.mp haccepts)) hforeign⟩
    rw [hexecuted] at hturn
    cases hfound : (s.atAccept settings turn).sessionRuntimes.get? turn.request.sessionId with
    | none =>
      rw [hfound] at hturn
      exact absurd hturn (executed_ne_refusal _ _)
    | some accepted =>
      rw [hfound] at hturn
      cases hagain : (s.atBegin settings turn).sessionRuntimes.get? turn.request.sessionId with
      | none =>
        rw [hagain] at hturn
        cases hturn
      | some host' =>
        rw [hagain] at hturn
        cases hturn
        exact (hbegin.notForeign_iff hagain).mp (hsecond ⟨accepted, hfound⟩)

/-- **A turn stays with its tenant exactly if it names no session of another one.**  Over every
history of the factory, every turn over any of the transports, and whatever happens between the
two lookups of the turn: it is executed on a runtime of its tenant only, and answered with "not
found" for the session of another tenant, exactly if the session is not cached or filed under the
tenant, at the first lookup and, once the turn is accepted, at the second. -/
theorem turn_isolated_iff (settings : RuntimeSettings) (calls : List FactoryCall) (turn : Turn) :
    let s := Run.exec (step settings) initial calls
    s.TurnIsolated settings turn ↔
      (s.atAccept settings turn).NotForeign turn.request.sessionId turn.request.tenantId ∧
      (s.Accepts settings turn →
        (s.atBegin settings turn).NotForeign turn.request.sessionId turn.request.tenantId) :=
  (FilesOwners.initial.exec calls).turnIsolated_iff turn

/-- The session of one tenant. -/
def sessionOfB : List FactoryCall :=
  [.getOrCreate ⟨0, 0⟩ "tenant-b",
    .createSessionRuntime ⟨1, 1⟩ ⟨"tenant-b"⟩ "agent" "sess-b" (some ⟨"provider"⟩)]

/-- A turn of another tenant that names it. -/
def turnOfA (transport : Transport) : Turn :=
  ⟨⟨transport, "tenant-a", "sess-b"⟩, ⟨2, 2⟩, ⟨3, 3⟩, [], ⟨4, 4⟩⟩

/-- Over all three transports the turn of one tenant is executed on the runtime of the other. -/
theorem turnOfA_executed :
    let s := Run.exec (step {}) initial sessionOfB
    let crosses (transport : Transport) : Prop :=
      s.turn {} (turnOfA transport) = .executed ⟨⟨"tenant-b"⟩, "agent", "sess-b"⟩ ∧
        ¬s.TurnIsolated {} (turnOfA transport)
    crosses .sse ∧ crosses .websocket ∧ crosses .openaiCompat := by
  intro s crosses
  have hcrosses : ∀ transport, crosses transport := by
    intro transport
    have hexecuted : s.turn {} (turnOfA transport) =
        .executed ⟨⟨"tenant-b"⟩, "agent", "sess-b"⟩ := by
      cases transport <;> decide
    refine ⟨hexecuted, fun hisolated ↦ ?_⟩
    have hown := hisolated.own _ hexecuted
    exact absurd hown (by simp [turnOfA])
  exact ⟨hcrosses .sse, hcrosses .websocket, hcrosses .openaiCompat⟩

end TenantRuntimeFactory
end Runtime
end ExoBrain
