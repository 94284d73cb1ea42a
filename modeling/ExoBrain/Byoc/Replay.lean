import ExoBrain.Byoc.Requests
import ExoBrain.Byoc.SqliteResultStore

/-!
# How long a request cannot be repeated

A worker proves itself with a token, and every request it makes carries a nonce.  The replay guard
remembers the pair, for claims and for submissions apart, and refuses it when it comes again.  It
remembers it for `replay_ttl_seconds`; how long the token is good for is decided by whoever issues
it.  So a request can be repeated once the guard has forgotten it, if its token has not expired by
then, and what holds in every run is that two acceptances of one request lie `replay_ttl_seconds`
apart.

* `LawfulReplayGuard` says what both guards do: a marked key is remembered for its time, and refused
  as long as it is remembered.
* `WorkerRequest` is the pair with its kind, and `acceptedRequest` reads off a call and its reply
  which request was let through.
* The clock does not go back (`ClockRuns`), and `jwt.decode` reads one payload out of a token and
  rejects it from its `exp` on (`ReadsPayload`).
-/

set_option autoImplicit false

namespace ExoBrain
namespace Byoc

open Text

/-! ## The guards -/

/-- What a replay guard does, in terms of the keys it remembers and of how long it does. -/
structure LawfulReplayGuard {ρ : Type} (guard : ReplayGuard ρ)
    (remembers : ρ → String → Epoch → Prop) : Prop where
  marks : ∀ {now key ttl g}, (guard.markOnce now key ttl g).1 = true →
    remembers (guard.markOnce now key ttl g).2 (strip key) (now + ttlTicks ttl)
  refuses : ∀ {now key ttl g t}, remembers g (strip key) t → now < t →
    (guard.markOnce now key ttl g).1 = false
  markOnce_keeps : ∀ {now key ttl g k t}, remembers g k t → now < t →
    remembers (guard.markOnce now key ttl g).2 k t
  cleanup_keeps : ∀ {now tenantId g k t}, remembers g k t → now < t →
    remembers (guard.cleanupRetention now tenantId g).2 k t

/-- A replay guard with its laws. -/
structure GuardBackend where
  State : Type
  guard : ReplayGuard State
  /-- The guard on its first day. -/
  init : State
  remembers : State → String → Epoch → Prop
  lawful : LawfulReplayGuard guard remembers

theorem InMemoryReplayGuard.get?_cleanup {now : Epoch} {g : InMemoryReplayGuard} {k : String}
    {t : Epoch} (h : g.expiresAtEpoch.get? k = some t) (hnow : now < t) :
    (g.cleanup now).expiresAtEpoch.get? k = some t := by
  rw [InMemoryReplayGuard.cleanup, Dict.get?_filter, h, Option.filter_some]
  exact if_pos (decide_eq_true hnow)

theorem InMemoryReplayGuard.lawful :
    LawfulReplayGuard inMemoryReplayGuard fun g k t ↦ g.expiresAtEpoch.get? k = some t where
  marks {now key ttl g} h := by
    simp only [inMemoryReplayGuard, InMemoryReplayGuard.markOnce] at h ⊢
    split at h
    · cases h
    · rename_i hkey
      split at h
      · cases h
      · rename_i hnew
        rw [if_neg hkey, if_neg hnew, Dict.get?_set, if_pos rfl]
  refuses {now key ttl g t} h hnow := by
    simp only [inMemoryReplayGuard, InMemoryReplayGuard.markOnce]
    split
    · rfl
    · rw [if_pos (Dict.mem_keys_iff.mpr ⟨t, InMemoryReplayGuard.get?_cleanup h hnow⟩)]
  markOnce_keeps {now key ttl g k t} h hnow := by
    simp only [inMemoryReplayGuard, InMemoryReplayGuard.markOnce]
    have hkept := InMemoryReplayGuard.get?_cleanup h hnow
    split
    · exact h
    · split
      · exact hkept
      · rename_i hnew
        rw [Dict.get?_set, if_neg, hkept]
        rintro rfl
        exact hnew (Dict.mem_keys_iff.mpr ⟨t, hkept⟩)
  cleanup_keeps h hnow := InMemoryReplayGuard.get?_cleanup h hnow

theorem SQLiteReplayGuard.get?_filter_live {now : Epoch} {g : SQLiteReplayGuard} {k : String}
    {t : Epoch} (h : g.rows.get? k = some t) (hnow : now < t) :
    (g.rows.filter fun _ expires ↦ now < expires).get? k = some t := by
  rw [Dict.get?_filter, h, Option.filter_some]
  exact if_pos (decide_eq_true hnow)

theorem SQLiteReplayGuard.lawful :
    LawfulReplayGuard sqliteReplayGuard fun g k t ↦ g.rows.get? k = some t where
  marks {now key ttl g} h := by
    simp only [sqliteReplayGuard, SQLiteReplayGuard.markOnce] at h ⊢
    split at h
    · cases h
    · rename_i hkey
      split at h
      · cases h
      · rename_i hnew
        rw [if_neg hkey, if_neg hnew, Dict.get?_setDefault, if_pos rfl,
          Dict.get?_eq_none_iff.mpr hnew]
        rfl
  refuses {now key ttl g t} h hnow := by
    simp only [sqliteReplayGuard, SQLiteReplayGuard.markOnce]
    split
    · rfl
    · rw [if_pos (Dict.mem_keys_iff.mpr ⟨t, SQLiteReplayGuard.get?_filter_live h hnow⟩)]
  markOnce_keeps {now key ttl g k t} h hnow := by
    simp only [sqliteReplayGuard, SQLiteReplayGuard.markOnce]
    have hkept := SQLiteReplayGuard.get?_filter_live h hnow
    split
    · exact h
    · split
      · exact hkept
      · rw [Dict.get?_setDefault, hkept]
        split <;> rfl
  cleanup_keeps {now tenantId g k t} h hnow := by
    simp only [sqliteReplayGuard, SQLiteReplayGuard.cleanupRetention]
    split
    · exact h
    · rw [Dict.get?_filter, h, Option.filter_some]
      have hlive : decide (t ≤ now) = false := decide_eq_false (Nat.not_le.mpr hnow)
      rw [hlive, Bool.and_false]
      rfl

/-- The in-memory guard. -/
def GuardBackend.inMemory : GuardBackend where
  State := InMemoryReplayGuard
  guard := inMemoryReplayGuard
  init := .init
  remembers := _
  lawful := InMemoryReplayGuard.lawful

/-- The SQLite guard. -/
def GuardBackend.sqlite : GuardBackend where
  State := SQLiteReplayGuard
  guard := sqliteReplayGuard
  init := .init
  remembers := _
  lawful := SQLiteReplayGuard.lawful

/-- A runtime on a given replay guard. -/
abbrev GuardBackend.runtime (G : GuardBackend) {σ τ : Type} (J : ByocJobQueueStore σ)
    (R : ByocResultStore τ) (settings : ByocRuntimeSettings)
    (jwtDecode : Epoch → String → String → Except JwtError JwtPayload) :
    TenantByocConnectorRuntime σ τ G.State :=
  ⟨J, R, G.guard, settings, jwtDecode⟩

/-! ## Requests made with a worker token -/

/-- The two kinds of requests. -/
inductive RequestKind
  | claim
  | submit
deriving DecidableEq, Repr

/-- The kind, as it stands in a replay key. -/
def RequestKind.name : RequestKind → String
  | .claim => "claim"
  | .submit => "submit"

/-- A worker token and a normalized nonce, for one kind of request. -/
structure WorkerRequest where
  kind : RequestKind
  workerToken : String
  nonce : String
deriving DecidableEq, Repr

/-- The request behind a call. -/
def RuntimeCall.workerRequest? (c : RuntimeCall) : Option WorkerRequest :=
  match c.op with
  | .claimNextJob _ workerToken requestNonce _ => some ⟨.claim, workerToken, strip requestNonce⟩
  | .submit ⟨_, .worker workerToken requestNonce, _⟩ =>
    some ⟨.submit, workerToken, strip requestNonce⟩
  | _ => none

/-- Did the request get past its checks?  A submission for another tenant raises only later. -/
def RuntimeReply.accepted : RuntimeReply → Bool
  | .claimed claim => claim.isOk
  | .submitted (.ok _) => true
  | .submitted (.error reason) => reason = "WORKER_RESULT_TENANT_MISMATCH"
  | _ => false

/-- The request that a call got accepted. -/
def acceptedRequest (e : RuntimeCall × RuntimeReply) : Option WorkerRequest :=
  if e.2.accepted then e.1.workerRequest? else none

/-- The key of a request whose token carries the payload. -/
def WorkerRequest.key (r : WorkerRequest) (payload : JwtPayload) : String :=
  TenantByocConnectorRuntime.workerReplayKey r.kind.name (strip payload.tenantId)
    (strip payload.jti) r.nonce

/-- The errors of `verify_worker_token` all come before the replay guard. -/
theorem verifyWorkerToken_error {decoded : Except JwtError JwtPayload} {tenantId reason : String}
    (h : verifyWorkerToken decoded tenantId = .error reason) :
    reason ≠ "WORKER_RESULT_TENANT_MISMATCH" := by
  rw [verifyWorkerToken.eq_def] at h
  split at h
  · rw [← Except.error.inj h]; decide
  · rw [← Except.error.inj h]; decide
  · split at h
    · rw [← Except.error.inj h]; decide
    · split at h
      · rw [← Except.error.inj h]; decide
      · split at h
        · rw [← Except.error.inj h]; decide
        · cases h

theorem verifyWorkerToken_ok {decoded : Except JwtError JwtPayload} {tenantId : String}
    {claims : WorkerAuthClaims} (h : verifyWorkerToken decoded tenantId = .ok claims) :
    ∃ payload, decoded = .ok payload ∧ strip payload.tenantId = tenantId ∧
      claims.tokenId = strip payload.jti := by
  rw [verifyWorkerToken.eq_def] at h
  split at h
  · cases h
  · cases h
  · rename_i payload
    split at h
    · cases h
    · rename_i htenant
      split at h
      · cases h
      · split at h
        · cases h
        · rw [← Except.ok.inj h]
          exact ⟨payload, rfl, not_not.mp htenant, rfl⟩

namespace TenantByocConnectorRuntime

variable {σ τ ρ : Type} (rt : TenantByocConnectorRuntime σ τ ρ)

/-- What the checks up to the replay guard say about a request. -/
theorem workerRequest_cases (clock : RuntimeClock) (kind : RequestKind)
    (tenantId workerToken requestNonce : String) :
    (∃ reason, rt.workerRequest clock kind.name tenantId workerToken requestNonce =
        .error reason ∧ reason ≠ "WORKER_RESULT_TENANT_MISMATCH") ∨
      ∃ payload claims, rt.jwtDecode clock.token workerToken rt.settings.workerJwtSecret =
          .ok payload ∧
        rt.workerRequest clock kind.name tenantId workerToken requestNonce =
          .ok (claims, WorkerRequest.key ⟨kind, workerToken, strip requestNonce⟩ payload) := by
  rw [workerRequest]
  cases hverify : verifyWorkerToken
      (rt.jwtDecode clock.token workerToken rt.settings.workerJwtSecret) tenantId with
  | error reason => exact .inl ⟨reason, rfl, verifyWorkerToken_error hverify⟩
  | ok claims =>
    obtain ⟨payload, hdecode, htenant, htoken⟩ := verifyWorkerToken_ok hverify
    simp only
    split
    · exact .inl ⟨_, rfl, by decide⟩
    · refine .inr ⟨payload, claims, hdecode, ?_⟩
      rw [WorkerRequest.key, htenant, htoken]

/-- A request that comes to the guard is let through by it, or refused as a replay. -/
theorem authenticateWorker_of_request {clock : RuntimeClock}
    {kind tenantId workerToken requestNonce key : String} {claims : WorkerAuthClaims}
    (h : rt.workerRequest clock kind tenantId workerToken requestNonce = .ok (claims, key))
    (s : RuntimeState σ τ ρ) :
    (rt.authenticateWorker clock kind tenantId workerToken requestNonce s).1 =
      if (rt.replayGuard.markOnce clock.mark key rt.settings.attributes.replayTtlSeconds
        s.replay).1 then .ok claims else .error "WORKER_REQUEST_REPLAYED" := by
  rw [authenticateWorker_eq, h]
  simp only [markRequest]
  split <;> rfl

theorem isOk_claimNextJob (clock : RuntimeClock)
    (tenantId workerToken requestNonce leaseToken : String) (s : RuntimeState σ τ ρ) :
    (rt.claimNextJob clock tenantId workerToken requestNonce leaseToken s).1.isOk =
      (rt.authenticateWorker clock "claim" tenantId workerToken requestNonce
        (rt.requeueExpiredLeases clock tenantId (rt.cleaned clock tenantId s))).1.isOk := by
  rw [claimNextJob_eq, claimSwept]
  rcases rt.authenticateWorker clock "claim" tenantId workerToken requestNonce
    (rt.requeueExpiredLeases clock tenantId (rt.cleaned clock tenantId s)) with
    ⟨reason | claims, s'⟩ <;> rfl

/-- A submission with a token that is refused by its checks says why. -/
theorem submitted_of_authenticateWorker_error {clock : RuntimeClock}
    {tenantId workerToken requestNonce reason : String} {result : ByocToolResultEnvelope}
    {s : RuntimeState σ τ ρ}
    (h : (rt.authenticateWorker clock "submit" tenantId workerToken requestNonce
      (rt.cleaned clock tenantId s)).1 = .error reason) :
    (rt.submit clock ⟨tenantId, .worker workerToken requestNonce, result⟩ s).1 =
      .error reason := by
  rw [cleaned] at h
  simp only [submit, submitResult]
  cases hauth : rt.authenticateWorker clock "submit" tenantId workerToken requestNonce
      (rt.runCleanup clock tenantId false s).2 with
  | mk answer s' =>
    rw [hauth] at h
    simp only at h
    subst h
    rfl

/-- **An accepted request was marked**, under the key its token determines. -/
theorem accepted_marked {s : RuntimeState σ τ ρ} {c : RuntimeCall} {r : WorkerRequest}
    (h : acceptedRequest (c, (rt.step s c).1) = some r) :
    ∃ payload, rt.jwtDecode c.clock.token r.workerToken rt.settings.workerJwtSecret =
        .ok payload ∧
      rt.requestMark c = some (r.key payload) ∧ (rt.marked s c (r.key payload)).1 = true := by
  rw [acceptedRequest] at h
  split at h
  case isFalse => cases h
  case isTrue haccepted =>
    obtain ⟨clock, op⟩ := c
    cases op with
    | claimNextJob tenantId workerToken requestNonce leaseToken =>
      obtain rfl := Option.some.inj h
      have hok : (rt.claimNextJob clock tenantId workerToken requestNonce leaseToken s).1.isOk =
          true := haccepted
      rw [isOk_claimNextJob] at hok
      rcases rt.workerRequest_cases clock .claim tenantId workerToken requestNonce with
        ⟨reason, hrequest, -⟩ | ⟨payload, claims, hdecode, hrequest⟩
      · rw [RequestKind.name] at hrequest
        rw [authenticateWorker_eq, hrequest] at hok
        cases hok
      · rw [RequestKind.name] at hrequest
        refine ⟨payload, hdecode, ?_, ?_⟩
        · simp only [requestMark, hrequest]
          rfl
        · rw [authenticateWorker_of_request rt hrequest] at hok
          split at hok
          · assumption
          · cases hok
    | submit sub =>
      obtain ⟨tenantId, auth, result⟩ := sub
      cases auth with
      | webhook webhookSecret webhookRequestId => cases h
      | worker workerToken requestNonce =>
        obtain rfl := Option.some.inj h
        have hmismatch {reason : String} (hauth : (rt.authenticateWorker clock "submit" tenantId
            workerToken requestNonce (rt.cleaned clock tenantId s)).1 = .error reason) :
            reason = "WORKER_RESULT_TENANT_MISMATCH" := by
          have hreply : (rt.step s ⟨clock, .submit ⟨tenantId, .worker workerToken requestNonce,
              result⟩⟩).1 = .submitted (.error reason) :=
            congrArg RuntimeReply.submitted (rt.submitted_of_authenticateWorker_error hauth)
          rw [hreply] at haccepted
          exact of_decide_eq_true haccepted
        rcases rt.workerRequest_cases clock .submit tenantId workerToken requestNonce with
          ⟨reason, hrequest, hreason⟩ | ⟨payload, claims, hdecode, hrequest⟩
        · rw [RequestKind.name] at hrequest
          refine absurd (hmismatch ?_) hreason
          rw [authenticateWorker_eq, hrequest]
        · rw [RequestKind.name] at hrequest
          refine ⟨payload, hdecode, ?_, ?_⟩
          · simp only [requestMark, submitRequest, hrequest]
            rfl
          · by_contra hreplayed
            have hauth := rt.authenticateWorker_of_request hrequest (rt.cleaned clock tenantId s)
            exact absurd (hmismatch (hauth.trans (if_neg hreplayed))) (by decide)
    | executeEnqueue admitted call descriptor jobId => cases h
    | executePoll tenantId jobId => cases h
    | requestCancellation callId => cases h
    | replayDeadLetterJob tenantId jobId => cases h
    | replayDeadLetterJobs tenantId jobIds limit => cases h
    | cleanupRetention tenantId force => cases h

end TenantByocConnectorRuntime

/-! ## Time -/

/-- The readings of the clock in a call, in the order in which they are made. -/
def RuntimeClock.readings (clock : RuntimeClock) : List Epoch :=
  [clock.cleanup, clock.jobRetention, clock.resultRetention, clock.replayRetention, clock.sweep,
    clock.token, clock.mark, clock.lease, clock.complete, clock.ingest]

/-- The clock does not go back. -/
def ClockRuns (calls : List RuntimeCall) : Prop :=
  (calls.flatMap fun c ↦ c.clock.readings).Pairwise (· ≤ ·)

instance (calls : List RuntimeCall) : Decidable (ClockRuns calls) :=
  inferInstanceAs (Decidable (List.Pairwise _ _))

theorem ClockRuns.tail {c : RuntimeCall} {calls : List RuntimeCall} (h : ClockRuns (c :: calls)) :
    ClockRuns calls := by
  rw [ClockRuns, List.flatMap_cons, List.pairwise_append] at h
  exact h.2.1

theorem ClockRuns.retention_le_mark {c : RuntimeCall} {calls : List RuntimeCall}
    (h : ClockRuns (c :: calls)) : c.clock.replayRetention ≤ c.clock.mark := by
  rw [ClockRuns, List.flatMap_cons, List.pairwise_append] at h
  have hlater : [c.clock.replayRetention, c.clock.sweep, c.clock.token, c.clock.mark,
      c.clock.lease, c.clock.complete, c.clock.ingest].Pairwise (· ≤ ·) := h.1.drop (i := 3)
  exact List.rel_of_pairwise_cons hlater (by simp)

theorem ClockRuns.mark_le {c d : RuntimeCall} {calls : List RuntimeCall}
    (h : ClockRuns (c :: calls)) (hd : d ∈ calls) : c.clock.mark ≤ d.clock.mark := by
  rw [ClockRuns, List.flatMap_cons, List.pairwise_append] at h
  refine h.2.2 _ ?_ _ (List.mem_flatMap.mpr ⟨d, hd, ?_⟩)
  · simp [RuntimeClock.readings]
  · simp [RuntimeClock.readings]

/-- What is relied on of `jwt.decode`: a token carries one payload, whenever it is read, and is
rejected from its `exp` on. -/
def ReadsPayload (jwtDecode : Epoch → String → String → Except JwtError JwtPayload)
    (payloadOf : String → String → Option JwtPayload) : Prop :=
  ∀ now token secret payload, jwtDecode now token secret = .ok payload →
    payloadOf token secret = some payload ∧ (now : Int) < payload.exp * ticksPerSecond

/-! ## Two acceptances of one request -/

section Runs

variable {G : GuardBackend} {σ τ : Type} {J : ByocJobQueueStore σ} {R : ByocResultStore τ}
  {settings : ByocRuntimeSettings}
  {jwtDecode : Epoch → String → String → Except JwtError JwtPayload}
  {payloadOf : String → String → Option JwtPayload}

theorem remembers_retained {s : RuntimeState σ τ G.State} {c : RuntimeCall} {k : String}
    {t : Epoch} (h : G.remembers s.replay k t) (hretention : c.clock.replayRetention < t) :
    G.remembers ((G.runtime J R settings jwtDecode).retained s c) k t := by
  rcases (G.runtime J R settings jwtDecode).retained_cases s c with hsame | ⟨tenantId, hpruned⟩
  · rw [hsame]
    exact h
  · rw [hpruned]
    exact G.lawful.cleanup_keeps h hretention

/-- A call keeps what is remembered beyond it. -/
theorem remembers_step {s : RuntimeState σ τ G.State} {c : RuntimeCall} {k : String} {t : Epoch}
    (h : G.remembers s.replay k t) (hretention : c.clock.replayRetention < t)
    (hmark : c.clock.mark < t) :
    G.remembers ((G.runtime J R settings jwtDecode).step s c).2.replay k t := by
  have hretained : G.remembers ((G.runtime J R settings jwtDecode).retained s c) k t :=
    remembers_retained h hretention
  rw [TenantByocConnectorRuntime.replay_step]
  split
  · exact hretained
  · exact G.lawful.markOnce_keeps hretained hmark

/-- **As long as a request is remembered, it is not accepted.** -/
theorem mark_ge_of_remembered (hjwt : ReadsPayload jwtDecode payloadOf) {r : WorkerRequest}
    {payload : JwtPayload} (hpayload : payloadOf r.workerToken settings.workerJwtSecret =
      some payload) {t : Epoch} {calls : List RuntimeCall} (hclock : ClockRuns calls)
    {s : RuntimeState σ τ G.State}
    (h : G.remembers s.replay (strip (r.key payload)) t ∨ ∀ c ∈ calls, t ≤ c.clock.mark) :
    ∀ e ∈ Run.trace (G.runtime J R settings jwtDecode).step s calls, acceptedRequest e = some r →
      t ≤ e.1.clock.mark := by
  induction calls generalizing s with
  | nil => exact fun e he ↦ absurd he List.not_mem_nil
  | cons c calls ih =>
    -- Either the time is up at this call, and so at all later ones, or the key is still there.
    by_cases hc : t ≤ c.clock.mark
    · refine List.forall_mem_cons.mpr ⟨fun _ ↦ hc, ih hclock.tail (.inr fun d hd ↦ ?_)⟩
      exact hc.trans (hclock.mark_le hd)
    · have hmark : c.clock.mark < t := Nat.lt_of_not_le hc
      have hretention : c.clock.replayRetention < t :=
        Nat.lt_of_le_of_lt hclock.retention_le_mark hmark
      have hkept : G.remembers s.replay (strip (r.key payload)) t :=
        h.resolve_right fun hall ↦ hc (hall c List.mem_cons_self)
      refine List.forall_mem_cons.mpr ⟨fun haccepted ↦ ?_,
        ih hclock.tail (.inl (remembers_step hkept hretention hmark))⟩
      obtain ⟨payload', hdecode, -, hmarked⟩ :=
        (G.runtime J R settings jwtDecode).accepted_marked haccepted
      obtain rfl := Option.some.inj (hpayload.symm.trans (hjwt _ _ _ _ hdecode).1)
      have hretained : G.remembers ((G.runtime J R settings jwtDecode).retained s c)
          (strip (r.key payload)) t := remembers_retained hkept hretention
      have hrefused : ((G.runtime J R settings jwtDecode).marked s c (r.key payload)).1 = false :=
        G.lawful.refuses hretained hmark
      rw [hrefused] at hmarked
      cases hmarked

/-- The token of an accepted request has not expired. -/
theorem live_of_accepted (hjwt : ReadsPayload jwtDecode payloadOf) {r : WorkerRequest}
    {payload : JwtPayload} (hpayload : payloadOf r.workerToken settings.workerJwtSecret =
      some payload) {calls : List RuntimeCall} {s : RuntimeState σ τ G.State} :
    ∀ e ∈ Run.trace (G.runtime J R settings jwtDecode).step s calls, acceptedRequest e = some r →
      (e.1.clock.token : Int) < payload.exp * ticksPerSecond := by
  refine Run.forall_mem_trace (P := fun _ ↦ True) (fun s c _ _ ↦ ⟨trivial, fun haccepted ↦ ?_⟩)
    (Run.along_of_forall (fun _ _ ↦ trivial) s calls) trivial
  obtain ⟨payload', hdecode, -, -⟩ :=
    (G.runtime J R settings jwtDecode).accepted_marked haccepted
  obtain ⟨hpayload', hlive⟩ := hjwt _ _ _ _ hdecode
  obtain rfl := Option.some.inj (hpayload.symm.trans hpayload')
  exact hlive

/-- Two acceptances of one request: the second comes when the guard has forgotten the first, and
before the token expires. -/
def Apart (settings : ByocRuntimeSettings) (payloadOf : String → String → Option JwtPayload)
    (a b : RuntimeCall × RuntimeReply) : Prop :=
  ∀ r, acceptedRequest a = some r → acceptedRequest b = some r →
    a.1.clock.mark + ttlTicks settings.attributes.replayTtlSeconds ≤ b.1.clock.mark ∧
      ∃ payload, payloadOf r.workerToken settings.workerJwtSecret = some payload ∧
        (b.1.clock.token : Int) < payload.exp * ticksPerSecond

theorem pairwise_apart (hjwt : ReadsPayload jwtDecode payloadOf) {calls : List RuntimeCall}
    (hclock : ClockRuns calls) (s : RuntimeState σ τ G.State) :
    (Run.trace (G.runtime J R settings jwtDecode).step s calls).Pairwise
      (Apart settings payloadOf) := by
  induction calls generalizing s with
  | nil => exact List.Pairwise.nil
  | cons c calls ih =>
    refine List.pairwise_cons.mpr ⟨fun e he r hfirst hsecond ↦ ?_, ih hclock.tail _⟩
    obtain ⟨payload, hdecode, hkey, hmarked⟩ :=
      (G.runtime J R settings jwtDecode).accepted_marked hfirst
    have hpayload : payloadOf r.workerToken settings.workerJwtSecret = some payload :=
      (hjwt _ _ _ _ hdecode).1
    have hremembers : G.remembers ((G.runtime J R settings jwtDecode).step s c).2.replay
        (strip (r.key payload))
        (c.clock.mark + ttlTicks settings.attributes.replayTtlSeconds) := by
      rw [TenantByocConnectorRuntime.replay_step, hkey]
      exact G.lawful.marks hmarked
    refine ⟨mark_ge_of_remembered hjwt hpayload hclock.tail (.inl hremembers) e he hsecond,
      payload, hpayload, ?_⟩
    exact live_of_accepted hjwt hpayload e he hsecond

/-- The token of the call is good for no longer than the guard will remember the call, and does not
expire between its check and the mark. -/
def GuardOutlivesToken (settings : ByocRuntimeSettings)
    (payloadOf : String → String → Option JwtPayload) (c : RuntimeCall) : Prop :=
  ∀ r, c.workerRequest? = some r → ∀ payload,
    payloadOf r.workerToken settings.workerJwtSecret = some payload →
    (c.clock.token : Int) < payload.exp * ticksPerSecond →
    (c.clock.mark : Int) < payload.exp * ticksPerSecond ∧
      payload.exp * ticksPerSecond ≤
        c.clock.mark + ttlTicks settings.attributes.replayTtlSeconds

theorem countP_le_one_of_pairwise {α : Type} {p : α → Bool} {l : List α}
    (h : l.Pairwise fun a b ↦ p a = true → p b = true → False) : l.countP p ≤ 1 := by
  induction l with
  | nil => exact Nat.zero_le 1
  | cons a l ih =>
    obtain ⟨hhead, htail⟩ := List.pairwise_cons.mp h
    by_cases ha : p a = true
    · have hnone : l.countP p = 0 :=
        List.countP_eq_zero.mpr fun b hb hpb ↦ hhead b hb ha hpb
      rw [List.countP_cons_of_pos ha, hnone]
    · rw [List.countP_cons_of_neg ha]
      exact ih htail

theorem workerRequest?_of_accepted {e : RuntimeCall × RuntimeReply} {r : WorkerRequest}
    (h : acceptedRequest e = some r) : e.1.workerRequest? = some r := by
  rw [acceptedRequest] at h
  split at h
  · exact h
  · cases h

/-- Requests whose tokens the guard outlives are not accepted twice. -/
theorem not_apart {a b : RuntimeCall × RuntimeReply} {r : WorkerRequest}
    (h : Apart settings payloadOf a b) (hfirst : acceptedRequest a = some r)
    (hsecond : acceptedRequest b = some r)
    (hlive : ∀ payload, payloadOf r.workerToken settings.workerJwtSecret = some payload →
      (a.1.clock.token : Int) < payload.exp * ticksPerSecond)
    (ha : GuardOutlivesToken settings payloadOf a.1)
    (hb : GuardOutlivesToken settings payloadOf b.1) : False := by
  obtain ⟨hapart, payload, hpayload, hlater⟩ := h r hfirst hsecond
  have hforgotten := (ha r (workerRequest?_of_accepted hfirst) payload hpayload
    (hlive payload hpayload)).2
  have hmarked := (hb r (workerRequest?_of_accepted hsecond) payload hpayload hlater).1
  have hwindow : (a.1.clock.mark : Int) + ttlTicks settings.attributes.replayTtlSeconds ≤
      b.1.clock.mark := Int.ofNat_le.mpr hapart
  omega

/-- **Two acceptances of one request lie the replay time apart**, in every run over every guard,
and before the token expires; so there is at most one if the guard outlives the tokens. -/
theorem worker_request_once_per_window (G : GuardBackend) {σ τ : Type} (J : ByocJobQueueStore σ)
    (R : ByocResultStore τ) (settings : ByocRuntimeSettings)
    (jwtDecode : Epoch → String → String → Except JwtError JwtPayload)
    (payloadOf : String → String → Option JwtPayload) (hjwt : ReadsPayload jwtDecode payloadOf)
    (s : RuntimeState σ τ G.State) (calls : List RuntimeCall) (hclock : ClockRuns calls) :
    (Run.trace (G.runtime J R settings jwtDecode).step s calls).Pairwise
        (Apart settings payloadOf) ∧
      ((∀ c ∈ calls, GuardOutlivesToken settings payloadOf c) →
        ∀ r, (Run.trace (G.runtime J R settings jwtDecode).step s calls).countP
          (fun e ↦ acceptedRequest e = some r) ≤ 1) := by
  have hapart : (Run.trace (G.runtime J R settings jwtDecode).step s calls).Pairwise
      (Apart settings payloadOf) := pairwise_apart hjwt hclock s
  refine ⟨hapart, fun houtlives r ↦ countP_le_one_of_pairwise ?_⟩
  have hcall : ∀ e ∈ Run.trace (G.runtime J R settings jwtDecode).step s calls,
      GuardOutlivesToken settings payloadOf e.1 := by
    intro e he
    refine houtlives e.1 ?_
    rw [← Run.map_fst_trace s calls]
    exact List.mem_map_of_mem he
  refine hapart.imp_of_mem fun {a b} ha hb hab hfirst hsecond ↦ ?_
  refine not_apart hab (of_decide_eq_true hfirst) (of_decide_eq_true hsecond)
    (fun payload hpayload ↦ ?_) (hcall a ha) (hcall b hb)
  exact live_of_accepted hjwt hpayload a ha (of_decide_eq_true hfirst)

end Runs

/-! ### A token that outlives the guard's memory -/

/-- The payload of the one token of these runs, issued at time zero for `ttlSeconds`. -/
def issuedPayload (ttlSeconds : Int) (token _secret : String) : Option JwtPayload :=
  if token = "tok" then some (mintWorkerToken 0 "t" "w" ttlSeconds "jti") else none

/-- `jwt.decode`: a payload is returned until it expires. -/
def issuedDecode (ttlSeconds : Int) (now : Epoch) (token secret : String) :
    Except JwtError JwtPayload :=
  match issuedPayload ttlSeconds token secret with
  | none => .error .invalidToken
  | some payload =>
    if (now : Int) < payload.exp * ticksPerSecond then .ok payload
    else .error .expiredSignature

theorem readsPayload_issued (ttlSeconds : Int) :
    ReadsPayload (issuedDecode ttlSeconds) (issuedPayload ttlSeconds) := by
  intro now token secret payload h
  rw [issuedDecode] at h
  split at h
  · cases h
  · rename_i payload' hpayload
    split at h
    · rename_i hlive
      rw [← Except.ok.inj h]
      exact ⟨hpayload, hlive⟩
    · cases h

/-- A claim one second after the token was issued, and the same claim five minutes later. -/
def claimedTwice : List RuntimeCall :=
  [⟨.still ticksPerSecond, .claimNextJob "t" "tok" "n" "a"⟩,
    ⟨.still (301 * ticksPerSecond), .claimNextJob "t" "tok" "n" "b"⟩]

/-- The runtime of these runs: tokens for `ttlSeconds`, and the default replay time. -/
def issuingRuntime (ttlSeconds : Int) : TenantByocConnectorRuntime InMemoryByocJobQueueStore
    InMemoryByocResultStore InMemoryReplayGuard :=
  GuardBackend.inMemory.runtime inMemoryByocJobQueueStore inMemoryByocResultStore
    { workerJwtSecret := "s", workerTokenTtlSeconds := ttlSeconds } (issuedDecode ttlSeconds)

/-- Its state on the first day. -/
def issuingStart :
    RuntimeState InMemoryByocJobQueueStore InMemoryByocResultStore InMemoryReplayGuard :=
  { jobs := .init, results := .init .firstWriteWins, replay := .init }

/-- With tokens for five minutes the second claim is refused. -/
theorem worker_request_once_per_window_default :
    ClockRuns claimedTwice ∧
      (Run.trace (issuingRuntime 300).step issuingStart claimedTwice).Pairwise
        (Apart { workerJwtSecret := "s", workerTokenTtlSeconds := 300 } (issuedPayload 300)) := by
  have hclock : ClockRuns claimedTwice := by decide
  exact ⟨hclock, (worker_request_once_per_window .inMemory inMemoryByocJobQueueStore
    inMemoryByocResultStore { workerJwtSecret := "s", workerTokenTtlSeconds := 300 }
    (issuedDecode 300) (issuedPayload 300) (readsPayload_issued 300) issuingStart claimedTwice
    hclock).1⟩

/-- With tokens for ten minutes it is accepted: the guard has forgotten the first one. -/
theorem worker_request_accepted_again :
    (Run.trace (issuingRuntime 600).step issuingStart claimedTwice).countP
      (fun e ↦ acceptedRequest e = some ⟨.claim, "tok", "n"⟩) = 2 := by
  decide

end Byoc
end ExoBrain
