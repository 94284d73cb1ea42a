import ExoBrain.Runtime.SessionOwnership
import Mathlib.Algebra.Order.Ring.Rat

/-!
# The four maps of the sessions

A session has an entry in four dictionaries: its runtime, its adapter, its tenant and its last
access.  Six operations edit them, each dictionary on its own; `destroy` deletes two of the entries
without asking whether they are there.

* `stepOrRaise` is the machine with the deletions as they are written, so that a `KeyError` gets out.
  `SameKeys.stepOrRaise` says that none does as long as the four maps have the same keys.
* `EvictionKeeps` collects what evictions keep, once for all the ways in which sessions go away;
  `SameKeys` and `NotesAccesses` are two such properties.
* `session_cache_in_order` is about every state that is reached: same keys, a limit that is kept, the
  least recently accessed sessions evicted first, and a `destroy` that does not raise.
-/

set_option autoImplicit false

namespace ExoBrain
namespace Runtime

/-- `KeyError`. -/
structure KeyError where
  key : String
deriving DecidableEq, Repr

namespace TenantRuntimeFactory

/-! ## Deletions that may fail -/

/-- The loop of `destroy`: the runtime and the tenant of a session are deleted with `del`, the
adapter and the last access with `pop`. -/
def destroySessions : List String → TenantRuntimeFactory → Except KeyError Unit × TenantRuntimeFactory
  | [], s => (.ok (), s)
  | sid :: sids, s =>
    if sid ∉ s.sessionRuntimes.keys then (.error ⟨sid⟩, s)
    else
      let s := { s with
        sessionRuntimes := s.sessionRuntimes.erase sid
        sessionAdapters := s.sessionAdapters.erase sid }
      if sid ∉ s.sessionTenant.keys then (.error ⟨sid⟩, s)
      else destroySessions sids { s with
        sessionTenant := s.sessionTenant.erase sid
        sessionLastAccess := s.sessionLastAccess.erase sid }

/-- `destroy`, as it is written. -/
def destroyOrRaise (tenantId : String) (s : TenantRuntimeFactory) :
    Except KeyError Unit × TenantRuntimeFactory :=
  let sessionsToRemove := (s.sessionTenant.filter fun _ tid ↦ tid = tenantId).keys
  match destroySessions sessionsToRemove s with
  | (.error error, s) => (.error error, s)
  | (.ok (), s) =>
    (.ok (), { s with
      contexts := s.contexts.erase tenantId
      tenantLastTouch := s.tenantLastTouch.erase tenantId })

/-- The loop of `_evict_tenant_contexts_over_capacity`. -/
def destroyUntilUnderOrRaise (cap : Int) : (turns : Nat) → TenantRuntimeFactory →
    Except KeyError Unit × TenantRuntimeFactory
  | 0, s => (.ok (), s)
  | turns + 1, s =>
    if cap ≤ s.contexts.keys.length then
      match s.leastTouched s.contexts.keys with
      | none => (.ok (), s)
      | some victim =>
        match s.destroyOrRaise victim with
        | (.error error, s) => (.error error, s)
        | (.ok (), s) => destroyUntilUnderOrRaise cap turns s
    else (.ok (), s)

/-- `_evict_tenant_contexts_over_capacity`. -/
def evictTenantContextsOrRaise (settings : RuntimeSettings) (incomingTenantId : String)
    (s : TenantRuntimeFactory) : Except KeyError Unit × TenantRuntimeFactory :=
  let cap := settings.tenantRuntimeMaxCachedContexts
  if cap ≤ 0 then (.ok (), s)
  else if incomingTenantId ∈ s.contexts.keys then (.ok (), s)
  else destroyUntilUnderOrRaise cap s.contexts.keys.length s

/-- `get_or_create`. -/
def getOrCreateOrRaise (settings : RuntimeSettings) (clock : Readings) (tenantId : String)
    (s : TenantRuntimeFactory) : Except KeyError TenantRuntimeContext × TenantRuntimeFactory :=
  let s := s.evictIdleSessionsOnly settings clock.evict
  match s.evictTenantContextsOrRaise settings tenantId with
  | (.error error, s) => (.error error, s)
  | (.ok (), s) =>
    let context := (s.contexts.get? tenantId).getD ⟨tenantId⟩
    (.ok context, { s with
      contexts := s.contexts.set tenantId context
      tenantLastTouch := s.tenantLastTouch.set tenantId clock.touch })

/-- One call. -/
def stepOrRaise (settings : RuntimeSettings) (s : TenantRuntimeFactory) (call : FactoryCall) :
    Except KeyError FactoryAnswer × TenantRuntimeFactory :=
  match call with
  | .getOrCreate clock tenantId =>
    let r := s.getOrCreateOrRaise settings clock tenantId
    (r.1.map .context, r.2)
  | .destroy tenantId =>
    let r := s.destroyOrRaise tenantId
    (r.1.map fun _ ↦ .done, r.2)
  | call =>
    -- The other calls have no deletion that can fail.
    let r := s.step settings call
    (.ok r.1, r.2)

/-! ## What evictions keep -/

/-- A property of the sessions that is kept when a session is evicted. -/
structure EvictionKeeps (P : TenantRuntimeFactory → Prop) : Prop where
  contexts : ∀ {s : TenantRuntimeFactory} (contexts : Dict String TenantRuntimeContext)
    (tenantLastTouch : Dict String Rat), P s →
      P { s with contexts := contexts, tenantLastTouch := tenantLastTouch }
  evict : ∀ {s : TenantRuntimeFactory} (sid : String), P s → P (s.evict sid)

namespace EvictionKeeps

variable {P : TenantRuntimeFactory → Prop} {s : TenantRuntimeFactory}

theorem foldl_evict (hk : EvictionKeeps P) (h : P s) (sids : List String) :
    P (sids.foldl TenantRuntimeFactory.evict s) := by
  induction sids generalizing s with
  | nil => exact h
  | cons sid sids ih => exact ih (hk.evict sid h)

theorem evictIdle (hk : EvictionKeeps P) (settings : RuntimeSettings) (h : P s) (now : Rat) :
    P (s.evictIdleSessionsOnly settings now) := by
  rw [evictIdleSessionsOnly]
  split
  · exact h
  · exact hk.foldl_evict h _

theorem evictUntilUnder (hk : EvictionKeeps P) (h : P s) (maxSess : Int) (sids : List String) :
    P (TenantRuntimeFactory.evictUntilUnder maxSess sids s) := by
  induction sids generalizing s with
  | nil => exact h
  | cons sid sids ih =>
    rw [TenantRuntimeFactory.evictUntilUnder]
    split
    · exact h
    · refine ih ?_
      split
      · exact hk.evict sid h
      · exact h

theorem evictLru (hk : EvictionKeeps P) (settings : RuntimeSettings) (h : P s) :
    P (s.evictLruUntilUnderCap settings) := by
  rw [evictLruUntilUnderCap]
  split
  · exact h
  · exact hk.evictUntilUnder h _ _

theorem destroy (hk : EvictionKeeps P) (h : P s) (tenantId : String) : P (s.destroy tenantId) :=
  hk.contexts _ _ (hk.foldl_evict h _)

theorem destroyUntilUnder (hk : EvictionKeeps P) (h : P s) (cap : Int) (turns : Nat) :
    P (TenantRuntimeFactory.destroyUntilUnder cap turns s) := by
  induction turns generalizing s with
  | zero => exact h
  | succ turns ih =>
    rw [TenantRuntimeFactory.destroyUntilUnder]
    split
    · split
      · exact h
      · rename_i victim _
        exact ih (hk.destroy h victim)
    · exact h

theorem getOrCreate (hk : EvictionKeeps P) (settings : RuntimeSettings) (h : P s) (clock : Readings)
    (tenantId : String) :
    P (s.getOrCreate settings clock tenantId).2 := by
  refine hk.contexts _ _ ?_
  rw [evictTenantContextsOverCapacity]
  split
  · exact hk.evictIdle settings h _
  · split
    · exact hk.evictIdle settings h _
    · exact hk.destroyUntilUnder (hk.evictIdle settings h _) _ _

end EvictionKeeps

/-! ## What a call does -/

/-- The session that a call has accessed, with the reading of the clock. -/
def access : FactoryCall × FactoryAnswer → Option (String × Rat)
  | (.createSessionRuntime clock _ _ sessionId _, .host (some _)) => some (sessionId, clock.touch)
  | (.getSessionAdapter clock sessionId, .adapter (some _)) => some (sessionId, clock.touch)
  | (.getSessionRuntime clock sessionId, .host (some _)) => some (sessionId, clock.touch)
  | _ => none

variable {settings : RuntimeSettings} {s : TenantRuntimeFactory}

/-- **What a call does.**  It evicts sessions and contexts, and then notes an access to a session that
is cached, or files one, or does nothing more. -/
theorem step_cases (settings : RuntimeSettings) (s : TenantRuntimeFactory) (call : FactoryCall) :
    ∃ s', (∀ P, EvictionKeeps P → P s → P s') ∧
      ((access (call, (s.step settings call).1) = none ∧ (s.step settings call).2 = s') ∨
        (∃ sid now, access (call, (s.step settings call).1) = some (sid, now) ∧
          (sid ∈ s'.sessionAdapters.keys ∨ sid ∈ s'.sessionRuntimes.keys) ∧
          (s.step settings call).2 = s'.touchSession sid now) ∨
        ∃ host adapter now, access (call, (s.step settings call).1) = some (host.sessionId, now) ∧
          (s.step settings call).2 = s'.file host adapter now) := by
  cases call with
  | getOrCreate clock tenantId =>
    exact ⟨_, fun P hk h ↦ hk.getOrCreate settings h clock tenantId, .inl ⟨rfl, rfl⟩⟩
  | createSessionRuntime clock tenantContext agentId sessionId adapter =>
    refine ⟨(s.evictIdleSessionsOnly settings clock.evict).evictLruUntilUnderCap settings,
      fun P hk h ↦ hk.evictLru settings (hk.evictIdle settings h _), ?_⟩
    cases adapter with
    | none => exact .inl ⟨rfl, rfl⟩
    | some adapter => exact .inr (.inr ⟨⟨tenantContext, agentId, sessionId⟩, adapter, _, rfl, rfl⟩)
  | getSessionAdapter clock sessionId =>
    refine ⟨s.evictIdleSessionsOnly settings clock.evict, fun P hk h ↦ hk.evictIdle settings h _, ?_⟩
    rw [step, getSessionAdapter]
    cases hfound : (s.evictIdleSessionsOnly settings clock.evict).sessionAdapters.get? sessionId with
    | none => exact .inl ⟨rfl, rfl⟩
    | some adapter =>
      exact .inr (.inl ⟨sessionId, _, rfl, .inl (Dict.mem_keys_iff.mpr ⟨adapter, hfound⟩), rfl⟩)
  | getSessionRuntime clock sessionId =>
    refine ⟨s.evictIdleSessionsOnly settings clock.evict, fun P hk h ↦ hk.evictIdle settings h _, ?_⟩
    rw [step, getSessionRuntime]
    cases hfound : (s.evictIdleSessionsOnly settings clock.evict).sessionRuntimes.get? sessionId with
    | none => exact .inl ⟨rfl, rfl⟩
    | some host =>
      exact .inr (.inl ⟨sessionId, _, rfl, .inr (Dict.mem_keys_iff.mpr ⟨host, hfound⟩), rfl⟩)
  | destroy tenantId => exact ⟨_, fun P hk h ↦ hk.destroy h tenantId, .inl ⟨rfl, rfl⟩⟩
  | evictSessionsForProvider providerId =>
    exact ⟨_, fun P hk h ↦ hk.foldl_evict h _, .inl ⟨rfl, rfl⟩⟩

/-! ## The same keys -/

/-- The four maps have the same keys. -/
structure SameKeys (s : TenantRuntimeFactory) : Prop where
  adapters : ∀ {sid}, sid ∈ s.sessionAdapters.keys ↔ sid ∈ s.sessionRuntimes.keys
  tenants : ∀ {sid}, sid ∈ s.sessionTenant.keys ↔ sid ∈ s.sessionRuntimes.keys
  accesses : ∀ {sid}, sid ∈ s.sessionLastAccess.keys ↔ sid ∈ s.sessionRuntimes.keys

theorem sameKeys_initial : initial.SameKeys := ⟨Iff.rfl, Iff.rfl, Iff.rfl⟩

theorem sameKeys_evictionKeeps : EvictionKeeps SameKeys where
  contexts _ _ h := ⟨h.adapters, h.tenants, h.accesses⟩
  evict sid h := by
    refine ⟨?_, ?_, ?_⟩ <;> intro sid' <;> simp only [evict, Dict.mem_keys_erase]
    · rw [h.adapters]
    · rw [h.tenants]
    · rw [h.accesses]

/-- Noting an access to a session that is cached. -/
theorem SameKeys.touchSession (h : s.SameKeys) {sid : String} (hsid : sid ∈ s.sessionRuntimes.keys)
    (now : Rat) : (s.touchSession sid now).SameKeys := by
  refine ⟨h.adapters, h.tenants, fun {sid'} ↦ ?_⟩
  change sid' ∈ (s.sessionLastAccess.set sid now).keys ↔ sid' ∈ s.sessionRuntimes.keys
  rw [Dict.mem_keys_set, h.accesses, or_iff_right_iff_imp]
  rintro rfl
  exact hsid

theorem SameKeys.file (h : s.SameKeys) (host : HostAdapter) (adapter : RuntimeAdapter) (now : Rat) :
    (s.file host adapter now).SameKeys := by
  refine ⟨?_, ?_, ?_⟩ <;> intro sid <;>
    simp only [TenantRuntimeFactory.file, TenantRuntimeFactory.touchSession, Dict.mem_keys_set]
  · rw [h.adapters]
  · rw [h.tenants]
  · rw [h.accesses]

theorem SameKeys.step (h : s.SameKeys) (call : FactoryCall) : (s.step settings call).2.SameKeys := by
  obtain ⟨s', hkeeps, hcases⟩ := step_cases settings s call
  have h' := hkeeps SameKeys sameKeys_evictionKeeps h
  rcases hcases with ⟨-, heq⟩ | ⟨sid, now, -, hcached, heq⟩ | ⟨host, adapter, now, -, heq⟩ <;> rw [heq]
  · exact h'
  · exact h'.touchSession (hcached.elim h'.adapters.mp id) now
  · exact h'.file host adapter now

/-! ## No deletion fails -/

theorem mem_foldl_evict {sids : List String} {sid : String} :
    sid ∈ (sids.foldl evict s).sessionRuntimes.keys ↔ sid ∈ s.sessionRuntimes.keys ∧ sid ∉ sids := by
  induction sids generalizing s with
  | nil => simp
  | cons first sids ih =>
    rw [List.foldl_cons, ih, evict, Dict.mem_keys_erase, List.mem_cons]
    tauto

/-- Sessions that are cached are deleted. -/
theorem SameKeys.destroySessions (h : s.SameKeys) {sids : List String} (hnodup : sids.Nodup)
    (hcached : ∀ sid ∈ sids, sid ∈ s.sessionRuntimes.keys) :
    destroySessions sids s = (.ok (), sids.foldl evict s) := by
  induction sids generalizing s with
  | nil => rfl
  | cons sid sids ih =>
    obtain ⟨hsid, hsids⟩ := List.forall_mem_cons.mp hcached
    rw [List.nodup_cons] at hnodup
    rw [TenantRuntimeFactory.destroySessions, if_neg (not_not.mpr hsid)]
    dsimp only
    rw [if_neg (not_not.mpr (h.tenants.mpr hsid))]
    refine ih (sameKeys_evictionKeeps.evict sid h) hnodup.2 fun other hother ↦ ?_
    refine Dict.mem_keys_erase.mpr ⟨?_, hsids other hother⟩
    rintro rfl
    exact hnodup.1 hother

theorem SameKeys.destroyOrRaise (h : s.SameKeys) (tenantId : String) :
    s.destroyOrRaise tenantId = (.ok (), s.destroy tenantId) := by
  have hsessions := h.destroySessions (s.sessionTenant.filter fun _ tid ↦ tid = tenantId).keys_nodup
    fun sid hsid ↦ by
      obtain ⟨tid, htid⟩ := Dict.mem_keys_iff.mp hsid
      rw [Dict.get?_filter, Option.filter_eq_some_iff] at htid
      exact h.tenants.mp (Dict.mem_keys_iff.mpr ⟨tid, htid.1⟩)
  rw [TenantRuntimeFactory.destroyOrRaise, hsessions]
  rfl

theorem SameKeys.destroyUntilUnderOrRaise (h : s.SameKeys) (cap : Int) (turns : Nat) :
    destroyUntilUnderOrRaise cap turns s = (.ok (), destroyUntilUnder cap turns s) := by
  induction turns generalizing s with
  | zero => rfl
  | succ turns ih =>
    rw [TenantRuntimeFactory.destroyUntilUnderOrRaise, destroyUntilUnder]
    split
    · cases s.leastTouched s.contexts.keys with
      | none => rfl
      | some victim =>
        dsimp only
        rw [h.destroyOrRaise victim]
        exact ih (sameKeys_evictionKeeps.destroy h victim)
    · rfl

theorem SameKeys.getOrCreateOrRaise (h : s.SameKeys) (clock : Readings) (tenantId : String) :
    s.getOrCreateOrRaise settings clock tenantId =
      (.ok (s.getOrCreate settings clock tenantId).1, (s.getOrCreate settings clock tenantId).2) := by
  have hidle := sameKeys_evictionKeeps.evictIdle settings h clock.evict
  have hevict : (s.evictIdleSessionsOnly settings clock.evict).evictTenantContextsOrRaise settings
      tenantId = (.ok (), (s.evictIdleSessionsOnly settings
        clock.evict).evictTenantContextsOverCapacity settings tenantId) := by
    rw [evictTenantContextsOrRaise, evictTenantContextsOverCapacity]
    split
    · rfl
    · split
      · rfl
      · exact hidle.destroyUntilUnderOrRaise _ _
  rw [TenantRuntimeFactory.getOrCreateOrRaise, hevict]
  rfl

/-- **No deletion fails** where the maps have the same keys. -/
theorem SameKeys.stepOrRaise (h : s.SameKeys) (call : FactoryCall) :
    s.stepOrRaise settings call = (.ok (s.step settings call).1, (s.step settings call).2) := by
  cases call with
  | getOrCreate clock tenantId =>
    rw [TenantRuntimeFactory.stepOrRaise, h.getOrCreateOrRaise clock tenantId]
    rfl
  | destroy tenantId =>
    rw [TenantRuntimeFactory.stepOrRaise, h.destroyOrRaise tenantId]
    rfl
  | createSessionRuntime clock tenantContext agentId sessionId adapter => rfl
  | getSessionAdapter clock sessionId => rfl
  | getSessionRuntime clock sessionId => rfl
  | evictSessionsForProvider providerId => rfl

/-- So a run is what it would be if no deletion could fail. -/
theorem exec_stepOrRaise (settings : RuntimeSettings) (h : s.SameKeys) (calls : List FactoryCall) :
    Run.exec (stepOrRaise settings) s calls = Run.exec (step settings) s calls ∧
      (Run.exec (step settings) s calls).SameKeys := by
  induction calls generalizing s with
  | nil => exact ⟨rfl, h⟩
  | cons call calls ih =>
    rw [Run.exec, Run.exec, h.stepOrRaise call]
    exact ih (h.step call)

/-! ## Room for a session -/

/-- The loop takes sessions from the front until there is room, or none are left. -/
theorem SameKeys.evictUntilUnder (h : s.SameKeys) (maxSess : Int) {sids : List String}
    (hnodup : sids.Nodup) (hcached : ∀ sid ∈ sids, sid ∈ s.sessionRuntimes.keys) :
    ∃ gone rest, sids = gone ++ rest ∧ evictUntilUnder maxSess sids s = gone.foldl evict s ∧
      (((gone.foldl evict s).sessionRuntimes.keys.length : Int) < maxSess ∨ rest = []) := by
  induction sids generalizing s with
  | nil => exact ⟨[], [], rfl, rfl, .inr rfl⟩
  | cons sid sids ih =>
    obtain ⟨hsid, hsids⟩ := List.forall_mem_cons.mp hcached
    rw [List.nodup_cons] at hnodup
    rw [TenantRuntimeFactory.evictUntilUnder]
    split
    · rename_i hroom
      exact ⟨[], sid :: sids, rfl, rfl, .inl hroom⟩
    · obtain ⟨gone, rest, hsplit, hevicted, hend⟩ :=
        ih (sameKeys_evictionKeeps.evict sid h) hnodup.2 fun other hother ↦ by
          refine Dict.mem_keys_erase.mpr ⟨?_, hsids other hother⟩
          rintro rfl
          exact hnodup.1 hother
      exact ⟨sid :: gone, rest, congrArg (sid :: ·) hsplit, hevicted, hend⟩

/-- The entries of the last accesses, oldest first. -/
def byLastAccess (s : TenantRuntimeFactory) : List (String × Rat) :=
  s.sessionLastAccess.entries.mergeSort fun a b ↦ a.2 ≤ b.2

theorem pairwise_byLastAccess (s : TenantRuntimeFactory) :
    s.byLastAccess.Pairwise fun a b ↦ a.2 ≤ b.2 := by
  have hsorted := @List.pairwise_mergeSort _ (fun a b : String × Rat ↦ decide (a.2 ≤ b.2))
    (fun a b c hab hbc ↦ decide_eq_true ((of_decide_eq_true hab).trans (of_decide_eq_true hbc)))
    (fun a b ↦ by simpa using le_total a.2 b.2) s.sessionLastAccess.entries
  exact hsorted.imp of_decide_eq_true

theorem mem_byLastAccess {sid : String} {now : Rat} :
    (sid, now) ∈ s.byLastAccess ↔ s.sessionLastAccess.get? sid = some now := by
  rw [byLastAccess, List.mem_mergeSort, Dict.mem_entries_iff]

/-- **Making room.**  The sessions that were accessed longest ago go, as many as it takes. -/
theorem SameKeys.evictLru (h : s.SameKeys) (hmax : 0 < settings.sessionRuntimeMaxCachedSessions) :
    ∃ gone rest, s.byLastAccess = gone ++ rest ∧
      s.evictLruUntilUnderCap settings = (gone.map Prod.fst).foldl evict s ∧
      ((s.evictLruUntilUnderCap settings).sessionRuntimes.keys.length : Int) <
        settings.sessionRuntimeMaxCachedSessions := by
  have hperm : (s.byLastAccess.map Prod.fst).Perm s.sessionLastAccess.keys :=
    (List.mergeSort_perm _ _).map Prod.fst
  obtain ⟨sids, restSids, hsplit, hevicted, hend⟩ :=
    h.evictUntilUnder settings.sessionRuntimeMaxCachedSessions
      (hperm.nodup_iff.mpr s.sessionLastAccess.keys_nodup)
      fun sid hsid ↦ h.accesses.mp (hperm.mem_iff.mp hsid)
  obtain ⟨gone, rest, hentries, rfl, hrest⟩ := List.map_eq_append_iff.mp hsplit
  have heq : s.evictLruUntilUnderCap settings = (gone.map Prod.fst).foldl evict s := by
    rw [evictLruUntilUnderCap, if_neg (not_le.mpr hmax)]
    exact hevicted
  refine ⟨gone, rest, hentries, heq, ?_⟩
  rw [heq]
  rcases hend with hroom | rfl
  · exact hroom
  · -- Everything that was cached has gone.
    have hnone : ((gone.map Prod.fst).foldl evict s).sessionRuntimes.keys = [] := by
      refine List.eq_nil_iff_forall_not_mem.mpr fun sid hsid ↦ ?_
      obtain ⟨hthere, hnot⟩ := mem_foldl_evict.mp hsid
      rw [← h.accesses, ← hperm.mem_iff, hsplit, List.append_nil] at hthere
      exact hnot hthere
    rw [hnone]
    exact hmax

/-- What has gone was accessed no later than what has stayed. -/
theorem SameKeys.lastAccess_le (h : s.SameKeys) {gone kept : String} {left right : Rat}
    (hthere : gone ∈ s.sessionRuntimes.keys)
    (hgone : gone ∉ (s.evictLruUntilUnderCap settings).sessionRuntimes.keys)
    (hkept : kept ∈ (s.evictLruUntilUnderCap settings).sessionRuntimes.keys)
    (hleft : s.sessionLastAccess.get? gone = some left)
    (hright : s.sessionLastAccess.get? kept = some right) : left ≤ right := by
  by_cases hmax : 0 < settings.sessionRuntimeMaxCachedSessions
  · obtain ⟨evicted, rest, hentries, heq, -⟩ := h.evictLru hmax
    rw [heq, mem_foldl_evict] at hgone hkept
    have hpairwise := s.pairwise_byLastAccess
    have hnodup : (s.byLastAccess.map Prod.fst).Nodup :=
      ((List.mergeSort_perm _ _).map Prod.fst).nodup_iff.mpr s.sessionLastAccess.keys_nodup
    rw [← mem_byLastAccess, hentries, List.mem_append] at hleft hright
    rw [hentries] at hpairwise
    have hfirst : (gone, left) ∈ evicted := by
      refine hleft.resolve_right fun hrest ↦ hgone ⟨hthere, fun hmem ↦ ?_⟩
      rw [hentries, List.map_append] at hnodup
      exact (List.nodup_append.mp hnodup).2.2 _ hmem _ (List.mem_map_of_mem hrest) rfl
    have hsecond : (kept, right) ∈ rest :=
      hright.resolve_left fun hmem ↦ hkept.2 (List.mem_map_of_mem hmem)
    exact (List.pairwise_append.mp hpairwise).2.2 _ hfirst _ hsecond
  · rw [evictLruUntilUnderCap, if_pos (not_lt.mp hmax)] at hgone
    exact absurd hthere hgone

/-! ## When a session was accessed -/

/-- The session that a call has accessed, where nothing was raised. -/
def accessed : FactoryCall × Except KeyError FactoryAnswer → Option (String × Rat)
  | (call, .ok answer) => access (call, answer)
  | (_, .error _) => none

/-- The accesses of a run, in order. -/
def accesses (settings : RuntimeSettings) (calls : List FactoryCall) : List (String × Rat) :=
  (Run.trace (stepOrRaise settings) initial calls).filterMap accessed

/-- When a session was accessed last. -/
def lastAccess (accesses : List (String × Rat)) (sid : String) : Option Rat :=
  Dict.lastWritten Prod.fst Prod.snd accesses sid

/-- The accesses since the last one to a session, latest first. -/
def since (accesses : List (String × Rat)) (sid : String) : List (String × Rat) :=
  accesses.reverse.takeWhile fun e ↦ e.1 ≠ sid

/-- `_session_last_access` has the last access of each session that is cached. -/
def NotesAccesses (accesses : List (String × Rat)) (s : TenantRuntimeFactory) : Prop :=
  ∀ sid now, s.sessionLastAccess.get? sid = some now → lastAccess accesses sid = some now

theorem notesAccesses_evictionKeeps (accesses : List (String × Rat)) :
    EvictionKeeps (NotesAccesses accesses) where
  contexts _ _ h := h
  evict sid h := by
    intro sid' now hnow
    rw [evict, Dict.get?_erase] at hnow
    split at hnow
    · cases hnow
    · exact h sid' now hnow

theorem lastAccess_concat (accesses : List (String × Rat)) (sid : String) (now : Rat) (sid' : String) :
    lastAccess (accesses ++ [(sid, now)]) sid' =
      if sid' = sid then some now else lastAccess accesses sid' := by
  rw [lastAccess, Dict.lastWritten, List.reverse_append]
  by_cases hsid : sid' = sid
  · simp [hsid]
  · simp [hsid, Ne.symm hsid, lastAccess, Dict.lastWritten]

/-- An access that is noted is the last one. -/
theorem NotesAccesses.set {accesses : List (String × Rat)} (h : NotesAccesses accesses s) (sid : String)
    (now : Rat) {s' : TenantRuntimeFactory}
    (hs' : s'.sessionLastAccess = s.sessionLastAccess.set sid now) :
    NotesAccesses (accesses ++ [(sid, now)]) s' := by
  intro sid' now' hnow
  rw [hs', Dict.get?_set] at hnow
  rw [lastAccess_concat]
  split
  · rename_i hsid
    rwa [if_pos hsid] at hnow
  · rename_i hsid
    rw [if_neg hsid] at hnow
    exact h sid' now' hnow

theorem NotesAccesses.step {accesses : List (String × Rat)} (settings : RuntimeSettings)
    (h : NotesAccesses accesses s) (call : FactoryCall) :
    NotesAccesses (accesses ++ (access (call, (s.step settings call).1)).toList)
      (s.step settings call).2 := by
  obtain ⟨s', hkeeps, hcases⟩ := step_cases settings s call
  have h' := hkeeps _ (notesAccesses_evictionKeeps accesses) h
  rcases hcases with ⟨hnone, heq⟩ | ⟨sid, now, hsome, -, heq⟩ | ⟨host, adapter, now, hsome, heq⟩
  · rw [hnone, heq, Option.toList_none, List.append_nil]
    exact h'
  · rw [hsome, heq]
    exact h'.set sid now rfl
  · rw [hsome, heq]
    exact h'.set host.sessionId now rfl

/-- **What is noted in every state that is reached.** -/
theorem notesAccesses_exec (settings : RuntimeSettings) (calls : List FactoryCall) :
    NotesAccesses (accesses settings calls) (Run.exec (stepOrRaise settings) initial calls) := by
  have hstep : ∀ (h : List (FactoryCall × Except KeyError FactoryAnswer)) t call, True →
      (SameKeys t ∧ NotesAccesses (h.filterMap accessed) t) →
      SameKeys (t.stepOrRaise settings call).2 ∧
        NotesAccesses ((h ++ [(call, (t.stepOrRaise settings call).1)]).filterMap accessed)
          (t.stepOrRaise settings call).2 := by
    rintro h t call - ⟨hsame, hnotes⟩
    rw [hsame.stepOrRaise call, List.filterMap_append]
    refine ⟨hsame.step call, ?_⟩
    have hnext := hnotes.step settings call
    cases haccess : access (call, (t.step settings call).1) <;> rw [haccess] at hnext <;>
      simpa [accessed, haccess] using hnext
  have hinitial : NotesAccesses [] initial := fun _ _ hnow ↦ nomatch hnow
  exact (Run.trace_invariant (P := fun h t ↦ SameKeys t ∧ NotesAccesses (h.filterMap accessed) t)
    hstep (Run.along_of_forall (fun _ _ ↦ trivial) initial calls)
    (h := []) ⟨sameKeys_initial, hinitial⟩).2

/-! ### With a clock that does not go back -/

/-- The readings of the clock in a call, in order. -/
def readings : FactoryCall → List Rat
  | .getOrCreate clock _ | .createSessionRuntime clock .. | .getSessionAdapter clock _
  | .getSessionRuntime clock _ => [clock.evict, clock.touch]
  | .destroy _ | .evictSessionsForProvider _ => []

/-- The clock does not go back. -/
def NonDecreasing (calls : List FactoryCall) : Prop :=
  (calls.flatMap readings).Pairwise (· ≤ ·)

instance (calls : List FactoryCall) : Decidable (NonDecreasing calls) :=
  inferInstanceAs (Decidable (List.Pairwise _ _))

/-- An access is noted with a reading of its call. -/
theorem accessed_sublist (call : FactoryCall) (answer : Except KeyError FactoryAnswer) :
    ((accessed (call, answer)).toList.map Prod.snd).Sublist (readings call) := by
  have htouch (clock : Readings) (sid : String) :
      ((some (sid, clock.touch)).toList.map Prod.snd).Sublist [clock.evict, clock.touch] :=
    List.sublist_cons_self clock.evict [clock.touch]
  unfold accessed
  split
  · rename_i heq
    obtain ⟨rfl, rfl⟩ := Prod.mk.inj heq
    unfold access
    split
    · rename_i heq'
      obtain ⟨rfl, -⟩ := Prod.mk.inj heq'
      exact htouch _ _
    · rename_i heq'
      obtain ⟨rfl, -⟩ := Prod.mk.inj heq'
      exact htouch _ _
    · rename_i heq'
      obtain ⟨rfl, -⟩ := Prod.mk.inj heq'
      exact htouch _ _
    · exact List.nil_sublist _
  · exact List.nil_sublist _

theorem accesses_sublist (settings : RuntimeSettings) (s : TenantRuntimeFactory)
    (calls : List FactoryCall) :
    (((Run.trace (stepOrRaise settings) s calls).filterMap accessed).map Prod.snd).Sublist
      (calls.flatMap readings) := by
  induction calls generalizing s with
  | nil => exact List.nil_sublist _
  | cons call calls ih =>
    have hcall := accessed_sublist call (s.stepOrRaise settings call).1
    have hcalls := ih (s.stepOrRaise settings call).2
    rw [Run.trace, List.flatMap_cons, List.filterMap_cons]
    cases haccess : accessed (call, (s.stepOrRaise settings call).1) with
    | none => exact hcalls.trans (List.sublist_append_right _ _)
    | some e =>
      rw [haccess] at hcall
      exact hcall.append hcalls

/-- One session has been accessed since another was, or both were when the clock showed the same. -/
def NotBefore (accesses : List (String × Rat)) (sid other : String) : Prop :=
  (∃ now, (other, now) ∈ since accesses sid) ∨
    ∃ now, lastAccess accesses sid = some now ∧ lastAccess accesses other = some now

/-- The same for a list of accesses, latest first. -/
theorem accessed_since_or_eq {latest : List (String × Rat)}
    (hearlier : latest.Pairwise fun a b ↦ b.2 ≤ a.2) {sid other : String} {left right : Rat}
    (hsid : (latest.find? fun e ↦ e.1 = sid).map Prod.snd = some left)
    (hother : (latest.find? fun e ↦ e.1 = other).map Prod.snd = some right) (hle : left ≤ right) :
    (∃ now, (other, now) ∈ latest.takeWhile fun e ↦ e.1 ≠ sid) ∨ right = left := by
  induction latest with
  | nil => cases hsid
  | cons e latest ih =>
    obtain ⟨he, hrest⟩ := List.pairwise_cons.mp hearlier
    by_cases hesid : e.1 = sid
    · refine .inr ?_
      rw [List.find?_cons_of_pos (by simpa using hesid)] at hsid
      obtain rfl := Option.some.inj hsid
      by_cases heother : e.1 = other
      · rw [List.find?_cons_of_pos (by simpa using heother)] at hother
        exact (Option.some.inj hother).symm
      · -- The other access came before.
        rw [List.find?_cons_of_neg (by simpa using heother)] at hother
        obtain ⟨found, hfound, rfl⟩ := Option.map_eq_some_iff.mp hother
        exact le_antisymm (he found (List.mem_of_find?_eq_some hfound)) hle
    · rw [List.takeWhile_cons_of_pos (by simpa using hesid)]
      rw [List.find?_cons_of_neg (by simpa using hesid)] at hsid
      by_cases heother : e.1 = other
      · exact .inl ⟨e.2, heother ▸ List.mem_cons_self⟩
      · rw [List.find?_cons_of_neg (by simpa using heother)] at hother
        exact (ih hrest hsid hother).imp_left fun ⟨now, hmem⟩ ↦ ⟨now, List.mem_cons_of_mem e hmem⟩

/-- On a clock that does not go back, later readings belong to later accesses. -/
theorem notBefore_of_le {accesses : List (String × Rat)}
    (hclock : (accesses.map Prod.snd).Pairwise (· ≤ ·)) {sid other : String} {left right : Rat}
    (hsid : lastAccess accesses sid = some left) (hother : lastAccess accesses other = some right)
    (hle : left ≤ right) : NotBefore accesses sid other := by
  have hearlier : accesses.reverse.Pairwise fun a b ↦ b.2 ≤ a.2 :=
    List.pairwise_reverse.mpr (List.pairwise_map.mp hclock)
  rcases accessed_since_or_eq hearlier hsid hother hle with hsince | rfl
  · exact .inl hsince
  · exact .inr ⟨right, hsid, hother⟩

/-! ## Every state that is reached -/

/-- What `create_session_runtime` does about the limit: `accesses` are those before the call. -/
structure KeepsLimit (settings : RuntimeSettings) (accesses : List (String × Rat)) (clock : Readings)
    (tenantContext : TenantRuntimeContext) (agentId sessionId : String)
    (adapter : Option RuntimeAdapter) (s : TenantRuntimeFactory) : Prop where
  /-- No more sessions are cached than the limit allows, whether the assembler raises or not. -/
  within : ((s.createSessionRuntime settings clock tenantContext agentId sessionId
    adapter).2.sessionRuntimes.keys.length : Int) ≤ settings.sessionRuntimeMaxCachedSessions
  /-- A session that goes for the limit has not been accessed after one that stays. -/
  oldest : ∀ {gone kept},
    gone ∈ (s.evictIdleSessionsOnly settings clock.evict).sessionRuntimes.keys →
    gone ∉ ((s.evictIdleSessionsOnly settings clock.evict).evictLruUntilUnderCap
      settings).sessionRuntimes.keys →
    kept ∈ ((s.evictIdleSessionsOnly settings clock.evict).evictLruUntilUnderCap
      settings).sessionRuntimes.keys →
    NotBefore accesses gone kept

/-- `destroy` does not raise, and removes the sessions of the tenant and no others. -/
structure DestroysOwn (tenantId : String) (s : TenantRuntimeFactory) : Prop where
  returns : (s.destroyOrRaise tenantId).1 = .ok ()
  sameKeys : (s.destroyOrRaise tenantId).2.SameKeys
  removed : ∀ {sid}, sid ∈ (s.destroyOrRaise tenantId).2.sessionRuntimes.keys ↔
    ∃ host, s.sessionRuntimes.get? sid = some host ∧ host.tenantContext.tenantId ≠ tenantId
  kept : ∀ {sid}, sid ∈ (s.destroyOrRaise tenantId).2.sessionRuntimes.keys →
    (s.destroyOrRaise tenantId).2.sessionRuntimes.get? sid = s.sessionRuntimes.get? sid ∧
      (s.destroyOrRaise tenantId).2.sessionAdapters.get? sid = s.sessionAdapters.get? sid ∧
      (s.destroyOrRaise tenantId).2.sessionTenant.get? sid = s.sessionTenant.get? sid ∧
      (s.destroyOrRaise tenantId).2.sessionLastAccess.get? sid = s.sessionLastAccess.get? sid

/-- The last access of a session that is cached is known. -/
theorem SameKeys.exists_lastAccess (h : s.SameKeys) {sid : String}
    (hsid : sid ∈ s.sessionRuntimes.keys) : ∃ now, s.sessionLastAccess.get? sid = some now :=
  Dict.mem_keys_iff.mp (h.accesses.mpr hsid)

theorem SameKeys.keepsLimit (h : s.SameKeys) {accesses : List (String × Rat)}
    (hnotes : NotesAccesses accesses s) (hclock : (accesses.map Prod.snd).Pairwise (· ≤ ·))
    (hmax : 0 < settings.sessionRuntimeMaxCachedSessions) (clock : Readings)
    (tenantContext : TenantRuntimeContext) (agentId sessionId : String)
    (adapter : Option RuntimeAdapter) :
    s.KeepsLimit settings accesses clock tenantContext agentId sessionId adapter := by
  have hidle := sameKeys_evictionKeeps.evictIdle settings h clock.evict
  have hnotesIdle :=
    (notesAccesses_evictionKeeps accesses).evictIdle settings hnotes clock.evict
  constructor
  · obtain ⟨-, -, -, -, hroom⟩ := hidle.evictLru hmax
    rw [createSessionRuntime.eq_def]
    cases adapter with
    | none => exact hroom.le
    | some adapter =>
      dsimp only [TenantRuntimeFactory.file, TenantRuntimeFactory.touchSession]
      rw [Dict.length_keys_set]
      split
      · exact hroom.le
      · omega
  · intro gone kept hthere hgone hkept
    have hkeptIdle : kept ∈ (s.evictIdleSessionsOnly settings clock.evict).sessionRuntimes.keys := by
      obtain ⟨evicted, -, -, heq, -⟩ := hidle.evictLru hmax
      rw [heq] at hkept
      exact (mem_foldl_evict.mp hkept).1
    obtain ⟨left, hleft⟩ := hidle.exists_lastAccess hthere
    obtain ⟨right, hright⟩ := hidle.exists_lastAccess hkeptIdle
    exact notBefore_of_le hclock (hnotesIdle gone left hleft) (hnotesIdle kept right hright)
      (hidle.lastAccess_le hthere hgone hkept hleft hright)

theorem get?_foldl_evict (sids : List String) (s : TenantRuntimeFactory) {sid : String}
    (hsid : sid ∉ sids) :
    (sids.foldl evict s).sessionRuntimes.get? sid = s.sessionRuntimes.get? sid ∧
      (sids.foldl evict s).sessionAdapters.get? sid = s.sessionAdapters.get? sid ∧
      (sids.foldl evict s).sessionTenant.get? sid = s.sessionTenant.get? sid ∧
      (sids.foldl evict s).sessionLastAccess.get? sid = s.sessionLastAccess.get? sid := by
  induction sids generalizing s with
  | nil => exact ⟨rfl, rfl, rfl, rfl⟩
  | cons first sids ih =>
    rw [List.mem_cons, not_or] at hsid
    obtain ⟨hfirst, hrest⟩ := hsid
    obtain ⟨hruntimes, hadapters, htenant, haccess⟩ := ih (s.evict first) hrest
    rw [List.foldl_cons, hruntimes, hadapters, htenant, haccess]
    simp only [evict, Dict.get?_erase, if_neg hfirst, and_self]

theorem SameKeys.destroysOwn (h : s.SameKeys) (howners : FilesOwners s) (tenantId : String) :
    s.DestroysOwn tenantId := by
  have hdestroy := h.destroyOrRaise tenantId
  have hremoved {sid : String} :
      sid ∈ (s.sessionTenant.filter fun _ tid ↦ tid = tenantId).keys ↔
        s.sessionTenant.get? sid = some tenantId := by
    rw [Dict.mem_keys_iff]
    simp only [Dict.get?_filter, Option.filter_eq_some_iff, decide_eq_true_eq]
    exact ⟨fun ⟨tid, hfound, heq⟩ ↦ heq ▸ hfound, fun hfound ↦ ⟨tenantId, hfound, rfl⟩⟩
  have hkeys {sid : String} : sid ∈ (s.destroyOrRaise tenantId).2.sessionRuntimes.keys ↔
      sid ∈ s.sessionRuntimes.keys ∧ s.sessionTenant.get? sid ≠ some tenantId := by
    rw [hdestroy, Ne, ← hremoved]
    exact mem_foldl_evict
  refine ⟨by rw [hdestroy], ?_, fun {sid} ↦ ?_, fun {sid} hsid ↦ ?_⟩
  · rw [hdestroy]
    exact sameKeys_evictionKeeps.destroy h tenantId
  · rw [hkeys, ← howners sid, Dict.mem_keys_iff]
    constructor
    · rintro ⟨⟨host, hhost⟩, hother⟩
      rw [hhost, Option.map_some, Ne, Option.some.injEq] at hother
      exact ⟨host, hhost, hother⟩
    · rintro ⟨host, hhost, hother⟩
      rw [hhost, Option.map_some, Ne, Option.some.injEq]
      exact ⟨⟨host, rfl⟩, hother⟩
  · rw [hdestroy]
    exact get?_foldl_evict _ s (fun hmem ↦ (hkeys.mp hsid).2 (hremoved.mp hmem))

/-- **The maps of the sessions.**  Whatever calls have been made, and whichever sessions have been
created anew under ids that others had used, as long as the clock does not go back:

* the four maps have the same keys;
* `create_session_runtime` keeps a positive limit, and makes room with sessions that no session that
  stays was last accessed before;
* `destroy` does not raise, and removes the sessions of its tenant and no others. -/
theorem session_cache_in_order (settings : RuntimeSettings) (calls : List FactoryCall)
    (hclock : NonDecreasing calls) :
    let s := Run.exec (stepOrRaise settings) initial calls
    s.SameKeys ∧
      (0 < settings.sessionRuntimeMaxCachedSessions →
        ∀ clock tenantContext agentId sessionId adapter,
          s.KeepsLimit settings (accesses settings calls) clock tenantContext agentId sessionId
            adapter) ∧
      ∀ tenantId, s.DestroysOwn tenantId := by
  obtain ⟨heq, hsame⟩ := exec_stepOrRaise settings sameKeys_initial calls
  have hnotes := notesAccesses_exec settings calls
  have hordered := hclock.sublist (accesses_sublist settings initial calls)
  have howners : FilesOwners (Run.exec (step settings) initial calls) :=
    FilesOwners.initial.exec calls
  rw [← heq] at hsame howners
  refine ⟨hsame, fun hmax clock tenantContext agentId sessionId adapter ↦ ?_, fun tenantId ↦ ?_⟩
  · exact hsame.keepsLimit hnotes hordered hmax clock tenantContext agentId sessionId adapter
  · exact hsame.destroysOwn howners tenantId

/-- Two tenants, one of which takes over the session of the other. -/
theorem session_cache_in_order_takeOver :
    let calls : List FactoryCall :=
      [.createSessionRuntime ⟨0, 0⟩ ⟨"acme"⟩ "agent" "sess" (some ⟨"provider"⟩),
        .createSessionRuntime ⟨1, 1⟩ ⟨"globex"⟩ "agent" "sess" (some ⟨"provider"⟩)]
    let settings : RuntimeSettings := { sessionRuntimeMaxCachedSessions := 1 }
    (Run.exec (stepOrRaise settings) initial calls).SameKeys ∧
      (Run.exec (stepOrRaise settings) initial calls).DestroysOwn "acme" := by
  intro calls settings
  obtain ⟨hsame, -, hdestroys⟩ := session_cache_in_order settings calls (by decide +kernel)
  exact ⟨hsame, hdestroys "acme"⟩

end TenantRuntimeFactory

end Runtime
end ExoBrain
