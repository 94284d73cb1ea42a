import ExoBrain.Agents.Registry
import ExoBrain.Runtime.TenantRuntime
import ExoBrain.Tools.VersionProjection

/-!
# What the cache of tenant contexts loses

A tenant registers its tools and agents in the registries of the context that `get_or_create` has
answered.  The cache holds the only reference to it that is found again.  When the cache is full, a
tenant that is not in it takes the place of the one that was touched least recently, and the next
`get_or_create` of that tenant builds a context with empty registries; the stores are read when the
application starts, and not then.

* `ContextHeap` is the factory together with the contexts it has built, and with those that each
  tenant has been answered.  A tenant may go on using an answer that is no longer cached.
* `Ledger` is what each tenant has registered and not removed, as if nothing were ever evicted.
* `contexts_transparent_iff`: along a run `get_or_create` answers what stands in the ledger exactly
  if each step `Spares` what is registered.
* `tool_lost_to_other_tenant` is a run that loses a tool.
-/

set_option autoImplicit false

namespace ExoBrain
namespace Runtime

open Agents Tools

/-! ## Registries -/

/-- The registries of a context. -/
structure Registries (η : Type) where
  toolRegistry : Dict String (ToolDescriptor η) := Dict.empty
  agentRegistry : AgentRegistry := .initial

/-- The registries of a context as `TenantContextBuilder.build` makes it. -/
def Registries.fresh {η : Type} : Registries η := {}

/-- What a tenant does with them. -/
inductive RegistryOp (η : Type)
  | registerTool (descriptor : ToolDescriptor η)
  | unregisterTool (toolName : String)
  | registerAgent (agent : AgentSpec)
  | unregisterAgent (agentId : String)

/-- Do it.  Where the registry raises, it has not changed. -/
def RegistryOp.apply {η : Type} (registries : Registries η) : RegistryOp η → Registries η
  | .registerTool descriptor =>
    { registries with toolRegistry := registries.toolRegistry.set descriptor.name descriptor }
  | .unregisterTool toolName =>
    { registries with toolRegistry := registries.toolRegistry.erase toolName }
  | .registerAgent agent =>
    { registries with agentRegistry := (registries.agentRegistry.register agent).2 }
  | .unregisterAgent agentId =>
    { registries with agentRegistry := (registries.agentRegistry.unregister agentId).2 }

/-- A call of `get_or_create`, or a use of what it has answered: `use tenantId k op` is for the
answer to the call of the tenant that had `k` others of the same tenant before it. -/
inductive ContextCall (η : Type)
  | getOrCreate (clock : Readings) (tenantId : String)
  | use (tenantId : String) (k : Nat) (op : RegistryOp η)

/-! ## With the cache -/

/-- The contexts of a tenant: those that were built for it, and which of them it was answered. -/
structure TenantContexts (η : Type) where
  built : List (Registries η) := []
  answers : List Nat := []

/-- The factory, and the contexts of each tenant. -/
structure ContextHeap (η : Type) where
  factory : TenantRuntimeFactory
  tenants : String → TenantContexts η

namespace ContextHeap

variable {η : Type}

/-- Nothing is cached. -/
def initial : ContextHeap η := ⟨.initial, fun _ ↦ {}⟩

variable (settings : RuntimeSettings)

/-- The caches when `get_or_create` looks for the context. -/
def afterEviction (clock : Readings) (tenantId : String) (s : ContextHeap η) :
    TenantRuntimeFactory :=
  (s.factory.evictIdleSessionsOnly settings clock.evict).evictTenantContextsOverCapacity settings
    tenantId

/-- The contexts of the tenant when `get_or_create` has found one, or built one. -/
def contextsAfter (clock : Readings) (tenantId : String) (s : ContextHeap η) : TenantContexts η :=
  let contexts := s.tenants tenantId
  let built :=
    if tenantId ∈ (s.afterEviction settings clock tenantId).contexts.keys then contexts.built
    else contexts.built ++ [.fresh]
  { built, answers := contexts.answers ++ [built.length - 1] }

/-- One call.  The registries that are answered are those of the last context that was built for the
tenant. -/
def step (s : ContextHeap η) : ContextCall η → Option (Registries η) × ContextHeap η
  | .getOrCreate clock tenantId =>
    let contexts := s.contextsAfter settings clock tenantId
    (contexts.built.getLast?,
      { factory := (s.factory.getOrCreate settings clock tenantId).2
        tenants := Function.update s.tenants tenantId contexts })
  | .use tenantId k op =>
    let contexts := s.tenants tenantId
    match contexts.answers[k]? with
    | none => (none, s)
    | some j =>
      let contexts := { contexts with built := contexts.built.modify j op.apply }
      (none, { s with tenants := Function.update s.tenants tenantId contexts })

end ContextHeap

/-! ## Without it -/

/-- What a tenant has registered and not removed, and how often it has asked. -/
structure Account (η : Type) where
  opened : Nat := 0
  registered : Registries η := .fresh

/-- The accounts of all tenants. -/
abbrev Ledger (η : Type) := String → Account η

namespace Ledger

variable {η : Type}

/-- One call, if nothing were ever evicted. -/
def step (l : Ledger η) : ContextCall η → Option (Registries η) × Ledger η
  | .getOrCreate _ tenantId =>
    let account := l tenantId
    (some account.registered,
      Function.update l tenantId { account with opened := account.opened + 1 })
  | .use tenantId k op =>
    let account := l tenantId
    if k < account.opened then
      (none, Function.update l tenantId { account with registered := op.apply account.registered })
    else (none, l)

end Ledger

/-! ## Which contexts are cached -/

namespace TenantRuntimeFactory

variable {settings : RuntimeSettings} {s : TenantRuntimeFactory}

/-! Sessions and contexts have nothing to do with each other. -/

theorem contexts_foldl_evict (sids : List String) (s : TenantRuntimeFactory) :
    (sids.foldl evict s).contexts = s.contexts ∧
      (sids.foldl evict s).tenantLastTouch = s.tenantLastTouch := by
  induction sids generalizing s with
  | nil => exact ⟨rfl, rfl⟩
  | cons sid sids ih => exact ih (s.evict sid)

theorem contexts_evictIdle (settings : RuntimeSettings) (s : TenantRuntimeFactory) (now : Rat) :
    (s.evictIdleSessionsOnly settings now).contexts = s.contexts ∧
      (s.evictIdleSessionsOnly settings now).tenantLastTouch = s.tenantLastTouch := by
  rw [evictIdleSessionsOnly]
  split
  · exact ⟨rfl, rfl⟩
  · exact contexts_foldl_evict _ s

theorem contexts_destroy (tenantId : String) :
    (s.destroy tenantId).contexts = s.contexts.erase tenantId := by
  rw [destroy, (contexts_foldl_evict _ s).1]

/-! ### The victim -/

theorem leastTouched_congr {s' : TenantRuntimeFactory} (h : s'.tenantLastTouch = s.tenantLastTouch)
    (tids : List String) : s'.leastTouched tids = s.leastTouched tids := by
  induction tids with
  | nil => rfl
  | cons tid tids ih => rw [leastTouched, leastTouched, ih, h]

theorem leastTouched_mem {tids : List String} {victim : String}
    (h : s.leastTouched tids = some victim) : victim ∈ tids := by
  induction tids generalizing victim with
  | nil => cases h
  | cons tid tids ih =>
    rw [leastTouched] at h
    cases hrest : s.leastTouched tids with
    | none =>
      rw [hrest] at h
      obtain rfl := Option.some.inj h
      exact List.mem_cons_self
    | some other =>
      rw [hrest] at h
      dsimp only at h
      split at h
      · obtain rfl := Option.some.inj h
        exact List.mem_cons_of_mem tid (ih hrest)
      · obtain rfl := Option.some.inj h
        exact List.mem_cons_self

theorem exists_leastTouched {tids : List String} (h : tids ≠ []) :
    ∃ victim, s.leastTouched tids = some victim := by
  cases tids with
  | nil => exact absurd rfl h
  | cons tid tids =>
    rw [leastTouched]
    cases s.leastTouched tids with
    | none => exact ⟨tid, rfl⟩
    | some other =>
      dsimp only
      split
      · exact ⟨other, rfl⟩
      · exact ⟨tid, rfl⟩

/-- There are no more contexts than the cap allows. -/
def WithinCap (settings : RuntimeSettings) (s : TenantRuntimeFactory) : Prop :=
  0 < settings.tenantRuntimeMaxCachedContexts →
    (s.contexts.keys.length : Int) ≤ settings.tenantRuntimeMaxCachedContexts

/-- There is room for the context of a tenant, or it is there. -/
def HasRoom (settings : RuntimeSettings) (tenantId : String) (s : TenantRuntimeFactory) : Prop :=
  settings.tenantRuntimeMaxCachedContexts ≤ 0 ∨ tenantId ∈ s.contexts.keys ∨
    (s.contexts.keys.length : Int) < settings.tenantRuntimeMaxCachedContexts

instance (tenantId : String) : Decidable (s.HasRoom settings tenantId) :=
  inferInstanceAs (Decidable (_ ∨ _))

theorem destroyUntilUnder_of_lt {cap : Int} (h : (s.contexts.keys.length : Int) < cap) (turns : Nat) :
    destroyUntilUnder cap turns s = s := by
  cases turns with
  | zero => rfl
  | succ turns => rw [destroyUntilUnder, if_neg (not_le.mpr h)]

/-- Where there is room nothing is evicted. -/
theorem evictTenantContexts_of_hasRoom {tenantId : String} (h : s.HasRoom settings tenantId) :
    s.evictTenantContextsOverCapacity settings tenantId = s := by
  rw [evictTenantContextsOverCapacity]
  split
  · rfl
  · rename_i hcap
    split
    · rfl
    · rename_i hmissing
      exact destroyUntilUnder_of_lt ((h.resolve_left hcap).resolve_left hmissing) _

/-- Where there is none, one context makes room. -/
theorem evictTenantContexts_of_not_hasRoom {tenantId : String} (hwithin : s.WithinCap settings)
    (h : ¬s.HasRoom settings tenantId) :
    ∃ victim, s.leastTouched s.contexts.keys = some victim ∧
      s.evictTenantContextsOverCapacity settings tenantId = s.destroy victim := by
  rw [HasRoom, not_or, not_or, not_le, not_lt] at h
  obtain ⟨hcap, hmissing, hfull⟩ := h
  have hlength : (s.contexts.keys.length : Int) = settings.tenantRuntimeMaxCachedContexts :=
    le_antisymm (hwithin hcap) hfull
  have hne : s.contexts.keys ≠ [] := by
    intro hnil
    rw [hnil, List.length_nil] at hlength
    omega
  obtain ⟨victim, hvictim⟩ := exists_leastTouched (s := s) hne
  refine ⟨victim, hvictim, ?_⟩
  have herased := Dict.length_keys_erase (leastTouched_mem hvictim)
  rw [evictTenantContextsOverCapacity]
  simp only [if_neg (not_le.mpr hcap), if_neg hmissing]
  rw [← herased, destroyUntilUnder, if_pos hfull, hvictim]
  exact destroyUntilUnder_of_lt (by rw [contexts_destroy]; omega) _

/-- Whose context makes room for that of a tenant, if there is none. -/
def evictedFor (settings : RuntimeSettings) (tenantId : String) (s : TenantRuntimeFactory) :
    Option String :=
  if s.HasRoom settings tenantId then none else s.leastTouched s.contexts.keys

theorem evictedFor_mem {tenantId victim : String}
    (h : s.evictedFor settings tenantId = some victim) :
    victim ∈ s.contexts.keys ∧ tenantId ∉ s.contexts.keys := by
  rw [evictedFor] at h
  split_ifs at h with hroom
  rw [HasRoom, not_or, not_or] at hroom
  exact ⟨leastTouched_mem h, hroom.2.1⟩

theorem mem_evictTenantContexts {tenantId : String} (hwithin : s.WithinCap settings) (tid : String) :
    tid ∈ (s.evictTenantContextsOverCapacity settings tenantId).contexts.keys ↔
      tid ∈ s.contexts.keys ∧ s.evictedFor settings tenantId ≠ some tid := by
  by_cases hroom : s.HasRoom settings tenantId
  · rw [evictTenantContexts_of_hasRoom hroom, evictedFor, if_pos hroom]
    simp
  · obtain ⟨victim, hvictim, hevicted⟩ := evictTenantContexts_of_not_hasRoom hwithin hroom
    rw [hevicted, contexts_destroy, Dict.mem_keys_erase, evictedFor, if_neg hroom, hvictim,
      and_comm, Ne, Ne, Option.some.injEq, eq_comm]

/-- Whether the sessions are evicted first does not matter. -/
theorem evictedFor_evictIdle (now : Rat) (tenantId : String) :
    (s.evictIdleSessionsOnly settings now).evictedFor settings tenantId =
      s.evictedFor settings tenantId := by
  obtain ⟨hcontexts, htouch⟩ := contexts_evictIdle settings s now
  have hroom : (s.evictIdleSessionsOnly settings now).HasRoom settings tenantId ↔
      s.HasRoom settings tenantId := by rw [HasRoom, HasRoom, hcontexts]
  rw [evictedFor, evictedFor, hcontexts, leastTouched_congr htouch]
  exact if_congr hroom rfl rfl

theorem WithinCap.evictIdle (h : s.WithinCap settings) (now : Rat) :
    (s.evictIdleSessionsOnly settings now).WithinCap settings := by
  rw [WithinCap, (contexts_evictIdle settings s now).1]
  exact h

/-- **Who is cached after `get_or_create`.** -/
theorem mem_getOrCreate (hwithin : s.WithinCap settings) (clock : Readings) (tenantId tid : String) :
    tid ∈ (s.getOrCreate settings clock tenantId).2.contexts.keys ↔
      tid = tenantId ∨ tid ∈ s.contexts.keys ∧ s.evictedFor settings tenantId ≠ some tid := by
  rw [getOrCreate, Dict.mem_keys_set, mem_evictTenantContexts (hwithin.evictIdle clock.evict),
    evictedFor_evictIdle, (contexts_evictIdle settings _ clock.evict).1]

theorem WithinCap.getOrCreate (h : s.WithinCap settings) (clock : Readings) (tenantId : String) :
    (s.getOrCreate settings clock tenantId).2.WithinCap settings := by
  intro hcap
  have hidle := h.evictIdle clock.evict
  have hlength := hidle hcap
  rw [TenantRuntimeFactory.getOrCreate, Dict.length_keys_set]
  by_cases hroom : (s.evictIdleSessionsOnly settings clock.evict).HasRoom settings tenantId
  · rw [evictTenantContexts_of_hasRoom hroom]
    split
    · exact hlength
    · rename_i hmissing
      have hlt := (hroom.resolve_left (not_le.mpr hcap)).resolve_left hmissing
      omega
  · obtain ⟨victim, hvictim, hevicted⟩ := evictTenantContexts_of_not_hasRoom hidle hroom
    have herased := Dict.length_keys_erase (leastTouched_mem hvictim)
    rw [hevicted, contexts_destroy]
    split <;> omega

end TenantRuntimeFactory

/-! ## What is answered -/

namespace ContextHeap

open TenantRuntimeFactory

variable {η : Type} {settings : RuntimeSettings} {s : ContextHeap η} {l : Ledger η}

/-- The registries that are cached for a tenant; if none are, it would be answered fresh ones. -/
def current (s : ContextHeap η) (tenantId : String) : Registries η :=
  if tenantId ∈ s.factory.contexts.keys then (s.tenants tenantId).built.getLast?.getD .fresh
  else .fresh

/-- What is cached has been built, what was answered has been built, and the ledger has counted the
answers. -/
structure Linked (settings : RuntimeSettings) (s : ContextHeap η) (l : Ledger η) : Prop where
  within : s.factory.WithinCap settings
  built_ne : ∀ {tenantId}, tenantId ∈ s.factory.contexts.keys → (s.tenants tenantId).built ≠ []
  answers_lt : ∀ {tenantId j}, j ∈ (s.tenants tenantId).answers →
    j < (s.tenants tenantId).built.length
  opened_eq : ∀ tenantId, (l tenantId).opened = (s.tenants tenantId).answers.length

theorem Linked.initial : Linked settings (initial : ContextHeap η) fun _ ↦ {} where
  within _ := by
    rw [ContextHeap.initial, TenantRuntimeFactory.initial]
    change ((0 : Nat) : Int) ≤ _
    omega
  built_ne h := nomatch h
  answers_lt h := nomatch h
  opened_eq _ := rfl

/-- The call of a tenant does not evict the context of the tenant. -/
theorem mem_afterEviction (h : s.factory.WithinCap settings) (clock : Readings) (tenantId : String) :
    tenantId ∈ (s.afterEviction settings clock tenantId).contexts.keys ↔
      tenantId ∈ s.factory.contexts.keys := by
  rw [afterEviction, mem_evictTenantContexts (h.evictIdle clock.evict), evictedFor_evictIdle,
    (contexts_evictIdle settings _ clock.evict).1, and_iff_left_iff_imp]
  intro hcached hevicted
  exact (evictedFor_mem hevicted).2 hcached

theorem built_contextsAfter (h : s.factory.WithinCap settings) (clock : Readings)
    (tenantId : String) : (s.contextsAfter settings clock tenantId).built =
      if tenantId ∈ s.factory.contexts.keys then (s.tenants tenantId).built
      else (s.tenants tenantId).built ++ [.fresh] := by
  rw [contextsAfter]
  simp only [mem_afterEviction h]

theorem getLast?_contextsAfter (h : Linked settings s l) (clock : Readings) (tenantId : String) :
    (s.contextsAfter settings clock tenantId).built.getLast? = some (s.current tenantId) := by
  rw [built_contextsAfter h.within, current]
  split
  · rename_i hcached
    rw [List.getLast?_eq_some_getLast (h.built_ne hcached)]
    rfl
  · rw [List.getLast?_concat]

/-- **What `get_or_create` answers.** -/
theorem step_getOrCreate_fst (h : Linked settings s l) (clock : Readings) (tenantId : String) :
    (s.step settings (.getOrCreate clock tenantId)).1 = some (s.current tenantId) :=
  getLast?_contextsAfter h clock tenantId

/-! ## One step -/

theorem current_getOrCreate (h : Linked settings s l) (clock : Readings) (tenantId tid : String) :
    (s.step settings (.getOrCreate clock tenantId)).2.current tid =
      if s.factory.evictedFor settings tenantId = some tid then .fresh else s.current tid := by
  have hlast := getLast?_contextsAfter h clock tenantId
  rw [current]
  simp only [step, mem_getOrCreate h.within]
  by_cases htid : tid = tenantId
  · subst htid
    have hkept : s.factory.evictedFor settings tid ≠ some tid :=
      fun hevicted ↦ (evictedFor_mem hevicted).2 (evictedFor_mem hevicted).1
    rw [if_pos (.inl rfl), if_neg hkept, Function.update_self, hlast]
    rfl
  · rw [Function.update_of_ne htid, current]
    by_cases hcached : tid ∈ s.factory.contexts.keys <;>
      by_cases hevicted : s.factory.evictedFor settings tenantId = some tid <;>
        simp [htid, hcached, hevicted]

/-- Only a change of the last entry is seen at the end. -/
theorem getLast?_modify {α : Type} (f : α → α) (j : Nat) (xs : List α) :
    (xs.modify j f).getLast? = if j + 1 = xs.length then xs.getLast?.map f else xs.getLast? := by
  rw [List.getLast?_eq_getElem?, List.getLast?_eq_getElem?, List.length_modify,
    List.getElem?_modify]
  cases hlast : xs[xs.length - 1]? with
  | none => simp
  | some x =>
    have hlt : xs.length - 1 < xs.length := (List.getElem?_eq_some_iff.mp hlast).1
    have hiff : j = xs.length - 1 ↔ j + 1 = xs.length := by omega
    by_cases hj : j + 1 = xs.length <;> simp [hiff, hj]

theorem current_use (h : Linked settings s l) (tenantId : String) (k : Nat) (op : RegistryOp η) (tid : String) :
    (s.step settings (.use tenantId k op)).2.current tid =
      if tid = tenantId ∧ tenantId ∈ s.factory.contexts.keys ∧
          ∃ j ∈ (s.tenants tenantId).answers[k]?, j + 1 = (s.tenants tenantId).built.length then
        op.apply (s.current tid)
      else s.current tid := by
  rw [step]
  cases hanswer : (s.tenants tenantId).answers[k]? with
  | none => simp
  | some j =>
    rw [current, current]
    by_cases htid : tid = tenantId
    · subst htid
      by_cases hcached : tid ∈ s.factory.contexts.keys
      · have hlast := List.getLast?_eq_some_getLast (h.built_ne hcached)
        by_cases hj : j + 1 = (s.tenants tid).built.length <;>
          simp [hcached, getLast?_modify, hj, hlast]
      · simp [hcached]
    · simp [htid]

theorem Linked.step (h : Linked settings s l) (call : ContextCall η) :
    Linked settings (s.step settings call).2 (l.step call).2 := by
  cases call with
  | getOrCreate clock tenantId =>
    have hbuilt := built_contextsAfter h.within clock tenantId
    have hlast := getLast?_contextsAfter h clock tenantId
    have hne : (s.contextsAfter settings clock tenantId).built ≠ [] := by
      rintro hnil
      rw [hnil, List.getLast?_nil] at hlast
      cases hlast
    refine ⟨h.within.getOrCreate clock tenantId, fun {tid} hcached ↦ ?_, fun {tid j} hj ↦ ?_,
      fun tid ↦ ?_⟩
    · by_cases htid : tid = tenantId
      · subst htid
        simpa only [ContextHeap.step, Function.update_self] using hne
      · have hthere := (mem_getOrCreate h.within clock tenantId tid).mp hcached
        simpa [ContextHeap.step, htid] using h.built_ne (hthere.resolve_left htid).1
    · by_cases htid : tid = tenantId
      · subst htid
        simp only [ContextHeap.step, Function.update_self] at hj ⊢
        have hpos := List.length_pos_iff.mpr hne
        rcases List.mem_append.mp hj with hold | hnew
        · have hlt := h.answers_lt hold
          rw [hbuilt]
          split
          · exact hlt
          · rw [List.length_append]
            exact Nat.lt_add_right _ hlt
        · obtain rfl := List.mem_singleton.mp hnew
          exact Nat.sub_lt hpos Nat.one_pos
      · simp only [ContextHeap.step, Function.update_of_ne htid] at hj ⊢
        exact h.answers_lt hj
    · by_cases htid : tid = tenantId
      · subst htid
        simp [ContextHeap.step, Ledger.step, contextsAfter, h.opened_eq tid]
      · simp [ContextHeap.step, Ledger.step, htid, h.opened_eq tid]
  | use tenantId k op =>
    have hopened := h.opened_eq tenantId
    rw [ContextHeap.step, Ledger.step, hopened]
    cases hanswer : (s.tenants tenantId).answers[k]? with
    | none =>
      rw [if_neg (not_lt.mpr (List.getElem?_eq_none_iff.mp hanswer))]
      exact h
    | some j =>
      rw [if_pos (List.getElem?_eq_some_iff.mp hanswer).1]
      refine ⟨h.within, fun {tid} hcached ↦ ?_, fun {tid i} hi ↦ ?_, fun tid ↦ ?_⟩ <;>
        by_cases htid : tid = tenantId
      · subst htid
        simpa using h.built_ne hcached
      · simpa [htid] using h.built_ne hcached
      · subst htid
        simp only [Function.update_self, List.length_modify] at hi ⊢
        exact h.answers_lt hi
      · simp only [Function.update_of_ne htid] at hi ⊢
        exact h.answers_lt hi
      · subst htid
        simp
      · simpa [htid] using h.opened_eq tid

/-- What is registered is cached, for every tenant. -/
def Agrees (s : ContextHeap η) (l : Ledger η) : Prop :=
  ∀ tenantId, s.current tenantId = (l tenantId).registered

/-- A call loses nothing that is registered: the context that has to make room for another has
nothing in it, and the context that a tenant uses is the one that is cached for it, unless what it
does would change nothing anyway. -/
def Spares (settings : RuntimeSettings) (s : ContextHeap η) : ContextCall η → Prop
  | .getOrCreate _ tenantId =>
    ∀ victim ∈ s.factory.evictedFor settings tenantId, s.current victim = .fresh
  | .use tenantId k op =>
    ∀ j ∈ (s.tenants tenantId).answers[k]?,
      (tenantId ∈ s.factory.contexts.keys ∧ j + 1 = (s.tenants tenantId).built.length) ∨
        op.apply (s.current tenantId) = s.current tenantId

theorem agrees_step_iff (h : Linked settings s l) (hagrees : s.Agrees l) (call : ContextCall η) :
    (s.step settings call).2.Agrees (l.step call).2 ↔ s.Spares settings call := by
  cases call with
  | getOrCreate clock tenantId =>
    have hregistered (tid : String) :
        ((l.step (.getOrCreate clock tenantId)).2 tid).registered = s.current tid := by
      rw [hagrees tid]
      by_cases htid : tid = tenantId
      · subst htid
        simp [Ledger.step]
      · simp [Ledger.step, htid]
    simp only [Agrees, hregistered, current_getOrCreate h, Spares, Option.mem_def]
    refine forall_congr' fun tid ↦ ?_
    by_cases hevicted : s.factory.evictedFor settings tenantId = some tid
    · simp [hevicted, eq_comm]
    · simp [hevicted]
  | use tenantId k op =>
    have hregistered (tid : String) : ((l.step (.use tenantId k op)).2 tid).registered =
        if tid = tenantId ∧ k < (s.tenants tenantId).answers.length then op.apply (s.current tid)
        else s.current tid := by
      rw [Ledger.step, h.opened_eq tenantId, hagrees tid]
      by_cases hk : k < (s.tenants tenantId).answers.length <;> by_cases htid : tid = tenantId
      · subst htid
        simp [hk]
      · simp [hk, htid]
      · simp [hk]
      · simp [hk]
    simp only [Agrees, hregistered, current_use h, Spares]
    cases hanswer : (s.tenants tenantId).answers[k]? with
    | none =>
      simp [not_lt.mpr (List.getElem?_eq_none_iff.mp hanswer)]
    | some j =>
      have hk := (List.getElem?_eq_some_iff.mp hanswer).1
      simp only [hk, and_true, Option.mem_some_iff, exists_eq_left', forall_eq']
      constructor
      · intro hsame
        have hown := hsame tenantId
        rw [if_pos rfl] at hown
        by_cases hcurrent : tenantId ∈ s.factory.contexts.keys ∧
            j + 1 = (s.tenants tenantId).built.length
        · exact .inl hcurrent
        · rw [if_neg (fun hboth ↦ hcurrent hboth.2)] at hown
          exact .inr hown.symm
      · intro hspares tid
        by_cases htid : tid = tenantId
        · subst htid
          rcases hspares with hcurrent | hnothing
          · simp [hcurrent]
          · simp [hnothing]
        · simp [htid]

end ContextHeap

open ContextHeap in
/-- **The cache of contexts is transparent exactly as long as it loses nothing.**  For every cap and
every sequence of calls: after each of its prefixes, `get_or_create` answers every tenant the
registries it has filled and not emptied again, however many other tenants have been there, exactly
if every call of the sequence spares what is registered. -/
theorem contexts_transparent_iff {η : Type} (settings : RuntimeSettings)
    (calls : List (ContextCall η)) :
    (∀ done, done <+: calls → ∀ clock tenantId,
      (step settings (Run.exec (step settings) initial done) (.getOrCreate clock tenantId)).1 =
        some (Run.exec Ledger.step (fun _ ↦ {}) done tenantId).registered) ↔
      Run.Along (step settings) (Spares settings) initial calls := by
  have hlinked (done : List (ContextCall η)) : Linked settings
      (Run.exec (step settings) initial done) (Run.exec Ledger.step (fun _ ↦ {}) done) :=
    Run.exec_rel (R := Linked settings) (fun _ _ call h ↦ h.step call) Linked.initial done
  rw [← Run.forall_exec_rel_iff_along (P := Linked settings) (R := Agrees)
    (fun _ _ call h ↦ h.step call) (fun _ _ call h hagrees ↦ agrees_step_iff h hagrees call)
    Linked.initial (fun _ ↦ ite_self _)]
  refine forall₂_congr fun done _ ↦ ?_
  constructor
  · intro h tenantId
    have hanswer := h ⟨0, 0⟩ tenantId
    rw [step_getOrCreate_fst (hlinked done)] at hanswer
    exact Option.some.inj hanswer
  · intro hagrees clock tenantId
    rw [step_getOrCreate_fst (hlinked done), hagrees tenantId]

open ContextHeap in
/-- One context may be cached.  A tenant gets its context and registers a tool, another tenant gets
its context, and the first one is answered an empty registry. -/
theorem tool_lost_to_other_tenant :
    let settings : RuntimeSettings := { tenantRuntimeMaxCachedContexts := 1 }
    let calls : List (ContextCall Unit) :=
      [.getOrCreate ⟨0, 0⟩ "acme", .use "acme" 0 (.registerTool { name := "greet", handler := () }),
        .getOrCreate ⟨1, 1⟩ "globex"]
    let answer := (step settings (Run.exec (step settings) initial calls)
      (.getOrCreate ⟨2, 2⟩ "acme")).1
    answer.map (fun registries ↦ registries.toolRegistry.keys) = some [] ∧
      (Run.exec Ledger.step (fun _ ↦ {}) calls "acme").registered.toolRegistry.keys = ["greet"] := by
  decide +kernel

end Runtime
end ExoBrain
