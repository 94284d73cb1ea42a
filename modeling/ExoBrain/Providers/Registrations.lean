import ExoBrain.Providers.Management

/-!
# Overlapping registrations

`register_provider` asks whether a provider is registered, awaits the health check, registers the
provider, and awaits the store.  Whatever another call does while it waits, it goes on: it registers
over what has been registered since (`Overwrites`), and what it has registered stays if the store
fails (`Strands`).

* `OneSucceeds` and `LeavesNothing` are what registration is meant to be: of the calls for one
  provider one succeeds, until somebody unregisters it; and a call that raises has changed nothing.
  `replayOthers` is the registry with the changes of the other calls alone.
* `registers_apart` is what a run without overwriting keeps, `Accounts` what a call keeps until it
  strands something; `along_of_leaves_nothing` is the way back.
* `registrations_consistent` is what holds, and `registrations_not_consistent` has a run of two
  calls that both succeed, and one of a call that raises and leaves its provider registered.
-/

set_option autoImplicit false

namespace ExoBrain
namespace Providers

open ProviderManagementService ProviderRegistry

/-! ## What registration is meant to be -/

/-- The step registers `p`. -/
def Registers (p : String) (x : ProviderEvent × ProviderNotice) : Prop :=
  ∃ record adapter, x.2.write = some (.register record adapter) ∧ record.providerId = p

/-- The step unregisters `p`. -/
def Unregisters (p : String) (x : ProviderEvent × ProviderNotice) : Prop :=
  x.2.write = some (.unregister p)

instance (p : String) (x : ProviderEvent × ProviderNotice) : Decidable (Unregisters p x) :=
  inferInstanceAs (Decidable (_ = _))

/-- Call `n` has registered `p`, and returned. -/
def Succeeded (n : Nat) (p : String) (s : ProviderState) : Prop :=
  ∃ a record, s.calls.get? n = some ⟨.register a, .returned record⟩ ∧ a.providerId = p

/-- Between the registrations of two calls for one provider that both succeed, it is
unregistered. -/
def OneSucceeds (trace : List (ProviderEvent × ProviderNotice)) (s : ProviderState) : Prop :=
  ∀ n m p, n ≠ m → Succeeded n p s → Succeeded m p s →
    ∃ before x between y after, trace = before ++ x :: between ++ y :: after ∧
      (x.1.number = n ∧ y.1.number = m ∨ x.1.number = m ∧ y.1.number = n) ∧
      Registers p x ∧ Registers p y ∧ ∃ z ∈ between, Unregisters p z

/-- The registry after what the calls other than `n` have written. -/
def replayOthers (n : Nat) (trace : List (ProviderEvent × ProviderNotice)) (r : ProviderRegistry) :
    ProviderRegistry :=
  trace.foldl (fun r x ↦ if x.1.number = n then r else x.2.effect r) r

/-- Once a call has raised, the registry is what it was when the call began, but for the changes of
the others. -/
def LeavesNothing (S : ProviderManagementService) (s : ProviderState)
    (events : List ProviderEvent) : Prop :=
  ∀ before n a during error, before ++ .call n (.register a) :: during <+: events →
    n ∉ (Run.exec S.step s before).calls.keys →
    (Run.exec S.step s (before ++ .call n (.register a) :: during)).calls.get? n =
      some ⟨.register a, .raised error⟩ →
    Alike (Run.exec S.step s (before ++ .call n (.register a) :: during)).registry
      (replayOthers n
        (Run.trace S.step (Run.exec S.step s before) (.call n (.register a) :: during))
        (Run.exec S.step s before).registry)

/-! ## What goes wrong -/

/-- The health check of a call comes back good, and the provider is registered by then. -/
def Overwrites (S : ProviderManagementService) (s : ProviderState) (e : ProviderEvent) : Prop :=
  match e with
  | .resume n (.health status) =>
    match s.calls.get? n with
    | some ⟨.register a, .checkingHealth _⟩ =>
      status.healthy = true ∧ (S.parseApiType a.apiType).isOk = true ∧
        a.providerId ∈ s.registry.providers.keys
    | _ => False
  | _ => False

/-- The store raises when a call saves its provider, and the adapter that the call has loaded is
still the one of that provider. -/
def Strands (s : ProviderState) (e : ProviderEvent) : Prop :=
  match e with
  | .resume n (.raised _ _) =>
    match s.calls.get? n with
    | some ⟨.register a, .saving _⟩ => s.registry.adapters.get? a.providerId = some (.loaded n)
    | _ => False
  | _ => False

instance (S : ProviderManagementService) (s : ProviderState) (e : ProviderEvent) :
    Decidable (Overwrites S s e) := by
  unfold Overwrites
  split <;> try split
  all_goals infer_instance

instance (s : ProviderState) (e : ProviderEvent) : Decidable (Strands s e) := by
  unfold Strands
  split <;> try split
  all_goals infer_instance

/-! ## One call succeeds -/

section OneSucceeds

variable {S : ProviderManagementService} {s : ProviderState} {e : ProviderEvent} {p : String}

/-- Registering a provider that is registered is to overwrite it. -/
theorem overwrites_of_registers (h : Registers p (e, (S.step s e).1))
    (hp : p ∈ s.registry.providers.keys) : Overwrites S s e := by
  obtain ⟨record, adapter, hwrite, rfl⟩ := h
  obtain ⟨n, a, canonicalRef, status, rfl, -, hc, hchecked⟩ := step_registers hwrite
  obtain ⟨hhealthy, hparse, hid⟩ := providerId_of_registerChecked hchecked
  rw [hid] at hp
  simp only [Overwrites, hc]
  exact ⟨hhealthy, hparse, hp⟩

/-- A provider stays registered until it is unregistered. -/
theorem mem_keys_step (hp : p ∈ s.registry.providers.keys)
    (hkept : ¬Unregisters p (e, (S.step s e).1)) :
    p ∈ (S.step s e).2.registry.providers.keys := by
  rw [registry_step, ProviderNotice.effect]
  cases hwrite : (S.step s e).1.write with
  | none => exact hp
  | some write =>
    cases write with
    | register record adapter => exact Dict.mem_keys_set.mpr (.inr hp)
    | unregister q =>
      refine Dict.mem_keys_erase.mpr ⟨fun hpq ↦ hkept ?_, hp⟩
      rw [Unregisters, hwrite, hpq]

theorem mem_keys_exec {events : List ProviderEvent} (hp : p ∈ s.registry.providers.keys)
    (hkept : ∀ z ∈ Run.trace S.step s events, ¬Unregisters p z) :
    p ∈ (Run.exec S.step s events).registry.providers.keys := by
  induction events generalizing s with
  | nil => exact hp
  | cons e events ih =>
    exact ih (mem_keys_step hp (hkept _ List.mem_cons_self)) fun z hz ↦
      hkept z (List.mem_cons_of_mem _ hz)

/-- **Registrations of one provider are apart** where none overwrites another: in between the
provider is unregistered. -/
theorem registers_apart {events : List ProviderEvent}
    (h : Run.Along S.step (fun s e ↦ ¬Overwrites S s e) s events)
    {before between after : List (ProviderEvent × ProviderNotice)}
    {x y : ProviderEvent × ProviderNotice}
    (htrace : Run.trace S.step s events = before ++ x :: between ++ y :: after)
    (hx : Registers p x) (hy : Registers p y) : ∃ z ∈ between, Unregisters p z := by
  by_contra hnone
  push Not at hnone
  rw [List.append_assoc, List.cons_append] at htrace
  obtain ⟨js, i, ks, rfl, -, rfl, hrest⟩ := Run.trace_eq_append_cons htrace
  obtain ⟨js', i', ks', rfl, rfl, rfl, -⟩ := Run.trace_eq_append_cons hrest.symm
  have hregistered : p ∈ (S.step (Run.exec S.step s js) i).2.registry.providers.keys := by
    obtain ⟨record, adapter, hwrite, rfl⟩ := hx
    rw [registry_step, ProviderNotice.effect, hwrite]
    exact Dict.mem_keys_set.mpr (.inl rfl)
  have hkept := mem_keys_exec hregistered hnone
  have hallowed := (Run.along_append.mp (Run.along_append.mp h).2.2).2.1
  exact hallowed (overwrites_of_registers hy hkept)

/-- A call of `register_provider` that is past its health check, and has not raised, has registered
its provider. -/
def HasRegistered (trace : List (ProviderEvent × ProviderNotice)) (s : ProviderState) : Prop :=
  ∀ n a phase, s.calls.get? n = some ⟨.register a, phase⟩ →
    (∀ canonicalRef, phase ≠ .checkingHealth canonicalRef) → (∀ error, phase ≠ .raised error) →
    ∃ x ∈ trace, x.1.number = n ∧ Registers a.providerId x

theorem HasRegistered.step {trace : List (ProviderEvent × ProviderNotice)}
    (h : HasRegistered trace s) (e : ProviderEvent) :
    HasRegistered (trace ++ [(e, (S.step s e).1)]) (S.step s e).2 := by
  have hbefore : ∀ {n a phase}, s.calls.get? n = some ⟨.register a, phase⟩ →
      (∀ canonicalRef, phase ≠ .checkingHealth canonicalRef) → (∀ error, phase ≠ .raised error) →
      ∃ x ∈ trace ++ [(e, (S.step s e).1)], x.1.number = n ∧ Registers a.providerId x := by
    intro n a phase hc hchecked hraised
    obtain ⟨x, hx, hspec⟩ := h n a phase hc hchecked hraised
    exact ⟨x, List.mem_append_left _ hx, hspec⟩
  intro n a phase hc hchecked hraised
  rcases register_call_step hc with hc' | ⟨-, -, hbegin⟩ | ⟨arrival, before, hn, hc', hturn⟩
  · exact hbefore hc' hchecked hraised
  · rcases S.registerBegin_cases a s.registry with ⟨canonicalRef, h⟩ | ⟨error, h⟩
    · exact absurd (hbegin.trans h) (hchecked canonicalRef)
    · exact absurd (hbegin.trans h) (hraised error)
  · generalize hwrite : (S.step s e).1.write = write at hturn
    cases hturn with
    | registers hok =>
      refine ⟨_, List.mem_append_right _ (List.mem_singleton_self _), hn, _, _, hwrite, ?_⟩
      exact (providerId_of_registerChecked hok).2.2
    | returns record => exact hbefore hc' nofun nofun
    | fails _ _ error => exact absurd rfl (hraised error)
    | strands => exact absurd rfl (hraised _)

theorem hasRegistered_exec (registry : ProviderRegistry)
    (store : Dict String PersistedProviderRecord) (events : List ProviderEvent) :
    HasRegistered (Run.trace S.step ⟨registry, store, Dict.empty⟩ events)
      (Run.exec S.step ⟨registry, store, Dict.empty⟩ events) := by
  have hstart : HasRegistered [] ⟨registry, store, Dict.empty⟩ := fun n a phase hc ↦ (nomatch hc)
  exact Run.trace_invariant (fun _ _ e (_ : True) h ↦ h.step e)
    (Run.along_of_forall (fun _ _ ↦ trivial) _ _) hstart

/-- Two members of a list are one after the other. -/
theorem exists_split {α : Type} {x y : α} {l : List α} (hx : x ∈ l) (hy : y ∈ l) (hne : x ≠ y) :
    (∃ a b c, l = a ++ x :: b ++ y :: c) ∨ ∃ a b c, l = a ++ y :: b ++ x :: c := by
  obtain ⟨a, c, rfl⟩ := List.append_of_mem hx
  rcases List.mem_append.mp hy with hy | hy
  · obtain ⟨a', b, rfl⟩ := List.append_of_mem hy
    exact .inr ⟨a', b, c, rfl⟩
  · rcases List.mem_cons.mp hy with rfl | hy
    · exact absurd rfl hne
    · obtain ⟨b, c', rfl⟩ := List.append_of_mem hy
      exact .inl ⟨a, b, c', by simp⟩

/-- **One call succeeds** in every run in which no call overwrites a registration. -/
theorem one_succeeds {registry : ProviderRegistry} {store : Dict String PersistedProviderRecord}
    {events : List ProviderEvent}
    (h : Run.Along S.step (fun s e ↦ ¬Overwrites S s e) ⟨registry, store, Dict.empty⟩ events) :
    OneSucceeds (Run.trace S.step ⟨registry, store, Dict.empty⟩ events)
      (Run.exec S.step ⟨registry, store, Dict.empty⟩ events) := by
  rintro n m p hne ⟨a, _, hn, rfl⟩ ⟨a', _, hm, hid⟩
  have hregistered := hasRegistered_exec (S := S) registry store events
  obtain ⟨x, hx, hxn, hxp⟩ := hregistered n a _ hn nofun nofun
  obtain ⟨y, hy, hym, hyp⟩ := hregistered m a' _ hm nofun nofun
  rw [hid] at hyp
  have hxy : x ≠ y := fun hxy ↦ hne (hxn.symm.trans ((congrArg (·.1.number) hxy).trans hym))
  rcases exists_split hx hy hxy with ⟨before, between, after, hsplit⟩ |
    ⟨before, between, after, hsplit⟩
  · exact ⟨before, x, between, y, after, hsplit, .inl ⟨hxn, hym⟩, hxp, hyp,
      registers_apart h hsplit hxp hyp⟩
  · exact ⟨before, y, between, x, after, hsplit, .inr ⟨hym, hxn⟩, hyp, hxp,
      registers_apart h hsplit hyp hxp⟩

end OneSucceeds

/-! ## A call that raises has changed nothing -/

section LeavesNothing

variable {S : ProviderManagementService} {n : Nat} {a : RegisterProvider} {s : ProviderState}
  {e : ProviderEvent} {others : ProviderRegistry}

theorem replayOthers_append (n : Nat) (trace : List (ProviderEvent × ProviderNotice))
    (x : ProviderEvent × ProviderNotice) (r : ProviderRegistry) :
    replayOthers n (trace ++ [x]) r =
      if x.1.number = n then replayOthers n trace r else x.2.effect (replayOthers n trace r) := by
  rw [replayOthers, List.foldl_append]
  rfl

/-- The registry has the provider of call `n` as that call has registered it, and is like `others`
elsewhere. -/
structure Owns (n : Nat) (a : RegisterProvider) (r others : ProviderRegistry) : Prop where
  own : r.adapters.get? a.providerId = some (.loaded n)
  elsewhere : ∀ p, p ≠ a.providerId → r.lookup p = others.lookup p

/-- The registry is like that of the others, or call `n` has registered its provider and has not
raised. -/
def Accounts (n : Nat) (a : RegisterProvider) (s : ProviderState) (others : ProviderRegistry) :
    Prop :=
  ∃ phase, s.calls.get? n = some ⟨.register a, phase⟩ ∧ (Alike s.registry others ∨
    Owns n a s.registry others ∧
      ∃ record, phase = .saving record ∨ phase = .returned (some record))

/-- What another call writes. -/
theorem Owns.apply {r : ProviderRegistry} (h : Owns n a r others) (write : RegistryWrite) :
    Alike (r.apply write) (others.apply write) ∨ Owns n a (r.apply write) (others.apply write) := by
  by_cases hp : write.providerId = a.providerId
  · refine .inl fun p ↦ ?_
    rw [lookup_apply, lookup_apply write others]
    split
    · rfl
    · rename_i hne
      exact h.elsewhere p (hp ▸ hne)
  · refine .inr ⟨?_, fun p hne ↦ ?_⟩
    · have hlookup := congrArg Prod.snd (lookup_apply write r a.providerId)
      rw [if_neg (Ne.symm hp)] at hlookup
      exact hlookup.trans h.own
    · rw [lookup_apply, lookup_apply write others, h.elsewhere p hne]

/-- Where the call does not strand what it has registered, its accounts are kept. -/
theorem Accounts.step (h : Accounts n a s others) (hkept : ¬Strands s e) :
    Accounts n a (S.step s e).2
      (if e.number = n then others else (S.step s e).1.effect others) := by
  obtain ⟨phase, hc, hregistry⟩ := h
  by_cases hn : e.number = n
  · rw [if_pos hn]
    rcases step_own (S := S) hc hn with hnone | ⟨arrival, next, rfl, hturn, hc'⟩
    · rw [hnone]
      exact ⟨phase, hc, hregistry⟩
    · refine ⟨next, hc', ?_⟩
      rw [registry_step, ProviderNotice.effect]
      generalize (S.step s (.resume n arrival)).1.write = write at hturn ⊢
      cases hturn with
      | registers hchecked =>
        obtain ⟨-, -, hid⟩ := providerId_of_registerChecked hchecked
        have halike : Alike s.registry others := by
          rcases hregistry with halike | ⟨-, _, hphase | hphase⟩
          · exact halike
          · exact nomatch hphase
          · exact nomatch hphase
        refine .inr ⟨⟨?_, fun p hne ↦ ?_⟩, _, .inl rfl⟩
        · simp only [apply, register]
          rw [Dict.get?_set, hid, if_pos rfl]
        · rw [lookup_apply, RegistryWrite.providerId, hid, if_neg hne]
          exact halike p
      | returns record => exact hregistry.imp_right fun h ↦ ⟨h.1, record, .inr rfl⟩
      | fails canonicalRef _ error =>
        rcases hregistry with halike | ⟨-, _, hphase | hphase⟩
        · exact .inl halike
        · exact nomatch hphase
        · exact nomatch hphase
      | strands record message written =>
        rcases hregistry with halike | ⟨howns, -⟩
        · exact .inl halike
        · refine absurd ?_ hkept
          simp only [Strands, hc]
          exact howns.own
  · rw [if_neg hn]
    refine ⟨phase, (get?_calls_step hn).trans hc, ?_⟩
    rw [registry_step, ProviderNotice.effect, ProviderNotice.effect]
    cases (S.step s e).1.write with
    | none => exact hregistry
    | some write =>
      rcases hregistry with halike | ⟨howns, hphase⟩
      · exact .inl (halike.apply write)
      · exact (howns.apply write).imp_right fun h ↦ ⟨h, hphase⟩

/-- A call that begins has written nothing. -/
theorem accounts_call (hn : n ∉ s.calls.keys) :
    Accounts n a (S.step s (.call n (.register a))).2 s.registry := by
  refine ⟨S.beginPhase (.register a) s.registry, ?_, .inl ?_⟩
  · rw [step, if_neg hn, Dict.get?_setDefault, if_pos rfl, Dict.get?_eq_none_iff.mpr hn]
    rfl
  · rw [step, if_neg hn]
    exact Alike.refl _

/-- **A call that raises has changed nothing** in every run in which no call strands what it has
registered. -/
theorem leaves_nothing {events : List ProviderEvent}
    (h : Run.Along S.step (fun s e ↦ ¬Strands s e) s events) : LeavesNothing S s events := by
  intro before n a during error hprefix hn hraised
  obtain ⟨rest, rfl⟩ := hprefix
  have hduring := (Run.along_append.mp (Run.along_append.mp h).1).2.2
  rw [Run.exec_append] at hraised ⊢
  generalize Run.exec S.step s before = s₀ at hn hraised hduring ⊢
  have hbegun : Accounts n a (S.step s₀ (.call n (.register a))).2
      (replayOthers n [(.call n (.register a), (S.step s₀ (.call n (.register a))).1)]
        s₀.registry) := by
    simp only [replayOthers, List.foldl_cons, ProviderEvent.number, if_true, List.foldl_nil]
    exact accounts_call hn
  obtain ⟨phase, hc, hregistry⟩ := Run.trace_invariant
    (P := fun trace s' ↦ Accounts n a s' (replayOthers n trace s₀.registry))
    (fun trace s' e hkept haccounts ↦ by
      rw [replayOthers_append]
      exact haccounts.step hkept) hduring hbegun
  obtain ⟨-, rfl⟩ := ProviderCall.mk.inj (Option.some.inj (hc.symm.trans hraised))
  rcases hregistry with halike | ⟨-, _, hphase | hphase⟩
  · exact halike
  · exact nomatch hphase
  · exact nomatch hphase

/-! ## A call that strands what it has registered -/

/-- The adapter of a provider after a step was there before, or the step has written it. -/
theorem adapters_effect {x : ProviderNotice} {r : ProviderRegistry} {p : String}
    {adapter : RuntimeAdapter} (h : (x.effect r).adapters.get? p = some adapter) :
    r.adapters.get? p = some adapter ∨ ∃ record, x.write = some (.register record adapter) := by
  rw [ProviderNotice.effect] at h
  cases hwrite : x.write with
  | none =>
    rw [hwrite] at h
    exact .inl h
  | some write =>
    rw [hwrite] at h
    cases write with
    | register record adapter' =>
      simp only [ProviderRegistry.apply, register, Dict.get?_set] at h
      split at h
      · rw [Option.some.inj h]
        exact .inr ⟨record, rfl⟩
      · exact .inl h
    | unregister q => exact .inl (Dict.get?_of_erase h)

/-- The adapters that were loaded were loaded by calls. -/
def LoadedByCalls (s : ProviderState) : Prop :=
  ∀ p m, s.registry.adapters.get? p = some (.loaded m) → m ∈ s.calls.keys

theorem LoadedByCalls.step (h : LoadedByCalls s) (e : ProviderEvent) :
    LoadedByCalls (S.step s e).2 := by
  intro p m hp
  rw [registry_step] at hp
  rcases adapters_effect hp with hp | ⟨record, hwrite⟩
  · exact mem_keys_calls_step (h p m hp)
  · obtain ⟨k, b, canonicalRef, status, -, hadapter, hc, -⟩ := step_registers hwrite
    obtain rfl := RuntimeAdapter.loaded.inj hadapter
    exact mem_keys_calls_step (Dict.mem_keys_iff.mpr ⟨_, hc⟩)

/-- What the others have written has no adapter of call `n`. -/
theorem replayOthers_ne_loaded {r : ProviderRegistry}
    (hr : ∀ p, r.adapters.get? p ≠ some (.loaded n)) (events : List ProviderEvent) (p : String) :
    (replayOthers n (Run.trace S.step s events) r).adapters.get? p ≠ some (.loaded n) := by
  induction events generalizing s r with
  | nil => exact hr p
  | cons e events ih =>
    rw [Run.trace, replayOthers, List.foldl_cons]
    refine ih fun q hq ↦ ?_
    dsimp only at hq
    split at hq
    · exact hr q hq
    · rename_i hn
      rcases adapters_effect hq with hq | ⟨record, hwrite⟩
      · exact hr q hq
      · obtain ⟨k, b, canonicalRef, status, rfl, hadapter, -⟩ := step_registers hwrite
        exact hn (RuntimeAdapter.loaded.inj hadapter).symm

/-- A call that is there has begun at some time. -/
theorem exists_call {events : List ProviderEvent} {phase : CallPhase} (hnew : n ∉ s.calls.keys)
    (hc : (Run.exec S.step s events).calls.get? n = some ⟨.register a, phase⟩) :
    ∃ before during, events = before ++ .call n (.register a) :: during ∧
      n ∉ (Run.exec S.step s before).calls.keys := by
  induction events using List.reverseRecOn generalizing phase with
  | nil => exact absurd (Dict.mem_keys_iff.mpr ⟨_, hc⟩) hnew
  | append_singleton events e ih =>
    rw [Run.exec_append] at hc
    have hextend : ∀ {phase}, (Run.exec S.step s events).calls.get? n = some ⟨.register a, phase⟩ →
        ∃ before during, events ++ [e] = before ++ .call n (.register a) :: during ∧
          n ∉ (Run.exec S.step s before).calls.keys := by
      intro phase hc'
      obtain ⟨before, during, rfl, hn⟩ := ih hc'
      exact ⟨before, during ++ [e], by simp, hn⟩
    rcases register_call_step hc with hc' | ⟨rfl, hn, -⟩ | ⟨arrival, phase', -, hc', -⟩
    · exact hextend hc'
    · exact ⟨events, [], rfl, hn⟩
    · exact hextend hc'

theorem exists_of_strands (h : Strands s e) :
    ∃ n a record message written, e = .resume n (.raised message written) ∧
      s.calls.get? n = some ⟨.register a, .saving record⟩ ∧
      s.registry.adapters.get? a.providerId = some (.loaded n) := by
  unfold Strands at h
  split at h
  · rename_i n message written
    split at h
    · rename_i a record hc
      exact ⟨n, a, record, message, written, rfl, hc, h⟩
    · exact absurd h id
  · exact absurd h id

/-- A call whose record is not saved raises, and writes nothing. -/
theorem step_strands {record : ProviderRecord}
    (hc : s.calls.get? n = some ⟨.register a, .saving record⟩) (message : String) (written : Bool) :
    (S.step s (.resume n (.raised message written))).2.calls.get? n =
        some ⟨.register a, .raised (.other message)⟩ ∧
      (S.step s (.resume n (.raised message written))).2.registry = s.registry := by
  rw [step, hc]
  constructor
  · rw [Option.bind_some]
    simp only [turn, registerTurn, afterTurn, Dict.get?_modify, if_true, hc, Option.map_some]
  · rfl

/-- **What is stranded is left**: a call that strands what it has registered has raised, and changed
the registry. -/
theorem along_of_leaves_nothing {events : List ProviderEvent} (hcalls : s.calls.keys = [])
    (hloaded : LoadedByCalls s) (h : LeavesNothing S s events) :
    Run.Along S.step (fun s e ↦ ¬Strands s e) s events := by
  rw [Run.along_iff_forall_prefix]
  intro js e hprefix hstrands
  obtain ⟨n, a, record, message, written, rfl, hc, hown⟩ := exists_of_strands hstrands
  have hnew : n ∉ s.calls.keys := by
    rw [hcalls]
    exact List.not_mem_nil
  obtain ⟨before, during, rfl, hn⟩ := exists_call hnew hc
  rw [List.append_assoc, List.cons_append] at hprefix
  -- the call raises in the next step, which changes nothing in the registry
  obtain ⟨hraised, hregistry⟩ := step_strands (S := S) hc message written
  have hexec : Run.exec S.step s
      (before ++ .call n (.register a) :: (during ++ [.resume n (.raised message written)])) =
        (S.step (Run.exec S.step s (before ++ .call n (.register a) :: during))
          (.resume n (.raised message written))).2 := by
    rw [← List.cons_append, ← List.append_assoc, Run.exec_append]
    rfl
  rw [← hexec] at hraised hregistry
  have halike := congrArg Prod.snd (h before n a _ _ hprefix hn hraised a.providerId)
  rw [hregistry] at halike
  have hloaded' : LoadedByCalls (Run.exec S.step s before) :=
    Run.exec_invariant (fun _ e (_ : True) h ↦ h.step e)
      (Run.along_of_forall (fun _ _ ↦ trivial) _ _) hloaded
  exact replayOthers_ne_loaded (fun p hp ↦ hn (hloaded' p n hp)) _ _ (halike.symm.trans hown)

end LeavesNothing

/-! ## What holds -/

/-- The service as it starts: the adapters that are configured are objects of their own. -/
def startState (providers : Dict String ProviderRecord) (adapters : Dict String String)
    (store : Dict String PersistedProviderRecord) : ProviderState where
  registry := ⟨providers, adapters.mapVals fun _ providerId ↦ .configured providerId⟩
  store := store

theorem loadedByCalls_startState (providers : Dict String ProviderRecord)
    (adapters : Dict String String) (store : Dict String PersistedProviderRecord) :
    LoadedByCalls (startState providers adapters store) := by
  intro p m hp
  simp only [startState, Dict.get?_mapVals, Option.map_eq_some_iff] at hp
  obtain ⟨providerId, -, hadapter⟩ := hp
  exact nomatch hadapter

/-- **Registrations are consistent** for any schedule of any calls, but for two steps.  One call for
a provider succeeds as long as none goes on after its health check while the provider is registered
by then.  A call that raises has changed nothing exactly as long as no store raises while the
registry has what its call has registered. -/
theorem registrations_consistent (S : ProviderManagementService)
    (providers : Dict String ProviderRecord) (adapters : Dict String String)
    (store : Dict String PersistedProviderRecord) (events : List ProviderEvent) :
    (Run.Along S.step (fun s e ↦ ¬Overwrites S s e) (startState providers adapters store) events →
        OneSucceeds (Run.trace S.step (startState providers adapters store) events)
          (Run.exec S.step (startState providers adapters store) events)) ∧
      (LeavesNothing S (startState providers adapters store) events ↔
        Run.Along S.step (fun s e ↦ ¬Strands s e) (startState providers adapters store) events) :=
  ⟨one_succeeds, along_of_leaves_nothing rfl (loadedByCalls_startState providers adapters store),
    leaves_nothing⟩

/-- A service with a store, whose adapters can all be loaded. -/
def sampleService : ProviderManagementService where
  hasStore := true
  factory :=
    { repr := id
      loadAdapterClass := fun _ ↦ .ok ()
      construct := fun _ _ ↦ .ok () }
  lower := Text.lower

/-- A registration of provider `p`. -/
def sampleRegister : RegisterProvider where
  roles := ["platform_admin"]
  providerId := "p"
  displayName := "P"
  adapterClassRef := "EchoRuntimeAdapter"
  apiKeyEnvVar := "KEY"
  baseUrl := "u"
  model := "m"
  profile := "managed_vendor"
  apiType := "custom"

/-- Nothing is registered. -/
def sampleStart : ProviderState := startState Dict.empty Dict.empty Dict.empty

/-- The health check of call `n` comes back good. -/
def isHealthy (n : Nat) : ProviderEvent := .resume n (.health ⟨true, "healthy", none⟩)

/-- Two calls begin before one of them registers the provider. -/
def overlappingCalls : List ProviderEvent :=
  [.call 0 (.register sampleRegister), .call 1 (.register sampleRegister), isHealthy 0, isHealthy 1,
    .resume 0 .completed, .resume 1 .completed]

/-- The store fails after the provider is registered. -/
def failedCall : List ProviderEvent :=
  [.call 0 (.register sampleRegister), isHealthy 0, .resume 0 (.raised "disk full" false)]

/-- A provider is registered, unregistered, and registered again. -/
def callsInTurn : List ProviderEvent :=
  [.call 0 (.register sampleRegister), isHealthy 0, .resume 0 .completed,
    .call 1 (.unregister ⟨["platform_admin"], "p", none, false, false⟩), .resume 1 .completed,
    .resume 1 .completed,
    .call 2 (.register sampleRegister), isHealthy 2, .resume 2 .completed]

/-- Calls in turn overwrite and strand nothing. -/
theorem registrations_consistent_in_turn :
    OneSucceeds (Run.trace sampleService.step sampleStart callsInTurn)
        (Run.exec sampleService.step sampleStart callsInTurn) ∧
      LeavesNothing sampleService sampleStart callsInTurn := by
  obtain ⟨hone, hnothing⟩ := registrations_consistent sampleService Dict.empty Dict.empty Dict.empty
    callsInTurn
  exact ⟨hone (by decide +kernel), hnothing.mpr (by decide +kernel)⟩

/-- Two overlapping calls for one provider both succeed, and nobody unregisters it; and a call that
raises leaves its provider registered. -/
theorem registrations_not_consistent :
    ¬OneSucceeds (Run.trace sampleService.step sampleStart overlappingCalls)
        (Run.exec sampleService.step sampleStart overlappingCalls) ∧
      ¬LeavesNothing sampleService sampleStart failedCall := by
  constructor
  · intro h
    obtain ⟨before, x, between, y, after, htrace, -, -, -, z, hz, hgone⟩ := h 0 1 "p" (by decide)
      ⟨sampleRegister, some (registeredRecord sampleRegister echoAdapterCanonicalClassRef .custom),
        by decide +kernel, rfl⟩
      ⟨sampleRegister, some (registeredRecord sampleRegister echoAdapterCanonicalClassRef .custom),
        by decide +kernel, rfl⟩
    have hnone : ∀ z ∈ Run.trace sampleService.step sampleStart overlappingCalls,
        ¬Unregisters "p" z := by decide +kernel
    exact hnone z (by rw [htrace]; simp [hz]) hgone
  · intro h
    have halike := h [] 0 sampleRegister [isHealthy 0, .resume 0 (.raised "disk full" false)]
      (.other "disk full") (List.prefix_refl _) (by decide) (by decide +kernel) "p"
    exact absurd halike (by decide +kernel)

end Providers
end ExoBrain
