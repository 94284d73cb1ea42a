import ExoBrain.Lib.Dict
import Mathlib.Algebra.Order.Ring.Rat

/-!
# The registry of providers

`ProviderRegistry` (`provider_registry.py`) has two dictionaries, for the record of a provider and
for its adapter.  Whoever adds a provider writes both, whoever removes one deletes from both.

A write is a value of its own here, `RegistryWrite`, so that the writes of a run can be listed and
some of them left out.  Registries are compared by what every provider id is mapped to (`Alike`).
-/

set_option autoImplicit false

namespace ExoBrain
namespace Providers

/-! ## Records -/

/-- `ProviderProfile`. -/
inductive ProviderProfile
  | managedVendor
  | selfManaged
  | localOnly
deriving DecidableEq, Repr

/-- The values of `ProviderProfile`. -/
def ProviderProfile.value : ProviderProfile → String
  | .managedVendor => "managed_vendor"
  | .selfManaged => "self_managed"
  | .localOnly => "local_only"

/-- `ProviderProfile(value)`, if it does not raise. -/
def ProviderProfile.ofValue? (value : String) : Option ProviderProfile :=
  [managedVendor, selfManaged, localOnly].find? fun profile ↦ profile.value = value

/-- `EndpointApiType`. -/
inductive EndpointApiType
  | openaiNative
  | openaiCompatible
  | custom
deriving DecidableEq, Repr

/-- The values of `EndpointApiType`. -/
def EndpointApiType.value : EndpointApiType → String
  | .openaiNative => "openai_native"
  | .openaiCompatible => "openai_compatible"
  | .custom => "custom"

/-- `EndpointApiType(value)`, if it does not raise. -/
def EndpointApiType.ofValue? (value : String) : Option EndpointApiType :=
  [openaiNative, openaiCompatible, custom].find? fun apiType ↦ apiType.value = value

/-- `EndpointConfig`. -/
structure EndpointConfig where
  baseUrl : String
  apiType : EndpointApiType
deriving DecidableEq, Repr

/-- `AuthConfig`. -/
structure AuthConfig where
  type : String
  apiKeyEnvVar : String
deriving DecidableEq, Repr

/-- `ModelDefaults`. -/
structure ModelDefaults where
  model : String
  temperature : Rat := 1 / 5
  maxOutputTokens : Nat := 1500
deriving DecidableEq, Repr

/-- `ProviderRecord`, without the overrides and the rollout, which nobody sets. -/
structure ProviderRecord where
  providerId : String
  displayName : String
  adapterClass : String
  enabled : Bool
  profile : ProviderProfile
  priority : Int
  endpoint : EndpointConfig
  auth : AuthConfig
  modelDefaults : ModelDefaults
deriving DecidableEq, Repr

/-- `PersistedProviderRecord`. -/
structure PersistedProviderRecord where
  providerId : String
  displayName : String
  adapterClass : String
  enabled : Bool
  profile : String
  priority : Int
  endpointBaseUrl : String
  endpointApiType : String
  authType : String
  authApiKeyEnvVar : String
  model : String
  temperature : Rat := 1 / 5
  maxOutputTokens : Nat := 1500
deriving DecidableEq, Repr

/-- An adapter, as an object: the one that was there from the start, or the one that a call has
loaded. -/
inductive RuntimeAdapter
  | configured (providerId : String)
  | loaded (call : Nat)
deriving DecidableEq, Repr

/-! ## The registry -/

/-- `ProviderRegistry`, the part that can change. -/
structure ProviderRegistry where
  providers : Dict String ProviderRecord := Dict.empty
  adapters : Dict String RuntimeAdapter := Dict.empty

/-- A write to the registry. -/
inductive RegistryWrite
  | register (record : ProviderRecord) (adapter : RuntimeAdapter)
  | unregister (providerId : String)
deriving DecidableEq, Repr

/-- The provider it is about. -/
def RegistryWrite.providerId : RegistryWrite → String
  | .register record _ => record.providerId
  | .unregister providerId => providerId

namespace ProviderRegistry

/-- `register`. -/
def register (record : ProviderRecord) (adapter : RuntimeAdapter) (r : ProviderRegistry) :
    ProviderRegistry where
  providers := r.providers.set record.providerId record
  adapters := r.adapters.set record.providerId adapter

/-- `unregister`, for a provider that is registered. -/
def unregister (providerId : String) (r : ProviderRegistry) : ProviderRegistry where
  providers := r.providers.erase providerId
  adapters := r.adapters.erase providerId

/-- What a write does. -/
def apply (write : RegistryWrite) (r : ProviderRegistry) : ProviderRegistry :=
  match write with
  | .register record adapter => r.register record adapter
  | .unregister providerId => r.unregister providerId

/-- What a provider id is mapped to. -/
def lookup (providerId : String) (r : ProviderRegistry) :
    Option ProviderRecord × Option RuntimeAdapter :=
  (r.providers.get? providerId, r.adapters.get? providerId)

theorem lookup_register (record : ProviderRecord) (adapter : RuntimeAdapter) (r : ProviderRegistry)
    (p : String) : (r.register record adapter).lookup p =
      if p = record.providerId then (some record, some adapter) else r.lookup p := by
  simp only [lookup, register, Dict.get?_set]
  split <;> rfl

theorem lookup_unregister (providerId : String) (r : ProviderRegistry) (p : String) :
    (r.unregister providerId).lookup p = if p = providerId then (none, none) else r.lookup p := by
  simp only [lookup, unregister, Dict.get?_erase]
  split <;> rfl

/-- A write replaces what its provider is mapped to, whatever it was. -/
theorem lookup_apply (write : RegistryWrite) (r : ProviderRegistry) (p : String) :
    (r.apply write).lookup p =
      if p = write.providerId then (({} : ProviderRegistry).apply write).lookup p
      else r.lookup p := by
  cases write with
  | register record adapter =>
    simp only [apply, lookup_register, RegistryWrite.providerId]
    split <;> rfl
  | unregister providerId =>
    simp only [apply, lookup_unregister, RegistryWrite.providerId]
    split <;> rfl

/-- The registries map every provider id to the same. -/
def Alike (r r' : ProviderRegistry) : Prop := ∀ p, r.lookup p = r'.lookup p

theorem Alike.refl (r : ProviderRegistry) : Alike r r := fun _ ↦ rfl

theorem Alike.apply {r r' : ProviderRegistry} (h : Alike r r') (write : RegistryWrite) :
    Alike (r.apply write) (r'.apply write) := by
  intro p
  rw [lookup_apply, lookup_apply write r', h p]

end ProviderRegistry

end Providers
end ExoBrain
