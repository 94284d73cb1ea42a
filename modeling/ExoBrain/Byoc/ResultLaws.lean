import ExoBrain.Byoc.SqliteResultStore

/-!
# What both result stores do

To its clients a result store is two things: the payload each job has, and the set of idempotency
keys it has seen.  `LawfulResultStore` says what the operations do to them.  An ingestion is
described for a key that the store has not seen, which is the only kind the runtime passes on: then
it is refused for want of a key or for a conflict with the payload of the job, and changes nothing,
or it is taken, and writes the payload and the key.  On a key that was seen the two backends differ,
since the in-memory store looks at the key first and the SQLite store at the payload.

`ResultBackend` packs a result store with its laws, as `JobBackend` does for the job stores.
-/

set_option autoImplicit false

namespace ExoBrain
namespace Byoc

open Text

/-! ## The laws -/

/-- Nothing a client can see has changed. -/
def SameResults {τ : Type} (payload : τ → String → Option ByocToolResultEnvelope)
    (seen : τ → String → Prop) (t t' : τ) : Prop :=
  (∀ k, payload t' k = payload t k) ∧ ∀ k, seen t' k ↔ seen t k

/-- A result store that does what its clients rely on.  `payload` reads the payload of a job out of
the state, `seen` the keys, `strategy` the conflict strategy. -/
structure LawfulResultStore {τ : Type} (R : ByocResultStore τ)
    (strategy : τ → ByocResultConflictStrategy)
    (payload : τ → String → Option ByocToolResultEnvelope) (seen : τ → String → Prop) : Prop where
  hasIdempotencyKey_iff : ∀ key t,
    R.hasIdempotencyKey key t = true ↔ strip key ≠ "" ∧ seen t (strip key)
  /-- A result without a key is refused. -/
  ingest_blank : ∀ now r t, strip r.idempotencyKey = "" →
    (R.ingest now r t).1 = .keyRequired ∧ SameResults payload seen t (R.ingest now r t).2
  /-- A result that loses against the payload of its job is refused. -/
  ingest_conflict : ∀ now r t, strip r.idempotencyKey ≠ "" → ¬seen t (strip r.idempotencyKey) →
    conflictRefused (strategy t) (payload t r.jobId) r = true →
    (R.ingest now r t).1 = .conflictRejected ∧ SameResults payload seen t (R.ingest now r t).2
  /-- Any other result under a new key is taken. -/
  ingest_taken : ∀ now r t, strip r.idempotencyKey ≠ "" → ¬seen t (strip r.idempotencyKey) →
    conflictRefused (strategy t) (payload t r.jobId) r = false →
    (R.ingest now r t).1.accepted = true ∧ (R.ingest now r t).1.duplicate = false ∧
      (∀ k, payload (R.ingest now r t).2 k = if k = r.jobId then some r else payload t k) ∧
      ∀ k, seen (R.ingest now r t).2 k ↔ k = strip r.idempotencyKey ∨ seen t k
  /-- Consuming a payload forgets no key. -/
  consume_seen : ∀ jobId t k, seen (R.consume jobId t).2 k ↔ seen t k
  /-- Retention adds no key. -/
  cleanupRetention_seen : ∀ now tenantId limits t k,
    seen (R.cleanupRetention now tenantId limits t).2 k → seen t k

/-- A result store together with what is known about it. -/
structure ResultBackend where
  State : Type
  store : ByocResultStore State
  /-- The store on its first day. -/
  init : State
  strategy : State → ByocResultConflictStrategy
  payload : State → String → Option ByocToolResultEnvelope
  seen : State → String → Prop
  lawful : LawfulResultStore store strategy payload seen
  seen_init : ∀ k, ¬seen init k

/-! ## The in-memory store -/

namespace InMemoryByocResultStore

/-- The payload of a job. -/
def payload (s : InMemoryByocResultStore) (jobId : String) : Option ByocToolResultEnvelope :=
  s.resultsByJobId.get? jobId

/-- The key was ingested. -/
def seen (s : InMemoryByocResultStore) (key : String) : Prop := key ∈ s.seenIdempotencyKeys

theorem payload_write (key : String) (r : ByocToolResultEnvelope) (s : InMemoryByocResultStore)
    (k : String) : (s.write key r).payload k = if k = r.jobId then some r else s.payload k :=
  Dict.get?_set r.jobId r s.resultsByJobId k

theorem seen_write (key : String) (r : ByocToolResultEnvelope) (s : InMemoryByocResultStore)
    (k : String) : (s.write key r).seen k ↔ k = key ∨ s.seen k := Finset.mem_insert

/-- **The in-memory store is lawful.** -/
theorem lawful :
    LawfulResultStore inMemoryByocResultStore conflictStrategy payload seen where
  hasIdempotencyKey_iff key t := by
    simp [inMemoryByocResultStore, hasIdempotencyKey, seen]
  ingest_blank now r t h := by
    simp only [inMemoryByocResultStore, ingest]
    rw [if_pos h]
    exact ⟨rfl, fun _ ↦ rfl, fun _ ↦ Iff.rfl⟩
  ingest_conflict now r t h hnew hrefused := by
    simp only [inMemoryByocResultStore, ingest]
    rw [if_neg h, if_neg (show _ ∉ _ from hnew)]
    cases he : t.resultsByJobId.get? r.jobId with
    | none => simp [payload, he, conflictRefused] at hrefused
    | some e =>
      obtain ⟨hkey, hkeep⟩ : strip e.idempotencyKey ≠ strip r.idempotencyKey ∧
          resolveResultConflict e r t.conflictStrategy = false := by
        simpa [payload, he, conflictRefused] using hrefused
      simp only [if_neg hkey, hkeep]
      exact ⟨rfl, fun _ ↦ rfl, fun _ ↦ Iff.rfl⟩
  ingest_taken now r t h hnew htaken := by
    simp only [inMemoryByocResultStore, ingest]
    rw [if_neg h, if_neg (show _ ∉ _ from hnew)]
    cases he : t.resultsByJobId.get? r.jobId with
    | none => exact ⟨rfl, rfl, payload_write _ r t, seen_write _ r t⟩
    | some e =>
      by_cases hkey : strip e.idempotencyKey = strip r.idempotencyKey
      · simp only [if_pos hkey]
        exact ⟨rfl, rfl, payload_write _ r t, seen_write _ r t⟩
      · have hreplace : resolveResultConflict e r t.conflictStrategy = true := by
          simpa [payload, he, conflictRefused, hkey] using htaken
        simp only [if_neg hkey, if_pos hreplace]
        exact ⟨rfl, rfl, payload_write (strip r.idempotencyKey) r t,
          seen_write (strip r.idempotencyKey) r t⟩
  consume_seen jobId t k := by
    simp only [inMemoryByocResultStore, consume]
    split <;> rfl
  cleanupRetention_seen now tenantId limits t k h := h

end InMemoryByocResultStore

/-- The in-memory backend. -/
def ResultBackend.inMemory (strategy : ByocResultConflictStrategy) : ResultBackend where
  State := InMemoryByocResultStore
  store := inMemoryByocResultStore
  init := InMemoryByocResultStore.init strategy
  strategy := InMemoryByocResultStore.conflictStrategy
  payload := InMemoryByocResultStore.payload
  seen := InMemoryByocResultStore.seen
  lawful := InMemoryByocResultStore.lawful
  seen_init k := Finset.notMem_empty k

/-! ## The SQLite store -/

namespace SQLiteByocResultStore

/-- The payload of a job. -/
def payload (s : SQLiteByocResultStore) (jobId : String) : Option ByocToolResultEnvelope :=
  (s.payloads.get? jobId).map PayloadRow.payload

/-- The key was ingested. -/
def seen (s : SQLiteByocResultStore) (key : String) : Prop := key ∈ s.idempotency.keys

theorem payload_write (now : Epoch) (key : String) (r : ByocToolResultEnvelope)
    (s : SQLiteByocResultStore) (k : String) :
    (s.write now key r).payload k = if k = r.jobId then some r else s.payload k := by
  rw [payload, write, Dict.get?_set]
  split <;> rfl

theorem seen_write (now : Epoch) (key : String) (r : ByocToolResultEnvelope)
    (s : SQLiteByocResultStore) (k : String) :
    (s.write now key r).seen k ↔ k = key ∨ s.seen k := by
  simp only [seen, write, Dict.mem_keys_iff, Dict.get?_setDefault]
  by_cases hk : k = key <;> simp [hk]

/-- A conflict counter, kept or rolled back, is nothing a client of the results can see. -/
theorem sameResults_uncommitted (tenantId toolName toolVersion reasonCode : String)
    (s : SQLiteByocResultStore) :
    SameResults payload seen s
      (s.uncommitted (s.recordConflict tenantId toolName toolVersion reasonCode)) := by
  rw [uncommitted]
  split <;> exact ⟨fun _ ↦ rfl, fun _ ↦ Iff.rfl⟩

/-- The insertion of a result under a new key. -/
theorem insertResult_new (now : Epoch) {key : String} (r : ByocToolResultEnvelope)
    (replacing : Bool) (before : SQLiteByocResultStore) {s : SQLiteByocResultStore}
    (hnew : ¬s.seen key) :
    (insertResult now key r replacing before s).1.accepted = true ∧
      (insertResult now key r replacing before s).1.duplicate = false ∧
      (insertResult now key r replacing before s).2 = s.write now key r := by
  rw [insertResult, if_neg (show _ ∉ _ from hnew)]
  cases replacing <;> exact ⟨rfl, rfl, rfl⟩

/-- **The SQLite store is lawful.** -/
theorem lawful : LawfulResultStore sqliteByocResultStore conflictStrategy payload seen where
  hasIdempotencyKey_iff key t := by
    simp [sqliteByocResultStore, hasIdempotencyKey, seen]
  ingest_blank now r t h := by
    simp only [sqliteByocResultStore, ingest]
    rw [if_pos h]
    exact ⟨rfl, fun _ ↦ rfl, fun _ ↦ Iff.rfl⟩
  ingest_conflict now r t h hnew hrefused := by
    simp only [sqliteByocResultStore, ingest]
    rw [if_neg h]
    cases hrow : t.payloads.get? r.jobId with
    | none => simp [payload, hrow, conflictRefused] at hrefused
    | some row =>
      obtain ⟨hkey, hkeep⟩ : strip row.payload.idempotencyKey ≠ strip r.idempotencyKey ∧
          resolveResultConflict row.payload r t.conflictStrategy = false := by
        simpa [payload, hrow, conflictRefused] using hrefused
      simp only [if_neg hkey, hkeep]
      exact ⟨rfl, t.sameResults_uncommitted _ _ _ _⟩
  ingest_taken now r t h hnew htaken := by
    simp only [sqliteByocResultStore, ingest]
    rw [if_neg h]
    -- Whichever branch inserts the result, it does so into the tables `t` has.
    have hinsert : ∀ replacing (s : SQLiteByocResultStore), s.idempotency = t.idempotency →
        s.payloads = t.payloads →
        let q := insertResult now (strip r.idempotencyKey) r replacing t s
        q.1.accepted = true ∧ q.1.duplicate = false ∧
          (∀ k, payload q.2 k = if k = r.jobId then some r else payload t k) ∧
          ∀ k, seen q.2 k ↔ k = strip r.idempotencyKey ∨ seen t k := by
      intro replacing s hkeys hpayloads
      have hs : s.payload = t.payload ∧ s.seen = t.seen := by
        constructor <;> funext k
        · rw [payload, payload, hpayloads]
        · rw [seen, seen, hkeys]
      have hnew' : ¬s.seen (strip r.idempotencyKey) := by rwa [hs.2]
      obtain ⟨hacc, hdup, hstate⟩ := insertResult_new now r replacing t hnew'
      refine ⟨hacc, hdup, fun k ↦ ?_, fun k ↦ ?_⟩
      · rw [hstate, payload_write, hs.1]
      · rw [hstate, seen_write, hs.2]
    cases hrow : t.payloads.get? r.jobId with
    | none => exact hinsert false t rfl rfl
    | some row =>
      by_cases hkey : strip row.payload.idempotencyKey = strip r.idempotencyKey
      · simp only [if_pos hkey]
        exact hinsert true t rfl rfl
      · have hreplace : resolveResultConflict row.payload r t.conflictStrategy = true := by
          simpa [payload, hrow, conflictRefused, hkey] using htaken
        simp only [if_neg hkey, if_pos hreplace]
        exact hinsert true _ rfl rfl
  consume_seen jobId t k := by
    simp only [sqliteByocResultStore, consume]
    split <;> rfl
  cleanupRetention_seen now tenantId limits t k h := by
    simp only [sqliteByocResultStore, cleanupRetention] at h
    split at h
    · exact h
    · rw [seen, Dict.mem_keys_iff] at h ⊢
      obtain ⟨row, hrow⟩ := h
      rw [Dict.get?_filter, Option.filter_eq_some_iff] at hrow
      exact ⟨row, hrow.1⟩

end SQLiteByocResultStore

/-- The SQLite backend, on a file or on `:memory:`. -/
def ResultBackend.sqlite (strategy : ByocResultConflictStrategy) (shared : Bool) :
    ResultBackend where
  State := SQLiteByocResultStore
  store := sqliteByocResultStore
  init := SQLiteByocResultStore.init strategy shared
  strategy := SQLiteByocResultStore.conflictStrategy
  payload := SQLiteByocResultStore.payload
  seen := SQLiteByocResultStore.seen
  lawful := SQLiteByocResultStore.lawful
  seen_init _ := List.not_mem_nil

end Byoc
end ExoBrain
