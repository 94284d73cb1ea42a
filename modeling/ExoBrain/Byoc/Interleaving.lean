import ExoBrain.Byoc.Cancellation

/-!
# Several store instances on one database file

`SQLiteByocJobQueueStore` guards its methods with a lock of its own, so two instances on the same
file only meet in the database.  Here the methods `claim_next`, `complete_claim` and
`requeue_expired_leases` are taken apart into the SQL statements they execute, and any number of
instances execute theirs in any order.

SQLite is modelled by what the code can rely on.  A statement is atomic.  The first `UPDATE` of a
connection opens a write transaction, which only one connection can have open; until its `COMMIT`
its own statements see the new table and everybody else the last committed one.  A `SELECT` opens
no transaction.  An instance whose `UPDATE` finds the database locked waits, or gives up when the
busy timeout of its connection runs out.

`claim_next` reads a row in one statement and leases it, by `job_id` alone, in another.  Whether
that is safe is a question about the moment of the second statement: `claimsFresh` says that the
row is still queued then.  `fresh_claims_exclusive` shows that nothing more is needed, and
`claims_race` that the code does not ensure it.
-/

set_option autoImplicit false

namespace ExoBrain
namespace Byoc

/-! ## Programs -/

/-- The arguments of `claim_next`, and the token it draws. -/
structure ClaimArgs where
  tenantId : String
  workerId : String
  leaseTtlSeconds : Int
  token : String
deriving DecidableEq, Repr

/-- What follows the commit of `_requeue_expired_leases_unlocked`. -/
inductive AfterSweep
  /-- `requeue_expired_leases` and the expired branch of `complete_claim` return. -/
  | finish
  /-- `claim_next` goes on. -/
  | claim (args : ClaimArgs)
deriving DecidableEq, Repr

/-- The statement an instance executes next, with the variables it needs.  `now` is the clock
reading at the start of the call. -/
inductive Pc
  | idle
  | deadLetter (now : Epoch) (maxClaimAttempts : Int) (next : AfterSweep)
  | requeue (now : Epoch) (next : AfterSweep)
  | commitSweep (now : Epoch) (next : AfterSweep)
  | selectQueued (now : Epoch) (args : ClaimArgs)
  | updateLease (now : Epoch) (args : ClaimArgs) (row : JobRow)
  | commitLease (job : ByocToolJobEnvelope)
  | selectJob (now : Epoch) (jobId token : String)
  | updateComplete (now : Epoch) (jobId : String)
  | commitComplete (jobId : String)
deriving DecidableEq, Repr

/-- A method call. -/
inductive SqlCall
  | claimNext (now : Epoch) (args : ClaimArgs)
  | completeClaim (now : Epoch) (jobId token : String)
  | requeueExpiredLeases (now : Epoch) (maxClaimAttemptsBeforeDlq : Option Int)
deriving DecidableEq, Repr

/-- The first statement of a call. -/
def SqlCall.start : SqlCall → Pc
  | .claimNext now args => .requeue now (.claim args)
  | .completeClaim now jobId token => .selectJob now jobId token
  | .requeueExpiredLeases now none => .requeue now .finish
  | .requeueExpiredLeases now (some k) =>
    if 0 < k then .deadLetter now k .finish else .requeue now .finish

/-- The statement after the commit of the sweep. -/
def AfterSweep.pc (now : Epoch) : AfterSweep → Pc
  | .finish => .idle
  | .claim args => .selectQueued now args

/-! ## The database and its instances -/

/-- Instances, named by `ι`, on one database file. -/
structure Cluster (ι : Type) where
  /-- What every connection sees. -/
  committed : JobTable
  /-- The open write transaction: whose it is, and the table it will commit. -/
  writer : Option (ι × JobTable)
  /-- Where each instance is. -/
  pc : ι → Pc

/-- What an instance is made to do. -/
inductive SqlAction
  /-- Begin a call, if the instance is idle. -/
  | call (c : SqlCall)
  /-- Execute the next statement, or keep waiting for the lock. -/
  | run
  /-- Give up waiting for the lock: `sqlite3.OperationalError` ends the call. -/
  | timeout
deriving DecidableEq, Repr

/-- What a step shows: the committed table around it, and the job that `claim_next` returned. -/
structure StepReport where
  before : JobTable
  after : JobTable
  returned : Option ByocToolJobEnvelope

namespace Cluster

variable {ι : Type} [DecidableEq ι]

/-- A database with the given table, and no call in progress. -/
def init (ι : Type) (t : JobTable) : Cluster ι := ⟨t, none, fun _ ↦ .idle⟩

/-- Does the instance have the write transaction? -/
def owns (i : ι) (s : Cluster ι) : Bool := s.writer.any fun w ↦ w.1 = i

/-- Can the instance execute an `UPDATE`? -/
def canWrite (i : ι) (s : Cluster ι) : Bool := s.writer.all fun w ↦ w.1 = i

/-- The table that the statements of the instance see. -/
def view (i : ι) (s : Cluster ι) : JobTable :=
  match s.writer with
  | none => s.committed
  | some (j, t) => if j = i then t else s.committed

/-- Go on with another statement. -/
def goto (i : ι) (pc : Pc) (s : Cluster ι) : Cluster ι := { s with pc := Function.update s.pc i pc }

/-- Execute an `UPDATE` and go on, unless the database is locked. -/
def write (i : ι) (f : JobTable → JobTable) (pc : Pc) (s : Cluster ι) : Cluster ι :=
  if s.canWrite i then { s with writer := some (i, f (s.view i)) }.goto i pc else s

/-- Execute `COMMIT` and go on. -/
def commit (i : ι) (pc : Pc) (s : Cluster ι) : Cluster ι :=
  if s.owns i then { s with committed := s.view i, writer := none }.goto i pc else s.goto i pc

/-- Execute the next statement of an instance; with the job, if the statement was the `COMMIT`
after which `claim_next` returns one. -/
def run (i : ι) (s : Cluster ι) : Option ByocToolJobEnvelope × Cluster ι :=
  match s.pc i with
  | .idle => (none, s)
  | .deadLetter now k next =>
    (none, s.write i (fun t ↦ (t.updateDeadLetter now k).2) (.requeue now next))
  | .requeue now next =>
    (none, s.write i (fun t ↦ (t.updateRequeue now).2) (.commitSweep now next))
  | .commitSweep now next => (none, s.commit i (next.pc now))
  | .selectQueued now args =>
    match (s.view i).selectNextQueued args.tenantId with
    | none => (none, s.goto i .idle)
    | some row => (none, s.goto i (.updateLease now args row))
  | .updateLease now args row =>
    let expires := now + ttlTicks args.leaseTtlSeconds
    let claimAttempt := row.claimAttempt + 1
    (none, s.write i
      (fun t ↦ t.updateLease args.workerId args.token expires claimAttempt row.jobId)
      (.commitLease (row.toEnvelope args.token expires claimAttempt)))
  | .commitLease job => (some job, s.commit i .idle)
  | .selectJob now jobId token =>
    match (s.view i).selectJob jobId with
    | none => (none, s.goto i .idle)
    | some row =>
      if row.status ≠ .leased then (none, s.goto i .idle)
      else if row.leaseExpiresAtEpoch ≤ now then (none, s.goto i (.requeue now .finish))
      else if row.leaseToken ≠ token then (none, s.goto i .idle)
      else (none, s.goto i (.updateComplete now jobId))
  | .updateComplete now jobId =>
    (none, s.write i (fun t ↦ t.updateComplete now jobId) (.commitComplete jobId))
  | .commitComplete _ => (none, s.commit i .idle)

/-- Does the next statement write? -/
def wantsLock (i : ι) (s : Cluster ι) : Bool :=
  match s.pc i with
  | .deadLetter _ _ _ | .requeue _ _ | .updateLease _ _ _ | .updateComplete _ _ => true
  | _ => false

/-- One step of the cluster. -/
def step (s : Cluster ι) (input : ι × SqlAction) : StepReport × Cluster ι :=
  let next : Option ByocToolJobEnvelope × Cluster ι :=
    match input.2 with
    | .call c => (none, if s.pc input.1 = .idle then s.goto input.1 c.start else s)
    | .run => s.run input.1
    | .timeout =>
      (none, if s.wantsLock input.1 && !s.canWrite input.1 then s.goto input.1 .idle else s)
  (⟨s.committed, next.2.committed, next.1⟩, next.2)

end Cluster

/-! ## The two properties -/

/-- The status of a job in a table. -/
def statusIn (t : JobTable) (k : String) : Option JobStatus := (t.get? k).map fun r ↦ r.status

namespace StepReport

/-- `claim_next` hands out the job `k`. -/
def handsOut (k : String) (r : StepReport) : Bool := r.returned.any fun job ↦ job.jobId = k

/-- The job `k` becomes queued. -/
def becomesQueued (k : String) (r : StepReport) : Bool :=
  statusIn r.after k = some .queued && statusIn r.before k ≠ some .queued

/-- The job `k` was completed and is leased again. -/
def relapses (k : String) (r : StepReport) : Bool :=
  statusIn r.before k = some .completed && statusIn r.after k = some .leased

end StepReport

/-- The job `k` is handed out at most once between two moments at which it becomes queued.  `out`
tells whether it was handed out since the last such moment. -/
def HandedOutOnce (k : String) (out : Bool) : List StepReport → Prop
  | [] => True
  | r :: rs =>
    (r.handsOut k = true → out = false) ∧
      HandedOutOnce k (r.handsOut k || (out && !r.becomesQueued k)) rs

instance (k : String) : (out : Bool) → (rs : List StepReport) → Decidable (HandedOutOnce k out rs)
  | _, [] => isTrue trivial
  | out, r :: rs =>
    have := instDecidableHandedOutOnce k (r.handsOut k || (out && !r.becomesQueued k)) rs
    inferInstanceAs (Decidable (_ ∧ _))

/-- What the steps of a run show. -/
def reports {ι : Type} [DecidableEq ι] (s : Cluster ι) (inputs : List (ι × SqlAction)) :
    List StepReport :=
  (Run.trace Cluster.step s inputs).map Prod.snd

/-- When a claim executes its `UPDATE`, the row it selected is still queued. -/
def claimsFresh {ι : Type} [DecidableEq ι] (s : Cluster ι) (input : ι × SqlAction) : Bool :=
  match input.2, s.pc input.1 with
  | .run, .updateLease _ _ row =>
    !s.canWrite input.1 || statusIn (s.view input.1) row.jobId = some .queued
  | _, _ => true

/-! ## What each statement does to the statuses -/

theorem statusIn_update (t : JobTable) (cond : JobRow → Bool) (set : Lifecycle → Lifecycle)
    (k : String) :
    statusIn (t.update cond set).2 k =
      (t.get? k).map fun r ↦ if cond r then (set r.toLifecycle).status else r.status := by
  simp only [statusIn, JobTable.update, Dict.get?_mapVals, Option.map_map]
  congr 1
  funext r
  simp only [Function.comp_apply]
  split <;> rfl

theorem statusIn_modify (t : JobTable) (j : String) (f : JobRow → JobRow) (k : String) :
    statusIn (t.modify j f) k =
      if k = j then (t.get? k).map (fun r ↦ (f r).status) else statusIn t k := by
  rw [statusIn, Dict.get?_modify]
  split
  · rw [Option.map_map]; rfl
  · rfl

/-- Leases may have gone back to the queue or to the dead letters; nothing else changed. -/
def SweptFrom (t t' : JobTable) : Prop :=
  ∀ k, statusIn t' k = statusIn t k ∨
    (statusIn t k = some .leased ∧
      (statusIn t' k = some .queued ∨ statusIn t' k = some .deadLettered))

theorem SweptFrom.refl (t : JobTable) : SweptFrom t t := fun _ ↦ .inl rfl

/-- Two sweeps in a row are one: what the second one touches was leased all along. -/
theorem SweptFrom.trans {t t' t'' : JobTable} (h : SweptFrom t t') (h' : SweptFrom t' t'') :
    SweptFrom t t'' := by
  intro k
  rcases h' k with heq | ⟨hleased, hnew⟩
  · rw [heq]
    exact h k
  · rcases h k with heq | ⟨-, hq | hd⟩
    · exact .inr ⟨heq ▸ hleased, hnew⟩
    · rw [hq] at hleased; exact absurd hleased (by simp)
    · rw [hd] at hleased; exact absurd hleased (by simp)

/-- An `UPDATE` of expired leases that leaves them queued or dead-lettered is a sweep. -/
theorem sweptFrom_update {now : Epoch} {cond : JobRow → Bool} {set : Lifecycle → Lifecycle}
    (hcond : ∀ r, cond r = true → r.toLifecycle.expired now = true)
    (hset : ∀ l, (set l).status = .queued ∨ (set l).status = .deadLettered) (t : JobTable) :
    SweptFrom t (t.update cond set).2 := by
  intro k
  rw [statusIn_update]
  cases hr : t.get? k with
  | none => exact .inl (by rw [statusIn, hr]; rfl)
  | some r =>
    have hold : statusIn t k = some r.status := by rw [statusIn, hr]; rfl
    rw [hold, Option.map_some]
    by_cases hc : cond r = true
    · have hleased : r.status = .leased := by
        have hexp := hcond r hc
        simp only [Lifecycle.expired, Bool.and_eq_true, decide_eq_true_eq] at hexp
        exact hexp.1
      rw [if_pos hc]
      right
      refine ⟨by rw [hleased], ?_⟩
      rcases hset r.toLifecycle with h | h
      · exact .inl (by rw [h])
      · exact .inr (by rw [h])
    · rw [if_neg hc]
      exact .inl rfl

theorem sweptFrom_updateRequeue (now : Epoch) (t : JobTable) :
    SweptFrom t (t.updateRequeue now).2 :=
  sweptFrom_update (fun _ h ↦ h) (fun _ ↦ .inl rfl) t

theorem sweptFrom_updateDeadLetter (now : Epoch) (k : Int) (t : JobTable) :
    SweptFrom t (t.updateDeadLetter now k).2 :=
  sweptFrom_update (fun _ h ↦ (Bool.and_eq_true_iff.mp h).1) (fun _ ↦ .inr rfl) t

/-! ## Open transactions -/

/-- What an open transaction of an instance at `pc` is about to commit. -/
def Pending (pc : Pc) (committed t : JobTable) : Prop :=
  match pc with
  | .requeue _ _ | .commitSweep _ _ => SweptFrom committed t
  | .commitLease job =>
    statusIn committed job.jobId = some .queued ∧
      ∀ k, statusIn t k = if k = job.jobId then some .leased else statusIn committed k
  | .commitComplete _ => ∀ k, statusIn t k = statusIn committed k ∨ statusIn t k = some .completed
  | _ => False

/-- The instance is about to commit. -/
def Pc.commits : Pc → Bool
  | .commitSweep _ _ | .commitLease _ | .commitComplete _ => true
  | _ => false

namespace Cluster

variable {ι : Type}

/-- The open transaction belongs to an instance in the middle of one, and every instance that is
about to commit has it. -/
structure Inv (s : Cluster ι) : Prop where
  pending : ∀ i t, s.writer = some (i, t) → Pending (s.pc i) s.committed t
  open_tx : ∀ i, (s.pc i).commits = true → ∃ t, s.writer = some (i, t)

/-- What a step may show. -/
structure Sound (s s' : Cluster ι) (returned : Option ByocToolJobEnvelope) : Prop where
  /-- Only a queued job is handed out, and it is leased then. -/
  handed : ∀ job, returned = some job → statusIn s.committed job.jobId = some .queued ∧
    statusIn s'.committed job.jobId = some .leased
  /-- A completed job does not become leased. -/
  kept : ∀ k, statusIn s.committed k = some .completed → statusIn s'.committed k ≠ some .leased

theorem init_inv (t : JobTable) : Inv (init ι t) where
  pending i t h := absurd h (by simp [init])
  open_tx i h := absurd h (by simp [init, Pc.commits])

/-- A step that does not touch the committed table. -/
theorem sound_of_committed_eq {s s' : Cluster ι} (h : s'.committed = s.committed) :
    Sound s s' none where
  handed job hj := absurd hj (by simp)
  kept k hk := by rw [h, hk]; simp

/-- A commit of a sweep or of a completion hands nothing out. -/
theorem sound_of_not_leased {s s' : Cluster ι}
    (h : ∀ k, statusIn s'.committed k = statusIn s.committed k ∨
      statusIn s'.committed k ≠ some .leased) : Sound s s' none where
  handed job hj := absurd hj (by simp)
  kept k hk := by
    rcases h k with heq | hne
    · rw [heq, hk]; simp
    · exact hne

/-- An instance whose next statement is not one of a transaction has none open. -/
theorem Inv.free {s : Cluster ι} (h : Inv s) {i : ι}
    (hpc : ∀ t, ¬Pending (s.pc i) s.committed t) (t : JobTable) : s.writer ≠ some (i, t) :=
  fun hw ↦ hpc t (h.pending i t hw)

variable [DecidableEq ι]

/-- An instance that is outside a transaction moves on to another statement outside one. -/
theorem Inv.goto {s : Cluster ι} (h : Inv s) {i : ι} {pc : Pc}
    (hfree : ∀ t, s.writer ≠ some (i, t)) (hpc : pc.commits = false) : Inv (s.goto i pc) := by
  refine ⟨fun j t hw ↦ ?_, fun j hc ↦ ?_⟩
  · have hne : j ≠ i := by
      rintro rfl
      exact hfree t hw
    simpa only [Cluster.goto, Function.update_of_ne hne] using h.pending j t hw
  · by_cases hij : j = i
    · subst hij
      simp only [Cluster.goto, Function.update_self] at hc
      rw [hpc] at hc
      exact absurd hc (by simp)
    · simp only [Cluster.goto, Function.update_of_ne hij] at hc
      exact h.open_tx j hc

theorem view_of_free {s : Cluster ι} {i : ι} (h : ∀ t, s.writer ≠ some (i, t)) :
    s.view i = s.committed := by
  rw [view]
  split
  · rfl
  · rename_i j t hw
    rw [if_neg]
    rintro rfl
    exact h t hw

/-- An `UPDATE` leaves what it is going to commit behind. -/
theorem Inv.write {s : Cluster ι} (h : Inv s) {i : ι} {f : JobTable → JobTable} {pc : Pc}
    (hpending : s.canWrite i = true → Pending pc s.committed (f (s.view i))) :
    Inv (s.write i f pc) ∧ Sound s (s.write i f pc) none := by
  rw [Cluster.write]
  by_cases hw : s.canWrite i = true
  · rw [if_pos hw]
    have hothers : ∀ j, j ≠ i → (s.pc j).commits = false := by
      intro j hj
      rw [Bool.eq_false_iff]
      intro hc
      obtain ⟨t, ht⟩ := h.open_tx j hc
      rw [canWrite, ht] at hw
      exact hj (by simpa using hw)
    refine ⟨⟨fun j t hj ↦ ?_, fun j hc ↦ ?_⟩, sound_of_committed_eq rfl⟩
    · simp only [Cluster.goto, Option.some.injEq, Prod.mk.injEq] at hj
      obtain ⟨rfl, rfl⟩ := hj
      simpa only [Cluster.goto, Function.update_self] using hpending hw
    · by_cases hij : j = i
      · exact ⟨_, by rw [hij]; rfl⟩
      · simp only [Cluster.goto, Function.update_of_ne hij] at hc
        rw [hothers j hij] at hc
        exact absurd hc (by simp)
  · rw [if_neg hw]
    exact ⟨h, sound_of_committed_eq rfl⟩

/-- A `COMMIT` publishes the table of the transaction and closes it. -/
theorem Inv.commit {s : Cluster ι} (h : Inv s) {i : ι} (pc : Pc)
    (hc : (s.pc i).commits = true) (hpc : pc.commits = false) :
    ∃ t, Pending (s.pc i) s.committed t ∧ (s.commit i pc).committed = t ∧ Inv (s.commit i pc) := by
  obtain ⟨t, ht⟩ := h.open_tx i hc
  have howns : s.owns i = true := by rw [owns, ht]; simp
  have hview : s.view i = t := by rw [view, ht]; simp
  refine ⟨t, h.pending i t ht, ?_, ?_⟩
  · rw [Cluster.commit, if_pos howns, hview]; rfl
  · rw [Cluster.commit, if_pos howns]
    refine ⟨fun j t' hj ↦ absurd hj (by simp [Cluster.goto]), fun j hj ↦ ?_⟩
    by_cases hij : j = i
    · subst hij
      simp only [Cluster.goto, Function.update_self] at hj
      rw [hpc] at hj
      exact absurd hj (by simp)
    · simp only [Cluster.goto, Function.update_of_ne hij] at hj
      obtain ⟨t', ht'⟩ := h.open_tx j hj
      rw [ht, Option.some_inj] at ht'
      exact absurd (congrArg Prod.fst ht').symm hij

/-- **Every statement keeps the invariant and shows only what it may**, if claims are fresh. -/
theorem run_sound {s : Cluster ι} (h : Inv s) (i : ι)
    (hfresh : ∀ now args row, s.pc i = .updateLease now args row → s.canWrite i = true →
      statusIn (s.view i) row.jobId = some .queued) :
    Inv (s.run i).2 ∧ Sound s (s.run i).2 (s.run i).1 := by
  have hview : s.canWrite i = true → (∀ t, ¬Pending (s.pc i) s.committed t) →
      s.view i = s.committed := fun _ hpc ↦ view_of_free (h.free hpc)
  cases hpc : s.pc i with
  | idle =>
    simp only [run, hpc]
    exact ⟨h, sound_of_committed_eq rfl⟩
  | deadLetter now k next =>
    simp only [run, hpc]
    refine h.write fun hw ↦ ?_
    rw [hview hw (by simp [hpc, Pending])]
    exact sweptFrom_updateDeadLetter now k s.committed
  | requeue now next =>
    simp only [run, hpc]
    refine h.write fun hw ↦ ?_
    -- the transaction may be open already, with the dead letters in it
    have hsofar : SweptFrom s.committed (s.view i) := by
      rw [view]
      split
      · exact SweptFrom.refl _
      · rename_i j t hwriter
        split
        · rename_i hij
          subst hij
          have hp := h.pending j t hwriter
          rw [hpc] at hp
          exact hp
        · exact SweptFrom.refl _
    exact hsofar.trans (sweptFrom_updateRequeue now _)
  | commitSweep now next =>
    simp only [run, hpc]
    have hnext : (next.pc now).commits = false := by cases next <;> rfl
    obtain ⟨t, hp, hcommitted, hinv⟩ := h.commit (next.pc now) (by rw [hpc]; rfl) hnext
    rw [hpc] at hp
    refine ⟨hinv, sound_of_not_leased fun k ↦ ?_⟩
    rw [hcommitted]
    rcases hp k with heq | ⟨-, hq | hd⟩
    · exact .inl heq
    · exact .inr (by rw [hq]; simp)
    · exact .inr (by rw [hd]; simp)
  | selectQueued now args =>
    have hfree := h.free (i := i) (by simp [hpc, Pending])
    simp only [run, hpc]
    split <;> exact ⟨h.goto hfree rfl, sound_of_committed_eq rfl⟩
  | updateLease now args row =>
    simp only [run, hpc]
    refine h.write fun hw ↦ ?_
    have hqueued := hfresh now args row hpc hw
    rw [hview hw (by simp [hpc, Pending])] at hqueued ⊢
    refine ⟨hqueued, fun k ↦ ?_⟩
    have hid : (row.toEnvelope args.token (now + ttlTicks args.leaseTtlSeconds)
      (row.claimAttempt + 1)).jobId = row.jobId := rfl
    rw [JobTable.updateLease, statusIn_modify, hid]
    split
    · rename_i hk
      rw [← hk, statusIn] at hqueued
      obtain ⟨r, hr, -⟩ := Option.map_eq_some_iff.mp hqueued
      rw [hr]; rfl
    · rfl
  | commitLease job =>
    simp only [run, hpc]
    obtain ⟨t, hp, hcommitted, hinv⟩ := h.commit .idle (by rw [hpc]; rfl) rfl
    rw [hpc] at hp
    refine ⟨hinv, fun job' hj ↦ ?_, fun k hk ↦ ?_⟩
    · obtain rfl := Option.some.inj hj
      exact ⟨hp.1, by rw [hcommitted, hp.2, if_pos rfl]⟩
    · have hne : k ≠ job.jobId := by
        rintro rfl
        rw [hp.1] at hk
        exact absurd hk (by simp)
      rw [hcommitted, hp.2, if_neg hne, hk]
      simp
  | selectJob now jobId token =>
    have hfree := h.free (i := i) (by simp [hpc, Pending])
    simp only [run, hpc]
    split
    · exact ⟨h.goto hfree rfl, sound_of_committed_eq rfl⟩
    · split
      · exact ⟨h.goto hfree rfl, sound_of_committed_eq rfl⟩
      · split
        · exact ⟨h.goto hfree rfl, sound_of_committed_eq rfl⟩
        · split <;> exact ⟨h.goto hfree rfl, sound_of_committed_eq rfl⟩
  | updateComplete now jobId =>
    simp only [run, hpc]
    refine h.write fun hw ↦ ?_
    rw [hview hw (by simp [hpc, Pending])]
    intro k
    rw [JobTable.updateComplete, statusIn_modify]
    split
    · cases hr : s.committed.get? k with
      | none => exact .inl (by rw [statusIn, hr]; rfl)
      | some r => exact .inr rfl
    · exact .inl rfl
  | commitComplete jobId =>
    simp only [run, hpc]
    obtain ⟨t, hp, hcommitted, hinv⟩ := h.commit .idle (by rw [hpc]; rfl) rfl
    rw [hpc] at hp
    refine ⟨hinv, sound_of_not_leased fun k ↦ ?_⟩
    rw [hcommitted]
    rcases hp k with heq | hdone
    · exact .inl heq
    · exact .inr (by rw [hdone]; simp)

/-- Beginning a call and giving one up touch no table. -/
theorem step_sound {s : Cluster ι} (h : Inv s) (input : ι × SqlAction)
    (hfresh : claimsFresh s input = true) :
    Inv (s.step input).2 ∧ Sound s (s.step input).2 (s.step input).1.returned := by
  obtain ⟨i, action⟩ := input
  cases action with
  | call c =>
    simp only [step]
    split
    · rename_i hidle
      have hstart : c.start.commits = false := by
        cases c with
        | claimNext | completeClaim => rfl
        | requeueExpiredLeases now limit =>
          cases limit with
          | none => rfl
          | some k => simp only [SqlCall.start]; split <;> rfl
      exact ⟨h.goto (h.free (by simp [hidle, Pending])) hstart, sound_of_committed_eq rfl⟩
    · exact ⟨h, sound_of_committed_eq rfl⟩
  | run =>
    refine run_sound h i fun now args row hpc hw ↦ ?_
    simpa [claimsFresh, hpc, hw] using hfresh
  | timeout =>
    simp only [step]
    split
    · rename_i hblocked
      have hfree : ∀ t, s.writer ≠ some (i, t) := by
        intro t hw
        simp [canWrite, hw] at hblocked
      exact ⟨h.goto hfree rfl, sound_of_committed_eq rfl⟩
    · exact ⟨h, sound_of_committed_eq rfl⟩

end Cluster

/-! ## Whole interleavings -/

section Runs

variable {ι : Type} [DecidableEq ι]

/-- A job that was handed out is not queued until it becomes queued again, so it cannot be handed
out before that. -/
theorem handedOutOnce_run (k : String) {inputs : List (ι × SqlAction)} :
    ∀ {s : Cluster ι} {out : Bool}, s.Inv →
      (out = true → statusIn s.committed k ≠ some .queued) →
      Run.Along Cluster.step (fun s i ↦ claimsFresh s i = true) s inputs →
      HandedOutOnce k out (reports s inputs) := by
  induction inputs with
  | nil => intro s out _ _ _; exact trivial
  | cons input inputs ih =>
    intro s out hinv hout hok
    obtain ⟨hinv', hsound⟩ := Cluster.step_sound hinv input hok.1
    have hreturned : (s.step input).1.handsOut k = true →
        statusIn s.committed k = some .queued ∧
          statusIn (s.step input).2.committed k = some .leased := by
      intro hk
      rw [StepReport.handsOut, Option.any_eq_true] at hk
      obtain ⟨job, hjob, hid⟩ := hk
      obtain rfl : job.jobId = k := by simpa using hid
      exact hsound.handed job hjob
    refine ⟨fun hk ↦ ?_, ih hinv' (fun hout' hq ↦ ?_) hok.2⟩
    · rw [Bool.eq_false_iff]
      exact fun ho ↦ hout ho (hreturned hk).1
    · rcases (Bool.or_eq_true _ _).mp hout' with hk | hk
      · rw [(hreturned hk).2] at hq
        exact absurd hq (by simp)
      · rw [Bool.and_eq_true, Bool.not_eq_true'] at hk
        have hbefore := hout hk.1
        have hbecomes : (s.step input).1.becomesQueued k = true := by
          simp only [StepReport.becomesQueued, Bool.and_eq_true, decide_eq_true_eq]
          exact ⟨hq, hbefore⟩
        rw [hbecomes] at hk
        exact absurd hk.2 (by simp)

/-- No step of a run with fresh claims leases a completed job. -/
theorem not_relapses_run (k : String) {s : Cluster ι} (hinv : s.Inv)
    {inputs : List (ι × SqlAction)}
    (hok : Run.Along Cluster.step (fun s i ↦ claimsFresh s i = true) s inputs) :
    ∀ r ∈ reports s inputs, r.relapses k = false := by
  intro r hr
  obtain ⟨e, he, rfl⟩ := List.mem_map.mp hr
  refine Run.forall_mem_trace (P := Cluster.Inv)
    (Q := fun e : (ι × SqlAction) × StepReport ↦ e.2.relapses k = false)
    (fun s input hfresh hinv ↦ ?_) hok hinv e he
  obtain ⟨hinv', hsound⟩ := Cluster.step_sound hinv input hfresh
  refine ⟨hinv', ?_⟩
  rw [Bool.eq_false_iff]
  intro hrel
  simp only [StepReport.relapses, Bool.and_eq_true, decide_eq_true_eq] at hrel
  exact hsound.kept k hrel.1 hrel.2

end Runs

/-- **Fresh claims are exclusive.**  Any number of store instances, on a database with any table,
execute the statements of their calls in any order.  If every `UPDATE` of a claim finds its row
still queued, then every job is handed out at most once between two moments at which it becomes
queued, and no completed job is leased again. -/
theorem fresh_claims_exclusive (ι : Type) [DecidableEq ι] (t : JobTable)
    (inputs : List (ι × SqlAction))
    (hok : Run.Along Cluster.step (fun s i ↦ claimsFresh s i = true) (Cluster.init ι t) inputs)
    (k : String) :
    HandedOutOnce k false (reports (Cluster.init ι t) inputs) ∧
      ∀ r ∈ reports (Cluster.init ι t) inputs, r.relapses k = false :=
  ⟨handedOutOnce_run k (Cluster.init_inv t) (fun h ↦ absurd h (by simp)) hok,
    not_relapses_run k (Cluster.init_inv t) hok⟩

/-- A table with one queued job. -/
def oneQueued : JobTable := Dict.empty.setDefault "j"
  { jobId := "j", tenantId := "t", runId := "r", callId := "c", toolName := "n" }

/-- Two instances claim one after the other. -/
def sequentialClaims : List (Bool × SqlAction) :=
  [(true, .call (.claimNext 0 ⟨"t", "w1", 30, "a"⟩)), (true, .run), (true, .run), (true, .run),
    (true, .run), (true, .run), (false, .call (.claimNext 1 ⟨"t", "w2", 30, "b"⟩)), (false, .run),
    (false, .run), (false, .run)]

theorem fresh_claims_exclusive_sequential :
    (reports (Cluster.init Bool oneQueued) sequentialClaims).countP (StepReport.handsOut "j") = 1 ∧
      HandedOutOnce "j" false (reports (Cluster.init Bool oneQueued) sequentialClaims) :=
  ⟨by decide, (fresh_claims_exclusive Bool oneQueued sequentialClaims (by decide) "j").1⟩

/-- Both instances select the queued row before either of them updates it. -/
theorem claims_race :
    ¬HandedOutOnce "j" false (reports (Cluster.init Bool oneQueued)
      [(true, .call (.claimNext 0 ⟨"t", "w1", 30, "a"⟩)), (true, .run), (true, .run), (true, .run),
        (false, .call (.claimNext 0 ⟨"t", "w2", 30, "b"⟩)), (false, .run), (false, .run),
        (false, .run), (true, .run), (true, .run), (false, .run), (false, .run)]) := by
  decide

/-- One instance selects the row; the other claims the job and completes it; then the first one
leases the completed job. -/
example :
    (reports (Cluster.init Bool oneQueued)
      [(true, .call (.claimNext 0 ⟨"t", "w1", 30, "a"⟩)), (true, .run), (true, .run), (true, .run),
        (false, .call (.claimNext 0 ⟨"t", "w2", 30, "b"⟩)), (false, .run), (false, .run),
        (false, .run), (false, .run), (false, .run),
        (false, .call (.completeClaim 1 "j" "b")), (false, .run), (false, .run), (false, .run),
        (true, .run), (true, .run)]).any (StepReport.relapses "j") = true := by
  decide

end Byoc
end ExoBrain
