import ExoBrain.Lib.Dict
import ExoBrain.Lib.Journal
import ExoBrain.Lib.Run
import ExoBrain.Lib.SingleWriter

/-!
# Migrations

Whoever opens a store applies its migrations (`apply_sqlite_migrations`): it reads which ones the table
`schema_migrations` has, executes the statements of the others, and records each.  Nothing keeps two
processes from doing so at once, and either may end anywhere.  What holds the file together are the rules
of SQLite: the first statement that writes rows opens a transaction, the statements before it (they create
tables) are committed one by one, and while a transaction is open nobody else writes.

* `recorded_applied`: a migration that is recorded was applied, all of its statements in order, whatever
  was interrupted and however the starts overlap.
* `integrityError_iff`: a start that comes to record a migration fails exactly if another one has committed
  it since the start has read the table.
* `restart_completes`: once nobody holds a transaction, a start that is left alone executes the statements
  of the missing migrations, in order, and nothing else, and afterwards all are recorded.

The table is there from the beginning.  A lock that is waited for too long ends a start like anything
else that interrupts it.
-/

set_option autoImplicit false

namespace ExoBrain
namespace Persistence

open Journal (Lasting lasting_concat)

variable {α : Type}

/-- `SQLiteMigration`. -/
structure SQLiteMigration (α : Type) where
  migrationId : String
  statements : List α

/-- What SQLite makes of statements. -/
structure Sqlite (α : Type) where
  /-- The statement inserts, updates, deletes or replaces rows: `sqlite3` opens a transaction for it. -/
  isDml : α → Bool
  /-- The statement succeeds, after those that were executed. -/
  accepts : List α → α → Bool

/-- A database: the statements that made it, and `schema_migrations` with the times. -/
structure SchemaFile (α : Type) where
  executed : List α := []
  schemaMigrations : Dict String String := Dict.empty

instance : Preorder (SchemaFile α) where
  le d e := d.executed <+: e.executed ∧ ∀ id ∈ d.schemaMigrations.keys, id ∈ e.schemaMigrations.keys
  le_refl d := ⟨List.prefix_rfl, fun _ h ↦ h⟩
  le_trans _ _ _ h h' := ⟨h.1.trans h'.1, fun id hid ↦ h'.2 id (h.2 id hid)⟩

/-- What a start does after it has read the table. -/
inductive Operation (α : Type)
  | statement (statement : α)
  | record (migrationId : String)

/-- The loop of `apply_sqlite_migrations`, spelled out. -/
def operations (existing : List String) : List (SQLiteMigration α) → List (Operation α)
  | [] => []
  | migration :: migrations =>
    if migration.migrationId ∈ existing then operations existing migrations
    else migration.statements.map .statement ++
      .record migration.migrationId :: operations existing migrations

/-- How far a start is. -/
inductive StartPhase (α : Type)
  | opened (migrations : List (SQLiteMigration α))
  | applying (left : List (Operation α))
  | applied
  | failed

/-- The file, and the starts by their numbers. -/
structure MigrationState (α : Type) where
  file : SingleWriter Nat (SchemaFile α) := ⟨{}, none⟩
  starts : Dict Nat (StartPhase α) := Dict.empty

/-- What happens. -/
inductive MigrationEvent (α : Type)
  /-- The `n`-th start opens a connection. -/
  | start (n : Nat) (migrations : List (SQLiteMigration α))
  /-- It executes its next statement. -/
  | turn (n : Nat) (now : String)
  /-- It ends before it is done; its connection is closed. -/
  | interrupt (n : Nat)

/-- What comes of it. -/
inductive MigrationAnswer
  | opened
  | read (existing : List String)
  | done
  | committed (recorded : List String)
  | waits
  /-- SQLite refuses a statement. -/
  | operationalError
  /-- The migration is in the table. -/
  | integrityError (migrationId : String)
  | interrupted
  | nothing

namespace Sqlite

variable (Q : Sqlite α)

/-- One statement on what a start sees. -/
def perform (now : String) (d : SchemaFile α) : Operation α → Except MigrationAnswer (SchemaFile α)
  | .statement statement =>
    if Q.accepts d.executed statement then .ok { d with executed := d.executed ++ [statement] }
    else .error .operationalError
  | .record migrationId =>
    if migrationId ∈ d.schemaMigrations.keys then .error (.integrityError migrationId)
    else .ok { d with schemaMigrations := d.schemaMigrations.set migrationId now }

/-- An operation that opens a transaction. -/
def opensTransaction : Operation α → Bool
  | .statement statement => Q.isDml statement
  | .record _ => true

/-- A start executes an operation, or fails: then its connection is closed. -/
def operate (n : Nat) (now : String) (operation : Operation α) (left : List (Operation α))
    (s : MigrationState α) : MigrationAnswer × MigrationState α :=
  match Q.perform now (s.file.view n) operation with
  | .error answer => (answer, ⟨s.file.rollback n, s.starts.set n .failed⟩)
  | .ok d => (.done,
      ⟨if Q.opensTransaction operation then s.file.write n d else s.file.put n d,
        s.starts.set n (.applying left)⟩)

/-- The next statement of a start. -/
def turn (n : Nat) (now : String) (s : MigrationState α) : MigrationAnswer × MigrationState α :=
  match s.starts.get? n with
  | some (.opened migrations) =>
    let existing := (s.file.view n).schemaMigrations.keys
    (.read existing, { s with starts := s.starts.set n (.applying (operations existing migrations)) })
  | some (.applying (operation :: left)) =>
    if s.file.blocked n then (.waits, s) else Q.operate n now operation left s
  | some (.applying []) =>
    (.committed ((s.file.view n).schemaMigrations.keys.filter fun id ↦
        id ∉ s.file.committed.schemaMigrations.keys),
      ⟨s.file.commit n, s.starts.set n .applied⟩)
  | _ => (.nothing, s)

/-- One event. -/
def step (s : MigrationState α) : MigrationEvent α → MigrationAnswer × MigrationState α
  | .start n migrations =>
    if n ∈ s.starts.keys then (.nothing, s)
    else (.opened, { s with starts := s.starts.set n (.opened migrations) })
  | .turn n now => Q.turn n now s
  | .interrupt n =>
    match s.starts.get? n with
    | some (.opened _) | some (.applying _) =>
      (.interrupted, ⟨s.file.rollback n, s.starts.set n .failed⟩)
    | _ => (.nothing, s)

end Sqlite

/-! ## What a start executes -/

/-- The statements among some operations. -/
def statementsOf (ops : List (Operation α)) : List α :=
  ops.filterMap fun
    | .statement statement => some statement
    | .record _ => none

/-- The migrations that some operations record. -/
def recordsOf (ops : List (Operation α)) : List String :=
  ops.filterMap fun
    | .statement _ => none
    | .record migrationId => some migrationId

theorem statementsOf_append (ops ops' : List (Operation α)) :
    statementsOf (ops ++ ops') = statementsOf ops ++ statementsOf ops' :=
  List.filterMap_append

theorem recordsOf_append (ops ops' : List (Operation α)) :
    recordsOf (ops ++ ops') = recordsOf ops ++ recordsOf ops' :=
  List.filterMap_append

theorem statementsOf_map (statements : List α) :
    statementsOf (statements.map .statement) = statements := by
  rw [statementsOf, List.filterMap_map]
  exact List.filterMap_some

theorem recordsOf_map (statements : List α) : recordsOf (statements.map .statement) = [] := by
  rw [recordsOf, List.filterMap_map]
  exact List.filterMap_none statements

theorem operations_of_mem {existing : List String} {migration : SQLiteMigration α}
    (h : migration.migrationId ∈ existing) (migrations : List (SQLiteMigration α)) :
    operations existing (migration :: migrations) = operations existing migrations := by
  rw [operations, if_pos h]

theorem operations_of_not_mem {existing : List String} {migration : SQLiteMigration α}
    (h : migration.migrationId ∉ existing) (migrations : List (SQLiteMigration α)) :
    operations existing (migration :: migrations) = migration.statements.map .statement ++
      .record migration.migrationId :: operations existing migrations := by
  rw [operations, if_neg h]

theorem recordsOf_operations (existing : List String) (migrations : List (SQLiteMigration α)) :
    recordsOf (operations existing migrations) =
      (migrations.map SQLiteMigration.migrationId).filter fun id ↦ id ∉ existing := by
  induction migrations with
  | nil => rfl
  | cons migration migrations ih =>
    by_cases h : migration.migrationId ∈ existing
    · rw [operations_of_mem h, ih, List.map_cons, List.filter_cons_of_neg (by simpa using h)]
    · rw [operations_of_not_mem h, recordsOf_append, recordsOf_map, List.nil_append, List.map_cons,
        List.filter_cons_of_pos (by simpa using h), ← ih]
      rfl

/-- A migration is recorded right after its statements. -/
theorem statements_before_record {existing : List String} {migrations : List (SQLiteMigration α)}
    {earlier left : List (Operation α)} {id : String}
    (h : operations existing migrations = earlier ++ .record id :: left) :
    ∃ m ∈ migrations, m.migrationId = id ∧ m.statements.Sublist (statementsOf earlier) := by
  induction migrations generalizing earlier with
  | nil => exact absurd h.symm (List.append_ne_nil_of_right_ne_nil _ (List.cons_ne_nil _ _))
  | cons migration migrations ih =>
    by_cases hexisting : migration.migrationId ∈ existing
    · rw [operations_of_mem hexisting] at h
      obtain ⟨m, hm, hid, hsub⟩ := ih h
      exact ⟨m, List.mem_cons_of_mem _ hm, hid, hsub⟩
    · rw [operations_of_not_mem hexisting, List.append_eq_append_iff] at h
      rcases h with ⟨between, rfl, hrest⟩ | ⟨between, hstatements, hrest⟩
      · rw [statementsOf_append, statementsOf_map]
        cases between with
        | nil =>
          cases (List.cons.inj hrest).1
          exact ⟨migration, List.mem_cons_self, rfl, List.sublist_append_left _ _⟩
        | cons operation between =>
          obtain ⟨m, hm, hid, hsub⟩ := ih (List.cons.inj hrest).2
          cases (List.cons.inj hrest).1
          exact ⟨m, List.mem_cons_of_mem _ hm, hid, hsub.trans (List.sublist_append_right _ _)⟩
      · cases between with
        | nil =>
          cases (List.cons.inj hrest).1
          rw [List.append_nil] at hstatements
          exact ⟨migration, List.mem_cons_self, rfl, by rw [← hstatements, statementsOf_map]⟩
        | cons operation between =>
          cases (List.cons.inj hrest).1
          have hmem : Operation.record id ∈ migration.statements.map Operation.statement :=
            hstatements ▸ List.mem_append_right _ List.mem_cons_self
          obtain ⟨statement, -, heq⟩ := List.mem_map.mp hmem
          cases heq

/-! ## What an operation does -/

namespace Sqlite

variable {Q : Sqlite α} {now : String} {d e : SchemaFile α} {operation : Operation α}

theorem executed_of_perform (h : Q.perform now d operation = .ok e) :
    e.executed = d.executed ++ statementsOf [operation] := by
  cases operation with
  | statement statement =>
    rw [perform] at h
    split at h
    · cases h
      rfl
    · cases h
  | record id =>
    rw [perform] at h
    split at h
    · cases h
    · cases h
      exact (List.append_nil _).symm

theorem mem_keys_of_perform (h : Q.perform now d operation = .ok e) (id : String) :
    id ∈ e.schemaMigrations.keys ↔ id ∈ d.schemaMigrations.keys ∨ id ∈ recordsOf [operation] := by
  cases operation with
  | statement statement =>
    rw [perform] at h
    split at h
    · cases h
      exact (or_iff_left List.not_mem_nil).symm
    · cases h
  | record id' =>
    rw [perform] at h
    split at h
    · cases h
    · cases h
      exact Dict.mem_keys_set.trans (or_comm.trans (or_congr_right List.mem_singleton.symm))

theorem le_of_perform (h : Q.perform now d operation = .ok e) : d ≤ e :=
  ⟨⟨_, (executed_of_perform h).symm⟩, fun id hid ↦ (mem_keys_of_perform h id).mpr (.inl hid)⟩

end Sqlite

/-! ## What is recorded was applied -/

section

variable {P : SQLiteMigration α → Prop} {Q : Sqlite α} {d e : SchemaFile α} {s : MigrationState α}

/-- Every migration in the table was applied, all of its statements in order. -/
def Backed (P : SQLiteMigration α → Prop) (d : SchemaFile α) : Prop :=
  ∀ id ∈ d.schemaMigrations.keys, ∃ m, P m ∧ m.migrationId = id ∧ m.statements.Sublist d.executed

/-- What a start has done so far is in what it sees. -/
def Does (P : SQLiteMigration α → Prop) (d : SchemaFile α) : StartPhase α → Prop
  | .opened migrations => ∀ m ∈ migrations, P m
  | .applying left => ∃ existing migrations earlier, (∀ m ∈ migrations, P m) ∧
      operations existing migrations = earlier ++ left ∧ (statementsOf earlier).Sublist d.executed
  | .applied | .failed => True

theorem Does.mono {phase : StartPhase α} (h : Does P d phase) (hle : d ≤ e) : Does P e phase := by
  cases phase with
  | opened migrations => exact h
  | applying left =>
    obtain ⟨existing, migrations, earlier, hall, hoperations, hsub⟩ := h
    exact ⟨existing, migrations, earlier, hall, hoperations, hsub.trans hle.1.sublist⟩
  | applied => trivial
  | failed => trivial

/-- An operation that succeeds keeps both. -/
theorem backed_of_perform {operation : Operation α} {left : List (Operation α)} {now : String}
    (h : Q.perform now d operation = .ok e) (hbacked : Backed P d)
    (hdoes : Does P d (.applying (operation :: left))) : Backed P e ∧ Does P e (.applying left) := by
  obtain ⟨existing, migrations, earlier, hall, hoperations, hsub⟩ := hdoes
  have hle : d.executed.Sublist e.executed := (Sqlite.le_of_perform h).1.sublist
  refine ⟨fun id hid ↦ ?_, existing, migrations, earlier ++ [operation], hall, ?_, ?_⟩
  · rcases (Sqlite.mem_keys_of_perform h id).mp hid with hold | hnew
    · obtain ⟨m, hm, hmid, hstatements⟩ := hbacked id hold
      exact ⟨m, hm, hmid, hstatements.trans hle⟩
    · cases operation with
      | statement statement => cases hnew
      | record id' =>
        obtain rfl := List.mem_singleton.mp hnew
        obtain ⟨m, hm, hmid, hstatements⟩ := statements_before_record hoperations
        exact ⟨m, hall m hm, hmid, (hstatements.trans hsub).trans hle⟩
  · rw [hoperations, List.append_assoc, List.singleton_append]
  · rw [statementsOf_append, Sqlite.executed_of_perform h]
    exact hsub.append (List.Sublist.refl _)

/-- The file is in order, and so are the starts. -/
structure Sound (P : SQLiteMigration α → Prop) (s : MigrationState α) : Prop where
  ordered : s.file.Ordered
  backed : s.file.Holds (Backed P)
  does : ∀ n phase, s.starts.get? n = some phase → Does P (s.file.view n) phase

/-- One start goes on, and the others lose nothing of what they see. -/
theorem Sound.change {file : SingleWriter Nat (SchemaFile α)} {n : Nat} {phase : StartPhase α}
    (h : Sound P s) (hordered : file.Ordered) (hbacked : file.Holds (Backed P))
    (hself : Does P (file.view n) phase) (hothers : ∀ m, m ≠ n → s.file.view m ≤ file.view m) :
    Sound P ⟨file, s.starts.set n phase⟩ := by
  refine ⟨hordered, hbacked, fun m phase' hphase ↦ ?_⟩
  rw [Dict.get?_set] at hphase
  split at hphase
  · next heq =>
    cases hphase
    rwa [heq]
  · next hne => exact (h.does m phase' hphase).mono (hothers m hne)

theorem Sound.fail (h : Sound P s) (n : Nat) : Sound P ⟨s.file.rollback n, s.starts.set n .failed⟩ :=
  h.change (h.ordered.rollback n) (h.backed.rollback n) trivial
    fun _ hne ↦ (SingleWriter.view_rollback_of_ne hne).ge

theorem Sound.operate {n : Nat} {operation : Operation α} {left : List (Operation α)} (h : Sound P s)
    (hphase : s.starts.get? n = some (.applying (operation :: left)))
    (hfree : s.file.blocked n = false) (now : String) :
    Sound P (Q.operate n now operation left s).2 := by
  rw [Sqlite.operate]
  cases hperform : Q.perform now (s.file.view n) operation with
  | error answer => exact h.fail n
  | ok e =>
    obtain ⟨hbacked, hdoes⟩ := backed_of_perform hperform (h.backed.view n) (h.does n _ hphase)
    have hle := Sqlite.le_of_perform hperform
    dsimp only
    split
    · refine h.change (h.ordered.write hle) (h.backed.write hbacked) ?_ fun m hne ↦
        (SingleWriter.view_write_of_ne hfree hne).ge
      rwa [SingleWriter.view_write]
    · refine h.change (h.ordered.put hle) (h.backed.put hbacked) ?_ fun m hne ↦
        SingleWriter.le_view_put hfree hle hne
      rwa [SingleWriter.view_put hfree]

/-- **Every event keeps the file in order.**  What is opened is among `P`. -/
theorem sound_step (h : Sound P s) (event : MigrationEvent α)
    (hP : ∀ n migrations, event = .start n migrations → ∀ m ∈ migrations, P m) :
    Sound P (Q.step s event).2 := by
  cases event with
  | start n migrations =>
    rw [Sqlite.step]
    split
    · exact h
    · exact h.change h.ordered h.backed (hP n migrations rfl) fun _ _ ↦ le_rfl
  | turn n now =>
    rw [Sqlite.step, Sqlite.turn]
    cases hphase : s.starts.get? n with
    | none => exact h
    | some phase =>
      cases phase with
      | opened migrations =>
        refine h.change h.ordered h.backed ?_ fun _ _ ↦ le_rfl
        exact ⟨_, migrations, [], h.does n _ hphase, rfl, List.nil_sublist _⟩
      | applying left =>
        cases left with
        | nil =>
          exact h.change (h.ordered.commit n) (h.backed.commit n) trivial fun m hne ↦
            SingleWriter.le_view_commit h.ordered hne
        | cons operation left =>
          dsimp only
          split
          · exact h
          · next hfree => exact h.operate hphase (Bool.not_eq_true _ ▸ hfree) now
      | applied => exact h
      | failed => exact h
  | interrupt n =>
    rw [Sqlite.step]
    split
    · exact h.fail n
    · exact h.fail n
    · exact h

theorem sound_initial (P : SQLiteMigration α → Prop) : Sound P {} where
  ordered _ _ hwriter := by cases hwriter
  backed := ⟨fun _ hid ↦ absurd hid List.not_mem_nil, fun _ _ hwriter ↦ by cases hwriter⟩
  does _ _ hphase := by cases hphase

/-- **What is recorded was applied.**  However the starts overlap and whatever is interrupted: a migration
in the table is one of those that a start came with, and all of its statements were executed, in order. -/
theorem recorded_applied (Q : Sqlite α) (events : List (MigrationEvent α)) :
    let d := (Run.exec Q.step {} events).file.committed
    ∀ id ∈ d.schemaMigrations.keys, ∃ n migrations m, .start n migrations ∈ events ∧ m ∈ migrations ∧
      m.migrationId = id ∧ m.statements.Sublist d.executed := by
  intro d id hid
  have halong : Run.Along Q.step (fun _ event ↦ event ∈ events) {} events :=
    Run.along_of_forall_mem (fun _ hevent _ ↦ hevent) _
  have hsound : Sound (fun m ↦ ∃ n migrations, .start n migrations ∈ events ∧ m ∈ migrations)
      (Run.exec Q.step {} events) :=
    Run.exec_invariant (P := Sound _) (fun s event hevent h ↦ sound_step h event
      fun n migrations heq m hm ↦ ⟨n, migrations, heq ▸ hevent, hm⟩) halong (sound_initial _)
  obtain ⟨m, ⟨n, migrations, hevent, hm⟩, hmid, hstatements⟩ := hsound.backed.1 id hid
  exact ⟨n, migrations, m, hevent, hm, hmid, hstatements⟩

end

/-- The migration of the audit events. -/
def auditMigration : SQLiteMigration String := ⟨"audit_events.v1", ["CREATE TABLE audit_events"]⟩

/-- An SQLite that accepts everything. -/
def lenientSqlite : Sqlite String where
  isDml statement := statement = "INSERT"
  accepts _ _ := true

/-- Two starts read the table before either records the migration. -/
def overlappingStarts : List (MigrationEvent String) :=
  [.start 0 [auditMigration], .start 1 [auditMigration], .turn 0 "1", .turn 1 "1", .turn 0 "2",
    .turn 1 "2", .turn 0 "3", .turn 0 "4"]

theorem recorded_applied_overlapping :
    ∃ n migrations m, .start n migrations ∈ overlappingStarts ∧ m ∈ migrations ∧
      m.migrationId = "audit_events.v1" ∧ m.statements.Sublist
        (Run.exec lenientSqlite.step {} overlappingStarts).file.committed.executed :=
  recorded_applied lenientSqlite overlappingStarts "audit_events.v1" (by decide)

/-! ## Which starts fail -/

/-- A start commits a migration. -/
def Commits (id : String) : MigrationEvent α × MigrationAnswer → Prop
  | (_, .committed recorded) => id ∈ recorded
  | _ => False

/-- A start reads the table. -/
def Reads (n : Nat) : MigrationEvent α × MigrationAnswer → Prop
  | (.turn m _, .read _) => m = n
  | _ => False

section

variable {Q : Sqlite α} {s : MigrationState α} {history : List (MigrationEvent α × MigrationAnswer)}

/-- An answer that is neither. -/
theorem lasting_concat_of_quiet {n : Nat} {id : String} {entry : MigrationEvent α × MigrationAnswer}
    (hcommits : ¬Commits id entry) (hreads : ¬Reads n entry) :
    Lasting (Commits id) (Reads n) (history ++ [entry]) ↔ Lasting (Commits id) (Reads n) history := by
  rw [lasting_concat, or_iff_right hcommits, and_iff_left hreads]

/-- What a start can know about the migrations that it has still to record: those in the table were
committed since it has read it. -/
def Knows (n : Nat) (d : SchemaFile α) (history : List (MigrationEvent α × MigrationAnswer)) :
    StartPhase α → Prop
  | .opened migrations => (migrations.map SQLiteMigration.migrationId).Nodup
  | .applying left => (recordsOf left).Nodup ∧ ∀ id ∈ recordsOf left,
      id ∈ d.schemaMigrations.keys ↔ Lasting (Commits id) (Reads n) history
  | .applied | .failed => True

/-- An answer that is no commit, for a start that sees the same migrations. -/
theorem Knows.quiet {n : Nat} {d e : SchemaFile α} {phase : StartPhase α}
    {entry : MigrationEvent α × MigrationAnswer} (h : Knows n d history phase)
    (hcommits : ∀ id, ¬Commits id entry) (hreads : ¬Reads n entry)
    (hsame : ∀ id, id ∈ e.schemaMigrations.keys ↔ id ∈ d.schemaMigrations.keys) :
    Knows n e (history ++ [entry]) phase := by
  cases phase with
  | opened migrations => exact h
  | applying left =>
    refine ⟨h.1, fun id hid ↦ ?_⟩
    rw [hsame, h.2 id hid, lasting_concat_of_quiet (hcommits id) hreads]
  | applied => trivial
  | failed => trivial

/-- Another start commits. -/
theorem Knows.committed {n k : Nat} {now : String} {recorded : List String} {d e : SchemaFile α}
    {phase : StartPhase α} (h : Knows n d history phase)
    (hkeys : ∀ id, id ∈ e.schemaMigrations.keys ↔ id ∈ d.schemaMigrations.keys ∨ id ∈ recorded) :
    Knows n e (history ++ [(.turn k now, .committed recorded)]) phase := by
  cases phase with
  | opened migrations => exact h
  | applying left =>
    refine ⟨h.1, fun id hid ↦ ?_⟩
    have hreads : ¬Reads n ((.turn k now, .committed recorded) : MigrationEvent α × _) := fun hreads ↦ hreads
    rw [hkeys, h.2 id hid, lasting_concat, or_comm, and_iff_left hreads]
    exact Iff.rfl
  | applied => trivial
  | failed => trivial

/-- What the others see when a start commits. -/
theorem mem_keys_view_commit (hordered : s.file.Ordered) {n m : Nat} (hne : m ≠ n) (id : String) :
    id ∈ ((s.file.commit n).view m).schemaMigrations.keys ↔
      id ∈ (s.file.view m).schemaMigrations.keys ∨
        id ∈ (s.file.view n).schemaMigrations.keys.filter fun id ↦
          id ∉ s.file.committed.schemaMigrations.keys := by
  rw [List.mem_filter, decide_eq_true_eq, SingleWriter.commit, SingleWriter.view_of_ended hne]
  have hview := (hordered.le_view n).2 id
  cases hwriter : s.file.writer with
  | none =>
    rw [SingleWriter.view_of_none hwriter, SingleWriter.view_of_none hwriter]
    exact (or_iff_left fun h ↦ h.2 h.1).symm
  | some t =>
    obtain ⟨k, d⟩ := t
    by_cases hk : k = m
    · subst hk
      dsimp only
      rw [if_pos rfl, SingleWriter.view_of_owner hwriter, SingleWriter.view_of_other hwriter hne.symm]
      exact (or_iff_left fun h ↦ h.2 h.1).symm
    · dsimp only
      rw [if_neg hk, SingleWriter.view_of_other hwriter (Ne.symm hk)]
      by_cases hcommitted : id ∈ s.file.committed.schemaMigrations.keys
      · exact iff_of_true (hview hcommitted) (.inl hcommitted)
      · rw [or_iff_right hcommitted, and_iff_left hcommitted]

/-- The starts and what they know. -/
structure Informed (history : List (MigrationEvent α × MigrationAnswer)) (s : MigrationState α) :
    Prop where
  ordered : s.file.Ordered
  knows : ∀ n phase, s.starts.get? n = some phase → Knows n (s.file.view n) history phase

theorem Informed.change {file : SingleWriter Nat (SchemaFile α)} {n : Nat} {phase : StartPhase α}
    {entry : MigrationEvent α × MigrationAnswer} (h : Informed history s) (hordered : file.Ordered)
    (hself : Knows n (file.view n) (history ++ [entry]) phase)
    (hothers : ∀ m phase, m ≠ n → Knows m (s.file.view m) history phase →
      Knows m (file.view m) (history ++ [entry]) phase) :
    Informed (history ++ [entry]) ⟨file, s.starts.set n phase⟩ := by
  refine ⟨hordered, fun m phase' hphase ↦ ?_⟩
  rw [Dict.get?_set] at hphase
  split at hphase
  · next heq =>
    cases hphase
    rwa [heq]
  · next hne => exact hothers m phase' hne (h.knows m phase' hphase)

/-- Nothing happens. -/
theorem Informed.idle {entry : MigrationEvent α × MigrationAnswer} (h : Informed history s)
    (hcommits : ∀ id, ¬Commits id entry) (hreads : ∀ n, ¬Reads n entry) :
    Informed (history ++ [entry]) s :=
  ⟨h.ordered, fun n phase hphase ↦ (h.knows n phase hphase).quiet hcommits (hreads n) fun _ ↦ Iff.rfl⟩

theorem Informed.fail {entry : MigrationEvent α × MigrationAnswer} (h : Informed history s) (n : Nat)
    (hcommits : ∀ id, ¬Commits id entry) (hreads : ∀ n, ¬Reads n entry) :
    Informed (history ++ [entry]) ⟨s.file.rollback n, s.starts.set n .failed⟩ :=
  h.change (h.ordered.rollback n) trivial fun m _ hne hknows ↦
    hknows.quiet hcommits (hreads m) fun _ ↦ by rw [SingleWriter.view_rollback_of_ne hne]

/-- A write of a start, for itself. -/
theorem knows_of_perform {n : Nat} {now : String} {d e : SchemaFile α} {operation : Operation α}
    {left : List (Operation α)} (hperform : Q.perform now d operation = .ok e)
    (h : Knows n d history (.applying (operation :: left))) :
    Knows n e (history ++ [(.turn n now, .done)]) (.applying left) := by
  have hrecords : recordsOf (operation :: left) = recordsOf [operation] ++ recordsOf left :=
    recordsOf_append [operation] left
  rw [Knows, hrecords] at h
  obtain ⟨-, hnodup, hdisjoint⟩ := List.nodup_append.mp h.1
  refine ⟨hnodup, fun id hid ↦ ?_⟩
  have hnew : id ∉ recordsOf [operation] := fun hmem ↦ hdisjoint id hmem id hid rfl
  rw [Sqlite.mem_keys_of_perform hperform, or_iff_left hnew, h.2 id (List.mem_append_right _ hid)]
  have hcommits : ¬Commits id ((.turn n now, .done) : MigrationEvent α × _) := fun hcommits ↦ hcommits
  have hreads : ¬Reads n ((.turn n now, .done) : MigrationEvent α × _) := fun hreads ↦ hreads
  exact (lasting_concat_of_quiet hcommits hreads).symm

/-- A write of a start that opens no transaction changes nothing in the table. -/
theorem mem_keys_of_not_opens {now : String} {d e : SchemaFile α} {operation : Operation α}
    (hperform : Q.perform now d operation = .ok e) (h : ¬Q.opensTransaction operation = true)
    (id : String) : id ∈ e.schemaMigrations.keys ↔ id ∈ d.schemaMigrations.keys := by
  cases operation with
  | statement statement =>
    exact (Sqlite.mem_keys_of_perform hperform id).trans (or_iff_left List.not_mem_nil)
  | record id' => exact absurd rfl h

theorem Informed.operate {n : Nat} {operation : Operation α} {left : List (Operation α)}
    (h : Informed history s) (hphase : s.starts.get? n = some (.applying (operation :: left)))
    (hfree : s.file.blocked n = false) (now : String) :
    Informed (history ++ [(.turn n now, (Q.operate n now operation left s).1)])
      (Q.operate n now operation left s).2 := by
  rw [Sqlite.operate]
  cases hperform : Q.perform now (s.file.view n) operation with
  | error answer =>
    have hanswer : answer = .operationalError ∨ ∃ id, answer = .integrityError id := by
      cases operation with
      | statement statement =>
        rw [Sqlite.perform] at hperform
        split at hperform <;> cases hperform
        exact .inl rfl
      | record id =>
        rw [Sqlite.perform] at hperform
        split at hperform <;> cases hperform
        exact .inr ⟨id, rfl⟩
    rcases hanswer with rfl | ⟨id, rfl⟩ <;>
      exact h.fail n (fun _ hcommits ↦ hcommits) fun _ hreads ↦ hreads
  | ok e =>
    have hknows := knows_of_perform hperform (h.knows n _ hphase)
    have hle := Sqlite.le_of_perform hperform
    dsimp only
    split
    · refine h.change (h.ordered.write hle) (by rwa [SingleWriter.view_write]) fun m _ hne hother ↦
        hother.quiet (fun _ hcommits ↦ hcommits) (fun hreads ↦ hreads) fun _ ↦ ?_
      rw [SingleWriter.view_write_of_ne hfree hne]
    · next hopens =>
      refine h.change (h.ordered.put hle) (by rwa [SingleWriter.view_put hfree]) fun m _ hne hother ↦
        hother.quiet (fun _ hcommits ↦ hcommits) (fun hreads ↦ hreads) fun id ↦ ?_
      have hsame := mem_keys_of_not_opens hperform hopens id
      rcases SingleWriter.owner_of_free hfree with hnone | ⟨d, howner⟩
      · rw [SingleWriter.put_of_none hnone, SingleWriter.view_of_none rfl,
          SingleWriter.view_of_none hnone]
        rwa [SingleWriter.view_of_none hnone] at hsame
      · rw [SingleWriter.put_of_owner howner, SingleWriter.view_write_of_ne hfree hne]

/-- **Every event keeps the starts informed**, if no start names a migration twice. -/
theorem informed_step (h : Informed history s) (event : MigrationEvent α)
    (hdistinct : ∀ n migrations, event = .start n migrations →
      (migrations.map SQLiteMigration.migrationId).Nodup) :
    Informed (history ++ [(event, (Q.step s event).1)]) (Q.step s event).2 := by
  cases event with
  | start n migrations =>
    rw [Sqlite.step]
    split
    · exact h.idle (fun _ hcommits ↦ hcommits) fun _ hreads ↦ hreads
    · exact h.change h.ordered (hdistinct n migrations rfl) fun m _ _ hother ↦
        hother.quiet (fun _ hcommits ↦ hcommits) (fun hreads ↦ hreads) fun _ ↦ Iff.rfl
  | turn n now =>
    rw [Sqlite.step, Sqlite.turn]
    cases hphase : s.starts.get? n with
    | none => exact h.idle (fun _ hcommits ↦ hcommits) fun _ hreads ↦ hreads
    | some phase =>
      cases phase with
      | opened migrations =>
        refine h.change h.ordered ?_ fun m _ hne hother ↦
          hother.quiet (fun _ hcommits ↦ hcommits) (fun hreads ↦ hne hreads.symm) fun _ ↦ Iff.rfl
        rw [Knows, recordsOf_operations]
        refine ⟨(h.knows n _ hphase).filter _, fun id hid ↦ iff_of_false ?_ fun hlasting ↦ ?_⟩
        · simpa using (List.mem_filter.mp hid).2
        · rcases lasting_concat.mp hlasting with hcommits | ⟨-, hreads⟩
          · exact hcommits
          · exact hreads rfl
      | applying left =>
        cases left with
        | nil =>
          exact h.change (h.ordered.commit n) trivial fun m _ hne hother ↦
            hother.committed fun id ↦ mem_keys_view_commit h.ordered hne id
        | cons operation left =>
          dsimp only
          split
          · exact h.idle (fun _ hcommits ↦ hcommits) fun _ hreads ↦ hreads
          · next hfree => exact h.operate hphase (Bool.not_eq_true _ ▸ hfree) now
      | applied => exact h.idle (fun _ hcommits ↦ hcommits) fun _ hreads ↦ hreads
      | failed => exact h.idle (fun _ hcommits ↦ hcommits) fun _ hreads ↦ hreads
  | interrupt n =>
    rw [Sqlite.step]
    split
    · exact h.fail n (fun _ hcommits ↦ hcommits) fun _ hreads ↦ hreads
    · exact h.fail n (fun _ hcommits ↦ hcommits) fun _ hreads ↦ hreads
    · exact h.idle (fun _ hcommits ↦ hcommits) fun _ hreads ↦ hreads

theorem informed_initial : Informed [] ({} : MigrationState α) where
  ordered _ _ hwriter := by cases hwriter
  knows _ _ hphase := by cases hphase

/-- A turn fails on a record exactly if the start comes to it, can write, and sees it in the table. -/
theorem turn_eq_integrityError {n : Nat} {now id : String} :
    (Q.turn n now s).1 = .integrityError id ↔
      (∃ left, s.starts.get? n = some (.applying (.record id :: left))) ∧ s.file.blocked n = false ∧
        id ∈ (s.file.view n).schemaMigrations.keys := by
  constructor
  · intro h
    rw [Sqlite.turn] at h
    split at h
    · cases h
    · next operation left hphase =>
      split at h
      · cases h
      · next hfree =>
        cases operation with
        | statement statement =>
          rw [Sqlite.operate, Sqlite.perform] at h
          split at h
          · next heq =>
            split at heq <;> cases heq
            cases h
          · cases h
        | record id' =>
          rw [Sqlite.operate, Sqlite.perform] at h
          split at h
          · next heq =>
            split at heq <;> cases heq
            next hmem =>
            cases h
            exact ⟨⟨left, hphase⟩, Bool.not_eq_true _ ▸ hfree, hmem⟩
          · cases h
    · cases h
    · cases h
  · rintro ⟨⟨left, hphase⟩, hfree, hmem⟩
    rw [Sqlite.turn, hphase]
    dsimp only
    rw [hfree, if_neg Bool.false_ne_true, Sqlite.operate, Sqlite.perform, if_pos hmem]

/-- **Which starts fail.**  In every run in which no start names a migration twice: a start that comes to
record a migration, and is not kept waiting, fails exactly if another one has committed the migration
since the start has read the table. -/
theorem integrityError_iff (Q : Sqlite α) (events : List (MigrationEvent α))
    (hdistinct : ∀ n migrations, .start n migrations ∈ events →
      (migrations.map SQLiteMigration.migrationId).Nodup) (n : Nat) (now id : String) :
    let s := Run.exec Q.step {} events
    (Q.turn n now s).1 = .integrityError id ↔
      (∃ left, s.starts.get? n = some (.applying (.record id :: left))) ∧ s.file.blocked n = false ∧
        Lasting (Commits id) (Reads n) (Run.trace Q.step {} events) := by
  intro s
  have halong : Run.Along Q.step (fun _ event ↦ event ∈ events) {} events :=
    Run.along_of_forall_mem (fun _ hevent _ ↦ hevent) _
  have hinformed : Informed (Run.trace Q.step {} events) s :=
    Run.trace_invariant (h := []) (P := Informed) (fun history s event hevent h ↦
      informed_step h event fun n migrations heq ↦ hdistinct n migrations (heq ▸ hevent)) halong
      informed_initial
  rw [turn_eq_integrityError]
  refine and_congr_right fun ⟨left, hphase⟩ ↦ and_congr_right fun _ ↦ ?_
  exact (hinformed.knows n _ hphase).2 id List.mem_cons_self

/-- Of the overlapping starts, the second one fails. -/
theorem integrityError_iff_overlapping :
    (lenientSqlite.turn 1 "5" (Run.exec lenientSqlite.step {} overlappingStarts)).1 =
      .integrityError "audit_events.v1" := by
  refine (integrityError_iff lenientSqlite overlappingStarts (fun n migrations h ↦ ?_) 1 "5" _).mpr
    ⟨⟨[], rfl⟩, rfl, ?_⟩
  · rw [overlappingStarts] at h
    simp only [List.mem_cons, MigrationEvent.start.injEq, reduceCtorEq, List.not_mem_nil, or_false] at h
    rcases h with ⟨-, rfl⟩ | ⟨-, rfl⟩ <;> exact List.nodup_singleton _
  · exact ⟨(Run.trace lenientSqlite.step {} overlappingStarts).take 7, _, [], rfl,
      List.mem_singleton_self _, fun _ h ↦ absurd h List.not_mem_nil⟩

end

/-! ## A start that is left alone -/

section

variable {Q : Sqlite α} {s : MigrationState α}

/-- SQLite accepts some statements, one after the other. -/
def Sqlite.AcceptsAll (Q : Sqlite α) (executed : List α) : List α → Prop
  | [] => True
  | statement :: statements =>
    Q.accepts executed statement = true ∧ Q.AcceptsAll (executed ++ [statement]) statements

/-- A start that can write, and what is left to do for it. -/
structure Alone (n : Nat) (left : List (Operation α)) (s : MigrationState α) : Prop where
  phase : s.starts.get? n = some (.applying left)
  free : s.file.blocked n = false

/-- An operation that succeeds. -/
theorem Alone.turn {n : Nat} {operation : Operation α} {left : List (Operation α)} {now : String}
    {e : SchemaFile α} (h : Alone n (operation :: left) s)
    (hperform : Q.perform now (s.file.view n) operation = .ok e) :
    Alone n left (Q.turn n now s).2 ∧ (Q.turn n now s).2.file.view n = e := by
  have hturn : Q.turn n now s = (.done,
      ⟨if Q.opensTransaction operation then s.file.write n e else s.file.put n e,
        s.starts.set n (.applying left)⟩) := by
    rw [Sqlite.turn, h.phase]
    dsimp only
    rw [h.free, if_neg Bool.false_ne_true, Sqlite.operate, hperform]
  rw [hturn]
  refine ⟨⟨(Dict.get?_set _ _ _ _).trans (if_pos rfl), ?_⟩, ?_⟩
  · dsimp only
    split
    · exact SingleWriter.blocked_write n e s.file
    · exact SingleWriter.blocked_put h.free
  · dsimp only
    split
    · exact SingleWriter.view_write n e s.file
    · exact SingleWriter.view_put h.free

/-- All that is left succeeds. -/
theorem Alone.turns {n : Nat} {left : List (Operation α)} (h : Alone n left s)
    (haccepts : Q.AcceptsAll (s.file.view n).executed (statementsOf left))
    (hnodup : (recordsOf left).Nodup)
    (hfresh : ∀ id ∈ recordsOf left, id ∉ (s.file.view n).schemaMigrations.keys)
    {times : List String} (hlength : times.length = left.length) :
    let s' := Run.exec Q.step s (times.map (.turn n))
    Alone n [] s' ∧ (s'.file.view n).executed = (s.file.view n).executed ++ statementsOf left ∧
      ∀ id, id ∈ (s'.file.view n).schemaMigrations.keys ↔
        id ∈ (s.file.view n).schemaMigrations.keys ∨ id ∈ recordsOf left := by
  induction left generalizing s times with
  | nil =>
    rw [List.eq_nil_of_length_eq_zero hlength]
    exact ⟨h, (List.append_nil _).symm, fun id ↦ (or_iff_left List.not_mem_nil).symm⟩
  | cons operation left ih =>
    obtain ⟨now, times, rfl⟩ := List.exists_cons_of_length_eq_add_one hlength
    have hstatements := statementsOf_append [operation] left
    have hrecords := recordsOf_append [operation] left
    rw [List.singleton_append] at hstatements hrecords
    rw [hrecords] at hnodup hfresh ⊢
    rw [hstatements] at haccepts ⊢
    obtain ⟨-, hnodup', hdisjoint⟩ := List.nodup_append.mp hnodup
    obtain ⟨e, hperform, haccepts'⟩ : ∃ e, Q.perform now (s.file.view n) operation = .ok e ∧
        Q.AcceptsAll e.executed (statementsOf left) := by
      cases operation with
      | statement statement =>
        refine ⟨{ s.file.view n with executed := (s.file.view n).executed ++ [statement] },
          if_pos haccepts.1, haccepts.2⟩
      | record id =>
        exact ⟨_, if_neg (hfresh id (List.mem_append_left _ List.mem_cons_self)), haccepts⟩
    have hexecuted := Sqlite.executed_of_perform hperform
    have hkeys := Sqlite.mem_keys_of_perform hperform
    have hfresh' : ∀ id ∈ recordsOf left, id ∉ e.schemaMigrations.keys := by
      intro id hid hmem
      rcases (hkeys id).mp hmem with hold | hnew
      · exact hfresh id (List.mem_append_right _ hid) hold
      · exact hdisjoint id hnew id hid rfl
    obtain ⟨hnext, rfl⟩ := h.turn hperform
    obtain ⟨hdone, hexecuted', hkeys'⟩ := ih hnext haccepts' hnodup' hfresh' (Nat.succ.inj hlength)
    refine ⟨hdone, hexecuted'.trans ?_, fun id ↦ (hkeys' id).trans ?_⟩
    · rw [hexecuted, List.append_assoc]
    · rw [hkeys, List.mem_append, or_assoc]

/-- A start that has opened its connection while nobody holds a transaction. -/
theorem opened_completes {n : Nat} {migrations : List (SQLiteMigration α)} {times : List String}
    (hphase : s.starts.get? n = some (.opened migrations)) (hquiet : s.file.writer = none)
    (hdistinct : (migrations.map SQLiteMigration.migrationId).Nodup) :
    let d := s.file.committed
    let missing := operations d.schemaMigrations.keys migrations
    Q.AcceptsAll d.executed (statementsOf missing) → times.length = missing.length + 2 →
      let s' := Run.exec Q.step s (times.map (.turn n))
      s'.starts.get? n = some .applied ∧ s'.file.writer = none ∧
        s'.file.committed.executed = d.executed ++ statementsOf missing ∧
        ∀ id, id ∈ s'.file.committed.schemaMigrations.keys ↔
          id ∈ d.schemaMigrations.keys ∨ ∃ m ∈ migrations, m.migrationId = id := by
  intro d missing haccepts hlength s'
  obtain ⟨first, rest, rfl⟩ := List.exists_cons_of_length_eq_add_one hlength
  obtain ⟨between, last, rfl⟩ : ∃ between last, rest = between ++ [last] := by
    rcases List.eq_nil_or_concat rest with rfl | ⟨between, last, heq⟩
    · cases hlength
    · exact ⟨between, last, heq.trans List.concat_eq_append⟩
  have hbetween : between.length = missing.length := by simpa using hlength
  have hview : s.file.view n = d := SingleWriter.view_of_none hquiet n
  -- The first statement reads the table.
  obtain ⟨r, hr⟩ : ∃ r : MigrationState α, r = ⟨s.file, s.starts.set n (.applying missing)⟩ := ⟨_, rfl⟩
  have hread : (Q.step s (.turn n first)).2 = r := by
    rw [Sqlite.step, Sqlite.turn, hphase, hr]
    dsimp only
    rw [hview]
  have halone : Alone n missing r := by
    refine ⟨by rw [hr]; exact (Dict.get?_set _ _ _ _).trans (if_pos rfl), ?_⟩
    rw [hr, SingleWriter.blocked, hquiet]
    rfl
  have hfile : r.file.view n = d := by rwa [hr]
  have hrecords : recordsOf missing =
      (migrations.map SQLiteMigration.migrationId).filter fun id ↦ id ∉ d.schemaMigrations.keys :=
    recordsOf_operations _ _
  have hfresh : ∀ id ∈ recordsOf missing, id ∉ (r.file.view n).schemaMigrations.keys := by
    intro id hid
    rw [hrecords, List.mem_filter, decide_eq_true_eq] at hid
    rw [hfile]
    exact hid.2
  -- What is left are the operations of the missing migrations.
  obtain ⟨hdone, hexecuted, hkeys⟩ :=
    halone.turns (hfile ▸ haccepts) (hrecords ▸ hdistinct.filter _) hfresh hbetween
  rw [hfile] at hexecuted hkeys
  -- The last statement commits them.
  have hexec : s' = (Q.step (Run.exec Q.step r (between.map (.turn n))) (.turn n last)).2 := by
    have hsplit : (first :: (between ++ [last])).map (.turn n : String → MigrationEvent α) =
        .turn n first :: (between.map (.turn n) ++ [.turn n last]) := by
      rw [List.map_cons, List.map_append]
      rfl
    refine (congrArg (Run.exec Q.step s) hsplit).trans ?_
    rw [Run.exec, hread, Run.exec_append]
    rfl
  rw [hexec, Sqlite.step, Sqlite.turn, hdone.phase]
  refine ⟨(Dict.get?_set _ _ _ _).trans (if_pos rfl), ?_, hexecuted, fun id ↦ (hkeys id).trans ?_⟩
  · dsimp only
    rw [SingleWriter.commit]
    rcases SingleWriter.owner_of_free hdone.free with hnone | ⟨e, howner⟩
    · rw [hnone]
      rfl
    · rw [howner]
      exact if_neg (by simp)
  · rw [hrecords, List.mem_filter, List.mem_map, decide_eq_true_eq]
    by_cases hid : id ∈ d.schemaMigrations.keys
    · exact iff_of_true (.inl hid) (.inl hid)
    · rw [and_iff_left hid]

/-- **A start that is left alone completes.**  Whatever has happened before: once nobody holds a
transaction, a new start whose statements are accepted executes those of the migrations that are not in
the table, in order, and nothing else, and then these are in the table, too. -/
theorem restart_completes (Q : Sqlite α) (events : List (MigrationEvent α)) (n : Nat)
    (migrations : List (SQLiteMigration α)) (times : List String)
    (hnew : n ∉ (Run.exec Q.step {} events).starts.keys)
    (hquiet : (Run.exec Q.step {} events).file.writer = none)
    (hdistinct : (migrations.map SQLiteMigration.migrationId).Nodup) :
    let d := (Run.exec Q.step {} events).file.committed
    let missing := operations d.schemaMigrations.keys migrations
    Q.AcceptsAll d.executed (statementsOf missing) → times.length = missing.length + 2 →
      let s' := Run.exec Q.step {} (events ++ .start n migrations :: times.map (.turn n))
      s'.starts.get? n = some .applied ∧ s'.file.writer = none ∧
        s'.file.committed.executed = d.executed ++ statementsOf missing ∧
        ∀ id, id ∈ s'.file.committed.schemaMigrations.keys ↔
          id ∈ d.schemaMigrations.keys ∨ ∃ m ∈ migrations, m.migrationId = id := by
  intro d missing haccepts hlength
  rw [Run.exec_append, Run.exec, Sqlite.step, if_neg hnew]
  exact opened_completes ((Dict.get?_set _ _ _ _).trans (if_pos rfl)) hquiet hdistinct haccepts hlength

/-- A start that ends after it has created its table. -/
def crashedStart : List (MigrationEvent String) :=
  [.start 0 [auditMigration], .turn 0 "1", .turn 0 "2", .interrupt 0]

theorem restart_completes_crashed :
    (Run.exec lenientSqlite.step {} (crashedStart ++ .start 1 [auditMigration] ::
      ["3", "4", "5", "6"].map (.turn 1))).file.committed.executed =
        ["CREATE TABLE audit_events", "CREATE TABLE audit_events"] := by
  have hcompletes := restart_completes lenientSqlite crashedStart 1 [auditMigration]
    ["3", "4", "5", "6"] (by decide) rfl (List.nodup_singleton _) ⟨rfl, trivial⟩ rfl
  exact hcompletes.2.2.1.trans rfl

end

end Persistence
end ExoBrain
