import ExoBrain.Lib.Checks
import ExoBrain.Lib.Raising
import ExoBrain.Lib.Value

/-!
# Decorators of handlers

In its own process the runtime does not call the handler of a tool as it is.  It is wrapped in five
decorators (`decorators.py`): two that refuse a call, one that calls it again when it raises, one
that reports to a sink, and one that redacts what it returns.  A handler and a sink may do anything
to a state of their own, and may raise.

* `HasArguments`, `Authorized` and `Redacted` are what three of the decorators see to.
* `yields_applyExecutionDecorators`: whatever the handler does, a value that comes out of all five
  is one that the three let pass.
-/

set_option autoImplicit false

namespace ExoBrain
namespace Tools

open Raising Raising.Comp

/-! ## Handlers -/

/-- An exception, with its text `str(exc)`. -/
inductive Raised
  | keyError (text : String)
  /-- An exception of another class. -/
  | exception (text : String)
deriving DecidableEq, Repr

/-- `str(exc)`. -/
def Raised.text : Raised → String
  | keyError text => text
  | exception text => text

/-- The keyword arguments of a call. -/
abbrev Arguments := List (String × Value)

/-- `ToolHandler`. -/
abbrev ToolHandler (σ : Type) := Arguments → Comp σ Raised Value

/-- What is reported of a call. -/
structure AuditEvent where
  event : String
  message : Option String := none
deriving DecidableEq, Repr

/-- `AuditSink`. -/
abbrev AuditSink (σ : Type) := AuditEvent → Comp σ Raised Unit

/-- `key in entries`, for a dictionary.  A key that has no hash raises a `TypeError`. -/
def hasKey (key : Value) (entries : Arguments) : Except Raised Bool :=
  match key with
  | .str s => .ok (Value.lookup s entries).isSome
  | .list _ | .dict _ => .error (.exception ("unhashable type: '" ++ key.typeName ++ "'"))
  | _ => .ok false

/-! ## The decorators -/

/-- `[name for name in required_args if name not in kwargs]`. -/
def missingArgs : (requiredArgs : List Value) → (kwargs : Arguments) → Except Raised (List Value)
  | [], _ => .ok []
  | name :: requiredArgs, kwargs => do
    let found ← hasKey name kwargs
    let missing ← missingArgs requiredArgs kwargs
    return if found then missing else name :: missing

section Decorators

variable {σ : Type}

/-- `validation`. -/
def validation (isPrintable : Char → Bool) (requiredArgs : List Value) (fn : ToolHandler σ) :
    ToolHandler σ := fun kwargs ↦ do
  match ← ofExcept (missingArgs requiredArgs kwargs) with
  | [] => fn kwargs
  | missing => raise (.exception ("Missing required arguments: " ++
      (Value.list missing).repr isPrintable))

/-- `authz`. -/
def authz (allowStateChanging isStateChangingCall : Bool) (fn : ToolHandler σ) : ToolHandler σ :=
  fun kwargs ↦
    if isStateChangingCall = true ∧ allowStateChanging = false then
      raise (.exception "State-changing execution is not authorized for this tool")
    else fn kwargs

/-- `retries`. -/
def retries (maxAttempts : Int) (fn : ToolHandler σ) : ToolHandler σ := fun kwargs ↦
  attempts (fn kwargs) ((max 1 maxAttempts).toNat - 1)

/-- Report to the sink, if there is one. -/
def report (auditSink : Option (AuditSink σ)) (event : AuditEvent) : Comp σ Raised Unit :=
  match auditSink with
  | none => pure ()
  | some sink => sink event

/-- `audit_logging`.  The sink may raise, also after the handler has returned. -/
def auditLogging (auditSink : Option (AuditSink σ)) (eventPrefix : String) (fn : ToolHandler σ) :
    ToolHandler σ := fun kwargs ↦ do
  report auditSink { event := eventPrefix ++ ".start" }
  rescue
    (do
      let value ← fn kwargs
      report auditSink { event := eventPrefix ++ ".success" }
      return value)
    fun exc ↦ do
      report auditSink { event := eventPrefix ++ ".error", message := some exc.text }
      raise exc

/-- What stands in the place of a value that is redacted. -/
def redactionMarker : Value := .str "***REDACTED***"

/-- The loop over the keys to redact. -/
def redactKey (entries : Arguments) (key : Value) : Except Raised Arguments := do
  match ← hasKey key entries, key with
  | true, .str s => return Value.assign s redactionMarker entries
  | _, _ => return entries

/-- `redaction`. -/
def redaction (redactKeys : List Value) (fn : ToolHandler σ) : ToolHandler σ := fun kwargs ↦ do
  match ← fn kwargs with
  | .dict entries => do
    let redacted ← ofExcept (redactKeys.foldlM redactKey entries)
    return .dict redacted
  | value => return value

/-- `apply_execution_decorators`. -/
def applyExecutionDecorators (isPrintable : Char → Bool) (handler : ToolHandler σ)
    (requiredArgs : List Value) (allowStateChanging isStateChangingCall : Bool) (maxAttempts : Int)
    (redactKeys : List Value) (auditSink : Option (AuditSink σ)) (eventPrefix : String) :
    ToolHandler σ :=
  redaction redactKeys (auditLogging auditSink eventPrefix (retries maxAttempts
    (authz allowStateChanging isStateChangingCall (validation isPrintable requiredArgs handler))))

end Decorators

/-! ## What they see to -/

/-- No required argument is missing. -/
def HasArguments (requiredArgs : List Value) (kwargs : Arguments) : Prop :=
  ∀ name ∈ requiredArgs, hasKey name kwargs = .ok true

/-- The tool allows changes of state, if the call makes one. -/
def Authorized (allowStateChanging isStateChangingCall : Bool) : Prop :=
  isStateChangingCall = true → allowStateChanging = true

/-- A value has nothing but the marker under the keys to redact. -/
def Redacted (redactKeys : List Value) (value : Value) : Prop :=
  ∀ key, Value.str key ∈ redactKeys → ∀ v, value.get? key = some v → v = redactionMarker

section Laws

variable {σ : Type} {requiredArgs redactKeys : List Value} {kwargs entries entries' : Arguments}
  {fn : ToolHandler σ} {P : Value → Prop}

theorem missingArgs_eq_nil : missingArgs requiredArgs kwargs = .ok [] ↔
    HasArguments requiredArgs kwargs := by
  induction requiredArgs with
  | nil => exact iff_of_true rfl nofun
  | cons name requiredArgs ih =>
    rw [HasArguments, List.forall_mem_cons, ← HasArguments, ← ih, missingArgs]
    cases hasKey name kwargs with
    | error error => exact iff_of_false nofun fun h ↦ nomatch h.1
    | ok found =>
      cases missingArgs requiredArgs kwargs with
      | error error => exact iff_of_false nofun fun h ↦ nomatch h.2
      | ok missing => cases found <;> simp [bind, Except.bind, pure, Except.pure]

theorem lookup_redactKey {key : Value} (h : redactKey entries key = .ok entries') (name : String) :
    (key = .str name →
        Value.lookup name entries' = (Value.lookup name entries).map fun _ ↦ redactionMarker) ∧
      (key ≠ .str name → Value.lookup name entries' = Value.lookup name entries) := by
  cases key with
  | str s =>
    cases hfound : Value.lookup s entries with
    | none =>
      rw [redactKey, hasKey, hfound] at h
      obtain rfl := Except.ok.inj h
      refine ⟨?_, fun _ ↦ rfl⟩
      rintro hname
      obtain rfl := Value.str.inj hname
      rw [hfound]
      rfl
    | some old =>
      rw [redactKey, hasKey, hfound] at h
      obtain rfl : Value.assign s redactionMarker entries = entries' := Except.ok.inj h
      rw [Value.lookup_assign]
      constructor
      · intro hname
        obtain rfl := Value.str.inj hname
        rw [if_pos rfl, hfound]
        rfl
      · intro hname
        rw [if_neg fun heq ↦ hname (congrArg Value.str heq)]
  | list items => cases h
  | dict items => cases h
  | none => obtain rfl := Except.ok.inj h; exact ⟨nofun, fun _ ↦ rfl⟩
  | bool b => obtain rfl := Except.ok.inj h; exact ⟨nofun, fun _ ↦ rfl⟩
  | int n => obtain rfl := Except.ok.inj h; exact ⟨nofun, fun _ ↦ rfl⟩
  | float text => obtain rfl := Except.ok.inj h; exact ⟨nofun, fun _ ↦ rfl⟩
  | object _ _ _ _ => obtain rfl := Except.ok.inj h; exact ⟨nofun, fun _ ↦ rfl⟩

/-- A key that was redacted stays so while the loop goes over the others. -/
theorem marked_of_foldlM (h : redactKeys.foldlM redactKey entries = .ok entries') {name : String}
    (hmarked : ∀ v, Value.lookup name entries = some v → v = redactionMarker) :
    ∀ v, Value.lookup name entries' = some v → v = redactionMarker := by
  refine Checks.foldlM_invariant
    (P := fun entries ↦ ∀ v, Value.lookup name entries = some v → v = redactionMarker) ?_ h hmarked
  intro current key next hmarked hnext v hv
  by_cases hkey : key = .str name
  · rw [(lookup_redactKey hnext name).1 hkey, Option.map_eq_some_iff] at hv
    obtain ⟨_, -, rfl⟩ := hv
    rfl
  · rw [(lookup_redactKey hnext name).2 hkey] at hv
    exact hmarked v hv

/-- **Redaction redacts.** -/
theorem redacted_of_foldlM (h : redactKeys.foldlM redactKey entries = .ok entries') :
    Redacted redactKeys (.dict entries') := by
  intro name hmem
  induction redactKeys generalizing entries with
  | nil => cases hmem
  | cons key redactKeys ih =>
    rw [List.foldlM_cons, Checks.bind_eq_ok] at h
    obtain ⟨next, hnext, h⟩ := h
    rcases List.mem_cons.mp hmem with hkey | hmem
    · refine marked_of_foldlM h fun v hv ↦ ?_
      rw [(lookup_redactKey hnext name).1 hkey.symm, Option.map_eq_some_iff] at hv
      obtain ⟨_, -, rfl⟩ := hv
      rfl
    · exact ih h hmem

/-! ## What comes out of them -/

theorem yields_validation {isPrintable : Char → Bool} (h : Yields (fn kwargs) P) :
    Yields (validation isPrintable requiredArgs fn kwargs) fun value ↦
      HasArguments requiredArgs kwargs ∧ P value := by
  refine yields_bind (yields_ofExcept fun missing hmissing ↦ hmissing) fun missing hmissing ↦ ?_
  cases missing with
  | nil => exact h.mono fun value hvalue ↦ ⟨missingArgs_eq_nil.mp hmissing, hvalue⟩
  | cons name missing => exact yields_raise

theorem yields_authz {allowStateChanging isStateChangingCall : Bool} (h : Yields (fn kwargs) P) :
    Yields (authz allowStateChanging isStateChangingCall fn kwargs) fun value ↦
      Authorized allowStateChanging isStateChangingCall ∧ P value := by
  rw [authz]
  split
  · exact yields_raise
  · rename_i hfree
    refine h.mono fun value hvalue ↦ ⟨fun hchanging ↦ ?_, hvalue⟩
    exact eq_true_of_ne_false fun hforbidden ↦ hfree ⟨hchanging, hforbidden⟩

theorem yields_retries (maxAttempts : Int) (h : Yields (fn kwargs) P) :
    Yields (retries maxAttempts fn kwargs) P := yields_attempts h _

theorem yields_auditLogging (auditSink : Option (AuditSink σ)) (eventPrefix : String)
    (h : Yields (fn kwargs) P) : Yields (auditLogging auditSink eventPrefix fn kwargs) P := by
  refine yields_bind yields_true fun _ _ ↦ yields_rescue ?_ fun exc ↦ ?_
  · exact yields_bind h fun value hvalue ↦ yields_bind yields_true fun _ _ ↦ yields_pure hvalue
  · exact yields_bind yields_true fun _ _ ↦ yields_raise

theorem yields_redaction {Q : Prop} (h : Yields (fn kwargs) fun _ ↦ Q) :
    Yields (redaction redactKeys fn kwargs) fun value ↦ Q ∧ Redacted redactKeys value := by
  refine yields_bind h fun value hQ ↦ ?_
  cases value with
  | dict entries =>
    refine yields_bind (yields_ofExcept fun redacted hredacted ↦ hredacted) fun redacted hredacted ↦ ?_
    exact yields_pure ⟨hQ, redacted_of_foldlM hredacted⟩
  | _ => exact yields_pure ⟨hQ, nofun⟩

/-- **What comes out of the decorators** came from a call with all its arguments that the tool
allows, and is redacted. -/
theorem yields_applyExecutionDecorators (isPrintable : Char → Bool) (handler : ToolHandler σ)
    (allowStateChanging isStateChangingCall : Bool) (maxAttempts : Int)
    (auditSink : Option (AuditSink σ)) (eventPrefix : String) :
    Yields (applyExecutionDecorators isPrintable handler requiredArgs allowStateChanging
        isStateChangingCall maxAttempts redactKeys auditSink eventPrefix kwargs) fun value ↦
      (HasArguments requiredArgs kwargs ∧ Authorized allowStateChanging isStateChangingCall) ∧
        Redacted redactKeys value := by
  refine yields_redaction (yields_auditLogging _ _ (yields_retries _ ?_))
  refine (yields_authz (yields_validation yields_true)).mono fun value h ↦ ?_
  exact ⟨h.2.1, h.1⟩

end Laws

end Tools
end ExoBrain
