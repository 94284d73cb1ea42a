import ExoBrain.Lib.Dict
import ExoBrain.Lib.Value

/-!
# Contracts of tool packages

A tenant brings a tool as a package with a manifest (`ToolPackageManifest`).  Each version of it that
is uploaded is filed with what its validation has found (`ToolVersionRecord`); at most one version
of a tool is active.  A tool can also be registered without a package (`PersistedToolRecord`).
-/

set_option autoImplicit false

namespace ExoBrain
namespace Tools

/-- What is raised. -/
inductive ToolError
  | valueError (message : String)
  /-- An exception of another class. -/
  | other (message : String)
deriving DecidableEq, Repr

/-- `ToolValidationState`. -/
inductive ToolValidationState
  | pending
  | valid
  | invalid
deriving DecidableEq, Repr

/-- `ToolValidationState.value`. -/
def ToolValidationState.value : ToolValidationState → String
  | pending => "pending"
  | valid => "valid"
  | invalid => "invalid"

/-- `ToolPackageManifest`. -/
structure ToolPackageManifest where
  toolName : String
  version : String
  description : String := ""
  inputSchema : Dict String Value := Dict.empty
  timeoutMs : Int := 30000
  riskTier : String := "low"
  entryFile : String := "handler.py"
  entrypoint : String := "run"
  requirements : List String := []
  metadata : Dict String Value := Dict.empty

/-- `ToolValidationResult`. -/
structure ToolValidationResult where
  toolName : String
  version : String
  state : ToolValidationState := .pending
  errors : List String := []
  warnings : List String := []
  normalizedSchemaHash : String := ""
deriving DecidableEq, Repr

/-- `ToolVersionRecord`. -/
structure ToolVersionRecord where
  tenantId : String
  toolName : String
  version : String
  manifest : ToolPackageManifest
  validation : Option ToolValidationResult := none
  packageRef : String := ""
  active : Bool := false
  createdAt : String := ""

/-- `PersistedToolRecord`. -/
structure PersistedToolRecord where
  name : String
  handlerRef : String
  tenantId : String
  riskTier : String := "low"
  isStateChanging : Bool := false
  timeoutMs : Int := 30000
  description : String := ""
  parametersSchema : Dict String Value := Dict.empty
  metadata : Dict String Value := Dict.empty

end Tools
end ExoBrain
