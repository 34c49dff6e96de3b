import ServiceStubs.Config
import ServiceStubs.FileTree
import ServiceStubs.Model
import ServiceStubs.Text.Encoding
import ServiceStubs.Text.Utf8

/-!
# Failures

Why a run stops without a result. Each cause is worded once.
-/

namespace ServiceStubs

/-- Why a run stops. -/
inductive Failure where
  | config (fault : ConfigFault)
  | value (fault : Value.Fault)
  /-- The schema files at the given paths, or something they import, are not valid. -/
  | schemas (paths : List String)
  | row (fault : RowFault)
  | undecodable (refusal : Text.Utf8.Refusal)
  | unencodable (refusal : Text.Encoding.Refusal)
  | path (error : PathError)

namespace Failure

/-- The wording of a failure. -/
def message : Failure → String
  | .config fault => fault.message
  | .value fault => fault.message
  | .schemas paths =>
    "protoc failed with exit status 1 for: " ++ Text.joinStrings ", " paths
  | .row fault => fault.message
  | .undecodable refusal => refusal.message
  | .unencodable refusal => refusal.message
  | .path error => error.message Text.Quoted.literal

/-- The failure of arguments that are no settings. -/
def ofArgumentFault : ArgumentFault → Failure
  | .config fault => .config fault
  | .value fault => .value fault

end Failure

end ServiceStubs
