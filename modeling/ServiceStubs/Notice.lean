import ServiceStubs.Model

/-!
# Notices

What a run reports on its way, as causes. Each notice has a level, an origin and a wording; its
line shows all three.
-/

namespace ServiceStubs

/-- How much a notice matters. -/
inductive Level where
  | info | warning | error
  deriving DecidableEq, Repr

/-- The word of a level. -/
def Level.word : Level → String
  | .info => "INFO"
  | .warning => "WARNING"
  | .error => "ERROR"

/-- Something that a run reports. -/
inductive Notice where
  | workingFrom (directory : String)
  | packageIgnored (clash : PackageClash)
  | schemasRead (files declarations : Nat)
  | sourcesFound (paths : List String)
  | generating (services : Nat) (topModule : String)
  | formatterMissing
  | formatterFailed
  | written (path : String)

namespace Notice

/-- The level of a notice. -/
def level : Notice → Level
  | .packageIgnored _ => .warning
  | .formatterMissing => .error
  | .formatterFailed => .error
  | _ => .info

/-- The part of the program that a notice is from. -/
def origin : Notice → String
  | .workingFrom _ => "root"
  | .packageIgnored _ => "grpc_stub_generator.model"
  | .schemasRead _ _ => "grpc_stub_generator.parser"
  | _ => "grpc_stub_generator.run"

/-- The wording of a notice. -/
def message : Notice → String
  | .workingFrom directory => "Working from root directory: " ++ directory
  | .packageIgnored clash =>
    s!"Ignoring package '{clash.ignored.display}', already using package '{clash.used}'."
  | .schemasRead files declarations =>
    s!"Parsed {files} proto file(s) into {declarations} declaration(s)."
  | .sourcesFound paths =>
    s!"Found {paths.length} proto file(s): " ++ Text.joinStrings ", " paths
  | .generating services topModule =>
    s!"Generating stubs for {services} service(s) as '{topModule}'."
  | .formatterMissing =>
    "ruff not found, writing unformatted output. Please install ruff: pip install ruff"
  | .formatterFailed => "Ruff formatting failed"
  | .written path => s!"Wrote stubs to '{path}'."

/-- The notice as one line. -/
def line (notice : Notice) : String :=
  notice.level.word ++ ":" ++ notice.origin ++ ":" ++ notice.message

end Notice

end ServiceStubs
