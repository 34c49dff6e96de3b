import ServiceStubs.Path

/-!
# References from the output directory

A generated module that does not embed its source names the schema files by their way from the
output directory. Below the root directory that way is found by counting segments, outside of it
by comparing absolute paths.
-/

namespace ServiceStubs.Path

/-- A path as seen from the root directory: relative when it lies below the root, absolute
otherwise. -/
def withinRoot (workingDirectory root path : String) : String :=
  let target := absolute workingDirectory (join root path)
  if target = root then "."
  else if Text.startsWith target (join root "") then relative workingDirectory target root
  else target

/-- The way from the output directory back to one schema file; the root is absolute. -/
def reference (workingDirectory root outputDirectory path : String) : String :=
  let output := withinRoot workingDirectory root outputDirectory
  if isAbsolute output then relative workingDirectory (join root path) output
  else
    (List.replicate (partCount output) "..").foldr join (withinRoot workingDirectory root path)

/-- The ways from the output directory back to the schema files. Without a root directory the
working directory is the root. -/
def references (workingDirectory : String) (root : Option String) (outputDirectory : String)
    (paths : List String) : List String :=
  let absoluteRoot := absolute workingDirectory (root.getD workingDirectory)
  paths.map (reference workingDirectory absoluteRoot outputDirectory)

end ServiceStubs.Path
