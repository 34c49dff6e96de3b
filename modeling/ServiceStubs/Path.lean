import ServiceStubs.Name
import ServiceStubs.Text.Split

/-!
# Paths

Paths are strings whose segments stand between slashes. All operations here are on the spelling
alone: they ask no file system, and a working directory is a parameter where one is needed. Two
leading slashes are kept apart from one, three and more are the same as one.
-/

namespace ServiceStubs.Path

/-- Whether a path starts at the root. -/
def isAbsolute (path : String) : Bool :=
  path.toList.head? == some '/'

/-- A path seen from a base: an absolute one is kept, else one slash stands between the two. -/
def join (base path : String) : String :=
  if isAbsolute path then path
  else if base = "" ∨ base.toList.getLast? = some '/' then base ++ path
  else base ++ "/" ++ path

/-- The texts between the slashes of a path. -/
def segments (path : String) : List String :=
  Text.splitString '/' path

/-- The segments that are not empty. -/
def names (path : String) : List String :=
  (segments path).filter (· != "")

/-- How many leading slashes a normalized path keeps: none, one, or exactly two. -/
def rootSlashes (path : String) : Nat :=
  match path.toList.takeWhile (· == '/') with
  | [] => 0
  | [_, _] => 2
  | _ => 1

/-- One more segment after the segments so far, which stand in reverse order. A parent step undoes
the name before it; at the root it does nothing, and in a relative path it is kept. -/
def pushSegment (rooted : Bool) (reversed : List String) (segment : String) : List String :=
  if segment = "" ∨ segment = "." then reversed
  else if segment = ".." then
    match reversed with
    | [] => if rooted then [] else [segment]
    | last :: rest => if last = ".." then segment :: reversed else rest
  else segment :: reversed

/-- The segments of a path without empty ones, steps in place, and names that are undone. -/
def collapse (rooted : Bool) (path : List String) : List String :=
  (path.foldl (pushSegment rooted) []).reverse

/-- The path with collapsed segments. -/
def normalize (path : String) : String :=
  let slashes := rootSlashes path
  let steps := collapse (slashes != 0) (segments path)
  let spelled := String.ofList (List.replicate slashes '/') ++ Text.joinStrings "/" steps
  if spelled = "" then "." else spelled

/-- The normalized absolute path of a path, seen from a working directory. -/
def absolute (workingDirectory path : String) : String :=
  normalize (join workingDirectory path)

/-- The text after the last slash. -/
def fileName (path : String) : String :=
  String.ofList (path.toList.reverse.takeWhile (· != '/')).reverse

/-- The text up to the last slash, without trailing slashes unless there is nothing else. -/
def directory (path : String) : String :=
  let reversed := path.toList.reverse.dropWhile (· != '/')
  if reversed.all (· == '/') then String.ofList reversed
  else String.ofList (reversed.dropWhile (· == '/')).reverse

/-- How many leading elements two lists share. -/
def sharedLength : List String → List String → Nat
  | left :: lefts, right :: rights =>
    if left = right then sharedLength lefts rights + 1 else 0
  | _, _ => 0

/-- The way from one place to another, as segments: up to the last shared directory, then down. -/
def stepsBetween (start target : List String) : List String :=
  let shared := sharedLength start target
  List.replicate (start.length - shared) ".." ++ target.drop shared

/-- A path as seen from a start directory. -/
def relative (workingDirectory path start : String) : String :=
  match stepsBetween (names (absolute workingDirectory start))
      (names (absolute workingDirectory path)) with
  | [] => "."
  | steps => Text.joinStrings "/" steps

/-- How many parts a path has: its names other than steps in place, and the root if it starts
there. -/
def partCount (path : String) : Nat :=
  ((names path).filter (· != ".")).length + if isAbsolute path then 1 else 0

/-- The file name of a schema file without its ending. -/
def sourceName (path : String) : String :=
  let name := fileName path
  if Name.isSchemaFile name then
    String.ofList (name.toList.take (name.toList.length - Name.schemaSuffix.toList.length))
  else name

/-- The file name of the module that is generated for a schema file. -/
def moduleFileName (path : String) : String :=
  sourceName path ++ Name.moduleSuffix

end ServiceStubs.Path
