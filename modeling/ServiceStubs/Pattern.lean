import ServiceStubs.FileTree

/-!
# Path patterns

A pattern is a path whose segments may hold wildcards: `*` for any run of characters, `?` for one,
and brackets for one of a set. A segment matches names of one directory; names that start with a
dot are matched only by segments that do. With recursion the segment `**` stands for any number of
directories. The module expands a pattern to the paths of a tree that match it, keeping the
literal parts as they were spelled.
-/

namespace ServiceStubs.Pattern

/-- A member of a bracketed set. -/
inductive Member where
  | single (character : Char)
  | range (first last : Char)
  deriving DecidableEq, Repr

/-- One element of a segment. -/
inductive Atom where
  | literal (character : Char)
  | anyRun
  | anyCharacter
  | oneOf (members : List Member)
  | noneOf (members : List Member)
  deriving DecidableEq, Repr

/-- Whether a member covers a character. A range that runs backwards covers nothing. -/
def Member.covers (character : Char) : Member → Bool
  | .single member => member == character
  | .range first last => first ≤ character && character ≤ last

/-- The members of a bracketed set: three characters with a hyphen in the middle are a range, any
other character stands for itself. -/
def members : List Char → List Member
  | first :: '-' :: last :: rest => .range first last :: members rest
  | character :: rest => .single character :: members rest
  | [] => []

/-- How many characters after an opening bracket cannot close it: a negation, and a closing bracket
right at the start of the set. -/
def openingLength : List Char → Nat
  | '!' :: ']' :: _ => 2
  | '!' :: _ => 1
  | ']' :: _ => 1
  | _ => 0

/-- The text of a bracketed set and what follows it, when the bracket is closed. -/
def closeBracket (text : List Char) : Option (List Char × List Char) :=
  let later := text.drop (openingLength text)
  match later.dropWhile (· != ']') with
  | [] => none
  | _ :: rest => some (text.take (openingLength text) ++ later.takeWhile (· != ']'), rest)

/-- What stands behind a bracket is no longer than the text that opens it. -/
theorem closeBracket_length {text inside rest : List Char}
    (closed : closeBracket text = some (inside, rest)) : rest.length ≤ text.length := by
  unfold closeBracket at closed
  have shorter := (List.dropWhile_suffix (l := text.drop (openingLength text))
    (· != ']')).sublist.length_le
  simp only at closed
  split at closed
  · simp at closed
  · next dropped =>
    simp only [Option.some.injEq, Prod.mk.injEq] at closed
    obtain ⟨-, rfl⟩ := closed
    rw [dropped] at shorter
    simp only [List.length_cons, List.length_drop] at shorter
    omega

/-- Whether a member is a character or a range that does not run backwards. -/
def Member.isForward : Member → Bool
  | .single _ => true
  | .range first last => first ≤ last

/-- The atom of a bracketed set. Ranges that run backwards are dropped before it is looked whether
the set is negated, so that a mark right after such ranges counts as a negation; the hyphen of a
range that the mark begins then stands for itself. -/
def bracketed : List Char → Atom
  | '!' :: excluded => .noneOf (members excluded)
  | included =>
    match (members included).filter Member.isForward with
    | .single '!' :: excluded => .noneOf excluded
    | .range '!' last :: excluded => .noneOf (.single '-' :: .single last :: excluded)
    | kept => .oneOf kept

/-- The atoms of a segment. -/
def atoms : List Char → List Atom
  | [] => []
  | '*' :: rest => .anyRun :: atoms rest
  | '?' :: rest => .anyCharacter :: atoms rest
  | '[' :: rest =>
    match closed : closeBracket rest with
    | none => .literal '[' :: atoms rest
    | some (inside, after) =>
      have _shorter : after.length ≤ rest.length := closeBracket_length closed
      bracketed inside :: atoms after
  | character :: rest => .literal character :: atoms rest
termination_by text => text.length

/-- Whether an atom other than a run accepts a character. -/
def Atom.accepts (character : Char) : Atom → Bool
  | .literal expected => expected == character
  | .anyRun => false
  | .anyCharacter => true
  | .oneOf members => members.any (Member.covers character)
  | .noneOf members => !members.any (Member.covers character)

/-- For each suffix of a name, the longest first, whether an atom followed by others matches it,
when that is known of the others alone. -/
def Atom.extend (name : List Char) (later : List Bool) : Atom → List Bool
  | .anyRun => later.foldr (fun hit row => (hit || row.headD false) :: row) []
  | atom =>
    name.zipWith (fun character hit => atom.accepts character && hit) (later.drop 1) ++ [false]

/-- For each suffix of a name, the longest first, whether atoms match it. Each atom looks at each
suffix once, so that many runs in one segment cost no more than as many characters. -/
def acceptedSuffixes (name : List Char) : List Atom → List Bool
  | [] => name.map (fun _ => false) ++ [true]
  | atom :: atoms => atom.extend name (acceptedSuffixes name atoms)

/-- Whether atoms match a whole name. -/
def accepts (atoms : List Atom) (name : List Char) : Bool :=
  (acceptedSuffixes name atoms).headD false

/-- Whether a name starts with a dot. -/
def isHidden (name : String) : Bool :=
  name.toList.head? == some '.'

/-- Whether a segment matches a name. -/
def matchesName (segment name : String) : Bool :=
  (isHidden segment || !isHidden name) && accepts (atoms segment.toList) name.toList

/-- Whether a pattern holds wildcards. -/
def hasWildcard (pattern : String) : Bool :=
  pattern.toList.any fun character => character == '*' || character == '?' || character == '['

/-- The segment that stands for any number of directories. -/
def anyDepth : String := "**"

/-- A tree as it is seen from a working directory, and whether patterns reach into directories. -/
structure Search where
  tree : FileTree
  workingDirectory : String
  recursive : Bool
  /-- Whether any depth is no depth only below a directory. -/
  strictAnyDepth : Bool := false

namespace Search

/-- The path that a directory is listed by; the working directory may be spelled by nothing. -/
def listed (directory : String) : String :=
  if directory = "" then "." else directory

/-- A directory and a name in it, either of which may be empty. -/
def member (directory name : String) : String :=
  if directory = "" then name else if name = "" then directory else Path.join directory name

/-- Whether a node is kept when only directories are wanted. -/
def isWanted (directoriesOnly : Bool) (node : Node) : Bool :=
  !directoriesOnly || node == .directory

/-- The way from a path to itself, which is spelled by nothing. A strict search gives it for
directories only, one of which is the working directory when it is spelled by nothing too. -/
def itself (search : Search) (directory : String) : List String :=
  if search.strictAnyDepth ∧ directory ≠ "" ∧
      ¬search.tree.isDirectory search.workingDirectory directory then []
  else [""]

/-- The ways from a path to itself and to all below it, without entering hidden names. -/
def allBelow (search : Search) (directory : String) (directoriesOnly : Bool) : List String :=
  let below := search.tree.contents search.workingDirectory (listed directory)
  search.itself directory ++ below.filterMap fun entry =>
    if isWanted directoriesOnly entry.2 && entry.1.all (fun name => !isHidden name) then
      some (Text.joinStrings "/" entry.1)
    else none

/-- The names in a directory that a segment with wildcards matches. -/
def matchesIn (search : Search) (directory segment : String) (directoriesOnly : Bool) :
    List String :=
  (search.tree.list search.workingDirectory (listed directory)).filterMap fun entry =>
    if isWanted directoriesOnly entry.2 && matchesName segment entry.1 then some entry.1 else none

/-- The last segment of a pattern below a directory: the ways that match it. -/
def step (search : Search) (directory segment : String) (directoriesOnly : Bool) :
    List String :=
  if hasWildcard segment then
    if search.recursive ∧ segment = anyDepth then search.allBelow directory directoriesOnly
    else search.matchesIn directory segment directoriesOnly
  else if segment = "" then
    if search.tree.isDirectory search.workingDirectory directory then [segment] else []
  else if search.tree.holds search.workingDirectory (member directory segment) then [segment]
  else []

/-- The paths that match a pattern. `depth` bounds the number of its segments. -/
def expandUpTo (search : Search) (depth : Nat) (directoriesOnly : Bool) (pattern : String) :
    List String :=
  match depth with
  | 0 => []
  | depth + 1 =>
    let directory := Path.directory pattern
    let segment := Path.fileName pattern
    if !hasWildcard pattern then
      if segment = "" then
        if search.tree.isDirectory search.workingDirectory directory then [pattern] else []
      else if search.tree.holds search.workingDirectory pattern then [pattern]
      else []
    else if directory = "" then search.step "" segment directoriesOnly
    else
      let directories :=
        if directory ≠ pattern ∧ hasWildcard directory then
          search.expandUpTo depth true directory
        else [directory]
      directories.flatMap fun directory =>
        (search.step directory segment directoriesOnly).map (Path.join directory)

/-- The paths that match a pattern. The empty path is no match. -/
def expand (search : Search) (pattern : String) : List String :=
  let found := search.expandUpTo (pattern.length + 1) false pattern
  if pattern = "" ∨ search.recursive ∧ Text.startsWith pattern anyDepth then
    match found with
    | "" :: rest => rest
    | _ => found
  else found

end Search

end ServiceStubs.Pattern
