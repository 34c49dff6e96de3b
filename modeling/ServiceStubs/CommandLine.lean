import ServiceStubs.Config
import ServiceStubs.Text.Digit
import ServiceStubs.Text.Quoted

/-!
# The command line

Options are given in a short or a long spelling; a long one may be cut short while it stays the
start of one spelling only. Short flags may be put together. A value follows its option as an
argument of its own or is attached to it. The arguments are first all told apart, then taken from
left to right; what belongs to no option is refused at the end.
-/

namespace ServiceStubs.CommandLine

/-- The options of the program. -/
inductive Switch where
  | help | paths | excludes | outputDirectory | importPath | namespaceName
  | usePackageNames | useProtoPath | noFormat | recursive
  deriving DecidableEq, Repr

/-- How many values an option takes. -/
inductive Arity where
  | none | one | many
  deriving DecidableEq, Repr

namespace Switch

/-- All options, in the order they are shown in. -/
def all : List Switch := [
  .help, .paths, .excludes, .outputDirectory, .importPath, .namespaceName, .usePackageNames,
  .useProtoPath, .noFormat, .recursive]

/-- The spellings of an option, short ones first. -/
def spellings : Switch → List String
  | .help => ["-h", "--help"]
  | .paths => ["-p", "--paths"]
  | .excludes => ["-e", "--excludes"]
  | .outputDirectory => ["-o", "--output-dir", "--out"]
  | .importPath => ["-I", "--import-path"]
  | .namespaceName => ["-n", "--namespace"]
  | .usePackageNames => ["--use-package-names"]
  | .useProtoPath => ["--use-proto-path"]
  | .noFormat => ["--no-format"]
  | .recursive => ["-r", "--recursive"]

/-- How many values an option takes. -/
def arity : Switch → Arity
  | .paths | .excludes | .importPath => .many
  | .outputDirectory | .namespaceName => .one
  | _ => .none

/-- An option in a message: all its spellings. -/
def label (switch : Switch) : String :=
  "argument " ++ Text.joinStrings "/" switch.spellings

end Switch

/-- All spellings with their options, in the order of the options. -/
def spellingTable : List (String × Switch) :=
  Switch.all.flatMap fun switch => switch.spellings.map fun spelling => (spelling, switch)

/-- The option of an exact spelling. -/
def Switch.ofSpelling? (spelling : String) : Option Switch :=
  spellingTable.lookup spelling

/-- Why a command line is refused. -/
inductive Fault where
  | ambiguous (argument : String) (spellings : List String)
  | missingValue (switch : Switch)
  | ignoredValue (switch : Switch) (value : String)
  | unrecognized (arguments : List String)
  deriving DecidableEq, Repr

/-- The wording of a fault. -/
def Fault.message : Fault → String
  | .ambiguous argument spellings =>
    "ambiguous option: " ++ argument ++ " could match " ++ Text.joinStrings ", " spellings
  | .missingValue switch =>
    switch.label ++ ": expected " ++
      if switch.arity = .many then "at least one argument" else "one argument"
  | .ignoredValue switch value =>
    switch.label ++ ": ignored explicit argument " ++ Text.Quoted.literal value
  | .unrecognized arguments => "unrecognized arguments: " ++ Text.joinStrings " " arguments

/-- An argument told apart. -/
inductive Argument where
  | value (text : String)
  /-- Everything after it belongs to no option. -/
  | terminator
  | unknown (text : String)
  | switch (switch : Switch) (spelling : String) (attached : Option String)
  deriving DecidableEq, Repr

/-- Whether a text is a negative number, which is always a value. One line feed at its end does not
count. -/
def isNegativeNumber (text : String) : Bool :=
  match text.toList with
  | '-' :: body =>
    let body := if body.getLast? = some '\n' then body.dropLast else body
    match body.dropWhile Text.isDecimalDigit with
    | [] => !body.isEmpty
    | '.' :: digits => !digits.isEmpty && digits.all Text.isDecimalDigit
    | _ => false
  | _ => false

/-- A text cut at its first equals sign, if it has one. -/
def cutAtEquals (text : String) : Option (String × String) :=
  match text.toList.dropWhile (· != '=') with
  | [] => none
  | _ :: value => some (String.ofList (text.toList.takeWhile (· != '=')), String.ofList value)

/-- The spellings that an inexact argument may stand for, with the value attached to it. A long one
may be cut short before its equals sign; a short one has its value right after the letter. -/
def interpretations (text : String) : List (Switch × String × Option String) :=
  if Text.startsWith text "--" then
    let (start, attached) := match cutAtEquals text with
      | some (start, value) => (start, some value)
      | none => (text, none)
    (spellingTable.filter fun entry => Text.startsWith entry.1 start).map fun entry =>
      (entry.2, entry.1, attached)
  else
    spellingTable.filterMap fun entry =>
      if entry.1.toList = text.toList.take 2 then
        some (entry.2, entry.1, some (String.ofList (text.toList.drop 2)))
      else if Text.startsWith entry.1 text then some (entry.2, entry.1, none)
      else none

/-- Tell one argument apart. -/
def classify (text : String) : Except Fault Argument :=
  if text.toList.head? ≠ some '-' then .ok (.value text)
  else
    match Switch.ofSpelling? text with
    | some switch => .ok (.switch switch text none)
    | none =>
      if text = "-" then .ok (.value text)
      else
        let exact := (cutAtEquals text).bind fun cut =>
          (Switch.ofSpelling? cut.1).map fun switch => Argument.switch switch cut.1 (some cut.2)
        match exact, interpretations text with
        | some argument, _ => .ok argument
        | none, [(switch, spelling, attached)] => .ok (.switch switch spelling attached)
        | none, [] =>
          if isNegativeNumber text || text.toList.contains ' ' then .ok (.value text)
          else .ok (.unknown text)
        | none, several => .error (.ambiguous text (several.map fun entry => entry.2.1))

/-- Tell all arguments apart. After a terminator nothing is an option. -/
def classifyAll : List String → Except Fault (List Argument)
  | [] => .ok []
  | text :: texts =>
    if text = "--" then .ok (.terminator :: texts.map Argument.value)
    else
      match classify text with
      | .error fault => .error fault
      | .ok argument =>
        match classifyAll texts with
        | .error fault => .error fault
        | .ok arguments => .ok (argument :: arguments)

/-- What is known of an option that takes one value. A terminator attached to the option stands
for no value, which is not the same as leaving the option out. -/
inductive Single where
  | unset
  | emptied
  | set (value : String)
  deriving DecidableEq, Repr

/-- The option after a use with some values. -/
def Single.ofValues : List String → Single
  | [] => .emptied
  | value :: _ => .set value

/-- The option as a loose value; `default` is that of an option left out. -/
def Single.value (default : Value) : Single → Value
  | .unset => default
  | .emptied => .list []
  | .set value => .text value

/-- The values of the options. -/
structure Options where
  paths : List String := []
  excludes : List String := []
  outputDirectory : Single := .unset
  importPaths : List String := []
  namespaceName : Single := .unset
  usePackageNames : Bool := false
  useProtoPath : Bool := false
  skipFormat : Bool := false
  recursive : Bool := false
  deriving DecidableEq, Repr

/-- An option with the values given to it. -/
structure Use where
  switch : Switch
  values : List String
  deriving DecidableEq, Repr

/-- The options after one more use, which replaces earlier values. A call for help gives none. -/
def Options.apply (options : Options) (use : Use) : Option Options :=
  match use.switch with
  | .help => none
  | .paths => some { options with paths := use.values }
  | .excludes => some { options with excludes := use.values }
  | .outputDirectory => some { options with outputDirectory := .ofValues use.values }
  | .importPath => some { options with importPaths := use.values }
  | .namespaceName => some { options with namespaceName := .ofValues use.values }
  | .usePackageNames => some { options with usePackageNames := true }
  | .useProtoPath => some { options with useProtoPath := true }
  | .noFormat => some { options with skipFormat := true }
  | .recursive => some { options with recursive := true }

/-- The values at the front of some arguments. -/
def leadingValues : List Argument → List String
  | .value text :: arguments => text :: leadingValues arguments
  | _ => []

/-- The values that follow an option without an attached one, as many as it takes. -/
def followingValues (switch : Switch) (arguments : List Argument) :
    Except Fault (List String) :=
  match switch.arity, leadingValues arguments with
  | .none, _ => .ok []
  | _, [] => .error (.missingValue switch)
  | .one, first :: _ => .ok [first]
  | .many, values => .ok values

/-- Whether a spelling has one dash only. -/
def isShort (spelling : String) : Bool :=
  !Text.startsWith spelling "--"

/-- The values that an attached text stands for: itself, unless it is a terminator. -/
def attachedValues (text : String) : List String :=
  if text = "--" then [] else [text]

/-- The uses in one argument with a value attached to its option: the value itself, or, after a
short flag, further short options put together with it. -/
def attachedUses (switch : Switch) (short : Bool) (following : List Argument) :
    List Char → Except Fault (List Use × Nat)
  | [] =>
    if switch.arity = .none then .error (.ignoredValue switch "") else .ok ([⟨switch, [""]⟩], 0)
  | letter :: rest =>
    let text := String.ofList (letter :: rest)
    if switch.arity ≠ .none then .ok ([⟨switch, attachedValues text⟩], 0)
    else if !short then .error (.ignoredValue switch text)
    else
      match Switch.ofSpelling? (String.ofList ['-', letter]) with
      | none => .error (.ignoredValue switch text)
      | some next =>
        if rest.isEmpty then
          match followingValues next following with
          | .error fault => .error fault
          | .ok values => .ok ([⟨switch, []⟩, ⟨next, values⟩], values.length)
        else
          match attachedUses next true following rest with
          | .error fault => .error fault
          | .ok (uses, taken) => .ok (⟨switch, []⟩ :: uses, taken)

/-- The uses in one argument, and how many of the following arguments they take. -/
def usesOf (switch : Switch) (spelling : String) (attached : Option String)
    (following : List Argument) : Except Fault (List Use × Nat) :=
  match attached with
  | some text => attachedUses switch (isShort spelling) following text.toList
  | none =>
    match followingValues switch following with
    | .error fault => .error fault
    | .ok values => .ok ([⟨switch, values⟩], values.length)

/-- What a command line asks for. -/
inductive Request where
  | run (options : Options)
  | help
  deriving DecidableEq, Repr

/-- The text of an argument that belongs to no option. -/
def Argument.leftover : Argument → String
  | .value text => text
  | .terminator => "--"
  | .unknown text => text
  | .switch _ spelling _ => spelling

/-- Take arguments from left to right; `leftovers` are those that belong to no option. -/
def takeAll (options : Options) (leftovers : List String) :
    List Argument → Except Fault Request
  | [] => if leftovers.isEmpty then .ok (.run options) else .error (.unrecognized leftovers)
  | .switch switch spelling attached :: arguments =>
    match usesOf switch spelling attached arguments with
    | .error fault => .error fault
    | .ok (uses, taken) =>
      match uses.foldlM Options.apply options with
      | none => .ok .help
      | some options => takeAll options leftovers (arguments.drop taken)
  | argument :: arguments => takeAll options (leftovers ++ [argument.leftover]) arguments
termination_by arguments => arguments.length
decreasing_by
  all_goals simp only [List.length_drop, List.length_cons]; omega

/-- Read a command line. -/
def parse (arguments : List String) : Except Fault Request :=
  match classifyAll arguments with
  | .error fault => .error fault
  | .ok classified => takeAll {} [] classified

/-- The arguments of a run for some options. -/
def Options.arguments (options : Options) : Arguments where
  paths := some (.list (options.paths.map .text))
  outputDirectory := some (options.outputDirectory.value (.text ""))
  excludes := some (.list (options.excludes.map .text))
  importPaths := some (.list (options.importPaths.map .text))
  recursive := some (.truth options.recursive)
  namespaceName := some (options.namespaceName.value .null)
  usePackageNames := some (.truth options.usePackageNames)
  useProtoPath := some (.truth options.useProtoPath)
  skipFormat := some (.truth options.skipFormat)

/-- How the program is called. -/
def usage : String :=
  "usage: grpc-stub-generator [-h] [-p PATHS [PATHS ...]]\n" ++
  "                           [-e EXCLUDES [EXCLUDES ...]] [-o OUTPUT_DIR]\n" ++
  "                           [-I IMPORT_PATHS [IMPORT_PATHS ...]] [-n NAMESPACE]\n" ++
  "                           [--use-package-names] [--use-proto-path]\n" ++
  "                           [--no-format] [-r]\n"

/-- The full help. -/
def help : String :=
  usage ++
  "\nGenerate gRPC client stubs for protobuf definition files.\n" ++
  "\noptions:\n" ++
  "  -h, --help            show this help message and exit\n" ++
  "  -p PATHS [PATHS ...], --paths PATHS [PATHS ...]\n" ++
  "                        path or glob expressions that match *.proto files; the\n" ++
  "                        first file names the generated module.\n" ++
  "  -e EXCLUDES [EXCLUDES ...], --excludes EXCLUDES [EXCLUDES ...]\n" ++
  "                        path or glob expressions to exclude from path matches.\n" ++
  "  -o OUTPUT_DIR, --output-dir OUTPUT_DIR, --out OUTPUT_DIR\n" ++
  "                        directory to write the generated module to (required);\n" ++
  "                        created if missing.\n" ++
  "  -I IMPORT_PATHS [IMPORT_PATHS ...], --import-path IMPORT_PATHS [IMPORT_PATHS ...]\n" ++
  "                        additional include directories for resolving imports\n" ++
  "                        between *.proto files.\n" ++
  "  -n NAMESPACE, --namespace NAMESPACE\n" ++
  "                        custom top level module name, e.g.\n" ++
  "                        Your.Service.Namespace.\n" ++
  "  --use-package-names   qualify message types with the package names defined\n" ++
  "                        in the *.proto files.\n" ++
  "  --use-proto-path      reference the *.proto files from the generated module\n" ++
  "                        instead of embedding their content.\n" ++
  "  --no-format           skip ruff formatting of the generated module.\n" ++
  "  -r, --recursive       recursively search for *.proto files with a given glob\n" ++
  "                        expression.\n"

/-- The text of a refusal: the usage and the reason. -/
def refusal (message : String) : String :=
  usage ++ "grpc-stub-generator: error: " ++ message ++ "\n"

end ServiceStubs.CommandLine
