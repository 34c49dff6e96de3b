import ServiceStubs.Declaration
import ServiceStubs.Name

/-!
# The service model

Declarations are folded into a model: one package and the services in order. The first package
wins; a later one that differs is reported and left out. A row that has not six values stops the
fold.
-/

namespace ServiceStubs

/-- A method of a service, as the generated module shows it. -/
structure Rpc where
  method : String
  request : String
  response : String
  requestStreamed : Bool := false
  responseStreamed : Bool := false
  deriving DecidableEq, Repr

/-- A service. Calls are routed by the wire name, which is never changed; the display name is its
canonical form. -/
structure Service where
  displayName : String
  wireName : String
  rpcs : List Rpc := []
  deriving DecidableEq, Repr

/-- The package and the services of some schema files. -/
structure Model where
  package : Option String := none
  services : List Service := []
  deriving DecidableEq, Repr

/-- A row with the wrong number of values. -/
structure RowFault where
  length : Nat
  deriving DecidableEq, Repr

/-- The number of values in a row. -/
def Rpc.rowLength : Nat := 6

/-- The wording of a row fault. Only a short row is counted. -/
def RowFault.message (fault : RowFault) : String :=
  if fault.length < Rpc.rowLength then
    s!"not enough values to unpack (expected {Rpc.rowLength}, got {fault.length})"
  else s!"too many values to unpack (expected {Rpc.rowLength})"

/-- A method from loose values: names are shown, flags are taken for true or false. -/
def Rpc.ofValues (method request response requestStreamed responseStreamed : Value) : Rpc where
  method := method.display
  request := request.display
  response := response.display
  requestStreamed := requestStreamed.isTrue
  responseStreamed := responseStreamed.isTrue

/-- A method from its row, whose first value is only a marker. -/
def Rpc.ofRow : Row → Except RowFault Rpc
  | [_, method, request, response, requestStreamed, responseStreamed] =>
    .ok (.ofValues method request response requestStreamed responseStreamed)
  | row => .error ⟨row.length⟩

/-- The methods of some rows, up to the first faulty one. -/
def Rpc.ofRows : List Row → Except RowFault (List Rpc)
  | [] => .ok []
  | row :: rows =>
    match Rpc.ofRow row with
    | .error fault => .error fault
    | .ok rpc =>
      match Rpc.ofRows rows with
      | .error fault => .error fault
      | .ok rpcs => .ok (rpc :: rpcs)

/-- A service from its declaration. -/
def Service.ofDeclaration (name : Value) (rows : List Row) : Except RowFault Service :=
  match Rpc.ofRows rows with
  | .error fault => .error fault
  | .ok rpcs => .ok ⟨Name.canonical name.display, name.display, rpcs⟩

/-- A package that was left out because another one is in use. -/
structure PackageClash where
  ignored : Value
  used : String

/-- The outcome of a fold: the clashes met on the way, and the model or the fault that stopped
it. -/
structure Folded where
  clashes : List PackageClash
  result : Except RowFault Model

namespace Model

/-- Fold declarations into a model. -/
def fold (model : Model) : List Declaration → Folded
  | [] => ⟨[], .ok model⟩
  | .package name :: declarations =>
    match model.package with
    | none => fold { model with package := some name.display } declarations
    | some used =>
      let folded := fold model declarations
      if name.isText used then folded
      else { folded with clashes := ⟨name, used⟩ :: folded.clashes }
  | .service name rows :: declarations =>
    match Service.ofDeclaration name rows with
    | .error fault => ⟨[], .error fault⟩
    | .ok service => fold { model with services := model.services ++ [service] } declarations
  | .message _ :: declarations => fold model declarations
  | .enumeration _ :: declarations => fold model declarations

end Model

end ServiceStubs
