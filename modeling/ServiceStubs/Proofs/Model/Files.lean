import ServiceStubs.Descriptor
import ServiceStubs.Model

/-!
# The model of some files

Folding is compositional, so the model of some files is found file by file. It is given in closed
form: the first declared package, the services of all files in order, and one clash for each file
that declares another package. Nothing is said here about how services are routed.
-/

namespace ServiceStubs

/-- Two folds one after another, the second from the model of the first. A fault ends both. -/
def Folded.andThen (first : Folded) (second : Model → Folded) : Folded :=
  match first.result with
  | .error fault => ⟨first.clashes, .error fault⟩
  | .ok model => ⟨first.clashes ++ (second model).clashes, (second model).result⟩

namespace Model

/-- Declarations may be folded in two parts. -/
theorem fold_append (model : Model) (first second : List Declaration) :
    model.fold (first ++ second) =
      (model.fold first).andThen fun middle => middle.fold second := by
  induction first generalizing model with
  | nil => simp [fold, Folded.andThen]
  | cons declaration rest inductionHypothesis =>
    cases declaration with
    | message name => simpa [fold] using inductionHypothesis model
    | enumeration name => simpa [fold] using inductionHypothesis model
    | service name rows =>
      simp only [List.cons_append, fold]
      cases Service.ofDeclaration name rows with
      | error fault => rfl
      | ok service => exact inductionHypothesis _
    | package name =>
      simp only [List.cons_append, fold]
      cases model.package with
      | none => exact inductionHypothesis _
      | some used =>
        dsimp only
        rw [inductionHypothesis]
        split
        · rfl
        · unfold Folded.andThen
          cases (model.fold rest).result <;> rfl

/-- Messages and enumerations leave no trace. -/
theorem fold_neutral (model : Model) {declarations : List Declaration}
    (neutral : ∀ declaration ∈ declarations,
      (∃ name, declaration = .message name) ∨ ∃ name, declaration = .enumeration name) :
    model.fold declarations = ⟨[], .ok model⟩ := by
  induction declarations with
  | nil => rfl
  | cons declaration rest inductionHypothesis =>
    rw [List.forall_mem_cons] at neutral
    have restNeutral := inductionHypothesis neutral.2
    rcases neutral.1 with ⟨name, rfl⟩ | ⟨name, rfl⟩
    · rw [fold, restNeutral]
    · rw [fold, restNeutral]

end Model

namespace Descriptor

/-- A described method as the model holds it. -/
def Method.rpc (method : Method) (package : String) (keepPackage : Bool) : Rpc where
  method := method.name
  request := relativeTypeName method.input package keepPackage
  response := relativeTypeName method.output package keepPackage
  requestStreamed := method.clientStreaming
  responseStreamed := method.serverStreaming

/-- A described service as the model holds it. -/
def Service.modelled (service : Service) (package : String) (keepPackage : Bool) :
    ServiceStubs.Service where
  displayName := Name.canonical service.name
  wireName := service.name
  rpcs := service.methods.map fun method => method.rpc package keepPackage

/-- The rows of described methods have the right length and say the same as the methods. The
marker of a row, its place, does not matter. -/
theorem ofRows_methods (methods : List Method) (package : String) (keepPackage : Bool)
    (marker : Nat → Nat) :
    Rpc.ofRows (methods.mapIdx fun index method =>
        method.row package keepPackage (marker index)) =
      .ok (methods.map fun method => method.rpc package keepPackage) := by
  induction methods generalizing marker with
  | nil => rfl
  | cons method rest inductionHypothesis =>
    have restRows := inductionHypothesis fun index => marker (index + 1)
    rw [List.mapIdx_cons, Rpc.ofRows, restRows]
    rfl

/-- A service that a file declares is modelled with all its methods. -/
theorem ofDeclaration_service (service : Service) (package : String) (keepPackage : Bool) :
    ServiceStubs.Service.ofDeclaration (.text service.name)
        (service.methods.mapIdx fun index method => method.row package keepPackage index) =
      .ok (service.modelled package keepPackage) := by
  have rows := ofRows_methods service.methods package keepPackage id
  simp only [id] at rows
  rw [ServiceStubs.Service.ofDeclaration, rows]
  rfl

/-- Described services are added in order, without clash or fault. -/
theorem fold_services (model : Model) (services : List Service) (package : String)
    (keepPackage : Bool) :
    model.fold (services.map fun service => service.declaration package keepPackage) =
      ⟨[], .ok ⟨model.package, model.services ++
        services.map fun service => service.modelled package keepPackage⟩⟩ := by
  induction services generalizing model with
  | nil => simp [Model.fold]
  | cons service rest inductionHypothesis =>
    rw [List.map_cons, Service.declaration, Model.fold, ofDeclaration_service]
    dsimp only
    rw [inductionHypothesis]
    simp

/-- The services of a file as the model holds them. -/
def File.modelled (file : File) (keepPackage : Bool) : List ServiceStubs.Service :=
  file.services.map fun service => service.modelled file.package keepPackage

/-- The package in use after some files: the one in use before, else the first declared one. -/
def packageAfter (used : Option String) (files : List File) : Option String :=
  used <|> (files.map fun file => file.package).find? (· != "")

/-- Whether a file declares a package other than the one in use. -/
def File.clash? (used : Option String) (file : File) : Option PackageClash :=
  match used with
  | none => none
  | some package =>
    if file.package = "" ∨ file.package = package then none
    else some ⟨.text file.package, package⟩

/-- The package that is used is settled file by file. -/
theorem packageAfter_cons (used : Option String) (file : File) (files : List File) :
    packageAfter used (file :: files) = packageAfter (packageAfter used [file]) files := by
  cases used with
  | some package => rfl
  | none =>
    by_cases undeclared : file.package = ""
    · simp [packageAfter, undeclared]
    · simp [packageAfter, undeclared]

/-- A file does not clash with a package that it set itself, so the package that is in use in the
end reports the same clashes. -/
theorem clash?_packageAfter (used : Option String) (file : File) (files : List File) :
    file.clash? (packageAfter used (file :: files)) = file.clash? used := by
  cases used with
  | some package => rfl
  | none =>
    by_cases undeclared : file.package = ""
    · cases found : packageAfter none (file :: files) <;> simp [File.clash?, undeclared]
    · simp [packageAfter, File.clash?, undeclared]

/-- The package of a file is set, passed over or reported. -/
theorem fold_package (model : Model) (file : File) :
    model.fold (if file.package = "" then [] else [.package (.text file.package)]) =
      ⟨(file.clash? model.package).toList,
        .ok { model with package := packageAfter model.package [file] }⟩ := by
  obtain ⟨used, services⟩ := model
  by_cases undeclared : file.package = ""
  · cases used <;> simp [undeclared, Model.fold, packageAfter, File.clash?]
  · rw [if_neg undeclared]
    cases used with
    | none => simp [undeclared, Model.fold, packageAfter, File.clash?, Value.display]
    | some package =>
      by_cases same : file.package = package
      · simp [Model.fold, packageAfter, File.clash?, Value.isText, same]
      · simp [undeclared, Model.fold, packageAfter, File.clash?, Value.isText, same]

/-- One file sets the package if none is in use, and adds its services. -/
theorem fold_file (model : Model) (file : File) (keepPackage : Bool) :
    model.fold (file.declarations keepPackage) =
      ⟨(file.clash? model.package).toList,
        .ok ⟨packageAfter model.package [file], model.services ++ file.modelled keepPackage⟩⟩ := by
  have messages (current : Model) : current.fold ((Message.dottedNamesOf "" file.messages).map
      fun name => .message (.text name)) = ⟨[], .ok current⟩ :=
    current.fold_neutral fun _ member => by
      obtain ⟨name, _, rfl⟩ := List.mem_map.mp member
      exact .inl ⟨_, rfl⟩
  have enumerations (current : Model) : current.fold (file.enumerations.map
      fun name => .enumeration (.text name)) = ⟨[], .ok current⟩ :=
    current.fold_neutral fun _ member => by
      obtain ⟨name, _, rfl⟩ := List.mem_map.mp member
      exact .inr ⟨_, rfl⟩
  simp only [File.declarations, Model.fold_append, fold_package, messages, enumerations,
    fold_services, Folded.andThen, List.append_nil, File.modelled]

/-- The model of some files: the first package, the services of all files in order, and a clash
for each file that declares another package. -/
theorem fold_files (model : Model) (files : List File) (keepPackage : Bool) :
    model.fold (files.flatMap fun file => file.declarations keepPackage) =
      ⟨files.filterMap (File.clash? (packageAfter model.package files)),
        .ok ⟨packageAfter model.package files,
          model.services ++ files.flatMap fun file => file.modelled keepPackage⟩⟩ := by
  induction files generalizing model with
  | nil => simp [Model.fold, packageAfter]
  | cons file rest inductionHypothesis =>
    rw [List.flatMap_cons, Model.fold_append, fold_file]
    simp only [Folded.andThen, inductionHypothesis]
    rw [← packageAfter_cons, List.filterMap_cons, clash?_packageAfter, List.flatMap_cons,
      List.append_assoc]
    cases file.clash? model.package <;> rfl

end Descriptor

end ServiceStubs
