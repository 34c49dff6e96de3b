import Mathlib.Data.List.Forall2
import ServiceStubs.Proofs.Descriptor
import ServiceStubs.Proofs.Model.Files
import ServiceStubs.Proofs.Name
import ServiceStubs.Signature

/-!
# Routes and type references of merged files

A model has one package for the services of all files. Where all files declare that package, every
service is routed and every type is named by what the files declare. Where packages are mixed, a
clash is reported for each other package, but not for a file that declares none: its services are
routed under the package of the others.
-/

namespace ServiceStubs.Descriptor

/-- A type reference in a table of methods: the quoted name, marked when it is streamed. -/
def quotedReference (name : String) (streamed : Bool) : String :=
  if streamed then streamOf name else "\"" ++ name ++ "\""

/-- The name of a type in the tables of a package. Unless package names are kept, a type of the
package itself is named once by it; any other type is named below it. -/
def referenceName (package : String) (keepPackage : Bool) (name : String) : String :=
  if keepPackage = false ∧ Text.startsWith name (package ++ ".") = true then Name.canonical name
  else Name.canonical (package ++ "." ++ name)

/-- A table entry names a described method and refers to its types, as far as these are complete
names with one leading dot. -/
def Method.NamedBy (method : Method) (package : String) (keepPackage : Bool)
    (signature : String) : Prop :=
  ∃ request response,
    signature = "rpc(\"" ++ method.name ++ "\", " ++
      quotedReference request method.clientStreaming ++ ", " ++
      quotedReference response method.serverStreaming ++ ")" ∧
    (∀ name, method.input = "." ++ name → Text.startsWith name "." = false →
      request = referenceName package keepPackage name) ∧
    (∀ name, method.output = "." ++ name → Text.startsWith name "." = false →
      response = referenceName package keepPackage name)

/-- What qualifies a relative type name restores what was taken away from it. -/
theorem canonical_relativeTypeName {package name : String} (declared : package ≠ "")
    (keepPackage : Bool) (bare : Text.startsWith name "." = false) :
    Name.canonical package ++ "." ++
        Name.canonical (relativeTypeName ("." ++ name) package keepPackage) =
      referenceName package keepPackage name := by
  unfold referenceName
  split
  · rename_i own
    obtain ⟨kept, inside⟩ := own
    obtain ⟨rest, spelled⟩ := List.isPrefixOf_iff_prefix.mp inside
    have split : name = package ++ "." ++ String.ofList rest := by
      rw [← String.toList_inj, ← spelled]
      simp
    rw [kept, relativeTypeName_own declared split bare, split, Name.canonical_dot]
  · rename_i foreign
    have apart : keepPackage = true ∨ Text.startsWith name (package ++ ".") = false := by
      cases keepPackage <;> simp_all
    rw [relativeTypeName_foreign apart bare, Name.canonical_dot]

/-- The table entry of a method, under the top module of its package. -/
theorem namedBy_signature {package : String} (declared : package ≠ "") (keepPackage : Bool)
    (method : Method) :
    method.NamedBy package keepPackage
      ((method.rpc package keepPackage).signature (Name.canonical package)) := by
  refine ⟨_, _, rfl, ?_, ?_⟩
  · rintro name complete bare
    simpa [Method.rpc, complete] using canonical_relativeTypeName declared keepPackage bare
  · rintro name complete bare
    simpa [Method.rpc, complete] using canonical_relativeTypeName declared keepPackage bare

section OnePackage

variable {files : List File} {package : String}

/-- Files of one package bring that package into use. -/
theorem packageAfter_of_same (nonempty : files ≠ []) (declared : package ≠ "")
    (same : ∀ file ∈ files, file.package = package) :
    packageAfter none files = some package := by
  cases files with
  | nil => exact absurd rfl nonempty
  | cons file rest =>
    rw [List.forall_mem_cons] at same
    simp [packageAfter, same.1, declared]

/-- Files of one package do not clash. -/
theorem clashes_of_same (same : ∀ file ∈ files, file.package = package) :
    files.filterMap (File.clash? (some package)) = [] := by
  rw [List.filterMap_eq_nil_iff]
  intro file member
  simp [File.clash?, same file member]

/-- The services of files of one package, as the model holds them. -/
theorem modelled_of_same (same : ∀ file ∈ files, file.package = package) (keepPackage : Bool) :
    (files.flatMap fun file => file.modelled keepPackage) =
      (files.flatMap fun file => file.services).map
        fun service => service.modelled package keepPackage := by
  rw [List.map_flatMap]
  apply List.flatMap_congr
  intro file member
  rw [File.modelled, same file member]

/-- Files of one package give a model without a clash, in which every service is routed by the
package and its declared name, and every table entry refers to types by their complete names. -/
theorem names_under_one_package (nonempty : files ≠ []) (declared : package ≠ "")
    (same : ∀ file ∈ files, file.package = package) (keepPackage : Bool) (sourceName : String) :
    ∃ model : Model,
      ({} : Model).fold (files.flatMap fun file => file.declarations keepPackage) =
        ⟨[], .ok model⟩ ∧
      List.Forall₂
        (fun described service =>
          Name.routePrefix model.package ++ service.wireName =
            package ++ "." ++ described.name ∧
          List.Forall₂
            (fun method rpc => method.NamedBy package keepPackage
              (rpc.signature (Name.topModule none model.package sourceName)))
            described.methods service.rpcs)
        (files.flatMap fun file => file.services) model.services := by
  have used := packageAfter_of_same nonempty declared same
  have folded := fold_files {} files keepPackage
  rw [used, clashes_of_same same, modelled_of_same same] at folded
  refine ⟨_, folded, ?_⟩
  dsimp only
  rw [List.nil_append, Name.topModule_of_package declared, Name.routePrefix_of_package declared,
    List.forall₂_map_right_iff, List.forall₂_same]
  intro described _
  refine ⟨rfl, ?_⟩
  rw [Service.modelled, List.forall₂_map_right_iff, List.forall₂_same]
  intro method _
  exact namedBy_signature declared keepPackage method

/-- Two files of one package, with a type of the package, one of a longer package, and one of
another package. -/
theorem names_of_two_files :
    referenceName "demo.v1" false "demo.v1.hello_request" = "Demo.V1.HelloRequest" ∧
      referenceName "demo.v1" false "demo.v1x.Reply" = "Demo.V1.Demo.V1x.Reply" ∧
      ∃ model : Model,
        ({} : Model).fold ([
            { package := "demo.v1", services := [⟨"greeter", [
                ⟨"Greet", ".demo.v1.hello_request", ".demo.v1x.Reply", true, false⟩]⟩] },
            { package := "demo.v1", services := [⟨"Clock", [
                ⟨"Now", ".google.protobuf.Empty", ".demo.v1.Time", false, true⟩]⟩] }
          ].flatMap fun file : File => file.declarations false) = ⟨[], .ok model⟩ ∧
        List.Forall₂
          (fun (described : Service) service =>
            Name.routePrefix model.package ++ service.wireName =
              "demo.v1" ++ "." ++ described.name ∧
            List.Forall₂
              (fun (method : Method) rpc => method.NamedBy "demo.v1" false
                (rpc.signature (Name.topModule none model.package "main")))
              described.methods service.rpcs)
          [⟨"greeter", [⟨"Greet", ".demo.v1.hello_request", ".demo.v1x.Reply", true, false⟩]⟩,
            ⟨"Clock", [⟨"Now", ".google.protobuf.Empty", ".demo.v1.Time", false, true⟩]⟩]
          model.services :=
  ⟨by decide +kernel, by decide +kernel,
    names_under_one_package (by simp) (by decide) (by simp) false "main"⟩

end OnePackage

/-- The services of some files in order, each with the file that declares it. -/
def declaredServices (files : List File) : List (File × Service) :=
  files.flatMap fun file => file.services.map fun service => (file, service)

/-- The name that a service is routed by according to its own file. -/
def File.routeName (file : File) (service : Service) : String :=
  (if file.package = "" then "" else file.package ++ ".") ++ service.name

section MixedPackages

variable {files : List File}

/-- The services of a model are the declared ones, in order. -/
theorem modelled_eq_map_declaredServices (files : List File) (keepPackage : Bool) :
    (files.flatMap fun file => file.modelled keepPackage) =
      (declaredServices files).map
        fun declared => declared.2.modelled declared.1.package keepPackage := by
  rw [declaredServices, List.map_flatMap]
  simp [File.modelled, Function.comp_def]

/-- Without a clash, every declared package is the one in use. -/
theorem package_of_no_clash {used : Option String} {file : File} (member : file ∈ files)
    (silent : files.filterMap (File.clash? used) = []) (declared : file.package ≠ "")
    (inUse : used ≠ none) : used = some file.package := by
  rw [List.filterMap_eq_nil_iff] at silent
  have noClash := silent file member
  cases used with
  | none => exact absurd rfl inUse
  | some package =>
    have same : file.package = package := by simpa [File.clash?, declared] using noClash
    rw [same]

/-- No package is in use exactly if no file declares one. -/
theorem packageAfter_eq_none_iff :
    packageAfter none files = none ↔ ∀ file ∈ files, file.package = "" := by
  simp [packageAfter]

/-- The package that is used was declared by some file. -/
theorem declared_of_packageAfter {package : String}
    (used : packageAfter none files = some package) : package ≠ "" := by
  rintro rfl
  simpa using List.find?_some used

/-- A route below a package is longer than the bare name. -/
theorem routePrefix_append_ne {package : String} (declared : package ≠ "") (name : String) :
    Name.routePrefix (some package) ++ name ≠ name := by
  intro equal
  have lengths := congrArg (fun text : String => text.toList.length) equal
  rw [Name.routePrefix_of_package declared] at lengths
  simp only [String.toList_append, List.length_append] at lengths
  have dot : ".".toList.length = 1 := rfl
  omega

/-- Without a clash, the package in use gives a service the route of its file exactly if the file
declares a package, or no file does. -/
theorem route_eq_iff_of_no_clash {file : File} (member : file ∈ files)
    (silent : files.filterMap (File.clash? (packageAfter none files)) = []) (service : Service) :
    Name.routePrefix (packageAfter none files) ++ service.name = file.routeName service ↔
      file.package ≠ "" ∨ ∀ other ∈ files, other.package = "" := by
  by_cases undeclared : file.package = ""
  · have ownRoute : file.routeName service = service.name := by
      simp [File.routeName, undeclared]
    rw [ownRoute, or_iff_right (by simp [undeclared]), ← packageAfter_eq_none_iff]
    cases used : packageAfter none files with
    | none => simp [Name.routePrefix]
    | some package =>
      have longer := routePrefix_append_ne (declared_of_packageAfter used) service.name
      simp [longer]
  · have inUse : packageAfter none files ≠ none := by
      rw [ne_eq, packageAfter_eq_none_iff]
      intro allUndeclared
      exact undeclared (allUndeclared file member)
    rw [package_of_no_clash member silent undeclared inUse,
      Name.routePrefix_of_package undeclared]
    simp [File.routeName, undeclared]

/-- Files always give a model. If no clash is reported, a service is routed as its own file says
exactly if that file declares a package or no file does. -/
theorem routes_of_mixed_packages (files : List File) (keepPackage : Bool) :
    ∃ model : Model,
      (({} : Model).fold (files.flatMap fun file => file.declarations keepPackage)).result =
        .ok model ∧
      ((({} : Model).fold (files.flatMap fun file => file.declarations keepPackage)).clashes =
          [] →
        List.Forall₂
          (fun declared service =>
            Name.routePrefix model.package ++ service.wireName =
                declared.1.routeName declared.2 ↔
              declared.1.package ≠ "" ∨ ∀ file ∈ files, file.package = "")
          (declaredServices files) model.services) := by
  rw [fold_files]
  refine ⟨_, rfl, ?_⟩
  intro silent
  dsimp only
  rw [List.nil_append, modelled_eq_map_declaredServices, List.forall₂_map_right_iff,
    List.forall₂_same]
  rintro ⟨file, service⟩ declared
  obtain ⟨declaring, member, paired⟩ := List.mem_flatMap.mp declared
  obtain ⟨_, _, same⟩ := List.mem_map.mp paired
  obtain rfl : declaring = file := congrArg Prod.fst same
  exact route_eq_iff_of_no_clash member silent service

/-- A file without a package behind one with a package: the first is routed by its own package. -/
theorem routes_of_package_before_none :
    (({} : Model).fold ([{ package := "shared", services := [{ name := "Clock" }] },
        { services := [{ name := "Echo" }] }].flatMap
          fun file : File => file.declarations false)).clashes = [] ∧
      ∃ model : Model,
        (({} : Model).fold ([{ package := "shared", services := [{ name := "Clock" }] },
          { services := [{ name := "Echo" }] }].flatMap
            fun file : File => file.declarations false)).result = .ok model ∧
        List.Forall₂
          (fun declared service =>
            Name.routePrefix model.package ++ service.wireName =
                declared.1.routeName declared.2 ↔
              declared.1.package ≠ "" ∨
                ∀ file ∈ ([{ package := "shared", services := [{ name := "Clock" }] },
                  { services := [{ name := "Echo" }] }] : List File), file.package = "")
          (declaredServices [{ package := "shared", services := [{ name := "Clock" }] },
            { services := [{ name := "Echo" }] }]) model.services := by
  refine ⟨rfl, ?_⟩
  obtain ⟨model, folded, routed⟩ := routes_of_mixed_packages
    [{ package := "shared", services := [{ name := "Clock" }] },
      { services := [{ name := "Echo" }] }] false
  exact ⟨model, folded, routed rfl⟩

/-- A file without a package beside one with a package: nothing is reported, and the service of
the first is routed under the package of the second. -/
theorem undeclared_package_rerouted :
    ¬ ∀ (files : List File) (keepPackage : Bool) (model : Model),
      ({} : Model).fold (files.flatMap fun file => file.declarations keepPackage) =
          ⟨[], .ok model⟩ →
        List.Forall₂
          (fun declared service =>
            Name.routePrefix model.package ++ service.wireName =
              declared.1.routeName declared.2)
          (declaredServices files) model.services := by
  intro alwaysOwnPackage
  have routes := alwaysOwnPackage
    [{ services := [{ name := "Echo" }] }, { package := "shared" }] false
    ⟨some "shared", [{ displayName := "Echo", wireName := "Echo" }]⟩ rfl
  rw [declaredServices] at routes
  simp [File.routeName, Name.routePrefix] at routes

end MixedPackages

end ServiceStubs.Descriptor
