import ServiceStubs.Proofs.Generate.Action
import ServiceStubs.Proofs.Model.Files

/-!
# The model that a run works with

A run folds the declarations of its schema files into a model and reports the packages that are
left out. For described files this step cannot fail, it loses no service and no method, and it
reports a package exactly if another one was declared before. How the services are routed under
the package of the model is not said here.
-/

namespace ServiceStubs

namespace Descriptor

/-- The files behind the first one that declares a package. -/
def laterFiles (files : List File) : List File :=
  (files.dropWhile fun file => file.package == "").tail

/-- The files that declare a package other than the one in use come behind the first that declares
one. -/
theorem clashes_eq_map_laterFiles (files : List File) :
    files.filterMap (File.clash? (packageAfter none files)) =
      ((laterFiles files).filter fun file =>
          file.package != "" && packageAfter none files != some file.package).map
        fun file => ⟨.text file.package, (packageAfter none files).getD ""⟩ := by
  induction files with
  | nil => rfl
  | cons file rest inductionHypothesis =>
    by_cases undeclared : file.package = ""
    · have sameUse : packageAfter none (file :: rest) = packageAfter none rest := by
        simp [packageAfter, undeclared]
      have sameLater : laterFiles (file :: rest) = laterFiles rest := by
        simp [laterFiles, undeclared]
      have silent : file.clash? (packageAfter none rest) = none := by
        cases packageAfter none rest <;> simp [File.clash?, undeclared]
      rw [sameUse, sameLater, List.filterMap_cons_none silent, inductionHypothesis]
    · have used : packageAfter none (file :: rest) = some file.package := by
        simp [packageAfter, undeclared]
      have later : laterFiles (file :: rest) = rest := by
        simp [laterFiles, undeclared]
      have silent : file.clash? (some file.package) = none := by
        simp [File.clash?]
      rw [used, later, List.filterMap_cons_none silent, ← List.filterMap_eq_map,
        List.filterMap_filter]
      congr 1
      funext other
      by_cases same : other.package = file.package
      · simp [File.clash?, same]
      · by_cases bare : other.package = "" <;> simp [File.clash?, bare, same, Ne.symm same]

end Descriptor

namespace Action

/-- Reporting one thing after another adds the notices in order. -/
theorem outcome_forM_report {α : Type} (items : List α) (notice : α → Notice)
    (session : Session) :
    (items.forM fun item => report (notice item)).outcome session =
      (.ok (), { session with notices := session.notices ++ items.map notice }) := by
  induction items generalizing session with
  | nil => rw [List.map_nil, List.append_nil]; rfl
  | cons item others inductionHypothesis =>
    refine outcome_bind_of_ok (outcome_report (notice item) session) ?_
    rw [inductionHypothesis, List.map_cons, List.append_assoc, List.singleton_append]

/-- Declarations that fold into a model give that model, and the clashes are reported. -/
theorem outcome_model {declarations : List Declaration} {clashes : List PackageClash}
    {folded : Model} (fold : ({} : Model).fold declarations = ⟨clashes, .ok folded⟩)
    (session : Session) :
    (model declarations).outcome session =
      (.ok folded,
        { session with notices := session.notices ++ clashes.map Notice.packageIgnored }) := by
  rw [model, fold]
  exact outcome_bind_of_ok (outcome_forM_report clashes Notice.packageIgnored session) rfl

/-- Described files always give a model. Its package is the first declared one, its services are
the described services in order with all their methods, and there is one warning for each later
file that declares another package. -/
theorem model_of_files (files : List Descriptor.File) (keepPackage : Bool) (session : Session) :
    ∃ (folded : Model) (warnings : List Notice),
      (model (files.flatMap fun file => file.declarations keepPackage)).outcome session =
        (.ok folded, { session with notices := session.notices ++ warnings }) ∧
      folded.package = (files.map fun file => file.package).find? (· != "") ∧
      folded.services = (files.flatMap fun file => file.services.map fun service =>
        { displayName := Name.canonical service.name
          wireName := service.name
          rpcs := service.methods.map fun method =>
            { method := method.name
              request := Descriptor.relativeTypeName method.input file.package keepPackage
              response := Descriptor.relativeTypeName method.output file.package keepPackage
              requestStreamed := method.clientStreaming
              responseStreamed := method.serverStreaming } }) ∧
      warnings.map Notice.line =
        ((Descriptor.laterFiles files).filter fun file =>
            file.package != "" && folded.package != some file.package).map fun file =>
          "WARNING:grpc_stub_generator.model:Ignoring package '" ++ file.package ++
            "', already using package '" ++ folded.package.getD "" ++ "'." := by
  refine ⟨_, _, outcome_model (Descriptor.fold_files {} files keepPackage) session, ?_, ?_, ?_⟩
  · rfl
  · rfl
  · dsimp only
    rw [Descriptor.clashes_eq_map_laterFiles, List.map_map, List.map_map]
    apply List.map_congr_left
    intro file _
    rfl

end Action

end ServiceStubs
