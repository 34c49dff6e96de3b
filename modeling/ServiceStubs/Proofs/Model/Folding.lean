import Mathlib.Data.List.Basic
import Mathlib.Data.List.Forall2
import ServiceStubs.Proofs.Model.Files

/-!
# What declarations fold into

The outcome of a fold in closed form, for declarations of any origin. If all rows are complete,
the package is the one in use before or else the first one declared, every service is added in
order, and each later package of another name is reported. The first incomplete row stops the fold
with what was reported until then. Declarations may be folded in batches, cut anywhere.
-/

namespace ServiceStubs

section Rows

variable {row : Row} {rows early late : List Row} {name : Value}

/-- A row with as many values as a method has. -/
def Row.IsComplete (row : Row) : Prop :=
  row.length = Rpc.rowLength

instance (row : Row) : Decidable row.IsComplete :=
  inferInstanceAs (Decidable (_ = _))

/-- A complete row gives a method. -/
theorem Rpc.ofRow_of_isComplete (complete : row.IsComplete) :
    ∃ rpc, Rpc.ofRow row = .ok rpc := by
  match row with
  | [] => cases complete
  | [_] => cases complete
  | _ :: _ :: others =>
    have four : others.length = 4 := by simpa [Row.IsComplete, Rpc.rowLength] using complete
    obtain ⟨request, response, requestStreamed, responseStreamed, rfl⟩ :=
      List.length_eq_four.mp four
    exact ⟨_, rfl⟩

/-- A row of another length is refused, and its length is told. -/
theorem Rpc.ofRow_of_not_isComplete (incomplete : ¬ row.IsComplete) :
    Rpc.ofRow row = .error ⟨row.length⟩ := by
  unfold Rpc.ofRow
  split
  · exact absurd rfl incomplete
  · rfl

/-- Complete rows give methods. -/
theorem Rpc.ofRows_of_isComplete (complete : ∀ row ∈ rows, row.IsComplete) :
    ∃ rpcs, Rpc.ofRows rows = .ok rpcs := by
  induction rows with
  | nil => exact ⟨[], rfl⟩
  | cons row others inductionHypothesis =>
    rw [List.forall_mem_cons] at complete
    obtain ⟨rpc, read⟩ := Rpc.ofRow_of_isComplete complete.1
    obtain ⟨rpcs, readOthers⟩ := inductionHypothesis complete.2
    exact ⟨rpc :: rpcs, by rw [Rpc.ofRows, read, readOthers]⟩

/-- The first incomplete row is the fault of the rows. -/
theorem Rpc.ofRows_of_first (complete : ∀ other ∈ early, other.IsComplete)
    (incomplete : ¬ row.IsComplete) (late : List Row) :
    Rpc.ofRows (early ++ row :: late) = .error ⟨row.length⟩ := by
  induction early with
  | nil => rw [List.nil_append, Rpc.ofRows, Rpc.ofRow_of_not_isComplete incomplete]
  | cons other others inductionHypothesis =>
    rw [List.forall_mem_cons] at complete
    obtain ⟨rpc, read⟩ := Rpc.ofRow_of_isComplete complete.1
    rw [List.cons_append, Rpc.ofRows, read, inductionHypothesis complete.2]

/-- Complete rows give a service. -/
theorem Service.ofDeclaration_of_isComplete (name : Value)
    (complete : ∀ row ∈ rows, row.IsComplete) :
    ∃ service, Service.ofDeclaration name rows = .ok service := by
  obtain ⟨rpcs, read⟩ := Rpc.ofRows_of_isComplete complete
  exact ⟨_, by rw [Service.ofDeclaration, read]⟩

/-- The first row that is not complete is the one that is refused. -/
theorem Service.ofDeclaration_of_first (name : Value)
    (complete : ∀ other ∈ early, other.IsComplete) (incomplete : ¬ row.IsComplete)
    (late : List Row) :
    Service.ofDeclaration name (early ++ row :: late) = .error ⟨row.length⟩ := by
  rw [Service.ofDeclaration, Rpc.ofRows_of_first complete incomplete]

end Rows

namespace Declaration

/-- The name in a package declaration. -/
def packageName? : Declaration → Option Value
  | .package name => some name
  | _ => none

/-- The name and the rows in a service declaration. -/
def service? : Declaration → Option (Value × List Row)
  | .service name rows => some (name, rows)
  | _ => none

/-- The rows of a declaration, which only services have. -/
def rows : Declaration → List Row
  | .service _ rows => rows
  | _ => []

/-- Whether a declaration says anything about the model. -/
def isModelled : Declaration → Bool
  | .package _ | .service _ _ => true
  | .message _ | .enumeration _ => false

/-- Where the first incomplete row stands. -/
theorem exists_first_incomplete {declarations : List Declaration}
    (incomplete : ∃ row ∈ declarations.flatMap rows, ¬ row.IsComplete) :
    ∃ before name early row late after,
      declarations = before ++ .service name (early ++ row :: late) :: after ∧
      (∀ other ∈ before.flatMap rows ++ early, other.IsComplete) ∧ ¬ row.IsComplete := by
  induction declarations with
  | nil => simp at incomplete
  | cons declaration others inductionHypothesis =>
    obtain ⟨fault, member, isFault⟩ := incomplete
    cases found : declaration.rows.find? fun row => ¬ row.IsComplete with
    | none =>
      have complete : ∀ row ∈ declaration.rows, row.IsComplete := by
        simpa using List.find?_eq_none.mp found
      have later : fault ∈ others.flatMap rows := by
        rcases List.mem_append.mp member with here | later
        · exact absurd (complete fault here) isFault
        · exact later
      obtain ⟨before, name, early, row, late, after, rfl, earlier, stops⟩ :=
        inductionHypothesis ⟨fault, later, isFault⟩
      refine ⟨declaration :: before, name, early, row, late, after, rfl, ?_, stops⟩
      rw [List.flatMap_cons, List.append_assoc, List.forall_mem_append]
      exact ⟨complete, earlier⟩
    | some row =>
      obtain ⟨stops, early, late, cut, earlier⟩ := List.find?_eq_some_iff_append.mp found
      cases declaration with
      | service name rows =>
        obtain rfl : rows = early ++ row :: late := cut
        exact ⟨[], name, early, row, late, others, rfl, by simpa using earlier,
          by simpa using stops⟩
      | package | message | enumeration => simp [rows] at cut

end Declaration

namespace Model

/-- The package in use after packages of some names were declared: the one in use before, else the
first of them, as it is shown. -/
def packageAfter (used : Option String) (names : List Value) : Option String :=
  used <|> names.head?.map Value.display

/-- The clashes of declared packages with the one in use: those of another name, in order. -/
def clashesWith (used : String) (names : List Value) : List PackageClash :=
  (names.filter fun name => !name.isText used).map fun name => ⟨name, used⟩

/-- The clashes of declared packages: with the package in use before, or with the first of them
behind it. -/
def clashesAfter (used : Option String) (names : List Value) : List PackageClash :=
  match used, names with
  | some used, names => clashesWith used names
  | none, first :: later => clashesWith first.display later
  | none, [] => []

/-- With complete rows nothing stops the fold. -/
theorem fold_of_isComplete (model : Model) {declarations : List Declaration}
    (complete : ∀ row ∈ declarations.flatMap Declaration.rows, row.IsComplete) :
    ∃ services,
      model.fold declarations =
        ⟨clashesAfter model.package (declarations.filterMap Declaration.packageName?),
          .ok ⟨packageAfter model.package (declarations.filterMap Declaration.packageName?),
            model.services ++ services⟩⟩ ∧
      List.Forall₂
        (fun declared service => Service.ofDeclaration declared.1 declared.2 = .ok service)
        (declarations.filterMap Declaration.service?) services := by
  induction declarations generalizing model with
  | nil =>
    obtain ⟨_ | used, services⟩ := model
    · exact ⟨[], by simp [fold, clashesAfter, packageAfter], .nil⟩
    · exact ⟨[], by simp [fold, clashesAfter, clashesWith, packageAfter], .nil⟩
  | cons declaration others inductionHypothesis =>
    rw [List.flatMap_cons, List.forall_mem_append] at complete
    obtain ⟨completeHere, completeLater⟩ := complete
    cases declaration with
    | message name =>
      rw [fold]
      exact inductionHypothesis model completeLater
    | enumeration name =>
      rw [fold]
      exact inductionHypothesis model completeLater
    | package name =>
      obtain ⟨used, earlier⟩ := model
      cases used with
      | none =>
        -- The package is set here, so that the later names are compared with this one.
        exact inductionHypothesis ⟨some name.display, earlier⟩ completeLater
      | some used =>
        obtain ⟨services, folded, declared⟩ :=
          inductionHypothesis ⟨some used, earlier⟩ completeLater
        refine ⟨services, ?_, declared⟩
        simp only [fold, folded]
        by_cases same : name.isText used = true
        · simp [same, clashesAfter, clashesWith, packageAfter, Declaration.packageName?]
        · simp [same, clashesAfter, clashesWith, packageAfter, Declaration.packageName?]
    | service name rows =>
      obtain ⟨service, made⟩ := Service.ofDeclaration_of_isComplete name completeHere
      obtain ⟨services, folded, declared⟩ :=
        inductionHypothesis { model with services := model.services ++ [service] } completeLater
      refine ⟨service :: services, ?_, .cons made declared⟩
      rw [Declaration.rows] at made
      rw [fold, made]
      simp only [List.append_assoc, List.singleton_append] at folded
      exact folded

/-- The first incomplete row stops the fold, after the clashes of the packages before it. -/
theorem fold_of_first_incomplete (model : Model) {before after : List Declaration} {name : Value}
    {early late : List Row} {row : Row}
    (complete : ∀ other ∈ before.flatMap Declaration.rows ++ early, other.IsComplete)
    (incomplete : ¬ row.IsComplete) :
    model.fold (before ++ .service name (early ++ row :: late) :: after) =
      ⟨clashesAfter model.package (before.filterMap Declaration.packageName?),
        .error ⟨row.length⟩⟩ := by
  rw [List.forall_mem_append] at complete
  obtain ⟨services, folded, _⟩ := model.fold_of_isComplete complete.1
  rw [fold_append, folded, Folded.andThen]
  simp only [fold, Service.ofDeclaration_of_first name complete.2 incomplete, List.append_nil]

/-- Only packages and services count. -/
theorem fold_filter_isModelled (model : Model) (declarations : List Declaration) :
    model.fold (declarations.filter Declaration.isModelled) = model.fold declarations := by
  induction declarations generalizing model with
  | nil => rfl
  | cons declaration others inductionHypothesis =>
    cases declaration with
    | message name =>
      rw [fold]
      exact inductionHypothesis model
    | enumeration name =>
      rw [fold]
      exact inductionHypothesis model
    | package name =>
      rw [List.filter_cons_of_pos rfl, fold, fold]
      simp only [inductionHypothesis]
    | service name rows =>
      rw [List.filter_cons_of_pos rfl, fold, fold]
      simp only [inductionHypothesis]

/-- The outcome of a fold in closed form, from any model or from none. With six values in every row
there is a model: its package is the one in use before or else the first one declared, its services
are those before and then the declared ones in order, and the packages of another name declared
after the package was set are reported. Otherwise the first row of another length stops the fold,
after the reports for what precedes its service. Messages and enumerations make no difference. -/
theorem fold_in_closed_form (initial : Option Model) (declarations : List Declaration) :
    let model := initial.getD {}
    ((∀ row ∈ declarations.flatMap Declaration.rows, row.length = 6) →
      ∃ services,
        model.fold declarations =
          ⟨clashesAfter model.package (declarations.filterMap Declaration.packageName?),
            .ok ⟨packageAfter model.package (declarations.filterMap Declaration.packageName?),
              model.services ++ services⟩⟩ ∧
        List.Forall₂
          (fun declared service => Service.ofDeclaration declared.1 declared.2 = .ok service)
          (declarations.filterMap Declaration.service?) services) ∧
    ((∃ row ∈ declarations.flatMap Declaration.rows, row.length ≠ 6) →
      ∃ before name early row late after,
        declarations = before ++ .service name (early ++ row :: late) :: after ∧
        (∀ other ∈ before.flatMap Declaration.rows ++ early, other.length = 6) ∧
        row.length ≠ 6 ∧
        model.fold declarations =
          ⟨clashesAfter model.package (before.filterMap Declaration.packageName?),
            .error ⟨row.length⟩⟩ ∧
        RowFault.message ⟨row.length⟩ =
          if row.length < 6 then
            "not enough values to unpack (expected 6, got " ++ toString row.length ++ ")"
          else "too many values to unpack (expected 6)") ∧
    model.fold (declarations.filter Declaration.isModelled) = model.fold declarations := by
  intro model
  refine ⟨model.fold_of_isComplete, ?_, model.fold_filter_isModelled declarations⟩
  intro incomplete
  obtain ⟨before, name, early, row, late, after, rfl, complete, stops⟩ :=
    Declaration.exists_first_incomplete incomplete
  exact ⟨before, name, early, row, late, after, rfl, complete, stops,
    model.fold_of_first_incomplete complete stops, rfl⟩

/-- Package names that are no texts, between other declarations. -/
def looseDeclarations : List Declaration :=
  [.message (.text "Q"), .package .null,
    .service (.text "paper_tray")
      [[.null, .text "Say", .text "Q", .integer 7, .truth false, .text "yes"]],
    .package (.text "None"), .enumeration (.text "E"), .package .null]

/-- The same, and then a service with a row that is too short. -/
def shortDeclarations : List Declaration :=
  looseDeclarations ++ [.service (.text "S") [[.null]], .package (.text "late")]

/-- A missing name is shown as a word, and later only that word is the same name. The short row
stops the fold before the last package is looked at. -/
theorem fold_of_loose_and_short :
    (∀ row ∈ looseDeclarations.flatMap Declaration.rows, row.length = 6) ∧
    (∃ services,
      ({} : Model).fold looseDeclarations = ⟨[⟨.null, "None"⟩], .ok ⟨some "None", services⟩⟩ ∧
        services.length = 1) ∧
    (∃ row ∈ shortDeclarations.flatMap Declaration.rows, row.length ≠ 6) ∧
    ∃ clashes fault,
      ({} : Model).fold shortDeclarations = ⟨clashes, .error fault⟩ ∧ fault.length ≠ 6 := by
  have complete : ∀ row ∈ looseDeclarations.flatMap Declaration.rows, row.length = 6 := by decide
  have incomplete : ∃ row ∈ shortDeclarations.flatMap Declaration.rows, row.length ≠ 6 := by decide
  obtain ⟨services, folded, declared⟩ := (fold_in_closed_form none looseDeclarations).1 complete
  obtain ⟨before, name, early, row, late, after, _, _, stops, stopped, _⟩ :=
    (fold_in_closed_form none shortDeclarations).2.1 incomplete
  exact ⟨complete, ⟨services, folded, declared.length_eq.symm⟩, incomplete, _, _, stopped, stops⟩

end Model

section Batches

variable {clashes : List PackageClash} {final : Model} {fault : RowFault}

/-- Two folds succeed together if each of them does. -/
theorem Folded.andThen_eq_ok_iff {first : Folded} {second : Model → Folded} :
    first.andThen second = ⟨clashes, .ok final⟩ ↔
      ∃ early middle late, first = ⟨early, .ok middle⟩ ∧ second middle = ⟨late, .ok final⟩ ∧
        clashes = early ++ late := by
  obtain ⟨early, _ | middle⟩ := first
  · simp [andThen]
  · constructor
    · intro together
      injection together with reported ended
      exact ⟨early, middle, _, rfl, by rw [← ended], reported.symm⟩
    · rintro ⟨_, _, late, same, ended, rfl⟩
      cases same
      simp [andThen, ended]

/-- Two folds fail together if the first one fails, or else the second. -/
theorem Folded.andThen_eq_error_iff {first : Folded} {second : Model → Folded} :
    first.andThen second = ⟨clashes, .error fault⟩ ↔
      first = ⟨clashes, .error fault⟩ ∨
        ∃ early middle late, first = ⟨early, .ok middle⟩ ∧
          second middle = ⟨late, .error fault⟩ ∧ clashes = early ++ late := by
  obtain ⟨early, _ | middle⟩ := first
  · simp [andThen]
  · constructor
    · intro together
      injection together with reported ended
      exact .inr ⟨early, middle, _, rfl, by rw [← ended], reported.symm⟩
    · rintro (same | ⟨_, _, late, same, ended, rfl⟩)
      · cases same
      · cases same
        simp [andThen, ended]

namespace Model

/-- Batches that are folded one after another, each from the model of the one before, until the
last one has given a model. The clashes of all batches stand in order. -/
inductive FoldsInBatches : Model → List (List Declaration) → List PackageClash → Model → Prop where
  | nil (model : Model) : FoldsInBatches model [] [] model
  | cons {model next final : Model} {batch : List Declaration}
      {batches : List (List Declaration)} {clashes later : List PackageClash}
      (folded : model.fold batch = ⟨clashes, .ok next⟩)
      (rest : FoldsInBatches next batches later final) :
      FoldsInBatches model (batch :: batches) (clashes ++ later) final

variable {model : Model} {batches : List (List Declaration)}

/-- Folding declarations at once succeeds exactly if folding them in batches does, with the
same clashes and the same model. -/
theorem fold_flatten_eq_ok_iff :
    model.fold batches.flatten = ⟨clashes, .ok final⟩ ↔
      FoldsInBatches model batches clashes final := by
  induction batches generalizing model clashes with
  | nil =>
    constructor
    · intro folded
      cases folded
      exact .nil _
    · rintro ⟨⟩
      rfl
  | cons batch others inductionHypothesis =>
    rw [List.flatten_cons, fold_append, Folded.andThen_eq_ok_iff]
    constructor
    · rintro ⟨early, middle, late, folded, rest, rfl⟩
      exact .cons folded (inductionHypothesis.mp rest)
    · rintro (_ | ⟨folded, rest⟩)
      exact ⟨_, _, _, folded, inductionHypothesis.mpr rest, rfl⟩

/-- Folding declarations at once fails in the first batch that fails, and the clashes before
are reported. -/
theorem fold_flatten_eq_error_iff :
    model.fold batches.flatten = ⟨clashes, .error fault⟩ ↔
      ∃ earlier batch others reported middle last,
        batches = earlier ++ batch :: others ∧ FoldsInBatches model earlier reported middle ∧
        middle.fold batch = ⟨last, .error fault⟩ ∧ clashes = reported ++ last := by
  induction batches generalizing model clashes with
  | nil => simp [fold]
  | cons first rest inductionHypothesis =>
    rw [List.flatten_cons, fold_append, Folded.andThen_eq_error_iff]
    constructor
    · rintro (failed | ⟨early, middle, late, folded, failed, rfl⟩)
      · exact ⟨[], first, rest, [], model, clashes, rfl, .nil model, failed, rfl⟩
      · obtain ⟨earlier, batch, others, reported, between, last, rfl, succeeded, stopped, rfl⟩ :=
          inductionHypothesis.mp failed
        exact ⟨first :: earlier, batch, others, early ++ reported, between, last, rfl,
          .cons folded succeeded, stopped, (List.append_assoc ..).symm⟩
    · rintro ⟨earlier, batch, others, reported, between, last, cut, succeeded, stopped, rfl⟩
      cases succeeded with
      | nil =>
        cases cut
        exact .inl stopped
      | cons folded succeeded =>
        cases cut
        exact .inr ⟨_, _, _, folded,
          inductionHypothesis.mpr ⟨_, _, _, _, _, _, rfl, succeeded, stopped, rfl⟩,
          List.append_assoc ..⟩

/-- Declarations may be cut into batches anywhere. The whole list gives a model exactly if every
batch does, each from the model of the one before; it is the last of them, and the clashes are those
of the batches in order. The whole list stops at a fault exactly if the batches before some batch
give models and that batch stops at the same fault, with the same clashes until then. -/
theorem batches_fold_as_one (model : Model) (batches : List (List Declaration)) :
    (∀ clashes final, model.fold batches.flatten = ⟨clashes, .ok final⟩ ↔
      FoldsInBatches model batches clashes final) ∧
    ∀ clashes fault, model.fold batches.flatten = ⟨clashes, .error fault⟩ ↔
      ∃ earlier batch others reported middle last,
        batches = earlier ++ batch :: others ∧ FoldsInBatches model earlier reported middle ∧
        middle.fold batch = ⟨last, .error fault⟩ ∧ clashes = reported ++ last :=
  ⟨fun _ _ => fold_flatten_eq_ok_iff, fun _ _ => fold_flatten_eq_error_iff⟩

end Model

end Batches

end ServiceStubs
