import Mathlib.Data.List.Nodup
import ServiceStubs.Proofs.Model.Routing
import ServiceStubs.Proofs.Name.Identifier
import ServiceStubs.Proofs.StubModule.Calls

/-!
# The classes of a stub module

Every service has two classes, which are named after its canonical name. The names are read off the
text of the module: besides the classes of the services there are only those of the tables. Whether
a class name is an identifier depends on the first character of the service name that is no
underscore, and whether two services share their classes on the canonical names alone: neither
packages nor underscores keep services apart.
-/

namespace ServiceStubs

/-- The name of the class that a line of code opens, up to a bracket or a colon. -/
def openedClass? (line : String) : Option String :=
  if Text.startsWith line "class " then
    some (String.ofList ((line.toList.drop 6).takeWhile fun character =>
      character != '(' && character != ':'))
  else none

/-- The names of the classes that some lines of code open. -/
def definedClasses (lines : List String) : List String :=
  lines.filterMap openedClass?

section Lines

/-- Classes are opened by lines that start so. -/
theorem readsOnly_openedClass? : ReadsOnly "class " openedClass? := by
  intro line other
  simp [openedClass?, other]

/-- These are telling lines. -/
theorem readsTelling_openedClass? : ReadsTelling openedClass? :=
  readsOnly_openedClass?.readsTelling (by decide)

/-- The classes of some lines are those of the telling lines. -/
theorem definedClasses_filter (lines : List String) :
    definedClasses (lines.filter isTelling) = definedClasses lines :=
  readsTelling_openedClass?.filterMap_filter lines

/-- A class with a plain name is opened by a line with that name. -/
theorem openedClass?_of_isPlain {name : String} (plain : Name.isPlain name = true) :
    openedClass? ("class " ++ name ++ ":") = some name := by
  have opens : Text.startsWith ("class " ++ name ++ ":") "class " = true :=
    Text.startsWith_iff.mpr ⟨name ++ ":", String.append_assoc ..⟩
  have named : ∀ character ∈ name.toList,
      (character != '(' && character != ':') = true := by
    intro character member
    have noBracket : character ≠ '(' := fun bracket =>
      Name.not_mem_of_isPlain plain (by decide) (bracket ▸ member)
    have noColon : character ≠ ':' := fun colon =>
      Name.not_mem_of_isPlain plain (by decide) (colon ▸ member)
    simp [noBracket, noColon]
  have spelled : ("class " ++ name ++ ":").toList.drop 6 = name.toList ++ [':'] := by
    simp [String.toList_append]
  rw [openedClass?, if_pos opens, spelled, List.takeWhile_append_of_pos named]
  simp

end Lines

namespace Service

/-- The names of both classes of a service. -/
def classNames (service : Service) : List String :=
  [service.className ++ "Service", service.className ++ "Stub"]

variable {service : Service}

/-- The line of a class of a service opens it. -/
theorem openedClass?_classLine (plain : Name.isPlain service.displayName = true)
    {kind ending : String} (kindPlain : Name.isPlain kind = true) (ends : ending = kind ++ ":") :
    openedClass? ("class " ++ service.className ++ ending) = some (service.className ++ kind) := by
  have opened := openedClass?_of_isPlain (Name.isPlain_append (isPlain_className plain) kindPlain)
  rw [ends]
  rwa [← String.append_assoc, String.append_assoc] at opened

/-- The lines of a service open its two classes. -/
theorem definedClasses_lines (plain : Name.isPlain service.displayName = true)
    (topModule : String) (package : Option String) :
    definedClasses (service.lines topModule package) = service.classNames := by
  have table : openedClass? ("class " ++ service.className ++ "Service:") =
      some (service.className ++ "Service") :=
    openedClass?_classLine plain (by decide) rfl
  have stub : openedClass? ("class " ++ service.className ++ "Stub:") =
      some (service.className ++ "Stub") :=
    openedClass?_classLine plain (by decide) rfl
  have named : openedClass? (nameLine (service.routeName package)) = none :=
    readsOnly_openedClass?.eq_none (startsWith_nameLine _) (by decide) (by decide)
  have keeps : openedClass? channelLine = none := by decide
  have entries : (service.entries topModule).filterMap openedClass? = [] :=
    List.filterMap_eq_nil_iff.mpr fun _ member =>
      readsOnly_openedClass?.eq_none (startsWith_of_mem_entries member) (by decide) (by decide)
  have calls : (service.calls package).filterMap openedClass? = [] :=
    List.filterMap_eq_nil_iff.mpr fun _ member =>
      readsOnly_openedClass?.eq_none (startsWith_of_mem_calls member) (by decide) (by decide)
  rw [← definedClasses_filter, filter_isTelling_lines, tellingLines, definedClasses]
  simp only [List.filterMap_cons, List.filterMap_append, table, stub, named, keeps, entries, calls]
  rfl

/-- The class names of a service end apart from each other and from those of the tables. -/
theorem getLast?_classNames (service : Service) :
    (service.className ++ "Service").toList.getLast? = some 'e' ∧
      (service.className ++ "Stub").toList.getLast? = some 'b' := by
  simp

/-- No table is named as a stub. -/
theorem className_service_ne_stub (left right : Service) :
    left.className ++ "Service" ≠ right.className ++ "Stub" := by
  intro equal
  have ends := left.getLast?_classNames.1
  rw [equal, right.getLast?_classNames.2] at ends
  exact absurd ends (by decide)

/-- Two services share no class exactly if they have different names for their classes. -/
theorem disjoint_classNames_iff {left right : Service} :
    List.Disjoint left.classNames right.classNames ↔ left.className ≠ right.className := by
  constructor
  · intro disjoint same
    apply disjoint (a := left.className ++ "Service")
    · simp [classNames]
    · simp [classNames, same]
  · intro apart name inLeft inRight
    simp only [classNames, List.mem_cons, List.not_mem_nil, or_false] at inLeft inRight
    rcases inLeft with rfl | rfl
    · rcases inRight with same | same
      · exact apart ((String.append_left_inj _).mp same)
      · exact className_service_ne_stub _ _ same
    · rcases inRight with same | same
      · exact className_service_ne_stub _ _ same.symm
      · exact apart ((String.append_left_inj _).mp same)

end Service

/-- The names of the classes of a module for a model: those of the tables, then two for each
service. -/
def Model.classNames (model : Model) : List String :=
  "Stream" :: "Rpc" :: model.services.flatMap Service.classNames

/-- The classes of a module are named differently exactly if the services have different names for
their classes. -/
theorem Model.nodup_classNames_iff {model : Model} :
    model.classNames.Nodup ↔ (model.services.map Service.className).Nodup := by
  have apart : ∀ name, name.toList.getLast? ≠ some 'e' → name.toList.getLast? ≠ some 'b' →
      name ∉ model.services.flatMap Service.classNames := by
    intro name notService notStub member
    obtain ⟨service, _, found⟩ := List.mem_flatMap.mp member
    simp only [Service.classNames, List.mem_cons, List.not_mem_nil, or_false] at found
    rcases found with rfl | rfl
    · exact notService service.getLast?_classNames.1
    · exact notStub service.getLast?_classNames.2
  have each : ∀ service ∈ model.services, service.classNames.Nodup := by
    intro service _
    simp [Service.classNames]
  rw [classNames, List.nodup_cons, List.nodup_cons, List.nodup_flatMap, List.Nodup,
    List.pairwise_map]
  constructor
  · rintro ⟨_, _, _, disjoint⟩
    exact disjoint.imp fun services => Service.disjoint_classNames_iff.mp services
  · intro different
    refine ⟨?_, apart _ (by decide) (by decide), each,
      different.imp fun names => Service.disjoint_classNames_iff.mpr names⟩
    rw [List.mem_cons, not_or]
    exact ⟨by decide, apart _ (by decide) (by decide)⟩

namespace StubModule

variable (module : StubModule)

/-- The classes that the text of a module defines are those of the tables and of its services. -/
theorem definedClasses_render (plain : module.hasPlainNames = true)
    (sources : ∀ name ∈ module.sourceNames, Text.IsLine name) :
    definedClasses (Text.splitString '\n' module.render) = module.model.classNames := by
  have tables : openedClass? "class Stream(NamedTuple):" = some "Stream" ∧
      openedClass? "class Rpc(NamedTuple):" = some "Rpc" := by
    decide
  have services : (module.model.services.flatMap fun service =>
      service.tellingLines module.topModule module.model.package).filterMap openedClass? =
      module.model.services.flatMap Service.classNames := by
    rw [List.filterMap_flatMap]
    apply List.flatMap_congr
    intro service member
    have servicePlain := (hasPlainNames_iff.mp plain).2.2 service member
    rw [← Service.filter_isTelling_lines, readsTelling_openedClass?.filterMap_filter]
    exact Service.definedClasses_lines (Service.hasPlainNames_iff.mp servicePlain).1 _ _
  rw [← definedClasses_filter, module.filter_isTelling_render plain sources, tellingLines,
    definedClasses, List.filterMap_cons, tables.1, List.filterMap_cons, tables.2, services]
  rfl

end StubModule

namespace Service

variable {service : Service} {name : String}

/-- A service with a declared name shows the canonical form of that name. -/
theorem displayName_of_declared {rows : List Row}
    (made : ofDeclaration (.text name) rows = .ok service) :
    service.displayName = Name.canonical name := by
  rw [ofDeclaration] at made
  cases methods : Rpc.ofRows rows with
  | error fault =>
    rw [methods] at made
    cases made
  | ok rpcs =>
    rw [methods] at made
    rw [← Except.ok.inj made]
    rfl

/-- The classes of a service that is called by an identifier start with its canonical form. -/
theorem className_eq_camelize (identifier : Name.isIdentifier name = true)
    (displayed : service.displayName = Name.canonical name) :
    service.className = Name.camelize name := by
  rw [className, displayed, Name.canonical_of_isIdentifier identifier, List.filter_eq_self.mpr,
    String.ofList_toList]
  intro character member
  have alphanumeric := Name.isAlphanum_of_mem_camelize identifier member
  rw [bne_iff_ne]
  rintro rfl
  exact absurd alphanumeric (by decide)

/-- The lines of a service that is declared with an identifier open two classes, whose names are
not empty and consist of letters and digits. They are identifiers exactly if the declared name does
not start with a digit behind its underscores. -/
theorem class_names_are_identifiers_iff {rows : List Row}
    (identifier : Name.isIdentifier name = true)
    (made : ofDeclaration (.text name) rows = .ok service) (topModule : String)
    (package : Option String) :
    definedClasses (service.lines topModule package) =
        [service.className ++ "Service", service.className ++ "Stub"] ∧
      (∀ className ∈ definedClasses (service.lines topModule package), className ≠ "" ∧
        ∀ character ∈ className.toList, Name.isWordCharacter character = true) ∧
      ((∀ className ∈ definedClasses (service.lines topModule package),
          Name.isIdentifier className = true) ↔
        Name.startsWithDigit name = false) := by
  have displayed := displayName_of_declared made
  have plain : Name.isPlain service.displayName = true := by
    rw [displayed]
    exact Name.isPlain_canonical (Name.isPlain_of_isIdentifier identifier)
  have table : Name.isIdentifier "Service" = true := by decide
  have stub : Name.isIdentifier "Stub" = true := by decide
  rw [definedClasses_lines plain, classNames, className_eq_camelize identifier displayed]
  simp only [List.forall_mem_cons, List.not_mem_nil, false_implies, implies_true, and_true,
    true_and]
  refine ⟨⟨⟨Name.camelize_append_ne_empty table, ?_⟩, Name.camelize_append_ne_empty stub, ?_⟩, ?_⟩
  · exact fun _ => Name.isWordCharacter_of_mem_camelize_append identifier table
  · exact fun _ => Name.isWordCharacter_of_mem_camelize_append identifier stub
  · rw [Name.isIdentifier_camelize_append_iff identifier table,
      Name.isIdentifier_camelize_append_iff identifier stub, and_self]

/-- Underscores before a letter do not matter, and neither do digits behind it. -/
theorem class_names_of_indented_name :
    Name.isIdentifier "__line_2" = true ∧
      definedClasses (Service.lines ⟨"Line2", "__line_2", []⟩ "Office" none) =
        ["Line2Service", "Line2Stub"] ∧
      ∀ className ∈ definedClasses (Service.lines ⟨"Line2", "__line_2", []⟩ "Office" none),
        Name.isIdentifier className = true := by
  have identifier : Name.isIdentifier "__line_2" = true := by decide +kernel
  have displayed : Name.canonical "__line_2" = "Line2" := by decide +kernel
  have made : ofDeclaration (.text "__line_2") [] = .ok ⟨"Line2", "__line_2", []⟩ := by
    rw [← displayed]
    rfl
  obtain ⟨opened, _, valid⟩ := class_names_are_identifiers_iff identifier made "Office" none
  exact ⟨identifier, opened.trans (by decide +kernel), valid.mpr (by decide +kernel)⟩

/-- A digit behind an underscore comes to the front, and the classes of the service have names that
are no identifiers. -/
theorem class_names_of_hidden_digit :
    ¬ ∀ (name : String) (rows : List Row) (service : Service), Name.isIdentifier name = true →
      ofDeclaration (.text name) rows = .ok service →
      ∀ className ∈ definedClasses (service.lines "Office" none),
        Name.isIdentifier className = true := by
  intro alwaysValid
  have displayed : Name.canonical "_1st" = "1st" := by decide +kernel
  have made : ofDeclaration (.text "_1st") [] = .ok ⟨"1st", "_1st", []⟩ := by
    rw [← displayed]
    rfl
  have valid := alwaysValid "_1st" [] _ (by decide +kernel) made
  rw [definedClasses_lines (by decide +kernel)] at valid
  exact absurd (valid "1stService" (by decide +kernel)) (by decide +kernel)

end Service

namespace Descriptor

variable {files : List File}

/-- The class names of modelled services are the canonical forms of the declared names. -/
theorem map_className_modelled (keepPackage : Bool)
    (identifiers : ∀ declared ∈ declaredServices files,
      Name.isIdentifier declared.2.name = true) :
    (files.flatMap fun file => file.modelled keepPackage).map ServiceStubs.Service.className =
      (declaredServices files).map fun declared => Name.camelize declared.2.name := by
  rw [modelled_eq_map_declaredServices, List.map_map]
  apply List.map_congr_left
  intro declared member
  exact ServiceStubs.Service.className_eq_camelize (identifiers declared member) rfl

/-- In one package, services with different complete names have different names. -/
theorem nodup_names_of_same {package : String} (same : ∀ file ∈ files, file.package = package)
    (distinct : ((declaredServices files).map
      fun declared => declared.1.routeName declared.2).Nodup) :
    ((declaredServices files).map fun declared => declared.2.name).Nodup := by
  have routed : ((declaredServices files).map fun declared => declared.1.routeName declared.2) =
      ((declaredServices files).map fun declared => declared.2.name).map
        fun name => (if package = "" then "" else package ++ ".") ++ name := by
    rw [List.map_map]
    apply List.map_congr_left
    rintro ⟨file, service⟩ member
    obtain ⟨declaring, among, paired⟩ := List.mem_flatMap.mp member
    obtain ⟨_, _, equal⟩ := List.mem_map.mp paired
    obtain rfl : declaring = file := congrArg Prod.fst equal
    simp [File.routeName, same declaring among]
  rw [routed] at distinct
  exact distinct.of_map

/-- Services of described files, with different complete names that are identifiers, always give a
model. The text of a module for it defines two classes for each service besides those of the
tables. All these are named differently exactly if the canonical forms of the declared names
differ; so they are if all files have one package and the names are in canonical form already. -/
theorem classes_distinct_iff (files : List File) (keepPackage : Bool)
    (distinct : ((declaredServices files).map
      fun declared => declared.1.routeName declared.2).Nodup)
    (identifiers : ∀ declared ∈ declaredServices files,
      Name.isIdentifier declared.2.name = true) :
    ∃ model : Model,
      (({} : Model).fold (files.flatMap fun file => file.declarations keepPackage)).result =
        .ok model ∧
      (∀ module : StubModule, module.model = model → module.hasPlainNames = true →
        (∀ name ∈ module.sourceNames, Text.IsLine name) →
        definedClasses (Text.splitString '\n' module.render) = model.classNames) ∧
      (model.classNames.Nodup ↔
        ((declaredServices files).map fun declared =>
          Name.canonical declared.2.name).Nodup) ∧
      ∀ package, (∀ file ∈ files, file.package = package) →
        (∀ declared ∈ declaredServices files, Name.isCanonical declared.2.name = true) →
        model.classNames.Nodup := by
  have canonicalNames : ((declaredServices files).map fun declared =>
      Name.canonical declared.2.name) =
      (declaredServices files).map fun declared => Name.camelize declared.2.name := by
    apply List.map_congr_left
    intro declared member
    exact Name.canonical_of_isIdentifier (identifiers declared member)
  rw [fold_files]
  refine ⟨_, rfl, ?_, ?_, ?_⟩
  · rintro module modelled plain sources
    rw [module.definedClasses_render plain sources, modelled]
  · rw [Model.nodup_classNames_iff, canonicalNames]
    dsimp only
    rw [List.nil_append, map_className_modelled keepPackage identifiers]
  · intro package same canonical
    have unchanged : ((declaredServices files).map fun declared =>
        Name.camelize declared.2.name) =
        (declaredServices files).map fun declared => declared.2.name := by
      apply List.map_congr_left
      intro declared member
      exact Name.camelize_of_isCanonical (identifiers declared member) (canonical declared member)
    rw [Model.nodup_classNames_iff]
    dsimp only
    rw [List.nil_append, map_className_modelled keepPackage identifiers, unchanged]
    exact nodup_names_of_same same distinct

/-- Files of two packages with services in several spellings. -/
def spelledFiles : List File :=
  [{ package := "office.v1", services := [{ name := "printer" }, { name := "paper_tray" }] },
    { package := "home", services := [{ name := "Paper" }, { name := "Tray_2" }] }]

/-- Services whose names differ in more than their spelling have different classes. -/
theorem classes_of_spelledFiles :
    ((declaredServices spelledFiles).map
        fun declared => declared.1.routeName declared.2).Nodup ∧
      (∀ declared ∈ declaredServices spelledFiles, Name.isIdentifier declared.2.name = true) ∧
      ∃ model : Model,
        (({} : Model).fold (spelledFiles.flatMap fun file => file.declarations false)).result =
          .ok model ∧
        model.classNames.Nodup := by
  have distinct : ((declaredServices spelledFiles).map
      fun declared => declared.1.routeName declared.2).Nodup := by decide +kernel
  have identifiers : ∀ declared ∈ declaredServices spelledFiles,
      Name.isIdentifier declared.2.name = true := by decide +kernel
  obtain ⟨model, folded, _, different, _⟩ :=
    classes_distinct_iff spelledFiles false distinct identifiers
  exact ⟨distinct, identifiers, model, folded, different.mpr (by decide +kernel)⟩

/-- A file with two services whose names have one canonical form. -/
def respelledFile : File :=
  { package := "office", services := [{ name := "paper_tray" }, { name := "PaperTray" }] }

/-- Two spellings of one name in one package: both services get the same classes. -/
theorem respelled_service_shares_classes :
    ¬ ∀ (files : List File) (keepPackage : Bool) (model : Model),
      ((declaredServices files).map fun declared => declared.1.routeName declared.2).Nodup →
      (∀ declared ∈ declaredServices files, Name.isIdentifier declared.2.name = true) →
      (({} : Model).fold (files.flatMap fun file => file.declarations keepPackage)).result =
        .ok model →
      model.classNames.Nodup := by
  intro alwaysDistinct
  have folded := fold_files {} [respelledFile] false
  have distinct := alwaysDistinct [respelledFile] false _ (by decide +kernel) (by decide +kernel)
    (congrArg Folded.result folded)
  revert distinct
  decide +kernel

end Descriptor

end ServiceStubs
