import Mathlib.Data.List.Forall2
import Mathlib.Data.List.Infix
import ServiceStubs.Proofs.StubModule.Telling

/-!
# Tables and calls

The table of a service and its stub are written from the same methods, but apart from each other.
Here the text is read back: the lines that look like table entries and those that look like calls
are the ones written for the methods, in order, and belong together one by one. No other line looks
like them, whatever the embedded source and the paths are.
-/

namespace ServiceStubs

namespace Text

/-- Whether some parts stand in a text one behind the other, with any text before each of them and
none behind the last. -/
def endsInParts : List (List Char) → List Char → Bool
  | [], text => text.isEmpty
  | part :: parts, text =>
    text.tails.any fun tail => part.isPrefixOf tail && endsInParts parts (tail.drop part.length)

/-- Without parts, there is nothing. -/
theorem endsInParts_nil {text : List Char} : endsInParts [] text = true ↔ text = [] := by
  rw [endsInParts, List.isEmpty_iff]

/-- The first part stands behind a gap, and the others behind it. -/
theorem endsInParts_cons {part : List Char} {parts : List (List Char)} {text : List Char} :
    endsInParts (part :: parts) text = true ↔
      ∃ gap rest, text = gap ++ (part ++ rest) ∧ endsInParts parts rest = true := by
  simp only [endsInParts, List.any_eq_true, List.mem_tails, Bool.and_eq_true,
    List.isPrefixOf_iff_prefix]
  constructor
  · rintro ⟨_, ⟨gap, rfl⟩, ⟨rest, rfl⟩, others⟩
    rw [List.drop_left] at others
    exact ⟨gap, rest, rfl, others⟩
  · rintro ⟨gap, rest, rfl, others⟩
    refine ⟨part ++ rest, List.suffix_append _ _, List.prefix_append _ _, ?_⟩
    rwa [List.drop_left]

end Text

section Marks

/-- Whether a line looks like a call. -/
def isCallLine (line : String) : Bool :=
  Text.startsWith line "        self." &&
    Text.endsInParts [" = channel.".toList, "(\"".toList, "\")".toList] (line.toList.drop 13)

/-- Whether a line looks like an entry of a table. -/
def isEntryLine (line : String) : Bool :=
  Text.startsWith line "        rpc("

/-- Whether a line looks like one that names a service for routing. -/
def isNameLine (line : String) : Bool :=
  Text.startsWith line "    name = "

/-- Whether a line names a service, or looks like an entry or a call. -/
def isMarked (line : String) : Bool :=
  isNameLine line || isEntryLine line || isCallLine line

/-- A line that calls anything by anything. -/
def IsCall (line : String) : Prop :=
  ∃ member kind route, line = callLine member kind route

/-- Whether a line looks like a call can be checked. -/
theorem isCallLine_iff {line : String} : isCallLine line = true ↔ IsCall line := by
  rw [isCallLine, Bool.and_eq_true, Text.startsWith_iff]
  constructor
  · rintro ⟨⟨rest, rfl⟩, parts⟩
    rw [drop_callOpening] at parts
    simp only [Text.endsInParts_cons, Text.endsInParts_nil] at parts
    obtain ⟨member, _, spelled, kind, _, rfl, route, _, rfl, rfl⟩ := parts
    refine ⟨String.ofList member, String.ofList kind, String.ofList route, ?_⟩
    rw [callLine_eq, String.append_right_inj, ← String.toList_inj, spelled]
    simp only [String.toList_append, String.toList_ofList, List.append_nil]
  · rintro ⟨member, kind, route, rfl⟩
    rw [callLine_eq, drop_callOpening]
    refine ⟨⟨_, rfl⟩, ?_⟩
    simp only [String.toList_append]
    refine Text.endsInParts_cons.mpr ⟨_, _, rfl, Text.endsInParts_cons.mpr ⟨_, _, rfl,
      Text.endsInParts_cons.mpr ⟨route.toList, [], ?_, rfl⟩⟩⟩
    rw [List.append_nil]

instance : DecidablePred IsCall := fun _ =>
  decidable_of_iff _ isCallLine_iff

/-- The line of a call is a call. -/
theorem isCall_callLine (member kind route : String) : IsCall (callLine member kind route) :=
  ⟨member, kind, route, rfl⟩

/-- Only telling lines are marked. -/
theorem isTelling_of_isMarked {line : String} (marked : isMarked line = true) :
    isTelling line = true := by
  simp only [isMarked, Bool.or_eq_true, isCallLine, Bool.and_eq_true] at marked
  rcases marked with (name | entry) | ⟨call, _⟩
  · exact isTelling_of_startsWith (by decide) name
  · exact isTelling_of_startsWith (by decide) entry
  · exact isTelling_of_startsWith (by decide) call

end Marks

namespace Service

variable (service : Service) (topModule : String) (package : Option String)

/-- The line that names a service, its entries and its calls. -/
def markedLines : List String :=
  nameLine (service.routeName package) :: (service.entries topModule ++ service.calls package)

variable {service topModule package}

/-- The calls of a service look like calls. -/
theorem isCallLine_of_mem_calls {line : String} (member : line ∈ service.calls package) :
    isCallLine line = true := by
  obtain ⟨rpc, _, rfl⟩ := List.mem_map.mp member
  exact isCallLine_iff.mpr (isCall_callLine _ _ _)

/-- Of the telling lines of a service, those that open its classes and the one that keeps its
channel are not marked. -/
theorem filter_isMarked_tellingLines :
    (service.tellingLines topModule package).filter isMarked =
      service.markedLines topModule package := by
  have opens (ending : String) : isMarked ("class " ++ service.className ++ ending) = false := by
    have starts := startsWith_classLine service.className ending
    have noName : isNameLine ("class " ++ service.className ++ ending) = false :=
      Text.startsWith_apart starts (by decide) (by decide)
    have noEntry : isEntryLine ("class " ++ service.className ++ ending) = false :=
      Text.startsWith_apart starts (by decide) (by decide)
    have noCall : Text.startsWith ("class " ++ service.className ++ ending) "        self." =
        false :=
      Text.startsWith_apart starts (by decide) (by decide)
    simp [isMarked, noName, noEntry, isCallLine, noCall]
  have named : isMarked (nameLine (service.routeName package)) = true := by
    simp [isMarked, isNameLine, startsWith_nameLine]
  have keeps : isMarked channelLine = false := by decide
  have entries : (service.entries topModule).filter isMarked = service.entries topModule :=
    List.filter_eq_self.mpr fun line member => by
      simp [isMarked, isEntryLine, startsWith_of_mem_entries member]
  have calls : (service.calls package).filter isMarked = service.calls package :=
    List.filter_eq_self.mpr fun line member => by
      simp [isMarked, isCallLine_of_mem_calls member]
  rw [tellingLines]
  simp only [List.filter_cons, List.filter_append, opens, named, keeps, entries, calls, if_true,
    Bool.false_eq_true, if_false]
  rfl

/-- Of the marked lines of a service, only its calls look like calls. -/
theorem filter_isCallLine_markedLines :
    (service.markedLines topModule package).filter isCallLine = service.calls package := by
  have name : isCallLine (nameLine (service.routeName package)) = false := by
    have apart : Text.startsWith (nameLine (service.routeName package)) "        self." = false :=
      Text.startsWith_apart (startsWith_nameLine _) (by decide) (by decide)
    rw [isCallLine, apart, Bool.false_and]
  have entries : (service.entries topModule).filter isCallLine = [] := by
    rw [List.filter_eq_nil_iff]
    intro line member
    have apart : Text.startsWith line "        self." = false :=
      Text.startsWith_apart (startsWith_of_mem_entries member) (by decide) (by decide)
    simp [isCallLine, apart]
  have calls : (service.calls package).filter isCallLine = service.calls package :=
    List.filter_eq_self.mpr fun _ => isCallLine_of_mem_calls
  rw [markedLines, List.filter_cons_of_neg (by simp [name]), List.filter_append, entries, calls,
    List.nil_append]

/-- Of the marked lines of a service, only its entries look like entries. -/
theorem filter_isEntryLine_markedLines :
    (service.markedLines topModule package).filter isEntryLine = service.entries topModule := by
  have name : isEntryLine (nameLine (service.routeName package)) = false :=
    Text.startsWith_apart (startsWith_nameLine _) (by decide)
      (by decide)
  have calls : (service.calls package).filter isEntryLine = [] := by
    rw [List.filter_eq_nil_iff]
    intro line member
    have apart : isEntryLine line = false :=
      Text.startsWith_apart (startsWith_of_mem_calls member) (by decide) (by decide)
    simp [apart]
  have entries : (service.entries topModule).filter isEntryLine = service.entries topModule :=
    List.filter_eq_self.mpr fun _ => startsWith_of_mem_entries
  rw [markedLines, List.filter_cons_of_neg (by simp [name]), List.filter_append, entries, calls,
    List.append_nil]

end Service

section Correspondence

/-- How the code of a type goes with its half of the kind of a call: marked as a stream for one
half, and bare for the other. -/
inductive TypeCode : String → String → Prop where
  | stream (typeName : String) (plain : Name.isPlain typeName = true) :
      TypeCode ("stream(\"" ++ typeName ++ "\")") "stream"
  | unary (typeName : String) (plain : Name.isPlain typeName = true) :
      TypeCode ("\"" ++ typeName ++ "\"") "unary"

/-- An entry and a call of one method: both name it, and the codes of its types go with the halves
of the kind of the call. -/
def SameMethod (entry call : String) : Prop :=
  ∃ method request response first second service, Name.isPlain method = true ∧
    TypeCode request first ∧ TypeCode response second ∧
    entry = entryLine method request response ∧
    call = callLine (Name.attributeName method) (first ++ "_" ++ second)
      ("/" ++ service ++ "/" ++ method)

variable {topModule : String}

/-- The code of a type goes with its half of the kind. -/
theorem typeCode_qualifiedType {typeName : String} (topPlain : Name.isPlain topModule = true)
    (plain : Name.isPlain typeName = true) (streamed : Bool) :
    TypeCode (qualifiedType typeName topModule streamed)
      (if streamed then "stream" else "unary") := by
  have qualified : Name.isPlain (topModule ++ "." ++ Name.canonical typeName) = true :=
    Name.isPlain_append (Name.isPlain_append topPlain (by decide))
      (Name.isPlain_canonical plain)
  cases streamed with
  | false => exact .unary _ qualified
  | true => exact .stream _ qualified

/-- The entries and the calls of a service belong together one by one. -/
theorem Service.forall₂_sameMethod {service : Service} {package : Option String}
    (topPlain : Name.isPlain topModule = true) (plain : service.hasPlainNames = true) :
    List.Forall₂ SameMethod (service.entries topModule) (service.calls package) := by
  obtain ⟨_, _, methods⟩ := hasPlainNames_iff.mp plain
  rw [entries, calls, List.forall₂_map_left_iff, List.forall₂_map_right_iff, List.forall₂_same]
  intro rpc member
  obtain ⟨method, request, response⟩ := Rpc.hasPlainNames_iff.mp (methods rpc member)
  exact ⟨rpc.method, _, _, _, _, service.routeName package, method,
    typeCode_qualifiedType topPlain request rpc.requestStreamed,
    typeCode_qualifiedType topPlain response rpc.responseStreamed, rfl, rfl⟩

end Correspondence

namespace StubModule

variable (module : StubModule)

/-- The marked lines of a module are those of its services. -/
theorem filter_isMarked_render (plain : module.hasPlainNames = true)
    (sources : ∀ name ∈ module.sourceNames, Text.IsLine name) :
    (Text.splitString '\n' module.render).filter isMarked =
      module.model.services.flatMap fun service =>
        service.markedLines module.topModule module.model.package := by
  have stream : isMarked "class Stream(NamedTuple):" = false := by decide
  have rpc : isMarked "class Rpc(NamedTuple):" = false := by decide
  have services : (module.model.services.flatMap fun service =>
      service.tellingLines module.topModule module.model.package).filter isMarked =
      module.model.services.flatMap fun service =>
        service.markedLines module.topModule module.model.package := by
    rw [List.filter_flatMap]
    simp only [Service.filter_isMarked_tellingLines]
  rw [← filter_filter_isTelling fun _ => isTelling_of_isMarked,
    module.filter_isTelling_render plain sources, tellingLines,
    List.filter_cons_of_neg (by simp [stream]), List.filter_cons_of_neg (by simp [rpc]), services]

/-- Marked lines of one kind are found among the marked lines of all services. -/
theorem filter_render_of_marked (plain : module.hasPlainNames = true)
    (sources : ∀ name ∈ module.sourceNames, Text.IsLine name) {kind : String → Bool}
    (marks : ∀ line, kind line = true → isMarked line = true) :
    (Text.splitString '\n' module.render).filter kind =
      module.model.services.flatMap fun service =>
        (service.markedLines module.topModule module.model.package).filter kind := by
  have narrowed : ∀ line, (kind line && isMarked line) = kind line := by
    intro line
    cases isKind : kind line with
    | false => rfl
    | true => rw [marks line isKind]; rfl
  have twice := congrArg (List.filter kind) (module.filter_isMarked_render plain sources)
  rw [List.filter_filter, List.filter_flatMap] at twice
  simpa only [narrowed] using twice

/-- The two renderings of a service agree, and nothing else looks like them. With plain names, the
lines of a module that call something are the calls of all methods in order, each routed by the
literal of the line that names its service; the lines that start like table entries are the entries
of all methods in order; and entries and calls belong together one by one. Service by service, the
line with the name comes first, then the entries, then the calls. -/
theorem entries_and_calls_agree (module : StubModule) (plain : module.hasPlainNames = true)
    (sources : ∀ name ∈ module.sourceNames, Text.IsLine name) :
    (Text.splitString '\n' module.render).filter isMarked =
      (module.model.services.flatMap fun service =>
        nameLine (service.routeName module.model.package) ::
          (service.entries module.topModule ++ service.calls module.model.package)) ∧
    (Text.splitString '\n' module.render).filter (fun line => IsCall line) =
      (module.model.services.flatMap fun service => service.calls module.model.package) ∧
    (Text.splitString '\n' module.render).filter isEntryLine =
      (module.model.services.flatMap fun service => service.entries module.topModule) ∧
    List.Forall₂ SameMethod
      ((Text.splitString '\n' module.render).filter isEntryLine)
      ((Text.splitString '\n' module.render).filter fun line => IsCall line) := by
  have calls : (Text.splitString '\n' module.render).filter (fun line => IsCall line) =
      module.model.services.flatMap fun service => service.calls module.model.package := by
    have checked : (fun line => decide (IsCall line)) = isCallLine := by
      funext line
      rw [Bool.eq_iff_iff, decide_eq_true_iff, isCallLine_iff]
    rw [checked, module.filter_render_of_marked plain sources fun line call => by
      simp [isMarked, call]]
    simp only [Service.filter_isCallLine_markedLines]
  have entries : (Text.splitString '\n' module.render).filter isEntryLine =
      module.model.services.flatMap fun service => service.entries module.topModule := by
    rw [module.filter_render_of_marked plain sources fun line entry => by
      simp [isMarked, entry]]
    simp only [Service.filter_isEntryLine_markedLines]
  have agree : List.Forall₂ SameMethod
      (module.model.services.flatMap fun service => service.entries module.topModule)
      (module.model.services.flatMap fun service => service.calls module.model.package) := by
    obtain ⟨topPlain, _, servicesPlain⟩ := hasPlainNames_iff.mp plain
    refine List.rel_flatten ?_
    rw [List.forall₂_map_left_iff, List.forall₂_map_right_iff, List.forall₂_same]
    exact fun service member => Service.forall₂_sameMethod topPlain (servicesPlain service member)
  rw [← entries, ← calls] at agree
  exact ⟨module.filter_isMarked_render plain sources, calls, entries, agree⟩

/-- A module for two services whose embedded source holds lines that look like a call and an
entry. -/
def pretendingModule : StubModule where
  topModule := "Office.V1"
  model := ⟨some "office.v1",
    [⟨"Printer", "printer", [⟨"import", "log_entry", "Page", true, false⟩]⟩,
      ⟨"Clock", "Clock", [⟨"tick", "Hour", "Hour", false, true⟩]⟩]⟩
  sourceNames := ["office.proto"]
  content := "\n        self.fake = channel.unary_unary(\"/a/b\")\n" ++
    "        rpc(\"fake\", \"A.B\", \"A.B\"),\n"

/-- The lines in the embedded source are not taken for a call or an entry. One method is named by a
reserved word, so its attribute is named otherwise. -/
theorem calls_of_pretendingModule :
    pretendingModule.hasPlainNames = true ∧
      (∀ name ∈ pretendingModule.sourceNames, Text.IsLine name) ∧
      (Text.splitString '\n' pretendingModule.render).filter (fun line => IsCall line) =
        ["        self.import_ = channel.stream_unary(\"/office.v1.printer/import\")",
          "        self.tick = channel.unary_stream(\"/office.v1.Clock/tick\")"] ∧
      (Text.splitString '\n' pretendingModule.render).filter isEntryLine =
        ["        rpc(\"import\", stream(\"Office.V1.LogEntry\"), \"Office.V1.Page\"),",
          "        rpc(\"tick\", \"Office.V1.Hour\", stream(\"Office.V1.Hour\")),"] := by
  have plain : pretendingModule.hasPlainNames = true := by decide +kernel
  have sources : ∀ name ∈ pretendingModule.sourceNames, Text.IsLine name := by decide
  obtain ⟨_, calls, entries, _⟩ := entries_and_calls_agree pretendingModule plain sources
  refine ⟨plain, sources, calls.trans ?_, entries.trans ?_⟩
  · decide +kernel
  · decide +kernel

end StubModule

end ServiceStubs
