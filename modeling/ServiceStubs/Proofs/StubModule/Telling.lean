import ServiceStubs.Proofs.StubModule.Faithful

/-!
# Telling lines

Most lines of a module say nothing about its services. Those that do open a class, name a service,
declare a method or set an attribute, and can be told by how they start. This module walks over the
lines of a module once and finds them. Whoever reads only such lines, in whatever way, can leave
the others out (`ReadsTelling.filterMap_filter`); what they read is not said here.
-/

namespace ServiceStubs

section Telling

/-- How the lines start that say something about services. -/
def tellingOpenings : List String :=
  ["class ", "    name = ", "        rpc(", "        self."]

/-- Whether a line opens a class, names a service, declares a method or sets an attribute. -/
def isTelling (line : String) : Bool :=
  tellingOpenings.any (Text.startsWith line)

/-- A reader of lines that reads nothing from all others. -/
def ReadsTelling {α : Type} (read : String → Option α) : Prop :=
  ∀ line, isTelling line = false → read line = none

/-- Such a reader needs the telling lines only. -/
theorem ReadsTelling.filterMap_filter {α : Type} {read : String → Option α}
    (reads : ReadsTelling read) (lines : List String) :
    (lines.filter isTelling).filterMap read = lines.filterMap read := by
  rw [List.filterMap_filter]
  apply List.filterMap_congr
  intro line _
  cases tells : isTelling line with
  | true => rfl
  | false => exact (reads line tells).symm

/-- So does a test that only telling lines pass. -/
theorem filter_filter_isTelling {kind : String → Bool}
    (tells : ∀ line, kind line = true → isTelling line = true) (lines : List String) :
    (lines.filter isTelling).filter kind = lines.filter kind := by
  rw [List.filter_filter]
  apply List.filter_congr
  intro line _
  cases isKind : kind line with
  | false => rfl
  | true => rw [tells line isKind]; rfl

/-- A line that starts as telling lines do is telling. -/
theorem isTelling_of_startsWith {line opening : String} (known : opening ∈ tellingOpenings)
    (starts : Text.startsWith line opening = true) : isTelling line = true :=
  List.any_eq_true.mpr ⟨opening, known, starts⟩

/-- A reader of the lines that start in one way. -/
def ReadsOnly {α : Type} (opening : String) (read : String → Option α) : Prop :=
  ∀ line, Text.startsWith line opening = false → read line = none

/-- Lines that start as telling lines do are read by a reader of telling lines. -/
theorem ReadsOnly.readsTelling {α : Type} {opening : String} {read : String → Option α}
    (reads : ReadsOnly opening read) (known : opening ∈ tellingOpenings) : ReadsTelling read := by
  intro line silent
  apply reads
  rw [Bool.eq_false_iff]
  intro starts
  rw [isTelling_of_startsWith known starts] at silent
  cases silent

/-- Lines that start otherwise are passed over. -/
theorem ReadsOnly.eq_none {α : Type} {opening other line : String} {read : String → Option α}
    (reads : ReadsOnly opening read) (starts : Text.startsWith line other = true)
    (apart : Text.startsWith opening other = false)
    (apartToo : Text.startsWith other opening = false) : read line = none :=
  reads line (Text.startsWith_apart starts apart apartToo)

/-- The first characters of telling lines. -/
theorem take_of_isTelling {line : String} (tells : isTelling line = true) :
    line.toList.take 5 ∈ [['c', 'l', 'a', 's', 's'], [' ', ' ', ' ', ' ', 'n'],
      [' ', ' ', ' ', ' ', ' ']] := by
  obtain ⟨opening, known, starts⟩ := List.any_eq_true.mp tells
  obtain ⟨rest, rfl⟩ := Text.startsWith_iff.mp starts
  have shown : ∀ opening ∈ tellingOpenings, 5 ≤ opening.toList.length ∧
      opening.toList.take 5 ∈ [['c', 'l', 'a', 's', 's'], [' ', ' ', ' ', ' ', 'n'],
        [' ', ' ', ' ', ' ', ' ']] := by
    decide
  rw [String.toList_append, List.take_append_of_le_length (shown opening known).1]
  exact (shown opening known).2

/-- A line with other first characters is not telling. -/
theorem isTelling_of_take {line : String}
    (apart : line.toList.take 5 ∉ [['c', 'l', 'a', 's', 's'], [' ', ' ', ' ', ' ', 'n'],
      [' ', ' ', ' ', ' ', ' ']]) : isTelling line = false := by
  rw [Bool.eq_false_iff]
  exact fun tells => apart (take_of_isTelling tells)

/-- A fixed line is checked by its characters, without decoding it. -/
theorem isTelling_ofList {characters : List Char}
    (apart : tellingOpenings.any (fun opening => opening.toList.isPrefixOf characters) = false) :
    isTelling (String.ofList characters) = false := by
  simpa [isTelling, Text.startsWith] using apart

/-- Fixed lines without a telling one among them. -/
theorem filter_isTelling_fixed {texts : List String}
    (silent : ∀ text ∈ texts, isTelling text = false) :
    ((StubModule.fixed texts).flatMap Piece.lines).filter isTelling = [] := by
  rw [StubModule.lines_fixed, List.filter_eq_nil_iff]
  intro text member
  simp [silent text member]

end Telling

section Spelling

/-- The line of a stub that calls a method. -/
def callLine (member kind route : String) : String :=
  "        self." ++ member ++ " = channel." ++ kind ++ "(\"" ++ route ++ "\")"

/-- The line of a table that declares a method with the codes of its types. -/
def entryLine (method request response : String) : String :=
  "        rpc(\"" ++ method ++ "\", " ++ request ++ ", " ++ response ++ "),"

/-- The line that names a service for routing. -/
def nameLine (name : String) : String :=
  "    name = \"" ++ name ++ "\""

/-- The line of a stub that keeps the channel. -/
def channelLine : String :=
  "        self.channel = channel"

/-- What is behind the opening of a line that sets an attribute. -/
theorem drop_callOpening (rest : String) :
    ("        self." ++ rest).toList.drop 13 = rest.toList := by
  rw [String.toList_append]
  rfl

/-- The line of a call, from its opening on. -/
theorem callLine_eq (member kind route : String) :
    callLine member kind route =
      "        self." ++ (member ++ (" = channel." ++ (kind ++ ("(\"" ++ (route ++ "\")"))))) := by
  unfold callLine
  apply String.toList_injective
  simp only [String.toList_append, List.append_assoc]

end Spelling

section Methods

variable (topModule : String)

/-- The entry of a method. -/
def Rpc.entry (rpc : Rpc) : String :=
  entryLine rpc.method (qualifiedType rpc.request topModule rpc.requestStreamed)
    (qualifiedType rpc.response topModule rpc.responseStreamed)

/-- The entry is the item of the table. -/
theorem Rpc.item_signature (rpc : Rpc) :
    Text.blanks (4 + 4) ++ rpc.signature topModule ++ "," = rpc.entry topModule := by
  unfold entry entryLine signature
  apply String.toList_injective
  simp [Text.blanks]

end Methods

namespace Service

variable (service : Service) (topModule : String) (package : Option String)

/-- The entries of the methods of a service. -/
def entries : List String :=
  service.rpcs.map fun rpc => rpc.entry topModule

/-- The calls of the methods of a service: each is routed by the name of the service and the name
of the method. -/
def calls : List String :=
  service.rpcs.map fun rpc =>
    callLine (Name.attributeName rpc.method) rpc.callKind
      ("/" ++ service.routeName package ++ "/" ++ rpc.method)

/-- The telling lines of a service. -/
def tellingLines : List String :=
  ("class " ++ service.className ++ "Service:") :: nameLine (service.routeName package) ::
    (service.entries topModule ++
      ("class " ++ service.className ++ "Stub:") :: channelLine :: service.calls package)

/-- The line of a piece that is a call. -/
theorem lines_call (member kind route : String) :
    (Piece.call member kind route).lines = [callLine member kind route] := by
  have sameText : (Piece.call member kind route).statement.text = callLine member kind route := by
    unfold Piece.statement Statement.text callLine
    apply String.toList_injective
    simp [Text.blanks]
  exact congrArg (fun text => [text]) sameText

/-- The lines of a stub. -/
theorem stubLines_eq :
    (service.stubPieces topModule package).flatMap Piece.lines =
      ["", "", "class " ++ service.className ++ "Stub:",
        (Piece.description 4 (service.stubDescription topModule)).statement.text, "",
        (Piece.serviceName (service.className ++ "Service")).statement.text, "",
        "    def __init__(self, channel: grpc.Channel) -> None:",
        channelLine] ++ service.calls package := by
  rw [stubPieces, List.flatMap_append, List.flatMap_map]
  simp only [lines_call, calls, ← List.map_eq_flatMap]
  rfl

section Walk

variable {service topModule package}

/-- A call sets an attribute. -/
theorem startsWith_of_mem_calls {line : String} (member : line ∈ service.calls package) :
    Text.startsWith line "        self." = true := by
  obtain ⟨rpc, _, rfl⟩ := List.mem_map.mp member
  exact Text.startsWith_iff.mpr ⟨_, callLine_eq _ _ _⟩

/-- An entry declares a method. -/
theorem startsWith_of_mem_entries {line : String} (member : line ∈ service.entries topModule) :
    Text.startsWith line "        rpc(" = true := by
  obtain ⟨rpc, _, rfl⟩ := List.mem_map.mp member
  refine Text.startsWith_iff.mpr ⟨"\"" ++ rpc.method ++ "\", " ++
    qualifiedType rpc.request topModule rpc.requestStreamed ++ ", " ++
    qualifiedType rpc.response topModule rpc.responseStreamed ++ "),", ?_⟩
  unfold Rpc.entry entryLine
  apply String.toList_injective
  simp

/-- The line with the name of a service starts so. -/
theorem startsWith_nameLine (name : String) :
    Text.startsWith (nameLine name) "    name = " = true := by
  refine Text.startsWith_iff.mpr ⟨"\"" ++ name ++ "\"", ?_⟩
  unfold nameLine
  apply String.toList_injective
  simp

/-- The line of a class opens it. -/
theorem startsWith_classLine (name ending : String) :
    Text.startsWith ("class " ++ name ++ ending) "class " = true :=
  Text.startsWith_iff.mpr ⟨name ++ ending, String.append_assoc ..⟩

/-- The table of a service is its entries between two lines that are not telling. -/
theorem filter_isTelling_table (topModule : String) :
    (listLines 4 "rpcs" (service.rpcs.map fun rpc => rpc.signature topModule)).filter isTelling =
      service.entries topModule := by
  have opening : isTelling (Text.blanks 4 ++ "rpcs" ++ " = [") = false :=
    isTelling_of_take (by simp [Text.blanks])
  have closing : isTelling (Text.blanks 4 ++ "]") = false :=
    isTelling_of_take (by simp [Text.blanks])
  have items : ∀ line ∈ service.entries topModule, isTelling line = true := fun line member =>
    isTelling_of_startsWith (by decide) (startsWith_of_mem_entries member)
  rw [entries] at items
  rw [listLines, List.map_map, entries]
  simp only [Function.comp_def, Rpc.item_signature]
  rw [List.filter_cons_of_neg (by simp [opening]), List.filter_append,
    List.filter_eq_self.mpr items, List.filter_cons_of_neg (by simp [closing]), List.filter_nil,
    List.append_nil]

/-- The walk over the lines of a service: both classes are opened, the service is named and its
methods are declared in the one, and attributes are set in the other. -/
theorem filter_isTelling_lines :
    (service.lines topModule package).filter isTelling =
      service.tellingLines topModule package := by
  have empty : isTelling "" = false := isTelling_of_take (by simp)
  have opens (ending : String) :
      isTelling ("class " ++ service.className ++ ending) = true :=
    isTelling_of_startsWith (by decide) (startsWith_classLine _ _)
  have described (text : String) :
      isTelling (Piece.description 4 text).statement.text = false :=
    isTelling_of_take (by simp [Piece.statement, Statement.text, Text.blanks])
  have served (name : String) : isTelling (Piece.serviceName name).statement.text = false :=
    isTelling_of_take (by simp [Piece.statement, Statement.text, Text.blanks])
  have makes : isTelling "    def __init__(self, channel: grpc.Channel) -> None:" = false :=
    isTelling_ofList (by decide)
  have keeps : isTelling channelLine = true := by decide
  have named : (Piece.routeName (service.routeName package)).statement.text =
      nameLine (service.routeName package) := by
    unfold Piece.statement Statement.text nameLine
    apply String.toList_injective
    simp [Text.blanks]
  have names : isTelling (nameLine (service.routeName package)) = true :=
    isTelling_of_startsWith (by decide) (startsWith_nameLine _)
  have sets : (service.calls package).filter isTelling = service.calls package :=
    List.filter_eq_self.mpr fun line member =>
      isTelling_of_startsWith (by decide) (startsWith_of_mem_calls member)
  rw [lines_eq, stubLines_eq, named]
  simp only [List.filter_cons, List.filter_append, List.filter_nil, filter_isTelling_table, empty,
    opens, described, served, makes, keeps, names, sets, if_true, Bool.false_eq_true, if_false]
  rfl

end Walk

end Service

namespace StubModule

variable (module : StubModule)

/-- The telling lines of a module: its classes for the tables, and those of its services. -/
def tellingLines : List String :=
  "class Stream(NamedTuple):" :: "class Rpc(NamedTuple):" ::
    module.model.services.flatMap fun service =>
      service.tellingLines module.topModule module.model.package

/-- The title is on one line if the names of the sources are. -/
theorem isLine_title (sources : ∀ name ∈ module.sourceNames, Text.IsLine name) :
    Text.IsLine module.title := by
  have names : Text.IsLine (Text.joinStrings ", " module.sourceNames) := by
    rw [Text.IsLine, Text.joinStrings, String.toList_ofList]
    intro feed
    rcases Text.mem_joinWith feed with inComma | ⟨characters, member, inName⟩
    · exact absurd inComma (by decide)
    · obtain ⟨name, found, rfl⟩ := List.mem_map.mp member
      exact sources name found inName
  exact names.enclosed (by decide) (by decide)

/-- The lines of the description of a module. -/
theorem splitString_description (sources : ∀ name ∈ module.sourceNames, Text.IsLine name) :
    Text.splitString '\n' (Piece.description 0 module.description).statement.text =
      ["\"\"\"" ++ module.title, "",
        "Do not edit. Regenerate with `grpc-stub-generator` when the definitions change.",
        "\"\"\""] := by
  have opening : Text.IsLine ("\"\"\"" ++ module.title) :=
    .append (by decide) (module.isLine_title sources)
  have spelled : (Piece.description 0 module.description).statement.text =
      ofLines ["\"\"\"" ++ module.title, "",
        "Do not edit. Regenerate with `grpc-stub-generator` when the definitions change."] ++
      "\"\"\"" := by
    apply String.toList_injective
    simp [Piece.statement, Statement.text, description, Text.blanks, ofLines]
  have advice : Text.IsLine
      "Do not edit. Regenerate with `grpc-stub-generator` when the definitions change." :=
    Text.isLine_ofList (by decide)
  have empty : Text.IsLine "" := Text.isLine_ofList (by decide)
  have closing : Text.IsLine "\"\"\"" := Text.isLine_ofList (by decide)
  rw [spelled, splitString_ofLines_append]
  simp only [List.flatMap_cons, List.flatMap_nil, Text.splitString_of_isLine opening,
    Text.splitString_of_isLine advice, Text.splitString_of_isLine empty,
    Text.splitString_of_isLine closing]
  rfl

/-- Neither an embedded source nor a path makes a telling line. -/
theorem filter_isTelling_sourceLines : module.sourceLines.filter isTelling = [] := by
  have item (path : String) :
      isTelling (Text.blanks (0 + 4) ++ pathExpression path ++ ",") = false := by
    have opened : (Text.blanks (0 + 4) ++ pathExpression path ++ ",").toList.take 5 =
        [' ', ' ', ' ', ' ', 'o'] := by
      unfold pathExpression
      simp only [String.toList_append, List.append_assoc]
      rfl
    exact isTelling_of_take (by rw [opened]; decide)
  rw [List.filter_eq_nil_iff, sourceLines]
  intro line member
  rw [Bool.not_eq_true]
  split at member
  · simp only [Piece.lines, listLines, List.mem_cons, List.mem_append, List.mem_map,
      List.not_mem_nil, or_false] at member
    rcases member with rfl | ⟨_, ⟨path, _, rfl⟩, rfl⟩ | rfl
    · exact isTelling_of_take (by simp [Text.blanks])
    · exact item path
    · exact isTelling_of_take (by simp [Text.blanks])
  · rw [List.mem_singleton.mp member]
    exact isTelling_of_take (by simp [Piece.statement, Statement.text, Text.blanks])

/-- Neither does the function that gives the source back. -/
theorem filter_isTelling_loader : (module.loader.flatMap Piece.lines).filter isTelling = [] := by
  refine filter_isTelling_fixed ?_
  rw [List.forall_mem_append]
  constructor
  · simp only [List.forall_mem_cons, List.not_mem_nil, false_implies, implies_true, and_true]
    -- The last of these lines is written as two texts.
    exact ⟨isTelling_ofList (by decide), isTelling_ofList (by decide),
      isTelling_ofList (by decide), isTelling_of_take (by simp)⟩
  · split
    all_goals
      repeat refine List.forall_mem_cons.mpr ⟨isTelling_ofList (by decide), ?_⟩
      exact List.forall_mem_nil _

/-- The walk over the lines of a module behind its description. -/
theorem filter_isTelling_bodyLines :
    module.bodyLines.filter isTelling = module.tellingLines := by
  have imports : (module.preamble.tail.flatMap Piece.lines).filter isTelling = [] := by
    refine filter_isTelling_fixed ?_
    repeat refine List.forall_mem_cons.mpr ⟨isTelling_ofList (by decide), ?_⟩
    exact List.forall_mem_nil _
  have topModule : isTelling (Piece.constant "TOP_MODULE"
      (some module.topModule)).statement.text = false :=
    isTelling_of_take (by simp [Piece.statement, Statement.text, Text.blanks])
  have package : isTelling (Piece.constant "PACKAGE" module.model.package).statement.text =
      false :=
    isTelling_of_take (by simp [Piece.statement, Statement.text, Text.blanks])
  have definitions : (helpers.flatMap Piece.lines).filter isTelling =
      ["class Stream(NamedTuple):", "class Rpc(NamedTuple):"] := by
    rw [helpers, lines_fixed]
    decide
  have services : (module.model.services.flatMap fun service =>
      service.lines module.topModule module.model.package).filter isTelling =
      module.model.services.flatMap fun service =>
        service.tellingLines module.topModule module.model.package := by
    rw [List.filter_flatMap]
    simp only [Service.filter_isTelling_lines]
  rw [bodyLines_eq]
  simp only [List.filter_append, List.filter_cons, imports, topModule, package, definitions,
    filter_isTelling_loader, filter_isTelling_sourceLines, services, List.nil_append,
    Bool.false_eq_true, if_false]
  rfl

/-- The walk over the whole text of a module with plain names. -/
theorem filter_isTelling_render (plain : module.hasPlainNames = true)
    (sources : ∀ name ∈ module.sourceNames, Text.IsLine name) :
    (Text.splitString '\n' module.render).filter isTelling = module.tellingLines := by
  have titled : isTelling ("\"\"\"" ++ module.title) = false :=
    isTelling_of_take (by simp)
  have empty : isTelling "" = false := isTelling_of_take (by simp)
  have advice : isTelling
      "Do not edit. Regenerate with `grpc-stub-generator` when the definitions change." = false :=
    isTelling_ofList (by decide)
  have closing : isTelling "\"\"\"" = false := isTelling_ofList (by decide)
  have lineFeed : "\n" = String.singleton '\n' := rfl
  rw [render_eq_bodyLines, lineFeed, Text.splitString_append,
    module.splitString_description sources, splitString_ofLines (isLine_of_mem_bodyLines plain)]
  simp only [List.filter_append, List.filter_cons, List.filter_nil, filter_isTelling_bodyLines,
    titled, empty, advice, closing, Bool.false_eq_true, if_false, List.nil_append, List.append_nil]

end StubModule

end ServiceStubs
