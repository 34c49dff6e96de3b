import ServiceStubs.Proofs.Name
import ServiceStubs.Proofs.Text.Quoted
import ServiceStubs.StubModule

/-!
# The lines of a stub module

Behind its description, a module is a list of lines. Every piece has its lines: a list has one for
each item, all other pieces have one. No embedded text and no plain name adds a line, so the lines
can be read off the text again. What the lines say about the services is not held here.
-/

namespace ServiceStubs

namespace Text

/-- A text that stays on one line. -/
def IsLine (text : String) : Prop :=
  '\n' ∉ text.toList

instance (text : String) : Decidable (IsLine text) :=
  inferInstanceAs (Decidable ('\n' ∉ text.toList))

/-- A fixed text is checked by its characters, without decoding it. -/
theorem isLine_ofList {characters : List Char} (clean : '\n' ∉ characters) :
    IsLine (String.ofList characters) := by
  rw [IsLine, String.toList_ofList]
  exact clean

/-- Two lines side by side are one line. -/
theorem IsLine.append {left right : String} (leftLine : IsLine left) (rightLine : IsLine right) :
    IsLine (left ++ right) := by
  rw [IsLine, String.toList_append, List.mem_append, not_or]
  exact ⟨leftLine, rightLine⟩

/-- What stands on a line may be enclosed. -/
theorem IsLine.enclosed {text opening closing : String} (line : IsLine text)
    (openingLine : IsLine opening) (closingLine : IsLine closing) :
    IsLine (opening ++ text ++ closing) :=
  (openingLine.append line).append closingLine

/-- A line is not cut. -/
theorem splitString_of_isLine {line : String} (isLine : IsLine line) :
    splitString '\n' line = [line] := by
  rw [splitString, splitAt_of_not_mem isLine, List.map_singleton, String.ofList_toList]

/-- Blanks break no line. -/
theorem isLine_blanks (count : Nat) : IsLine (blanks count) := by
  simp [IsLine, blanks]

/-- Plain names break no line. -/
theorem isLine_of_isPlain {name : String} (plain : Name.isPlain name = true) : IsLine name :=
  Name.not_mem_of_isPlain plain (by decide)

end Text

namespace StubModule

/-- Lines are written one after another. -/
theorem ofLines_append (left right : List String) :
    ofLines (left ++ right) = ofLines left ++ ofLines right := by
  rw [ofLines, List.map_append, String.join_append]
  rfl

/-- A line feed ends each line. -/
theorem ofLines_cons (text : String) (texts : List String) :
    ofLines (text :: texts) = text ++ String.singleton '\n' ++ ofLines texts := by
  rw [ofLines, List.map_cons, String.join_cons]
  rfl

/-- A text that starts with several texts is cut into their lines and the lines of what follows. -/
theorem splitString_ofLines_append (texts : List String) (rest : String) :
    Text.splitString '\n' (ofLines texts ++ rest) =
      texts.flatMap (Text.splitString '\n') ++ Text.splitString '\n' rest := by
  induction texts with
  | nil =>
    have nothing : ofLines [] = "" := rfl
    rw [nothing, String.empty_append, List.flatMap_nil, List.nil_append]
  | cons text texts inductionHypothesis =>
    rw [ofLines_cons, String.append_assoc, Text.splitString_append, inductionHypothesis,
      List.flatMap_cons, List.append_assoc]

/-- A text that is made from several texts is cut into their lines. -/
theorem splitString_ofLines_eq_flatMap (texts : List String) :
    Text.splitString '\n' (ofLines texts) = texts.flatMap (Text.splitString '\n') ++ [""] := by
  have cut := splitString_ofLines_append texts ""
  rwa [String.append_empty] at cut

/-- Lines without a line feed are given back by the text that they make. -/
theorem splitString_ofLines {lines : List String}
    (clean : ∀ line ∈ lines, Text.IsLine line) :
    Text.splitString '\n' (ofLines lines) = lines ++ [""] := by
  rw [splitString_ofLines_eq_flatMap]
  congr 1
  induction lines with
  | nil => rfl
  | cons line lines inductionHypothesis =>
    rw [List.forall_mem_cons] at clean
    rw [List.flatMap_cons, Text.splitString_of_isLine clean.1, inductionHypothesis clean.2,
      List.singleton_append]

/-- Lines without a line feed are determined by the text that they make. -/
theorem ofLines_injective {left right : List String}
    (leftClean : ∀ line ∈ left, Text.IsLine line)
    (rightClean : ∀ line ∈ right, Text.IsLine line) (equal : ofLines left = ofLines right) :
    left = right := by
  have sameParts : left ++ [""] = right ++ [""] := by
    rw [← splitString_ofLines leftClean, ← splitString_ofLines rightClean, equal]
  exact List.append_cancel_right sameParts

end StubModule

section Lines

/-- The lines of an assignment whose value is a list. -/
def listLines (indent : Nat) (target : String) (items : List String) : List String :=
  (Text.blanks indent ++ target ++ " = [") ::
    ((items.map fun item => Text.blanks (indent + 4) ++ item ++ ",") ++
      [Text.blanks indent ++ "]"])

/-- The lines of a piece. -/
def Piece.lines : Piece → List String
  | .sourcePaths paths => listLines 0 "PROTO_PATHS" (paths.map pathExpression)
  | .table topModule rpcs => listLines 4 "rpcs" (rpcs.map fun rpc => rpc.signature topModule)
  | piece => [piece.statement.text]

/-- The lines of a list are the lines of one assignment. -/
theorem ofLines_listLines (indent : Nat) (target : String) (items : List String) :
    StubModule.ofLines (listLines indent target items) =
      (Statement.assignment indent target (listExpression indent items)).text ++ "\n" := by
  have comma : ("," ++ "\n" : String) = ",\n" := rfl
  simp only [listLines, StubModule.ofLines, Statement.text, listExpression, List.map_cons,
    List.map_append, List.map_map, Function.comp_def, List.map_nil, String.join_cons,
    String.join_append, String.append_assoc, comma]
  rfl

/-- The lines of a piece are its statement, ended by a line feed. -/
theorem Piece.ofLines_lines (piece : Piece) :
    StubModule.ofLines piece.lines = piece.statement.text ++ "\n" := by
  cases piece with
  | sourcePaths paths => exact ofLines_listLines 0 "PROTO_PATHS" _
  | table topModule rpcs => exact ofLines_listLines 4 "rpcs" _
  | _ => simp [lines, StubModule.ofLines]

/-- The lines of some pieces are the lines of their statements. -/
theorem ofLines_flatMap_lines (pieces : List Piece) :
    StubModule.ofLines (pieces.flatMap Piece.lines) =
      StubModule.ofLines ((pieces.map Piece.statement).map Statement.text) := by
  induction pieces with
  | nil => rfl
  | cons piece pieces inductionHypothesis =>
    rw [List.flatMap_cons, StubModule.ofLines_append, inductionHypothesis, piece.ofLines_lines]
    simp [StubModule.ofLines]

/-- Fixed lines are the lines that they were given as. -/
theorem StubModule.lines_fixed (texts : List String) :
    (StubModule.fixed texts).flatMap Piece.lines = texts := by
  rw [StubModule.fixed, List.flatMap_map]
  exact List.flatMap_singleton' texts

end Lines

section PlainNames

/-- Whether the names of a method are plain. -/
def Rpc.hasPlainNames (rpc : Rpc) : Bool :=
  Name.isPlain rpc.method && Name.isPlain rpc.request && Name.isPlain rpc.response

/-- Whether the names of a service and of its methods are plain. -/
def Service.hasPlainNames (service : Service) : Bool :=
  Name.isPlain service.displayName && Name.isPlain service.wireName &&
    service.rpcs.all Rpc.hasPlainNames

/-- Whether all names of a module are plain. The names of the source files, the embedded text and
the paths may be any text. -/
def StubModule.hasPlainNames (module : StubModule) : Bool :=
  Name.isPlain module.topModule && module.model.package.all Name.isPlain &&
    module.model.services.all Service.hasPlainNames

/-- The names of a method are its own and those of its two types. -/
theorem Rpc.hasPlainNames_iff {rpc : Rpc} :
    rpc.hasPlainNames = true ↔ Name.isPlain rpc.method = true ∧
      Name.isPlain rpc.request = true ∧ Name.isPlain rpc.response = true := by
  simp [hasPlainNames, and_assoc]

/-- The names of a service are its own two and those of its methods. -/
theorem Service.hasPlainNames_iff {service : Service} :
    service.hasPlainNames = true ↔ Name.isPlain service.displayName = true ∧
      Name.isPlain service.wireName = true ∧
      ∀ rpc ∈ service.rpcs, rpc.hasPlainNames = true := by
  simp [hasPlainNames, and_assoc]

/-- The names of a module are its top module, its package and those of its services. -/
theorem StubModule.hasPlainNames_iff {module : StubModule} :
    module.hasPlainNames = true ↔ Name.isPlain module.topModule = true ∧
      module.model.package.all Name.isPlain = true ∧
      ∀ service ∈ module.model.services, service.hasPlainNames = true := by
  simp [hasPlainNames, and_assoc]

end PlainNames

/-- The lines of a piece are lines: none of them holds a line feed. -/
def Piece.OnLines (piece : Piece) : Prop :=
  ∀ line ∈ piece.lines, Text.IsLine line

section OneLine

open Text

/-- A constant stands on a line. -/
theorem isLine_optionalLiteral (value : Option String) : IsLine (optionalLiteral value) := by
  cases value with
  | none => decide
  | some text => exact Quoted.lineFeed_not_mem_literal text

/-- A path stands on a line. -/
theorem isLine_pathExpression (path : String) : IsLine (pathExpression path) := by
  have literal : IsLine (Quoted.literal path) := Quoted.lineFeed_not_mem_literal path
  exact literal.enclosed (by decide) (by decide)

/-- Items that stand on a line each give a list of lines. -/
theorem isLine_of_mem_listLines {indent : Nat} {target : String} {items : List String}
    (targetLine : IsLine target) (itemLines : ∀ item ∈ items, IsLine item) {line : String}
    (member : line ∈ listLines indent target items) : IsLine line := by
  rw [listLines, List.mem_cons, List.mem_append, List.mem_map, List.mem_singleton] at member
  rcases member with rfl | ⟨item, found, rfl⟩ | rfl
  · exact ((isLine_blanks indent).append targetLine).append (by decide)
  · exact ((isLine_blanks (indent + 4)).append (itemLines item found)).append (by decide)
  · exact (isLine_blanks indent).append (by decide)

variable {topModule : String}

/-- A type stands on a line. -/
theorem isLine_qualifiedType {typeName : String} (topPlain : Name.isPlain topModule = true)
    (plain : Name.isPlain typeName = true) (streamed : Bool) :
    IsLine (qualifiedType typeName topModule streamed) := by
  have qualified : IsLine (topModule ++ "." ++ Name.canonical typeName) :=
    ((isLine_of_isPlain topPlain).append (by decide)).append
      (isLine_of_isPlain (Name.isPlain_canonical plain))
  cases streamed with
  | false => exact qualified.enclosed (by decide) (by decide)
  | true => exact qualified.enclosed (by decide) (by decide)

/-- An entry stands on a line. -/
theorem isLine_signature {rpc : Rpc} (topPlain : Name.isPlain topModule = true)
    (plain : rpc.hasPlainNames = true) : IsLine (rpc.signature topModule) := by
  obtain ⟨method, request, response⟩ := Rpc.hasPlainNames_iff.mp plain
  have opening : IsLine ("rpc(\"" ++ rpc.method ++ "\", ") :=
    (isLine_of_isPlain method).enclosed (by decide) (by decide)
  exact (((opening.append (isLine_qualifiedType topPlain request _)).append (by decide)).append
    (isLine_qualifiedType topPlain response _)).append (by decide)

/-- A piece that is no list is on one line if its statement is. -/
theorem Piece.onLines_of_statement {piece : Piece} (single : piece.lines = [piece.statement.text])
    (line : IsLine piece.statement.text) : piece.OnLines := by
  intro other member
  rw [single, List.mem_singleton] at member
  rw [member]
  exact line

/-- A line is a piece on lines. -/
theorem Piece.onLines_line {text : String} (line : IsLine text) : (Piece.line text).OnLines :=
  onLines_of_statement rfl line

/-- The description of a line is a piece on lines. -/
theorem Piece.onLines_description {indent : Nat} {text : String} (line : IsLine text) :
    (Piece.description indent text).OnLines :=
  onLines_of_statement rfl
    ((isLine_blanks indent).append (line.enclosed (by decide) (by decide)))

/-- The assignment of a constant is a piece on lines. -/
theorem Piece.onLines_constant {name : String} (line : IsLine name) (value : Option String) :
    (Piece.constant name value).OnLines :=
  onLines_of_statement rfl
    ((((isLine_blanks 0).append line).append (by decide)).append (isLine_optionalLiteral value))

/-- Fixed lines are pieces on lines. -/
theorem onLines_fixed {texts : List String} (lines : ∀ text ∈ texts, IsLine text) :
    ∀ piece ∈ StubModule.fixed texts, piece.OnLines := by
  intro piece member
  obtain ⟨text, found, rfl⟩ := List.mem_map.mp member
  exact Piece.onLines_line (lines text found)

/-- The class of a plain name has a plain name. -/
theorem Service.isPlain_className {service : Service}
    (plain : Name.isPlain service.displayName = true) : Name.isPlain service.className = true := by
  rw [Name.isPlain_iff] at plain ⊢
  intro character member
  rw [className, String.toList_ofList] at member
  exact plain character (List.mem_filter.mp member).1

/-- The route of plain names is plain. -/
theorem Service.isPlain_routeName {service : Service} {package : Option String}
    (packagePlain : package.all Name.isPlain = true)
    (plain : Name.isPlain service.wireName = true) :
    Name.isPlain (service.routeName package) = true := by
  refine Name.isPlain_append ?_ plain
  cases package with
  | none => rfl
  | some name =>
    rw [Name.routePrefix]
    split
    · rfl
    · exact Name.isPlain_append packagePlain (by decide)

/-- The kind of a call stands on a line. -/
theorem Rpc.isLine_callKind (rpc : Rpc) : IsLine rpc.callKind := by
  rw [callKind]
  cases rpc.requestStreamed <;> cases rpc.responseStreamed <;> decide

section Services

variable {service : Service} {package : Option String}

/-- A sentence about a service stands on a line. -/
theorem Service.isLine_naming {opening closing : String} (openingLine : IsLine opening)
    (closingLine : IsLine closing) (topPlain : Name.isPlain topModule = true)
    (plain : Name.isPlain service.displayName = true) :
    IsLine (opening ++ topModule ++ "." ++ service.displayName ++ closing) :=
  (((openingLine.append (isLine_of_isPlain topPlain)).append (by decide)).append
    (isLine_of_isPlain plain)).append closingLine

/-- The table of a service consists of pieces on lines. -/
theorem Service.onLines_of_mem_tablePieces (topPlain : Name.isPlain topModule = true)
    (packagePlain : package.all Name.isPlain = true) (plain : service.hasPlainNames = true) :
    ∀ piece ∈ service.tablePieces topModule package, piece.OnLines := by
  obtain ⟨display, wire, methods⟩ := hasPlainNames_iff.mp plain
  have empty : (Piece.line "").OnLines := Piece.onLines_line (by decide)
  have classLine : IsLine ("class " ++ service.className ++ "Service:") :=
    (isLine_of_isPlain (isPlain_className display)).enclosed (by decide) (by decide)
  have describes : IsLine (service.description topModule) :=
    isLine_naming (by decide) (by decide) topPlain display
  have quoted : IsLine ("\"" ++ service.routeName package ++ "\"") :=
    (isLine_of_isPlain (isPlain_routeName packagePlain wire)).enclosed (by decide) (by decide)
  have tableLines : (Piece.table topModule service.rpcs).OnLines := by
    intro line member
    refine isLine_of_mem_listLines (by decide) ?_ member
    intro item found
    obtain ⟨rpc, inside, rfl⟩ := List.mem_map.mp found
    exact isLine_signature topPlain (methods rpc inside)
  simp only [tablePieces, List.forall_mem_cons, List.not_mem_nil, false_implies, implies_true,
    and_true]
  exact ⟨empty, empty, Piece.onLines_line classLine, Piece.onLines_description describes, empty,
    Piece.onLines_of_statement rfl (IsLine.append (by decide) quoted), tableLines⟩

/-- The stub of a service consists of pieces on lines. -/
theorem Service.onLines_of_mem_stubPieces (topPlain : Name.isPlain topModule = true)
    (packagePlain : package.all Name.isPlain = true) (plain : service.hasPlainNames = true) :
    ∀ piece ∈ service.stubPieces topModule package, piece.OnLines := by
  obtain ⟨display, wire, methods⟩ := hasPlainNames_iff.mp plain
  have empty : (Piece.line "").OnLines := Piece.onLines_line (by decide)
  have classLine := isLine_of_isPlain (isPlain_className display)
  have routeLine := isLine_of_isPlain (isPlain_routeName packagePlain wire)
  have describes : IsLine (service.stubDescription topModule) :=
    isLine_naming (by decide) (by decide) topPlain display
  have head : IsLine ("class " ++ service.className ++ "Stub:") :=
    classLine.enclosed (by decide) (by decide)
  have serviceLine : IsLine (service.className ++ "Service") := classLine.append (by decide)
  rw [stubPieces, List.forall_mem_append]
  constructor
  · simp only [List.forall_mem_cons, List.not_mem_nil, false_implies, implies_true, and_true]
    exact ⟨empty, empty, Piece.onLines_line head, Piece.onLines_description describes, empty,
      Piece.onLines_of_statement rfl (IsLine.append (by decide) serviceLine), empty,
      Piece.onLines_line (by decide), Piece.onLines_line (by decide)⟩
  · intro piece member
    obtain ⟨rpc, inside, rfl⟩ := List.mem_map.mp member
    obtain ⟨method, _⟩ := Rpc.hasPlainNames_iff.mp (methods rpc inside)
    have target : IsLine ("self." ++ Name.attributeName rpc.method) :=
      IsLine.append (by decide) (isLine_of_isPlain (Name.isPlain_attributeName method))
    have route : IsLine (service.route package rpc) :=
      (routeLine.enclosed (by decide) (by decide)).append (isLine_of_isPlain method)
    have value : IsLine ("channel." ++ rpc.callKind ++ "(\"" ++ service.route package rpc ++
        "\")") :=
      ((rpc.isLine_callKind.enclosed (by decide) (by decide)).append route).append (by decide)
    exact Piece.onLines_of_statement rfl
      ((((isLine_blanks 8).append target).append (by decide)).append value)

/-- What is written for a service consists of pieces on lines. -/
theorem Service.onLines_of_mem_pieces (topPlain : Name.isPlain topModule = true)
    (packagePlain : package.all Name.isPlain = true) (plain : service.hasPlainNames = true) :
    ∀ piece ∈ service.pieces topModule package, piece.OnLines := by
  rw [pieces, List.forall_mem_append]
  exact ⟨onLines_of_mem_tablePieces topPlain packagePlain plain,
    onLines_of_mem_stubPieces topPlain packagePlain plain⟩

end Services

end OneLine

namespace StubModule

/-- The pieces of a module behind its description. -/
def body (module : StubModule) : List Piece :=
  module.preamble.tail ++ module.constants ++ helpers ++ module.loader ++
    module.model.services.flatMap fun service =>
      service.pieces module.topModule module.model.package

/-- The lines of a module behind its description. -/
def bodyLines (module : StubModule) : List String :=
  module.body.flatMap Piece.lines

/-- A module is its description, which may have any number of lines, and the lines of its body. -/
theorem render_eq_bodyLines (module : StubModule) :
    module.render =
      (Piece.description 0 module.description).statement.text ++ "\n" ++
        ofLines module.bodyLines := by
  have opened : module.pieces = .description 0 module.description :: module.body := rfl
  rw [bodyLines, ofLines_flatMap_lines, render, statements, opened]
  simp [ofLines]

/-- The constants of a module are pieces on lines. -/
theorem onLines_of_mem_constants (module : StubModule) :
    ∀ piece ∈ module.constants, piece.OnLines := by
  have pathLines : (Piece.sourcePaths module.paths).OnLines := by
    intro line member
    refine isLine_of_mem_listLines (by decide) ?_ member
    intro item found
    obtain ⟨path, _, rfl⟩ := List.mem_map.mp found
    exact isLine_pathExpression path
  rw [constants, List.forall_mem_append]
  constructor
  · simp only [List.forall_mem_cons, List.not_mem_nil, false_implies, implies_true, and_true]
    exact ⟨Piece.onLines_constant (by decide) _, Piece.onLines_constant (by decide) _⟩
  · split
    · exact List.forall_mem_singleton.mpr pathLines
    · exact List.forall_mem_singleton.mpr (Piece.onLines_constant (by decide) _)

/-- The loader of a module consists of pieces on lines. -/
theorem onLines_of_mem_loader (module : StubModule) :
    ∀ piece ∈ module.loader, piece.OnLines := by
  refine onLines_fixed ?_
  rw [List.forall_mem_append]
  constructor
  · simp only [List.forall_mem_cons, List.not_mem_nil, false_implies, implies_true, and_true]
    -- The last of these lines is written as two texts.
    exact ⟨Text.isLine_ofList (by decide), Text.isLine_ofList (by decide),
      Text.isLine_ofList (by decide),
      .append (Text.isLine_ofList (by decide)) (Text.isLine_ofList (by decide))⟩
  · split
    all_goals
      repeat refine List.forall_mem_cons.mpr ⟨Text.isLine_ofList (by decide), ?_⟩
      exact List.forall_mem_nil _

/-- With plain names, the body of a module consists of lines. -/
theorem isLine_of_mem_bodyLines {module : StubModule} (plain : module.hasPlainNames = true) :
    ∀ line ∈ module.bodyLines, Text.IsLine line := by
  obtain ⟨topPlain, packagePlain, servicesPlain⟩ := hasPlainNames_iff.mp plain
  have imports : ∀ piece ∈ module.preamble.tail, piece.OnLines := by
    refine onLines_fixed ?_
    repeat refine List.forall_mem_cons.mpr ⟨Text.isLine_ofList (by decide), ?_⟩
    exact List.forall_mem_nil _
  have definitions : ∀ piece ∈ helpers, piece.OnLines := by
    refine onLines_fixed ?_
    repeat refine List.forall_mem_cons.mpr ⟨Text.isLine_ofList (by decide), ?_⟩
    exact List.forall_mem_nil _
  intro line member
  obtain ⟨piece, found, inside⟩ := List.mem_flatMap.mp member
  simp only [body, List.mem_append] at found
  rcases found with (((found | found) | found) | found) | found
  · exact imports piece found line inside
  · exact module.onLines_of_mem_constants piece found line inside
  · exact definitions piece found line inside
  · exact module.onLines_of_mem_loader piece found line inside
  · obtain ⟨service, among, found⟩ := List.mem_flatMap.mp found
    exact Service.onLines_of_mem_pieces topPlain packagePlain (servicesPlain service among)
      piece found line inside

end StubModule

end ServiceStubs
