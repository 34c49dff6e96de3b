import Mathlib.Data.List.Forall2
import ServiceStubs.Proofs.StubModule.Lines

/-!
# Stub modules say what they were made from

Two modules with plain names are written alike exactly when they agree: in their names, in the
source or its paths, and in all services and methods in order, with types up to their canonical
form. The parts of a module are cancelled from the front, line by line; each lemma therefore leaves
open what follows. That the names of a module come from its schema is not said here.
-/

namespace ServiceStubs

/-- Methods that cannot be told apart in a module: types agree in canonical form. -/
structure Rpc.Agrees (left right : Rpc) : Prop where
  method : left.method = right.method
  requestStreamed : left.requestStreamed = right.requestStreamed
  responseStreamed : left.responseStreamed = right.responseStreamed
  request : Name.canonical left.request = Name.canonical right.request
  response : Name.canonical left.response = Name.canonical right.response

/-- Services with the same names whose methods agree one by one. -/
structure Service.Agrees (left right : Service) : Prop where
  displayName : left.displayName = right.displayName
  wireName : left.wireName = right.wireName
  rpcs : List.Forall₂ Rpc.Agrees left.rpcs right.rpcs

/-- Modules that are made from the same source in the same way. The embedded text counts only if
the source is embedded, and the paths only if they are referred to. -/
structure StubModule.Agrees (left right : StubModule) : Prop where
  topModule : left.topModule = right.topModule
  package : left.model.package = right.model.package
  refersToSources : left.refersToSources = right.refersToSources
  content : left.refersToSources = false → left.content = right.content
  paths : left.refersToSources = true → left.paths = right.paths
  services : List.Forall₂ Service.Agrees left.model.services right.model.services

section Signatures

variable {topModule : String}

/-- Qualified names are cut off by the quote that closes them. -/
theorem canonical_of_qualified_append {left right : String}
    (topPlain : Name.isPlain topModule = true) (leftPlain : Name.isPlain left = true)
    (rightPlain : Name.isPlain right = true) {leftRest rightRest : List Char}
    (equal : (topModule ++ "." ++ Name.canonical left).toList ++ '"' :: leftRest =
      (topModule ++ "." ++ Name.canonical right).toList ++ '"' :: rightRest) :
    Name.canonical left = Name.canonical right ∧ leftRest = rightRest := by
  have noQuote : ∀ name, Name.isPlain name = true →
      '"' ∉ (topModule ++ "." ++ Name.canonical name).toList := fun name plain =>
    Name.not_mem_of_isPlain (Name.isPlain_append (Name.isPlain_append topPlain (by decide))
      (Name.isPlain_canonical plain)) (by decide)
  obtain ⟨sameName, sameRest⟩ :=
    Text.append_cons_cancel (noQuote left leftPlain) (noQuote right rightPlain) equal
  exact ⟨(String.append_right_inj _).mp (String.toList_injective sameName), sameRest⟩

/-- A type without a mark, character by character. -/
theorem toList_qualifiedType_unary (typeName : String) :
    (qualifiedType typeName topModule false).toList =
      '"' :: ((topModule ++ "." ++ Name.canonical typeName).toList ++ ['"']) := by
  simp [qualifiedType]

/-- A type that is marked as a stream, character by character. -/
theorem toList_qualifiedType_stream (typeName : String) :
    (qualifiedType typeName topModule true).toList =
      's' :: 't' :: 'r' :: 'e' :: 'a' :: 'm' :: '(' :: '"' ::
        ((topModule ++ "." ++ Name.canonical typeName).toList ++ ['"', ')']) := by
  simp [qualifiedType, streamOf]

/-- A type reference shows whether it is streamed and which type it names, and where it ends. -/
theorem qualifiedType_append_inj {left right : String} {leftStreamed rightStreamed : Bool}
    (topPlain : Name.isPlain topModule = true) (leftPlain : Name.isPlain left = true)
    (rightPlain : Name.isPlain right = true) {leftRest rightRest : List Char}
    (equal : (qualifiedType left topModule leftStreamed).toList ++ leftRest =
      (qualifiedType right topModule rightStreamed).toList ++ rightRest) :
    leftStreamed = rightStreamed ∧ Name.canonical left = Name.canonical right ∧
      leftRest = rightRest := by
  cases leftStreamed <;> cases rightStreamed <;>
    simp only [toList_qualifiedType_unary, toList_qualifiedType_stream, List.cons_append,
      List.append_assoc, List.nil_append, List.cons.injEq, true_and] at equal
  · exact ⟨rfl, canonical_of_qualified_append topPlain leftPlain rightPlain equal⟩
  · simp at equal
  · simp at equal
  · obtain ⟨sameName, sameRest⟩ :=
      canonical_of_qualified_append topPlain leftPlain rightPlain equal
    exact ⟨rfl, sameName, (List.cons.inj sameRest).2⟩

/-- Table entries with plain names are equal exactly when the methods agree. -/
theorem Rpc.signature_eq_iff {left right : Rpc} (topPlain : Name.isPlain topModule = true)
    (leftPlain : left.hasPlainNames = true) (rightPlain : right.hasPlainNames = true) :
    left.signature topModule = right.signature topModule ↔ left.Agrees right := by
  constructor
  · intro equal
    obtain ⟨leftMethod, leftRequest, leftResponse⟩ := hasPlainNames_iff.mp leftPlain
    obtain ⟨rightMethod, rightRequest, rightResponse⟩ := hasPlainNames_iff.mp rightPlain
    have sameText := congrArg String.toList equal
    simp only [signature, String.toList_append, List.append_assoc] at sameText
    -- The method ends at the first quote; each type then tells where it ends itself.
    have fromMethod := List.append_cancel_left sameText
    obtain ⟨method, fromRequest⟩ := Text.append_cons_cancel
      (Name.not_mem_of_isPlain leftMethod (by decide))
      (Name.not_mem_of_isPlain rightMethod (by decide)) fromMethod
    obtain ⟨requestStreamed, request, fromResponse⟩ := qualifiedType_append_inj topPlain
      leftRequest rightRequest (@List.append_cancel_left _ [',', ' '] _ _ fromRequest)
    obtain ⟨responseStreamed, response, _⟩ := qualifiedType_append_inj topPlain
      leftResponse rightResponse (List.append_cancel_left fromResponse)
    exact ⟨String.toList_injective method, requestStreamed, responseStreamed, request, response⟩
  · rintro ⟨method, requestStreamed, responseStreamed, request, response⟩
    simp only [signature, qualifiedType, method, requestStreamed, responseStreamed, request,
      response]

/-- Tables with plain names are equal exactly when their methods agree one by one. -/
theorem Rpc.signatures_eq_iff {left right : List Rpc} (topPlain : Name.isPlain topModule = true)
    (leftPlain : ∀ rpc ∈ left, rpc.hasPlainNames = true)
    (rightPlain : ∀ rpc ∈ right, rpc.hasPlainNames = true) :
    left.map (fun rpc => rpc.signature topModule) =
        right.map (fun rpc => rpc.signature topModule) ↔
      List.Forall₂ Rpc.Agrees left right := by
  induction left generalizing right with
  | nil => cases right <;> simp
  | cons first others inductionHypothesis =>
    cases right with
    | nil => simp
    | cons second rest =>
      rw [List.forall_mem_cons] at leftPlain rightPlain
      rw [List.map_cons, List.map_cons, List.cons.injEq, List.forall₂_cons,
        signature_eq_iff topPlain leftPlain.1 rightPlain.1,
        inductionHypothesis leftPlain.2 rightPlain.2]

end Signatures

section Lists

/-- What stands between a fixed beginning and a fixed end is determined by the whole. -/
theorem enclosed_injective (opening closing : String) :
    Function.Injective fun text => opening ++ text ++ closing := by
  intro left right equal
  exact (String.append_right_inj opening).mp ((String.append_left_inj closing).mp equal)

/-- The closing line of a list is none of its items, which all end with a comma. -/
theorem close_not_mem_items (indent : Nat) (items : List String) :
    Text.blanks indent ++ "]" ∉
      items.map fun item => Text.blanks (indent + 4) ++ item ++ "," := by
  intro member
  obtain ⟨item, _, equal⟩ := List.mem_map.mp member
  have lastCharacters := congrArg (fun line => line.toList.getLast?) equal
  simp at lastCharacters

/-- A list shows its items and where it ends. -/
theorem listLines_append_inj {indent : Nat} {target : String} {left right : List String}
    {leftRest rightRest : List String}
    (equal : listLines indent target left ++ leftRest =
      listLines indent target right ++ rightRest) :
    left = right ∧ leftRest = rightRest := by
  simp only [listLines, List.cons_append, List.append_assoc, List.cons.injEq, true_and,
    List.nil_append] at equal
  obtain ⟨sameItems, sameRest⟩ := Text.append_cons_cancel (close_not_mem_items indent left)
    (close_not_mem_items indent right) equal
  have itemInjective := enclosed_injective (Text.blanks (indent + 4)) ","
  exact ⟨List.map_injective_iff.mpr itemInjective sameItems, sameRest⟩

/-- Different paths are written differently. -/
theorem pathExpression_injective : Function.Injective pathExpression := by
  intro left right equal
  apply Text.Quoted.literal_injective
  exact enclosed_injective _ _ equal

/-- Different constants are written differently. -/
theorem optionalLiteral_injective : Function.Injective optionalLiteral := by
  intro left right equal
  cases left with
  | none =>
    cases right with
    | none => rfl
    | some text => exact absurd equal.symm (Text.Quoted.literal_ne_none text)
  | some first =>
    cases right with
    | none => exact absurd equal (Text.Quoted.literal_ne_none first)
    | some second => rw [Text.Quoted.literal_injective equal]

end Lists

namespace Service

/-- The lines of both classes of a service. -/
def lines (service : Service) (topModule : String) (package : Option String) : List String :=
  (service.pieces topModule package).flatMap Piece.lines

variable {topModule : String} {package : Option String} {left right : Service}

/-- Services that agree have the same stub. -/
theorem stubPieces_of_agrees (agrees : left.Agrees right) :
    left.stubPieces topModule package = right.stubPieces topModule package := by
  have sameRoute : ∀ first second : Rpc, first.Agrees second →
      Piece.call (Name.attributeName first.method) first.callKind (left.route package first) =
        Piece.call (Name.attributeName second.method) second.callKind
          (right.route package second) := by
    rintro first second ⟨method, requestStreamed, responseStreamed, _, _⟩
    rw [Rpc.callKind, Rpc.callKind, route, route, routeName, routeName, method, requestStreamed,
      responseStreamed, agrees.wireName]
  have sameCalls : left.rpcs.map (fun rpc =>
      Piece.call (Name.attributeName rpc.method) rpc.callKind (left.route package rpc)) =
      right.rpcs.map fun rpc =>
        Piece.call (Name.attributeName rpc.method) rpc.callKind (right.route package rpc) := by
    rw [← List.forall₂_eq_eq_eq, List.forall₂_map_left_iff, List.forall₂_map_right_iff]
    exact agrees.rpcs.imp sameRoute
  unfold stubPieces className stubDescription
  rw [sameCalls, agrees.displayName]

/-- The lines of a service: its table, the list of its entries, and its stub. -/
theorem lines_eq (service : Service) :
    service.lines topModule package =
      "" :: "" :: ("class " ++ service.className ++ "Service:") ::
        (Piece.description 4 (service.description topModule)).statement.text :: "" ::
        (Piece.routeName (service.routeName package)).statement.text ::
        (listLines 4 "rpcs" (service.rpcs.map fun rpc => rpc.signature topModule) ++
          (service.stubPieces topModule package).flatMap Piece.lines) := by
  rw [lines, pieces, List.flatMap_append]
  unfold tablePieces
  simp only [List.flatMap_cons, List.flatMap_nil, List.append_nil, List.append_assoc]
  rfl

/-- The lines of a service with plain names show the service and where they end. -/
theorem agrees_of_lines_append (topPlain : Name.isPlain topModule = true)
    (leftPlain : left.hasPlainNames = true) (rightPlain : right.hasPlainNames = true)
    {leftRest rightRest : List String}
    (equal : left.lines topModule package ++ leftRest =
      right.lines topModule package ++ rightRest) :
    left.Agrees right ∧ leftRest = rightRest := by
  rw [lines_eq, lines_eq] at equal
  simp only [List.cons_append, List.append_assoc, List.cons.injEq, true_and] at equal
  obtain ⟨_, sameDescription, sameRoute, sameTable⟩ := equal
  have displayName : left.displayName = right.displayName := by
    have quoted := (String.append_right_inj _).mp sameDescription
    have described : left.description topModule = right.description topModule :=
      enclosed_injective _ _ quoted
    exact enclosed_injective _ _ described
  have wireName : left.wireName = right.wireName := by
    have quoted := (String.append_right_inj _).mp sameRoute
    have routed : left.routeName package = right.routeName package :=
      enclosed_injective _ _ quoted
    exact (String.append_right_inj _).mp routed
  obtain ⟨sameSignatures, sameStub⟩ := listLines_append_inj sameTable
  have rpcs := (Rpc.signatures_eq_iff topPlain (hasPlainNames_iff.mp leftPlain).2.2
    (hasPlainNames_iff.mp rightPlain).2.2).mp sameSignatures
  have agrees : left.Agrees right := ⟨displayName, wireName, rpcs⟩
  rw [stubPieces_of_agrees agrees] at sameStub
  exact ⟨agrees, List.append_cancel_left sameStub⟩

/-- Services that agree have the same lines. -/
theorem lines_of_agrees (topPlain : Name.isPlain topModule = true)
    (leftPlain : left.hasPlainNames = true) (rightPlain : right.hasPlainNames = true)
    (agrees : left.Agrees right) :
    left.lines topModule package = right.lines topModule package := by
  have sameSignatures := (Rpc.signatures_eq_iff topPlain (hasPlainNames_iff.mp leftPlain).2.2
    (hasPlainNames_iff.mp rightPlain).2.2).mpr agrees.rpcs
  rw [lines_eq, lines_eq, sameSignatures, stubPieces_of_agrees agrees]
  unfold className description routeName
  rw [agrees.displayName, agrees.wireName]

/-- The lines of all services are equal exactly when the services agree one by one. -/
theorem flatMap_lines_eq_iff {left right : List Service}
    (topPlain : Name.isPlain topModule = true)
    (leftPlain : ∀ service ∈ left, service.hasPlainNames = true)
    (rightPlain : ∀ service ∈ right, service.hasPlainNames = true) :
    left.flatMap (fun service => service.lines topModule package) =
        right.flatMap (fun service => service.lines topModule package) ↔
      List.Forall₂ Service.Agrees left right := by
  induction left generalizing right with
  | nil =>
    cases right with
    | nil => simp
    | cons second rest => simp [lines_eq]
  | cons first others inductionHypothesis =>
    cases right with
    | nil => simp [lines_eq]
    | cons second rest =>
      rw [List.forall_mem_cons] at leftPlain rightPlain
      rw [List.flatMap_cons, List.flatMap_cons, List.forall₂_cons,
        ← inductionHypothesis leftPlain.2 rightPlain.2]
      constructor
      · exact agrees_of_lines_append topPlain leftPlain.1 rightPlain.1
      · rintro ⟨agrees, sameRest⟩
        rw [lines_of_agrees topPlain leftPlain.1 rightPlain.1 agrees, sameRest]

end Service

namespace StubModule

variable {left right : StubModule}

/-- The lines that give the source, or where it is found. -/
def sourceLines (module : StubModule) : List String :=
  if module.refersToSources then (Piece.sourcePaths module.paths).lines
  else (Piece.constant "PROTO_SOURCE" (some module.content)).lines

/-- The body of a module from its constants on, in the order in which they are cancelled. -/
theorem bodyLines_eq (module : StubModule) :
    module.bodyLines =
      module.preamble.tail.flatMap Piece.lines ++
        ((Piece.constant "TOP_MODULE" (some module.topModule)).statement.text ::
          (Piece.constant "PACKAGE" module.model.package).statement.text ::
          (module.sourceLines ++ (helpers.flatMap Piece.lines ++
            (module.loader.flatMap Piece.lines ++
              module.model.services.flatMap fun service =>
                service.lines module.topModule module.model.package)))) := by
  have services : (module.model.services.flatMap fun service =>
      service.pieces module.topModule module.model.package).flatMap Piece.lines =
      module.model.services.flatMap fun service =>
        service.lines module.topModule module.model.package :=
    List.flatMap_assoc
  have constantLines : module.constants.flatMap Piece.lines =
      (Piece.constant "TOP_MODULE" (some module.topModule)).statement.text ::
        (Piece.constant "PACKAGE" module.model.package).statement.text ::
        module.sourceLines := by
    rw [constants, sourceLines]
    split <;> simp [Piece.lines]
  rw [bodyLines, body]
  simp only [List.flatMap_append, constantLines, services, List.append_assoc, List.cons_append]

/-- The assignment of a constant tells its value. -/
theorem constant_text_inj {name : String} {left right : Option String}
    (equal : (Piece.constant name left).statement.text =
      (Piece.constant name right).statement.text) : left = right :=
  optionalLiteral_injective ((String.append_right_inj _).mp equal)

/-- Paths and an embedded source start differently. -/
theorem sourcePaths_lines_apart (paths : List String) (content : String)
    (leftRest rightRest : List String) :
    (Piece.sourcePaths paths).lines ++ leftRest ≠
      (Piece.constant "PROTO_SOURCE" (some content)).lines ++ rightRest := by
  intro same
  have sameLine := (List.cons.inj same).1
  have sameStart := congrArg (fun line => line.toList.take 7) sameLine
  simp [Piece.statement, Statement.text, Text.blanks] at sameStart

/-- The lines of the source show whether it is embedded, the source, and where they end. -/
theorem sourceLines_append_inj {leftRest rightRest : List String}
    (equal : left.sourceLines ++ leftRest = right.sourceLines ++ rightRest) :
    left.refersToSources = right.refersToSources ∧
      (left.refersToSources = false → left.content = right.content) ∧
      (left.refersToSources = true → left.paths = right.paths) ∧ leftRest = rightRest := by
  rw [sourceLines, sourceLines] at equal
  cases leftMode : left.refersToSources <;> cases rightMode : right.refersToSources <;>
    simp only [leftMode, rightMode, if_true, if_false, Bool.false_eq_true] at equal
  · obtain ⟨sameContent, sameRest⟩ := List.cons.inj equal
    exact ⟨rfl, fun _ => Option.some.inj (constant_text_inj sameContent), nofun, sameRest⟩
  · exact absurd equal.symm (sourcePaths_lines_apart _ _ _ _)
  · exact absurd equal (sourcePaths_lines_apart _ _ _ _)
  · obtain ⟨samePaths, sameRest⟩ := listLines_append_inj equal
    exact ⟨rfl, nofun, fun _ => List.map_injective_iff.mpr pathExpression_injective samePaths,
      sameRest⟩

/-- All modules have the same imports. -/
theorem preamble_tail_eq (left right : StubModule) :
    left.preamble.tail = right.preamble.tail := by
  unfold preamble
  rw [List.tail_cons, List.tail_cons]

/-- Only the way in which the source is given decides how it is loaded. -/
theorem loader_of_mode (sameMode : left.refersToSources = right.refersToSources) :
    left.loader = right.loader := by
  unfold loader
  rw [sameMode]

/-- Bodies with the same lines belong to modules that agree. -/
theorem agrees_of_bodyLines (leftPlain : left.hasPlainNames = true)
    (rightPlain : right.hasPlainNames = true) (equal : left.bodyLines = right.bodyLines) :
    left.Agrees right := by
  obtain ⟨topPlain, _, leftServices⟩ := hasPlainNames_iff.mp leftPlain
  obtain ⟨_, _, rightServices⟩ := hasPlainNames_iff.mp rightPlain
  rw [bodyLines_eq, bodyLines_eq, preamble_tail_eq left right] at equal
  have fromConstants := List.append_cancel_left equal
  obtain ⟨sameTop, fromPackage⟩ := List.cons.inj fromConstants
  obtain ⟨samePackage, fromSource⟩ := List.cons.inj fromPackage
  have topModule := Option.some.inj (constant_text_inj sameTop)
  have package := constant_text_inj samePackage
  obtain ⟨mode, content, paths, fromHelpers⟩ := sourceLines_append_inj fromSource
  rw [loader_of_mode mode] at fromHelpers
  have sameServices := List.append_cancel_left (List.append_cancel_left fromHelpers)
  rw [← topModule, ← package] at sameServices
  have services :=
    (Service.flatMap_lines_eq_iff topPlain leftServices rightServices).mp sameServices
  exact ⟨topModule, package, mode, content, paths, services⟩

/-- Modules that agree have the same body. -/
theorem bodyLines_of_agrees (leftPlain : left.hasPlainNames = true)
    (rightPlain : right.hasPlainNames = true) (agrees : left.Agrees right) :
    left.bodyLines = right.bodyLines := by
  obtain ⟨topPlain, _, leftServices⟩ := hasPlainNames_iff.mp leftPlain
  obtain ⟨_, _, rightServices⟩ := hasPlainNames_iff.mp rightPlain
  obtain ⟨topModule, package, mode, content, paths, services⟩ := agrees
  have sameSource : left.sourceLines = right.sourceLines := by
    rw [sourceLines, sourceLines, ← mode]
    split
    · rename_i refers
      rw [paths refers]
    · rename_i embeds
      rw [content (by simpa using embeds)]
  rw [bodyLines_eq, bodyLines_eq, preamble_tail_eq left right, sameSource, loader_of_mode mode,
    (Service.flatMap_lines_eq_iff topPlain leftServices rightServices).mpr services, topModule,
    package]

/-- Two modules for the same source files, with plain names, have the same text exactly when they
agree. -/
theorem render_eq_iff_agrees (left right : StubModule)
    (sameSources : left.sourceNames = right.sourceNames)
    (leftPlain : left.hasPlainNames = true) (rightPlain : right.hasPlainNames = true) :
    left.render = right.render ↔ left.Agrees right := by
  have sameDescription : left.description = right.description := by
    unfold description title
    rw [sameSources]
  rw [render_eq_bodyLines, render_eq_bodyLines, sameDescription, String.append_right_inj]
  constructor
  · intro sameBody
    exact agrees_of_bodyLines leftPlain rightPlain (ofLines_injective
      (isLine_of_mem_bodyLines leftPlain) (isLine_of_mem_bodyLines rightPlain) sameBody)
  · intro agrees
    rw [bodyLines_of_agrees leftPlain rightPlain agrees]

/-- A module with one streaming method, an empty package and a given embedded text. -/
def printingModule (request content : String) : StubModule where
  topModule := "Office.V1"
  model := ⟨some "", [⟨"Printer", "printer", [⟨"print", request, "page_count", true, false⟩]⟩]⟩
  sourceNames := ["office.proto"]
  content := content

/-- Another spelling of a type does not show; a line feed and its escape are told apart. -/
theorem render_of_respelled_request :
    (printingModule "log_entry" "a\n").hasPlainNames = true ∧
      (printingModule "LogEntry" "a\n").hasPlainNames = true ∧
      (printingModule "log_entry" "a\n").render = (printingModule "LogEntry" "a\n").render ∧
      (printingModule "log_entry" "a\n").render ≠ (printingModule "log_entry" "a\\n").render := by
  have plain : (printingModule "log_entry" "a\n").hasPlainNames = true := by decide +kernel
  have respelledPlain : (printingModule "LogEntry" "a\n").hasPlainNames = true := by
    decide +kernel
  have escapedPlain : (printingModule "log_entry" "a\\n").hasPlainNames = true := plain
  have method : Rpc.Agrees ⟨"print", "log_entry", "page_count", true, false⟩
      ⟨"print", "LogEntry", "page_count", true, false⟩ :=
    ⟨rfl, rfl, rfl, by decide +kernel, rfl⟩
  have respelled : (printingModule "log_entry" "a\n").Agrees (printingModule "LogEntry" "a\n") :=
    ⟨rfl, rfl, rfl, fun _ => rfl, fun _ => rfl, .cons ⟨rfl, rfl, .cons method .nil⟩ .nil⟩
  have apart : ¬ (printingModule "log_entry" "a\n").Agrees
      (printingModule "log_entry" "a\\n") := by
    intro agrees
    have sameContent : "a\n" = "a\\n" := agrees.content rfl
    exact absurd sameContent (by decide)
  exact ⟨plain, respelledPlain,
    (render_eq_iff_agrees (printingModule "log_entry" "a\n") (printingModule "LogEntry" "a\n") rfl
      plain respelledPlain).mpr respelled,
    fun equal => apart ((render_eq_iff_agrees (printingModule "log_entry" "a\n")
      (printingModule "log_entry" "a\\n") rfl plain escapedPlain).mp equal)⟩

end StubModule

end ServiceStubs
