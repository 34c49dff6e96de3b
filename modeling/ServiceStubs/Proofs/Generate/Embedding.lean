import ServiceStubs.Proofs.Generate.Effects
import ServiceStubs.Proofs.StubModule.Lines
import ServiceStubs.Proofs.Text.Newline
import ServiceStubs.Proofs.Text.Utf8

/-!
# Embedded sources

A module that embeds its source has one line for it, whatever the source is: the literal of the
source stays on that line, and no other line depends on the source. So the file that a run has
written gives the text of the first schema file back, with unified line endings.
-/

namespace ServiceStubs

namespace StubModule

/-- The lines of a text are some fixed lines and between them a line with the literal of the
source. -/
def EmbedsBetween (before after : List String) (text : String) (source : List Char) : Prop :=
  ∃ code, Text.splitString '\n' text = before ++ ("PROTO_SOURCE = " ++ code) :: after ∧
    Text.Quoted.read? code.toList = some (source, [])

section Lines

variable (module : StubModule)

/-- The pieces of a module before its source. -/
def front : List Piece :=
  module.preamble ++
    [.constant "TOP_MODULE" (some module.topModule), .constant "PACKAGE" module.model.package]

/-- The pieces of a module behind its source. -/
def back : List Piece :=
  helpers ++ module.loader ++ module.model.services.flatMap fun service =>
    service.pieces module.topModule module.model.package

/-- A module that embeds its source has it between these pieces. -/
theorem pieces_of_embeds (embeds : module.refersToSources = false) :
    module.pieces =
      module.front ++ .constant "PROTO_SOURCE" (some module.content) :: module.back := by
  rw [pieces, constants, embeds, front, back]
  simp only [Bool.false_eq_true, if_false, List.append_assoc, List.cons_append, List.nil_append]

/-- The lines that some pieces are written on. -/
def linesOf (pieces : List Piece) : List String :=
  pieces.flatMap fun piece => Text.splitString '\n' piece.statement.text

/-- The source is on a line of its own, and the other lines do not depend on it. -/
theorem embedsBetween_render (embeds : module.refersToSources = false) (content : String) :
    EmbedsBetween (linesOf module.front) (linesOf module.back ++ [""])
      { module with content }.render content.toList := by
  refine ⟨Text.Quoted.literal content, ?_, ?_⟩
  · have sourceLine : Text.IsLine (Piece.constant "PROTO_SOURCE" (some content)).statement.text :=
      Piece.onLines_constant (by decide) (some content) _ (List.mem_singleton.mpr rfl)
    have split : Text.splitString '\n' { module with content }.render =
        linesOf { module with content }.pieces ++ [""] := by
      rw [render, splitString_ofLines_eq_flatMap, statements, List.map_map, List.flatMap_map]
      rfl
    rw [split, pieces_of_embeds { module with content } embeds, linesOf, List.flatMap_append,
      List.flatMap_cons, Text.splitString_of_isLine sourceLine, List.append_assoc]
    rfl
  · rw [Text.Quoted.literal, String.toList_ofList]
    simpa using Text.Quoted.read?_encode content.toList []

end Lines

end StubModule

namespace Environment

open ServiceStubs.Action FileTree

variable {environment : Environment} {settings : Settings}

/-- The text of a file that holds a text in bytes. -/
theorem outcome_sourceText {path source : String} {session : Session}
    (holds : session.tree.read environment.workingDirectory path = .ok (Text.Utf8.encode source)) :
    (environment.sourceText path).outcome session =
      (.ok (String.ofList (Text.unifyNewlines source.toList)), session) := by
  rw [sourceText, outcome_bind, outcome_tree]
  dsimp only
  rw [holds]
  dsimp only
  rw [Text.Utf8.decode_encode]
  rfl

/-- A module that does not refer to its sources embeds the first of them. -/
theorem outcome_stubModule {paths : List String} {source : String} {session : Session}
    (embeds : settings.useProtoPath.isTrue = false)
    (holds : session.tree.read environment.workingDirectory (paths.headD "") =
      .ok (Text.Utf8.encode source)) (root topModule : String) (model : Model) :
    (environment.stubModule settings paths root topModule model).outcome session =
      (.ok { topModule, model
             sourceNames := paths.map Path.fileName
             content := String.ofList (Text.unifyNewlines source.toList) }, session) := by
  rw [stubModule, if_neg (by simp [embeds])]
  exact outcome_bind_of_ok (outcome_sourceText holds) rfl

/-- A module that is neither tidied nor refers to its sources embeds the first of them. -/
theorem compose_eq_ok {paths : List String} {root source text : String} {session final : Session}
    (untidied : settings.skipFormat.isTrue = true) (embeds : settings.useProtoPath.isTrue = false)
    (holds : session.tree.read environment.workingDirectory (paths.headD "") =
      .ok (Text.Utf8.encode source))
    (composed : (environment.compose settings paths root).outcome session = (.ok text, final)) :
    ∃ module : StubModule, module.refersToSources = false ∧
      module.content = String.ofList (Text.unifyNewlines source.toList) ∧
      text = module.render := by
  obtain ⟨importPaths, afterImports, demanded, composed⟩ := outcome_bind_eq_ok composed
  obtain ⟨declarations, afterReading, declared, composed⟩ := outcome_bind_eq_ok composed
  obtain ⟨model, afterFolding, modelled, composed⟩ := outcome_bind_eq_ok composed
  obtain ⟨_, afterReport, reported, composed⟩ := outcome_bind_eq_ok composed
  obtain ⟨module, afterModule, made, composed⟩ := outcome_bind_eq_ok composed
  have sameTree : afterReport.tree = session.tree := by
    rw [(keepsTree_report _).tree_eq reported, (keepsTree_model _).tree_eq modelled,
      (environment.keepsTree_declarations _ _ _).tree_eq declared,
      (keepsTree_demand _).tree_eq demanded]
  rw [← sameTree] at holds
  rw [outcome_stubModule embeds holds] at made
  rw [moduleText, if_pos untidied] at composed
  cases made
  cases composed
  exact ⟨_, rfl, rfl, rfl⟩

/-- The file that a run has written gives back what was stored. -/
theorem generate_eq_ok {paths : List String} {root path : String} {session final : Session}
    (generated : (environment.generate settings paths root).outcome session = (.ok path, final)) :
    ∃ text between, (environment.compose settings paths root).outcome session =
        (.ok text, between) ∧
      final.tree.read environment.workingDirectory path = .ok (Text.Utf8.encode text) := by
  obtain ⟨text, between, composed, stored⟩ := outcome_bind_eq_ok generated
  refine ⟨text, between, composed, ?_⟩
  have stores := environment.stores_outcome settings root (paths.headD "") text between
  rw [stored] at stores
  cases stores with
  | completed _ _ _ written =>
    obtain ⟨location, located, gains⟩ := written
    rw [FileTree.read, located]
    dsimp only
    rw [gains.isFile]

/-- An embedded source survives exactly and disturbs nothing. The lines of a module that embeds its
source are the same for all sources, but for one, and the literal on that one reads as the source.
So the module that a run writes without tidying it gives back the text of the first schema file, in
which every pair of carriage return and line feed, and then every carriage return, has become a
line feed. -/
theorem embedded_source_survives :
    (∀ module : StubModule, module.refersToSources = false → ∃ before after, ∀ content : String,
      StubModule.EmbedsBetween before after { module with content }.render content.toList) ∧
    ∀ (environment : Environment) (settings : Settings) (first : String) (others : List String)
      (root source path : String) (session final : Session),
      settings.skipFormat.isTrue = true → settings.useProtoPath.isTrue = false →
      session.tree.read environment.workingDirectory first = .ok (Text.Utf8.encode source) →
      (environment.generate settings (first :: others) root).outcome session =
        (.ok path, final) →
      ∃ (module : StubModule) (before after : List String), module.refersToSources = false ∧
        final.tree.read environment.workingDirectory path =
          .ok (Text.Utf8.encode module.render) ∧
        (∀ content : String, StubModule.EmbedsBetween before after
          { module with content }.render content.toList) ∧
        StubModule.EmbedsBetween before after module.render
          (Text.replaceAll ['\r'] ['\n'] (Text.replaceAll ['\r', '\n'] ['\n'] source.toList)) := by
  constructor
  · intro module embeds
    exact ⟨_, _, module.embedsBetween_render embeds⟩
  · intro environment settings first others root source path session final untidied embeds holds
      generated
    obtain ⟨text, between, composed, written⟩ := generate_eq_ok generated
    obtain ⟨module, embedding, content, rfl⟩ := compose_eq_ok untidied embeds holds composed
    refine ⟨module, _, _, embedding, written, module.embedsBetween_render embedding, ?_⟩
    have unified : module.content.toList =
        Text.replaceAll ['\r'] ['\n'] (Text.replaceAll ['\r', '\n'] ['\n'] source.toList) := by
      rw [content, String.toList_ofList, Text.unifyNewlines_eq_replaceAll]
    rw [← unified]
    exact module.embedsBetween_render embedding module.content

/-- A source without declarations that starts with a byte order mark, holds both quotes and ends
its lines in all three ways. -/
def mixedSource : String :=
  "\uFEFF// '\r\n// \"\r\r\n//\n"

/-- A project with this source, in which nothing was done yet. -/
def mixedProject : Session where
  tree := ⟨[(["p"], .directory), (["p", "a.proto"], .file (Text.Utf8.encode mixedSource))]⟩

/-- Surroundings in which the compiler finds no declaration in a schema file. -/
def undeclaring : Environment where
  tools := { compile := fun _ _ paths _ => some (paths.map fun _ => {}), format := none }
  workingDirectory := "/p"

/-- Settings to embed the source into an untidied module. -/
def embeddingSettings : Settings where
  paths := .list [.text "a.proto"]
  outputDirectory := .text "out"
  skipFormat := .truth true

/-- The schema file of the project holds this source. -/
theorem mixedProject_holds :
    mixedProject.tree.read "/p" "a.proto" = .ok (Text.Utf8.encode mixedSource) :=
  rfl

/-- A module is generated for this source. -/
theorem mixedProject_generated :
    ∃ final, (undeclaring.generate embeddingSettings ["a.proto"] "").outcome mixedProject =
      (.ok (modulePath "" "out" "a.proto"), final) := by
  have accepted (text : String) : undeclaring.encoding.refusal? text = none :=
    Text.Encoding.refusal?_eq_none_iff.mpr fun _ _ => rfl
  have composed : ∃ text between, (undeclaring.compose embeddingSettings ["a.proto"] "").outcome
      mixedProject = (.ok text, between) := by
    apply Exists.intro
    apply Exists.intro
    apply outcome_bind_of_ok rfl
    apply outcome_bind_of_ok (undeclaring.outcome_declarations (fun text _ => accepted text) rfl _)
    apply outcome_bind_of_ok rfl
    apply outcome_bind_of_ok rfl
    -- Decoding does not reduce, so the source comes in by the lemma.
    apply outcome_bind_of_ok (outcome_stubModule rfl mixedProject_holds "" _ _)
    rfl
  obtain ⟨text, between, composed⟩ := composed
  have made : between.tree.makeDirectories "/p" (Path.join "" "out") =
      .ok (mixedProject.tree.put ["p", "out"] .directory) := by
    rw [(undeclaring.keepsTree_compose _ _ _).tree_eq composed]
    rfl
  have place : (mixedProject.tree.put ["p", "out"] .directory).locateNew "/p"
      (modulePath "" "out" "a.proto") = .ok ["p", "out", "a.generated.py"] :=
    rfl
  apply Exists.intro
  apply outcome_bind_of_ok composed
  rw [List.headD, undeclaring.outcome_store embeddingSettings rfl made place (by decide), accepted]

/-- The byte order mark and both quotes stay, and each line ending has become a line feed. -/
theorem embedded_mixedSource :
    ∃ (final : Session) (module : StubModule) (before after : List String),
      (undeclaring.generate embeddingSettings ["a.proto"] "").outcome mixedProject =
        (.ok "out/a.generated.py", final) ∧
      final.tree.read "/p" "out/a.generated.py" = .ok (Text.Utf8.encode module.render) ∧
      StubModule.EmbedsBetween before after module.render "\uFEFF// '\n// \"\n\n//\n".toList := by
  obtain ⟨final, generated⟩ := mixedProject_generated
  obtain ⟨module, before, after, _, written, _, embedded⟩ :=
    embedded_source_survives.2 undeclaring embeddingSettings "a.proto" [] "" mixedSource
      "out/a.generated.py" mixedProject final rfl rfl mixedProject_holds generated
  have unified : Text.unifyNewlines mixedSource.toList = "\uFEFF// '\n// \"\n\n//\n".toList := by
    decide +kernel
  rw [← Text.unifyNewlines_eq_replaceAll, unified] at embedded
  exact ⟨final, module, before, after, generated, written, embedded⟩

end Environment

end ServiceStubs
