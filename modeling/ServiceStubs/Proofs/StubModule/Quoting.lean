import ServiceStubs.Proofs.Code.WrittenLiteral
import ServiceStubs.Proofs.Name.Canonical
import ServiceStubs.Proofs.StubModule.Faithful

/-!
# Names between quotes

The top module of a stub module is written as a literal of its own, and again inside each type that
an entry refers to. The literal escapes what needs it, the types do not: they can be read exactly
if the top module is quotable as it is. Likewise the names of the source files stand in the
description of the module as they are, so they may close it.
-/

namespace ServiceStubs

namespace Code

/-- A type as an entry refers to it: its name, and whether it is marked as a stream. -/
structure TypeReference where
  typeName : List Char
  streamed : Bool
  deriving DecidableEq, Repr

/-- The type that an argument of an entry refers to, and the code behind the argument. -/
def readReference? (named : List Char → Option Char) (code : List Char) :
    Option (TypeReference × List Char) :=
  match code.dropPrefix? "stream(".toList with
  | some marked =>
    (readText? named marked).bind fun (typeName, rest) =>
      (rest.dropPrefix? [')']).map fun behind => (⟨typeName, true⟩, behind)
  | none => (readText? named code).map fun (typeName, rest) => (⟨typeName, false⟩, rest)

/-- The code that a line assigns to a constant. -/
def assignedCode? (name line : String) : Option (List Char) :=
  line.toList.dropPrefix? (name ++ " = ").toList

/-- The text of a constant, from the first line that assigns it, and the code behind the text. -/
def assignedText? (named : List Char → Option Char) (name : String) (lines : List String) :
    Option (List Char × List Char) :=
  (lines.findSome? (assignedCode? name)).bind (readText? named)

end Code

open Code

/-- A plain name can be quoted as it is. -/
theorem isQuotable_of_isPlain {name : String} (plain : Name.isPlain name = true) :
    isQuotable name.toList = true := by
  refine isQuotable_of_clean fun character member => ?_
  have plainHere := Name.isPlain_iff.mp plain character member
  rw [breaksOff_eq_false_iff]
  refine ⟨⟨?_, ?_, ?_, ?_⟩, ?_⟩ <;> rintro rfl <;> exact absurd plainHere (by decide)

/-- The canonical form of a name can be quoted if the name holds nothing to escape. -/
theorem isQuotable_canonical {name : String}
    (clean : ∀ character ∈ name.toList, breaksOff character = false ∧ character ≠ '\\') :
    isQuotable (Name.canonical name).toList = true := by
  refine isQuotable_of_clean fun character member => ?_
  have inherited : character.toNat < 0x80 → character.isAlpha = false → character ≠ '.' →
      breaksOff character = false ∧ character ≠ '\\' := fun ascii notLetter notDot =>
    clean character (Name.mem_of_mem_canonical ascii notLetter notDot member)
  -- Each of the characters in question is such a mark, so it would stand in the name.
  rw [breaksOff_eq_false_iff] at inherited ⊢
  refine ⟨⟨?_, ?_, ?_, ?_⟩, ?_⟩ <;> rintro rfl <;>
    simpa using inherited (by decide) (by decide) (by decide)

section References

variable {named : List Char → Option Char} {topModule typeName : String} {rest : List Char}

/-- A qualified type can be quoted exactly if its top module can. -/
theorem readText?_qualified_iff (plain : Name.isPlain typeName = true) :
    readText? named
        ('"' :: ((topModule ++ "." ++ Name.canonical typeName).toList ++ '"' :: rest)) =
        some ((topModule ++ "." ++ Name.canonical typeName).toList, rest) ↔
      isQuotable topModule.toList = true := by
  have canonicalPlain := Name.isPlain_canonical plain
  have spelled : (topModule ++ "." ++ Name.canonical typeName).toList =
      topModule.toList ++ '.' :: (Name.canonical typeName).toList := by simp
  have ends : (topModule ++ "." ++ Name.canonical typeName).toList.getLast? ≠ some '\\' := by
    rw [spelled, List.getLast?_append_of_ne_nil _ (List.cons_ne_nil _ _)]
    intro last
    rcases List.mem_cons.mp (List.mem_of_getLast? last) with dot | inName
    · exact absurd dot (by decide)
    · exact Name.not_mem_of_isPlain canonicalPlain (by decide) inName
  rw [readText?_quoted_iff (.inl (by simp)) ends, spelled, isQuotable_append_dot,
    isQuotable_of_isPlain canonicalPlain, Bool.and_true]

/-- A type that starts with a quote is read as it is quoted. -/
theorem readReference?_unmarked {code text : List Char} :
    readReference? named ('"' :: code) = some (⟨text, false⟩, rest) ↔
      readText? named ('"' :: code) = some (text, rest) := by
  have unmarked : ('"' :: code).dropPrefix? "stream(".toList = none := rfl
  rw [readReference?, unmarked]
  simp

/-- A type that is marked as a stream is read up to its bracket. -/
theorem readReference?_marked {code text : List Char} :
    readReference? named ("stream(".toList ++ code) = some (⟨text, true⟩, rest) ↔
      readText? named code = some (text, ')' :: rest) := by
  have marked : ("stream(".toList ++ code).dropPrefix? "stream(".toList = some code :=
    List.dropPrefix?_append_of_beq code (by simp)
  rw [readReference?, marked]
  simp [Option.bind_eq_some_iff, List.dropPrefix?_eq_some_iff]

/-- An argument of an entry can be read exactly if the top module can be quoted as it is. -/
theorem readReference?_qualifiedType_iff (plain : Name.isPlain typeName = true)
    (streamed : Bool) :
    readReference? named (qualifiedType typeName topModule streamed).toList =
        some (⟨(topModule ++ "." ++ Name.canonical typeName).toList, streamed⟩, []) ↔
      isQuotable topModule.toList = true := by
  cases streamed with
  | false =>
    rw [toList_qualifiedType_unary, readReference?_unmarked]
    exact readText?_qualified_iff plain
  | true =>
    rw [toList_qualifiedType_stream]
    exact readReference?_marked.trans (readText?_qualified_iff plain)

end References

namespace StubModule

variable (module : StubModule)

/-- A fixed text is checked by its characters, without decoding it. -/
theorem all_isHarmless_ofList {characters : List Char}
    (harmless : characters.all isHarmless = true) :
    (String.ofList characters).toList.all isHarmless = true := by
  rwa [String.toList_ofList]

/-- The code of a module starts with its description. The names of the source files stand in it
between two fixed texts. -/
theorem toList_render :
    ∃ opening ending : List Char,
      opening.all isHarmless = true ∧ ending.all isHarmless = true ∧
      module.render.toList = '"' :: '"' :: '"' ::
        ((opening ++ Text.joinWith [',', ' '] (module.sourceNames.map String.toList)) ++
          '.' :: (ending ++ '"' :: '"' :: '"' :: '\n' :: (ofLines module.bodyLines).toList)) := by
  have names : (Text.joinStrings ", " module.sourceNames).toList =
      Text.joinWith [',', ' '] (module.sourceNames.map String.toList) := String.toList_ofList
  have marks : "\"\"\"".toList = ['"', '"', '"'] := rfl
  have dot : ".".toList = ['.'] := rfl
  have feed : "\n".toList = ['\n'] := rfl
  have unindented : (Text.blanks 0).toList = [] := rfl
  refine ⟨"This is an automatically generated client stub for ".toList, "\n\n".toList ++
    "Do not edit. Regenerate with `grpc-stub-generator` when the definitions change.\n".toList,
    all_isHarmless_ofList (by decide), ?_, ?_⟩
  · rw [List.all_append, all_isHarmless_ofList (by decide), all_isHarmless_ofList (by decide)]
    rfl
  · rw [render_eq_bodyLines]
    unfold Piece.statement Statement.text
    dsimp only
    unfold description title
    simp only [String.toList_append, names, marks, dot, feed, unindented, List.append_assoc,
      List.cons_append, List.nil_append]

/-- The description of a module ends where it is meant to exactly if no name of a source file holds
triple quotes. -/
theorem read?_description_iff :
    ∃ code, module.render.toList = '"' :: code ∧
      ((∃ literal, Literal.read? '"' code =
        some (literal, '\n' :: (ofLines module.bodyLines).toList)) ↔
        ∀ name ∈ module.sourceNames, ¬ HoldsTriple false name.toList) := by
  obtain ⟨opening, ending, openingHarmless, endingHarmless, spelled⟩ := module.toList_render
  refine ⟨_, spelled, ?_⟩
  rw [read?_triple_iff (by decide) endingHarmless, holdsTriple_harmless openingHarmless,
    holdsTriple_joinWith]
  simp

/-- A line that starts otherwise does not assign the top module. -/
theorem assignedCode?_of_head {line : String} (apart : line.toList.head? ≠ some 'T') :
    assignedCode? "TOP_MODULE" line = none := by
  have name : ("TOP_MODULE" ++ " = ").toList = 'T' :: "OP_MODULE = ".toList := rfl
  rw [assignedCode?, name]
  cases characters : line.toList with
  | nil => rfl
  | cons first others =>
    have other : first ≠ 'T' := by
      rintro rfl
      exact apart (by rw [characters, List.head?_cons])
    simp [List.dropPrefix?, other]

/-- Fixed lines that start with other characters assign nothing. -/
theorem findSome?_assignedCode?_fixed {texts : List String}
    (lines : ∀ text ∈ texts, Text.IsLine text ∧ text.toList.head? ≠ some 'T') :
    (texts.flatMap (Text.splitString '\n')).findSome? (assignedCode? "TOP_MODULE") = none := by
  rw [List.findSome?_eq_none_iff]
  intro line member
  obtain ⟨text, found, inText⟩ := List.mem_flatMap.mp member
  obtain ⟨isLine, apart⟩ := lines text found
  rw [Text.splitString_of_isLine isLine, List.mem_singleton] at inText
  rw [inText]
  exact assignedCode?_of_head apart

/-- Characters that make up a line which does not assign the top module. -/
theorem fixed_ofList {characters : List Char}
    (proper : '\n' ∉ characters ∧ characters.head? ≠ some 'T') :
    Text.IsLine (String.ofList characters) ∧
      (String.ofList characters).toList.head? ≠ some 'T' := by
  rw [String.toList_ofList]
  exact ⟨Text.isLine_ofList proper.1, proper.2⟩

/-- The top module is the text of its constant. -/
theorem assignedText?_topModule (named : List Char → Option Char) :
    assignedText? named "TOP_MODULE" (Text.splitString '\n' (ofLines module.bodyLines)) =
      some (module.topModule.toList, []) := by
  have imports : ((module.preamble.tail.flatMap Piece.lines).flatMap
      (Text.splitString '\n')).findSome? (assignedCode? "TOP_MODULE") = none := by
    rw [preamble, List.tail_cons, lines_fixed]
    refine findSome?_assignedCode?_fixed ?_
    repeat refine List.forall_mem_cons.mpr ⟨fixed_ofList (by decide), ?_⟩
    exact List.forall_mem_nil _
  have constantLine : Text.IsLine
      (Piece.constant "TOP_MODULE" (some module.topModule)).statement.text :=
    Piece.onLines_constant (by decide) _ _ (List.mem_singleton.mpr rfl)
  have assigned : assignedCode? "TOP_MODULE"
      (Piece.constant "TOP_MODULE" (some module.topModule)).statement.text =
        some (Text.Quoted.encode module.topModule.toList) := by
    have spelled : (Piece.constant "TOP_MODULE" (some module.topModule)).statement.text.toList =
        ("TOP_MODULE" ++ " = ").toList ++ Text.Quoted.encode module.topModule.toList := by
      simp [Piece.statement, Statement.text, optionalLiteral, Text.Quoted.literal, Text.blanks]
    rw [assignedCode?, spelled]
    exact List.dropPrefix?_append_of_beq _ (by simp)
  rw [assignedText?, bodyLines_eq, splitString_ofLines_eq_flatMap, List.flatMap_append,
    List.append_assoc, List.findSome?_append, imports, List.flatMap_cons,
    Text.splitString_of_isLine constantLine, List.singleton_append, List.cons_append,
    List.findSome?_cons, assigned]
  have read : readText? named (Text.Quoted.encode module.topModule.toList ++ []) =
      some (module.topModule.toList, []) := readText?_encode _ (by simp)
  simpa using read

/-- Which texts of a module stay between their quotes. The description of the module ends where it
is meant to exactly if no name of a source file holds triple quotes that are not escaped. The
constant of the top module always gives the top module. The types that the entries refer to can be
read, with the same top module, exactly if this can be quoted as it is; it can if the namespace
holds nothing to escape. -/
theorem texts_between_quotes (module : StubModule) (namespaceName : String)
    (chosen : module.topModule = Name.canonical namespaceName)
    (plain : ∀ service ∈ module.model.services, service.hasPlainNames = true)
    (named : List Char → Option Char) :
    (∃ code, module.render.toList = '"' :: code ∧
      ((∃ literal, Literal.read? '"' code =
        some (literal, '\n' :: (ofLines module.bodyLines).toList)) ↔
        ∀ name ∈ module.sourceNames, ¬ HoldsTriple false name.toList)) ∧
    assignedText? named "TOP_MODULE" (Text.splitString '\n' (ofLines module.bodyLines)) =
      some (module.topModule.toList, []) ∧
    (∀ service ∈ module.model.services, ∀ rpc ∈ service.rpcs, ∃ request response,
      rpc.signature module.topModule =
        "rpc(\"" ++ rpc.method ++ "\", " ++ request ++ ", " ++ response ++ ")" ∧
      (readReference? named request.toList = some (⟨(module.topModule ++ "." ++
          Name.canonical rpc.request).toList, rpc.requestStreamed⟩, []) ↔
        isQuotable module.topModule.toList = true) ∧
      (readReference? named response.toList = some (⟨(module.topModule ++ "." ++
          Name.canonical rpc.response).toList, rpc.responseStreamed⟩, []) ↔
        isQuotable module.topModule.toList = true)) ∧
    ((∀ character ∈ namespaceName.toList, breaksOff character = false ∧ character ≠ '\\') →
      isQuotable module.topModule.toList = true) := by
  refine ⟨module.read?_description_iff, module.assignedText?_topModule named, ?_, ?_⟩
  · intro service member rpc inside
    obtain ⟨_, _, methods⟩ := Service.hasPlainNames_iff.mp (plain service member)
    obtain ⟨_, request, response⟩ := Rpc.hasPlainNames_iff.mp (methods rpc inside)
    exact ⟨_, _, rfl, readReference?_qualifiedType_iff request _,
      readReference?_qualifiedType_iff response _⟩
  · intro clean
    rw [chosen]
    exact isQuotable_canonical clean

/-- A module with one streaming method for a namespace and a source file. -/
def namedModule (namespaceName sourceName : String) : StubModule where
  topModule := Name.canonical namespaceName
  model := ⟨none, [⟨"Printer", "printer", [⟨"print", "log_entry", "Page", true, false⟩]⟩]⟩
  sourceNames := [sourceName]

/-- A module with backslashes in the namespace and before three quotes in a name. -/
def guardedModule : StubModule :=
  namedModule "print\\.room" "a\\\"\"\".proto"

/-- A backslash that makes no escape does no harm in a namespace, and a backslash before three
quotes keeps them from closing the description. -/
theorem texts_of_guardedModule :
    guardedModule.topModule = Name.canonical "print\\.room" ∧
      (∀ service ∈ guardedModule.model.services, service.hasPlainNames = true) ∧
      (∃ code literal, guardedModule.render.toList = '"' :: code ∧
        Literal.read? '"' code =
          some (literal, '\n' :: (ofLines guardedModule.bodyLines).toList)) ∧
      assignedText? (fun _ => none) "TOP_MODULE"
          (Text.splitString '\n' (ofLines guardedModule.bodyLines)) =
        some ("Print\\.Room".toList, []) ∧
      ∃ request response,
        Rpc.signature ⟨"print", "log_entry", "Page", true, false⟩ "Print\\.Room" =
          "rpc(\"" ++ "print" ++ "\", " ++ request ++ ", " ++ response ++ ")" ∧
        readReference? (fun _ => none) request.toList =
          some (⟨"Print\\.Room.LogEntry".toList, true⟩, []) ∧
        readReference? (fun _ => none) response.toList =
          some (⟨"Print\\.Room.Page".toList, false⟩, []) := by
  have plain : ∀ service ∈ guardedModule.model.services, service.hasPlainNames = true := by
    decide +kernel
  have topModule : guardedModule.topModule = "Print\\.Room" := by decide +kernel
  have requested : "Print\\.Room" ++ "." ++ Name.canonical "log_entry" =
      "Print\\.Room.LogEntry" := by decide +kernel
  have responded : "Print\\.Room" ++ "." ++ Name.canonical "Page" = "Print\\.Room.Page" := by
    decide +kernel
  have quotable : isQuotable "Print\\.Room".toList = true := by decide +kernel
  obtain ⟨⟨code, opened, ends⟩, assigned, entries, _⟩ :=
    texts_between_quotes guardedModule "print\\.room" rfl plain (fun _ => none)
  obtain ⟨literal, read⟩ := ends.mpr (by decide +kernel)
  obtain ⟨request, response, printed, requestRead, responseRead⟩ :=
    entries _ List.mem_cons_self _ List.mem_cons_self
  rw [topModule] at assigned printed requestRead responseRead
  rw [requested] at requestRead
  rw [responded] at responseRead
  exact ⟨rfl, plain, ⟨code, literal, opened, read⟩, assigned, request, response, printed,
    requestRead.mpr quotable, responseRead.mpr quotable⟩

/-- Triple quotes in the name of a source file close the description early, and a quote in a
namespace closes the types that the entries refer to. -/
theorem raw_quotes_close_texts :
    (¬ ∀ (module : StubModule) (code : List Char), module.render.toList = '"' :: code →
      (∀ service ∈ module.model.services, service.hasPlainNames = true) →
      ∃ literal, Literal.read? '"' code =
        some (literal, '\n' :: (ofLines module.bodyLines).toList)) ∧
    ¬ ∀ (namespaceName : String) (rpc : Rpc), rpc.hasPlainNames = true →
      readReference? (fun _ => none)
          (qualifiedType rpc.response (Name.canonical namespaceName) rpc.responseStreamed).toList =
        some (⟨(Name.canonical namespaceName ++ "." ++ Name.canonical rpc.response).toList,
          rpc.responseStreamed⟩, []) := by
  constructor
  · intro alwaysEnds
    obtain ⟨code, opened, ends⟩ := (namedModule "office" "a\"\"\".proto").read?_description_iff
    have clean := ends.mp (alwaysEnds _ code opened (by decide +kernel))
    exact clean "a\"\"\".proto" List.mem_cons_self (by decide +kernel)
  · intro alwaysRead
    have read := alwaysRead "a\"b" ⟨"print", "log_entry", "Page", true, false⟩ (by decide +kernel)
    rw [readReference?_qualifiedType_iff (by decide +kernel)] at read
    exact absurd read (by decide +kernel)

end StubModule

end ServiceStubs
