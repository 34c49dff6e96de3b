import ServiceStubs.Proofs.Generate.Effects
import ServiceStubs.Proofs.Schema.Order
import ServiceStubs.Proofs.Sources.Order

/-!
# Runs do not see the order of directories

Two runs from trees that differ in their order only end alike: with one result, the same notices
and the same printed text, and with trees that again differ in their order only. Each step of a run
has this property, and steps that have it have it together. Only where schema files are found does
it take a file system; whatever the tree, the rest of a run keeps to it.
-/

namespace ServiceStubs

open FileTree

/-- Sessions that differ in the order of their trees only. -/
structure Session.Alike (left right : Session) : Prop where
  tree : Reordered left.tree right.tree
  notices : left.notices = right.notices
  printed : left.printed = right.printed

namespace Action

variable {α β : Type}

/-- Ends of an action with the same result, in sessions that differ in the order of their trees
only. -/
structure EndsAlike (left right : Except Failure α × Session) : Prop where
  result : left.1 = right.1
  session : left.2.Alike right.2

/-- An action that does not see the order of the tree. -/
def IgnoresOrder (action : Action α) : Prop :=
  ∀ ⦃left right⦄, left.Alike right → EndsAlike (action.outcome left) (action.outcome right)

/-- A value does not depend on the tree. -/
theorem ignoresOrder_pure (value : α) : IgnoresOrder (pure value : Action α) :=
  fun _ _ alike => ⟨rfl, alike⟩

/-- A failure does not depend on the tree. -/
theorem ignoresOrder_throw (failure : Failure) : IgnoresOrder (throw failure : Action α) :=
  fun _ _ alike => ⟨rfl, alike⟩

/-- A notice does not depend on the tree. -/
theorem ignoresOrder_report (notice : Notice) : IgnoresOrder (report notice) :=
  fun _ _ alike => ⟨rfl, { alike with notices := congrArg (· ++ [notice]) alike.notices }⟩


/-- Whether a value can be used does not depend on the tree. -/
theorem ignoresOrder_demand (value : Except Value.Fault α) : IgnoresOrder (demand value) := by
  cases value with
  | ok value => exact ignoresOrder_pure value
  | error fault => exact ignoresOrder_throw _

/-- A step that ends alike may be followed by steps that do not see the order. -/
theorem EndsAlike.bind {action : Action α} {next : α → Action β} {left right : Session}
    (first : EndsAlike (action.outcome left) (action.outcome right))
    (rest : ∀ value, IgnoresOrder (next value)) :
    EndsAlike ((action >>= next).outcome left) ((action >>= next).outcome right) := by
  rw [outcome_bind, outcome_bind]
  generalize action.outcome left = endedLeft at first ⊢
  generalize action.outcome right = endedRight at first ⊢
  obtain ⟨result, betweenLeft⟩ := endedLeft
  obtain ⟨other, betweenRight⟩ := endedRight
  obtain rfl : result = other := first.result
  cases result with
  | error failure => exact ⟨rfl, first.session⟩
  | ok value => exact rest value first.session

/-- Whether a text can be encoded does not depend on the tree. -/
theorem ignoresOrder_encodable (encoding : Text.Encoding) (text : String) :
    IgnoresOrder (encodable encoding text) := by
  unfold encodable
  split
  · exact ignoresOrder_pure _
  · exact ignoresOrder_throw _

/-- Actions that ignore the order can be done one after another. -/
theorem IgnoresOrder.bind {action : Action α} {next : α → Action β} (first : IgnoresOrder action)
    (rest : ∀ value, IgnoresOrder (next value)) : IgnoresOrder (action >>= next) :=
  fun _ _ alike => (first alike).bind rest

/-- Printing does not depend on the tree. -/
theorem ignoresOrder_print (console : Text.Encoding) (text : String) :
    IgnoresOrder (print console text) :=
  (ignoresOrder_encodable console text).bind fun _ _ _ alike =>
    ⟨rfl, { alike with printed := congrArg (· ++ text) alike.printed }⟩

/-- Looking at the tree is seen only in what is done next. -/
theorem ignoresOrder_tree_bind {next : FileTree → Action α}
    (same : ∀ {left right}, Reordered left right → next left = next right)
    (rest : ∀ tree, IgnoresOrder (next tree)) : IgnoresOrder (tree >>= next) := by
  intro left right alike
  rw [outcome_bind, outcome_bind, outcome_tree, outcome_tree]
  dsimp only
  rw [← same alike.tree]
  exact rest left.tree alike

/-- Steps that ignore the order can be done for each of some items. -/
theorem ignoresOrder_forM {items : List β} {step : β → Action Unit}
    (each : ∀ item, IgnoresOrder (step item)) : IgnoresOrder (items.forM step) := by
  induction items with
  | nil => exact ignoresOrder_pure ()
  | cons item others inductionHypothesis => exact (each item).bind fun _ => inductionHypothesis

/-- Declarations are folded without a look at the tree. -/
theorem ignoresOrder_model (declarations : List Declaration) :
    IgnoresOrder (model declarations) := by
  refine (ignoresOrder_forM fun clash => ignoresOrder_report _).bind fun _ => ?_
  split
  · exact ignoresOrder_pure _
  · exact ignoresOrder_throw _

/-- A change that turns out alike in trees that differ in their order. -/
theorem ignoresOrder_changeTree {change : FileTree → Except Interruption FileTree}
    (changed : ∀ {left right}, Reordered left right →
      ReorderedChange (change left) (change right)) : IgnoresOrder (changeTree change) := by
  intro left right alike
  have made := changed alike.tree
  rw [outcome_changeTree, outcome_changeTree]
  generalize change left.tree = leftChange at made ⊢
  generalize change right.tree = rightChange at made ⊢
  cases made with
  | completed reordered => exact ⟨rfl, { alike with tree := reordered }⟩
  | interrupted reordered error => exact ⟨rfl, { alike with tree := reordered }⟩

end Action

/-- Tools that find schema files by name: the order of the tree does not change what they read. -/
def Tools.IgnoresOrder (tools : Tools) : Prop :=
  ∀ ⦃left right⦄, Reordered left right → tools.compile left = tools.compile right

/-- The compiler of this library ignores the order. -/
theorem Tools.ignoresOrder_of_compile {tools : Tools} (compile : tools.compile = Schema.compile) :
    tools.IgnoresOrder := by
  intro left right reordered
  rw [compile]
  funext workingDirectory paths importPaths
  exact (Schema.compile_of_reordered reordered workingDirectory paths importPaths).symm

namespace Environment

open ServiceStubs.Action

variable (environment : Environment)

/-- The declarations of some sources are the same in any order. -/
theorem ignoresOrder_declarations (tools : environment.tools.IgnoresOrder)
    (paths importPaths : List String) (keepPackage : Bool) :
    IgnoresOrder (environment.declarations paths importPaths keepPackage) := by
  refine (ignoresOrder_forM (ignoresOrder_encodable environment.encoding)).bind fun _ => ?_
  refine ignoresOrder_tree_bind (fun reordered => ?_) fun tree => ?_
  · rw [tools reordered]
  · split
    · exact ignoresOrder_throw _
    · exact (ignoresOrder_report _).bind fun _ => ignoresOrder_pure _

/-- A source is read as the same text in any order. -/
theorem ignoresOrder_sourceText (path : String) : IgnoresOrder (environment.sourceText path) := by
  refine ignoresOrder_tree_bind (fun reordered => ?_) fun tree => ?_
  · rw [reordered.read_eq]
  · split
    · exact ignoresOrder_throw _
    · split
      · exact ignoresOrder_throw _
      · exact ignoresOrder_pure _

/-- A module is rendered without a look at the tree. -/
theorem ignoresOrder_moduleText (skipFormat : Bool) (module : StubModule) :
    IgnoresOrder (environment.moduleText skipFormat module) := by
  unfold moduleText
  split
  · exact ignoresOrder_pure _
  · refine (ignoresOrder_encodable _ _).bind fun _ => ?_
    split
    · exact (ignoresOrder_report _).bind fun _ => ignoresOrder_pure _
    · split
      · exact ignoresOrder_pure _
      · exact (ignoresOrder_report _).bind fun _ => ignoresOrder_pure _

/-- The module of a model is the same in any order. -/
theorem ignoresOrder_stubModule (settings : Settings) (paths : List String)
    (root topModule : String) (model : Model) :
    IgnoresOrder (environment.stubModule settings paths root topModule model) := by
  unfold stubModule
  split
  · exact (ignoresOrder_demand _).bind fun _ => ignoresOrder_pure _
  · exact (environment.ignoresOrder_sourceText _).bind fun _ => ignoresOrder_pure _

/-- The text that is composed is the same in any order. -/
theorem ignoresOrder_compose (tools : environment.tools.IgnoresOrder) (settings : Settings)
    (paths : List String) (root : String) :
    IgnoresOrder (environment.compose settings paths root) :=
  (ignoresOrder_demand _).bind fun _ =>
    (environment.ignoresOrder_declarations tools _ _ _).bind fun _ =>
      (ignoresOrder_model _).bind fun _ =>
        (ignoresOrder_report _).bind fun _ =>
          (environment.ignoresOrder_stubModule _ _ _ _ _).bind fun module =>
            environment.ignoresOrder_moduleText _ module

/-- A text is stored at the same path in any order. -/
theorem ignoresOrder_store (settings : Settings) (root source text : String) :
    IgnoresOrder (environment.store settings root source text) := by
  refine (ignoresOrder_demand _).bind fun directory => ?_
  have making := ignoresOrder_changeTree fun {left right} (reordered : Reordered left right) =>
    reordered.makeDirectoriesUpTo environment.workingDirectory (Path.join root directory)
      ((Path.join root directory).length + 1)
  have writing (path : String) (bytes : List UInt8) : IgnoresOrder (environment.write path bytes) :=
    ignoresOrder_changeTree fun reordered => reordered.write _ _ _
  refine making.bind fun _ => ?_
  refine (writing _ []).bind fun _ => ?_
  refine (ignoresOrder_encodable _ _).bind fun _ => ?_
  refine (writing _ _).bind fun _ => ?_
  exact (ignoresOrder_report _).bind fun _ => ignoresOrder_pure _

/-- Generation from given sources ignores the order. -/
theorem ignoresOrder_generate (tools : environment.tools.IgnoresOrder) (settings : Settings)
    (paths : List String) (root : String) :
    IgnoresOrder (environment.generate settings paths root) :=
  (environment.ignoresOrder_compose tools settings paths root).bind fun text =>
    environment.ignoresOrder_store settings root (paths.headD "") text

/-- In a file system the same schema files are found, in the same order. -/
theorem endsAlike_sources {left right : Session} (wellFormed : left.tree.IsWellFormed)
    (alike : left.Alike right) (settings : Settings) (root : String) :
    EndsAlike ((environment.sources settings root).outcome left)
      ((environment.sources settings root).outcome right) := by
  rw [outcome_sources, outcome_sources]
  cases settings.selection with
  | error fault => exact ⟨rfl, alike⟩
  | ok selection =>
    dsimp only
    rw [(environment.reading selection).sources_of_reordered wellFormed alike.tree]
    exact ⟨rfl, alike⟩

/-- A run ends alike in any order. The sources are collected from a well-formed tree only. -/
theorem endsAlike_run (tools : environment.tools.IgnoresOrder) {left right : Session}
    (wellFormed : left.tree.IsWellFormed) (alike : left.Alike right) (arguments : Arguments)
    (root : String) :
    EndsAlike ((environment.run arguments root).outcome left)
      ((environment.run arguments root).outcome right) := by
  unfold run
  cases Settings.ofArguments arguments with
  | error fault => exact ⟨rfl, alike⟩
  | ok settings =>
    refine (environment.endsAlike_sources wellFormed alike settings root).bind fun paths => ?_
    split
    · exact (ignoresOrder_demand _).bind fun _ => ignoresOrder_throw _
    · refine (ignoresOrder_report _).bind fun _ => ?_
      refine (environment.ignoresOrder_generate tools settings paths root).bind fun written => ?_
      exact (ignoresOrder_print _ _).bind fun _ => ignoresOrder_pure _

/-- The order in which directories are listed does not matter. Whatever order is assigned to each
directory of a file system, which stays the same otherwise, the same schema files are collected in
the same order, and a run ends alike, so that it writes the same module. -/
theorem listing_order_is_immaterial (tree : FileTree) (wellFormed : tree.IsWellFormed)
    (first second : Location → List (String × Node)) (firstArranges : tree.IsArrangement first)
    (secondArranges : tree.IsArrangement second) :
    (∀ order ∈ [first, second],
      (∀ location, (tree.arranged order).node? location = tree.node? location) ∧
      ∀ workingDirectory path location, tree.locate workingDirectory path = .ok location →
        tree.node? location = some .directory →
        (tree.arranged order).list workingDirectory path = order location) ∧
    (∀ (selection : Selection) (workingDirectory root : String),
      selection.sources (tree.arranged first) workingDirectory root =
        selection.sources (tree.arranged second) workingDirectory root) ∧
    ∀ environment : Environment, environment.tools.IgnoresOrder →
      ∀ (arguments : Arguments) (root : String) (notices : List Notice) (printed : String),
        EndsAlike
          ((environment.run arguments root).outcome ⟨tree.arranged first, notices, printed⟩)
          ((environment.run arguments root).outcome ⟨tree.arranged second, notices, printed⟩) := by
  have firstWellFormed := wellFormed.arranged firstArranges
  have reordered := wellFormed.reordered_arranged firstArranges secondArranges
  refine ⟨fun order assigned => ?_, fun selection workingDirectory root => ?_, ?_⟩
  · have arranges : tree.IsArrangement order := by
      simp only [List.mem_cons, List.not_mem_nil, or_false] at assigned
      rcases assigned with rfl | rfl
      · exact firstArranges
      · exact secondArranges
    exact ⟨wellFormed.node?_arranged arranges, fun _ _ _ located isDirectory =>
      wellFormed.list_arranged arranges located isDirectory⟩
  · exact (selection.sources_of_reordered firstWellFormed reordered workingDirectory root).symm
  · intro environment tools arguments root notices printed
    have alike : Session.Alike ⟨tree.arranged first, notices, printed⟩
        ⟨tree.arranged second, notices, printed⟩ :=
      ⟨reordered, rfl, rfl⟩
    exact environment.endsAlike_run tools firstWellFormed alike arguments root

/-- A project whose schema files are not listed by name. -/
def unsortedProject : FileTree :=
  ⟨[(["p"], .directory), (["p", "b.proto"], .file []), (["p", "lib"], .directory),
    (["p", "a.proto"], .file []), (["p", "lib", "c.proto"], .file [])]⟩

/-- Each directory may be listed backwards. -/
theorem listing_backwards_is_immaterial :
    let backwards := fun location => (unsortedProject.entriesAt location).reverse
    let selection : Selection := { paths := ["p", "p/*.proto"], recursive := true }
    let environment : Environment := { tools := .standard, workingDirectory := "/" }
    let arguments : Arguments :=
      { paths := some (.list [.text "p"]), outputDirectory := some (.text "out") }
    unsortedProject.IsWellFormed ∧ unsortedProject.IsArrangement unsortedProject.entriesAt ∧
      unsortedProject.IsArrangement backwards ∧
      unsortedProject.entriesAt ["p"] ≠ backwards ["p"] ∧
      (unsortedProject.arranged backwards).list "/" "p" = backwards ["p"] ∧
      selection.sources (unsortedProject.arranged unsortedProject.entriesAt) "/" "" =
        selection.sources (unsortedProject.arranged backwards) "/" "" ∧
      EndsAlike
        ((environment.run arguments "").outcome
          ⟨unsortedProject.arranged unsortedProject.entriesAt, [], ""⟩)
        ((environment.run arguments "").outcome ⟨unsortedProject.arranged backwards, [], ""⟩) := by
  intro backwards selection environment arguments
  have wellFormed : unsortedProject.IsWellFormed := by decide
  have asListed : unsortedProject.IsArrangement unsortedProject.entriesAt := fun _ => .refl _
  have reversed : unsortedProject.IsArrangement backwards := fun _ => List.reverse_perm _
  obtain ⟨arrangements, sameSources, endAlike⟩ :=
    listing_order_is_immaterial unsortedProject wellFormed _ backwards asListed reversed
  have tools : environment.tools.IgnoresOrder := Tools.ignoresOrder_of_compile rfl
  refine ⟨wellFormed, asListed, reversed, by decide, ?_, sameSources selection "/" "",
    endAlike environment tools arguments "" [] ""⟩
  exact (arrangements backwards (by simp)).2 "/" "p" ["p"] (by decide) (by decide)

end Environment

end ServiceStubs
