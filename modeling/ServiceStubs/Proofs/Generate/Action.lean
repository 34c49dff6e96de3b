import ServiceStubs.Generate

/-!
# Actions and the tree

An action ends with a value or a failure, and leaves a session behind. This module says how actions
that are put together end, and which steps of a run leave the tree as it is. Only the changes near
the end of a run, by which directories are made and the file is opened and written, are not among
them.
-/

namespace ServiceStubs.Action

variable {α β : Type}

/-- How an action ends that starts in a session: with a value or a failure, and in which
session. -/
def outcome (action : Action α) (session : Session) : Except Failure α × Session :=
  action.run.run session

/-- The first failure ends an action; otherwise the next step starts where the one before
ended. -/
theorem outcome_bind (action : Action α) (next : α → Action β) (session : Session) :
    (action >>= next).outcome session =
      match action.outcome session with
      | (.ok value, between) => (next value).outcome between
      | (.error failure, between) => (.error failure, between) := by
  unfold outcome
  rw [ExceptT.run_bind, StateT.run_bind]
  rcases ended : action.run.run session with ⟨result, between⟩
  cases result <;> rfl

/-- A step that ends with a value hands over to the next one. -/
theorem outcome_bind_of_ok {action : Action α} {next : α → Action β} {session between : Session}
    {value : α} {ending : Except Failure β × Session}
    (ended : action.outcome session = (.ok value, between))
    (rest : (next value).outcome between = ending) :
    (action >>= next).outcome session = ending := by
  rw [outcome_bind, ended]
  exact rest

/-- An action that ends with a value did so step by step. -/
theorem outcome_bind_eq_ok {action : Action α} {next : α → Action β} {session final : Session}
    {result : β} (ended : (action >>= next).outcome session = (.ok result, final)) :
    ∃ value between, action.outcome session = (.ok value, between) ∧
      (next value).outcome between = (.ok result, final) := by
  rw [outcome_bind] at ended
  rcases first : action.outcome session with ⟨_ | value, between⟩
  · rw [first] at ended
    cases ended
  · rw [first] at ended
    exact ⟨value, between, rfl, ended⟩

/-- Giving a value does nothing else. -/
@[simp] theorem outcome_pure (value : α) (session : Session) :
    (pure value : Action α).outcome session = (.ok value, session) :=
  rfl

/-- The tree is looked at and not changed. -/
@[simp] theorem outcome_tree (session : Session) :
    tree.outcome session = (.ok session.tree, session) :=
  rfl

/-- A notice is added behind the others. -/
@[simp] theorem outcome_report (notice : Notice) (session : Session) :
    (report notice).outcome session =
      (.ok (), { session with notices := session.notices ++ [notice] }) :=
  rfl

/-- A text that an encoding refuses stops an action, and any other text changes nothing. -/
theorem outcome_encodable (encoding : Text.Encoding) (text : String) (session : Session) :
    (encodable encoding text).outcome session =
      match encoding.refusal? text with
      | none => (.ok (), session)
      | some refusal => (.error (.unencodable refusal), session) := by
  unfold encodable
  cases encoding.refusal? text with
  | none => rfl
  | some refusal => rfl

/-- Texts that are not refused change nothing. -/
theorem outcome_forM_encodable {encoding : Text.Encoding} {texts : List String}
    (accepted : ∀ text ∈ texts, encoding.refusal? text = none) (session : Session) :
    (texts.forM (encodable encoding)).outcome session = (.ok (), session) := by
  induction texts with
  | nil => rfl
  | cons text others inductionHypothesis =>
    rw [List.forall_mem_cons] at accepted
    have first : (encodable encoding text).outcome session = (.ok (), session) := by
      rw [outcome_encodable, accepted.1]
    exact outcome_bind_of_ok first (inductionHypothesis accepted.2)

/-- A step that leaves the tree as it is, however it ends. -/
def KeepsTree (action : Action α) : Prop :=
  ∀ session, (action.outcome session).2.tree = session.tree

/-- Where a step that keeps the tree ends, the tree is the one it started with. -/
theorem KeepsTree.tree_eq {action : Action α} (keeps : KeepsTree action)
    {session final : Session} {result : Except Failure α}
    (ended : action.outcome session = (result, final)) : final.tree = session.tree := by
  have kept := keeps session
  rwa [ended] at kept

/-- Giving a value keeps the tree. -/
theorem keepsTree_pure (value : α) : KeepsTree (pure value) :=
  fun _ => rfl

/-- Failing keeps the tree. -/
theorem keepsTree_throw (failure : Failure) : KeepsTree (throw failure : Action α) :=
  fun _ => rfl

/-- Looking at the tree keeps it. -/
theorem keepsTree_tree : KeepsTree tree :=
  fun _ => rfl

/-- Reporting keeps the tree. -/
theorem keepsTree_report (notice : Notice) : KeepsTree (report notice) :=
  fun _ => rfl

/-- A loose value gives a value or a failure, and keeps the tree. -/
theorem keepsTree_demand (value : Except Value.Fault α) : KeepsTree (demand value) := by
  cases value with
  | ok value => exact keepsTree_pure value
  | error fault => exact keepsTree_throw _

/-- Whether a text has bytes is seen without a look at the tree. -/
theorem keepsTree_encodable (encoding : Text.Encoding) (text : String) :
    KeepsTree (encodable encoding text) := by
  unfold encodable
  split
  · exact keepsTree_pure _
  · exact keepsTree_throw _

/-- Steps that keep the tree keep it together. -/
theorem KeepsTree.bind {action : Action α} {next : α → Action β} (first : KeepsTree action)
    (rest : ∀ value, KeepsTree (next value)) : KeepsTree (action >>= next) := by
  intro session
  have firstTree := first session
  rw [outcome_bind]
  rcases ended : action.outcome session with ⟨result, between⟩
  rw [ended] at firstTree
  cases result with
  | error failure => exact firstTree
  | ok value => exact (rest value between).trans firstTree

/-- Printing keeps the tree. -/
theorem keepsTree_print (console : Text.Encoding) (text : String) :
    KeepsTree (print console text) :=
  (keepsTree_encodable console text).bind fun _ _ => rfl

/-- A step that keeps the tree for each item keeps it for all items. -/
theorem keepsTree_forM {items : List β} {step : β → Action Unit}
    (each : ∀ item, KeepsTree (step item)) : KeepsTree (items.forM step) := by
  induction items with
  | nil => exact keepsTree_pure ()
  | cons item others inductionHypothesis => exact (each item).bind fun _ => inductionHypothesis

/-- Folding declarations keeps the tree. -/
theorem keepsTree_model (declarations : List Declaration) : KeepsTree (model declarations) := by
  refine (keepsTree_forM fun clash => keepsTree_report _).bind fun _ => ?_
  split
  · exact keepsTree_pure _
  · exact keepsTree_throw _

/-- A change leaves the tree that it completed, or the one it left half-way. -/
theorem outcome_changeTree (change : FileTree → Except Interruption FileTree)
    (session : Session) :
    (changeTree change).outcome session =
      match change session.tree with
      | .ok changed => (.ok (), { session with tree := changed })
      | .error interruption =>
        (.error (.path interruption.error), { session with tree := interruption.tree }) := by
  rw [changeTree, outcome_bind, outcome_tree]
  dsimp only
  cases change session.tree with
  | ok changed => rfl
  | error interruption => rfl

end ServiceStubs.Action

namespace ServiceStubs.Environment

open ServiceStubs.Action

variable (environment : Environment)

/-- Descriptors that the compiler gives are declared and reported, if its arguments have bytes. -/
theorem outcome_declarations {paths importPaths : List String} {files : List Descriptor.File}
    {session : Session}
    (accepted : ∀ argument ∈ environment.compilerArguments paths importPaths,
      environment.encoding.refusal? argument = none)
    (compiled : environment.tools.compile session.tree environment.workingDirectory paths
      importPaths = some files) (keepPackage : Bool) :
    (environment.declarations paths importPaths keepPackage).outcome session =
      let declarations := files.flatMap fun file => file.declarations keepPackage
      (.ok declarations, { session with
        notices := session.notices ++ [.schemasRead files.length declarations.length] }) := by
  rw [declarations, outcome_bind, outcome_forM_encodable accepted]
  dsimp only
  rw [outcome_bind, outcome_tree]
  dsimp only
  rw [compiled]
  rfl

/-- Compiling schemas keeps the tree. -/
theorem keepsTree_declarations (paths importPaths : List String) (keepPackage : Bool) :
    KeepsTree (environment.declarations paths importPaths keepPackage) := by
  refine (keepsTree_forM (keepsTree_encodable environment.encoding)).bind fun _ => ?_
  refine keepsTree_tree.bind fun tree => ?_
  split
  · exact keepsTree_throw _
  · exact (keepsTree_report _).bind fun _ => keepsTree_pure _

/-- Reading a source keeps the tree. -/
theorem keepsTree_sourceText (path : String) : KeepsTree (environment.sourceText path) := by
  refine keepsTree_tree.bind fun tree => ?_
  split
  · exact keepsTree_throw _
  · split
    · exact keepsTree_throw _
    · exact keepsTree_pure _

/-- Tidying a module keeps the tree. -/
theorem keepsTree_moduleText (skipFormat : Bool) (module : StubModule) :
    KeepsTree (environment.moduleText skipFormat module) := by
  unfold moduleText
  split
  · exact keepsTree_pure _
  · refine (keepsTree_encodable _ _).bind fun _ => ?_
    split
    · exact (keepsTree_report _).bind fun _ => keepsTree_pure _
    · split
      · exact keepsTree_pure _
      · exact (keepsTree_report _).bind fun _ => keepsTree_pure _

/-- Looking for schema files keeps the tree. -/
theorem keepsTree_sources (settings : Settings) (root : String) :
    KeepsTree (environment.sources settings root) :=
  (keepsTree_demand _).bind fun _ => keepsTree_tree.bind fun _ => keepsTree_pure _

/-- Making a module keeps the tree. -/
theorem keepsTree_stubModule (settings : Settings) (paths : List String)
    (root topModule : String) (model : Model) :
    KeepsTree (environment.stubModule settings paths root topModule model) := by
  unfold stubModule
  split
  · exact (keepsTree_demand _).bind fun _ => keepsTree_pure _
  · exact (environment.keepsTree_sourceText _).bind fun _ => keepsTree_pure _

/-- Nothing is written before the text of the module is complete. -/
theorem keepsTree_compose (settings : Settings) (paths : List String) (root : String) :
    KeepsTree (environment.compose settings paths root) :=
  (keepsTree_demand _).bind fun _ =>
    (environment.keepsTree_declarations _ _ _).bind fun _ =>
      (keepsTree_model _).bind fun _ =>
        (keepsTree_report _).bind fun _ =>
          (environment.keepsTree_stubModule _ _ _ _ _).bind fun module =>
            environment.keepsTree_moduleText _ module

end ServiceStubs.Environment
