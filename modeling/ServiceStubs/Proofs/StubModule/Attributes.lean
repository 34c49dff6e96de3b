import ServiceStubs.Proofs.Name.Attribute
import ServiceStubs.Proofs.StubModule.Calls

/-!
# The attributes of a stub

A stub assigns its channel to one attribute and the call of each method to one more. The last
assignment to an attribute counts. Every attribute can be assigned: it is an identifier and no
reserved word. But a reserved word gets an underscore, and a private name the name of its class, and
so two methods can come to the same attribute; and a method can take the attribute of the channel.
Nothing is lost exactly if there are no such methods.
-/

namespace ServiceStubs

/-- The assignment of a value to an attribute of the object that is made. -/
structure Assignment where
  target : String
  value : String
  deriving DecidableEq

/-- The assignment that a line of code makes in a method. -/
def assignment? (line : String) : Option Assignment :=
  if Text.startsWith line "        self." then
    some ⟨String.ofList ((line.toList.drop 13).takeWhile (· != ' ')),
      String.ofList (((line.toList.drop 13).dropWhile (· != ' ')).drop 3)⟩
  else none

/-- The assignments that some lines of code make, in order. -/
def assignments (lines : List String) : List Assignment :=
  lines.filterMap assignment?

/-- What the attributes hold after one more assignment. -/
def assign (held : String → Option String) (made : Assignment) : String → Option String :=
  fun name => if name = made.target then some made.value else held name

/-- The assignment with the attribute that its target stands for in a class. -/
def Assignment.within (className : String) (made : Assignment) : Assignment :=
  { made with target := Name.nameWithin className made.target }

/-- What the attributes of a new object hold after some assignments. -/
def heldAfter (made : List Assignment) : String → Option String :=
  made.foldl assign fun _ => none

section Running

variable {made : List Assignment}

/-- An attribute that is not assigned keeps what it holds. -/
theorem foldl_assign_of_not_mem {name : String} (held : String → Option String)
    (absent : name ∉ made.map Assignment.target) :
    made.foldl assign held name = held name := by
  induction made generalizing held with
  | nil => rfl
  | cons first rest inductionHypothesis =>
    rw [List.map_cons, List.mem_cons, not_or] at absent
    rw [List.foldl_cons, inductionHypothesis _ absent.2, assign, if_neg absent.1]

/-- The last assignment to an attribute counts. -/
theorem heldAfter_append_cons {before after : List Assignment} {last : Assignment}
    (final : last.target ∉ after.map Assignment.target) :
    heldAfter (before ++ last :: after) last.target = some last.value := by
  rw [heldAfter, List.foldl_append, List.foldl_cons, foldl_assign_of_not_mem _ final, assign,
    if_pos rfl]

/-- Among different values, none is lost exactly if no attribute is assigned twice. -/
theorem all_held_iff (values : (made.map Assignment.value).Nodup) :
    (∀ assigned ∈ made, heldAfter made assigned.target = some assigned.value) ↔
      (made.map Assignment.target).Nodup := by
  constructor
  · intro held
    rw [List.Nodup, List.pairwise_map] at values ⊢
    refine values.imp_of_mem ?_
    intro first second member otherMember different same
    have firstHeld := held first member
    rw [same, held second otherMember, Option.some.injEq] at firstHeld
    exact different firstHeld.symm
  · intro apart assigned member
    obtain ⟨before, after, rfl⟩ := List.append_of_mem member
    rw [List.map_append, List.map_cons] at apart
    have final := (List.nodup_cons.mp (List.nodup_append.mp apart).2.1).1
    exact heldAfter_append_cons final

end Running

section Lines

/-- Assignments are made by lines that start so. -/
theorem readsOnly_assignment? : ReadsOnly "        self." assignment? := by
  intro line other
  simp [assignment?, other]

/-- These are telling lines. -/
theorem readsTelling_assignment? : ReadsTelling assignment? :=
  readsOnly_assignment?.readsTelling (by decide)

/-- An assignment is read as it is written. -/
theorem assignment?_spelled {target : String} (oneWord : ' ' ∉ target.toList) (value : String) :
    assignment? ("        self." ++ (target ++ (" = " ++ value))) = some ⟨target, value⟩ := by
  have word : ∀ character ∈ target.toList, (character != ' ') = true := by
    intro character inside
    rw [bne_iff_ne]
    rintro rfl
    exact oneWord inside
  rw [assignment?, if_pos (Text.startsWith_iff.mpr ⟨_, rfl⟩), drop_callOpening,
    String.toList_append, List.takeWhile_append_of_pos word, List.dropWhile_append_of_pos word]
  simp

/-- A call is assigned to its attribute. -/
theorem assignment?_callLine {member : String} (oneWord : ' ' ∉ member.toList)
    (kind route : String) :
    assignment? (callLine member kind route) =
      some ⟨member, "channel." ++ kind ++ "(\"" ++ route ++ "\")"⟩ := by
  have opening : " = channel." = " = " ++ "channel." := by decide
  rw [callLine_eq, opening]
  simp only [String.append_assoc, assignment?_spelled oneWord]

end Lines

namespace Service

/-- The call of a method, as the value of an attribute. -/
def callValue (service : Service) (package : Option String) (rpc : Rpc) : String :=
  "channel." ++ rpc.callKind ++ "(\"" ++ service.route package rpc ++ "\")"

/-- The assignments in the lines of a service. -/
def assigned (service : Service) (topModule : String) (package : Option String) :
    List Assignment :=
  assignments (service.lines topModule package)

/-- The same assignments, to the attributes that their targets stand for in the class of the
stub. -/
def bound (service : Service) (topModule : String) (package : Option String) : List Assignment :=
  (service.assigned topModule package).map (Assignment.within (service.className ++ "Stub"))

/-- What the attributes of a stub hold when it is made. -/
def held (service : Service) (topModule : String) (package : Option String) :
    String → Option String :=
  heldAfter (service.bound topModule package)

variable {service : Service}

/-- The lines of a service assign the channel, and then the call of each method. -/
theorem assigned_eq
    (identifiers : ∀ rpc ∈ service.rpcs, Name.isIdentifier rpc.method = true)
    (topModule : String) (package : Option String) :
    service.assigned topModule package =
      ⟨"channel", "channel"⟩ :: service.rpcs.map fun rpc =>
        ⟨Name.attributeName rpc.method, service.callValue package rpc⟩ := by
  have opens (ending : String) :
      assignment? ("class " ++ service.className ++ ending) = none :=
    readsOnly_assignment?.eq_none (startsWith_classLine _ _) (by decide) (by decide)
  have named : assignment? (nameLine (service.routeName package)) = none :=
    readsOnly_assignment?.eq_none (startsWith_nameLine _) (by decide) (by decide)
  have keeps : assignment? channelLine = some ⟨"channel", "channel"⟩ := by decide
  have entries : (service.entries topModule).filterMap assignment? = [] :=
    List.filterMap_eq_nil_iff.mpr fun _ member =>
      readsOnly_assignment?.eq_none (startsWith_of_mem_entries member) (by decide) (by decide)
  have calls : (service.calls package).filterMap assignment? = service.rpcs.map fun rpc =>
      ⟨Name.attributeName rpc.method, service.callValue package rpc⟩ := by
    rw [Service.calls, List.filterMap_map, ← List.filterMap_eq_map]
    refine List.filterMap_congr ?_
    intro rpc member
    have oneWord : ' ' ∉ (Name.attributeName rpc.method).toList := fun blank =>
      absurd (Name.isWordCharacter_of_isIdentifier
        (Name.isIdentifier_attributeName (identifiers rpc member)) blank) (by decide)
    rw [Function.comp_apply, Function.comp_apply, assignment?_callLine oneWord]
    rfl
  rw [assigned, assignments, ← readsTelling_assignment?.filterMap_filter, filter_isTelling_lines,
    tellingLines]
  simp only [List.filterMap_cons, List.filterMap_append, opens, named, keeps, entries, calls]
  rfl

/-- The attributes that are assigned: the channel, and one for each method. -/
theorem map_target_assigned
    (identifiers : ∀ rpc ∈ service.rpcs, Name.isIdentifier rpc.method = true)
    (topModule : String) (package : Option String) :
    (service.assigned topModule package).map Assignment.target =
      "channel" :: (service.rpcs.map Rpc.method).map Name.attributeName := by
  rw [assigned_eq identifiers, List.map_cons, List.map_map, List.map_map]
  rfl

/-- In a class, the attributes are those that the targets stand for. -/
theorem map_target_bound (topModule : String) (package : Option String) :
    (service.bound topModule package).map Assignment.target =
      ((service.assigned topModule package).map Assignment.target).map
        (Name.nameWithin (service.className ++ "Stub")) := by
  rw [bound, List.map_map, List.map_map]
  rfl

/-- The values that are assigned: the channel, and one call for each method. -/
theorem map_value_bound
    (identifiers : ∀ rpc ∈ service.rpcs, Name.isIdentifier rpc.method = true)
    (topModule : String) (package : Option String) :
    (service.bound topModule package).map Assignment.value =
      "channel" :: service.rpcs.map (service.callValue package) := by
  rw [bound, assigned_eq identifiers, List.map_map, List.map_cons, List.map_map]
  rfl

/-- Calls are told apart by the methods they are routed to. -/
theorem method_eq_of_callValue {package : Option String} {left right : Rpc}
    (same : service.callValue package left = service.callValue package right) :
    left.method = right.method := by
  have clean : ∀ rpc : Rpc, '(' ∉ ("channel." ++ rpc.callKind).toList := by
    intro rpc
    unfold Rpc.callKind
    split <;> split <;> decide
  have spelled : ∀ rpc : Rpc, (service.callValue package rpc).toList =
      ("channel." ++ rpc.callKind).toList ++
        '(' :: ("\"" ++ service.route package rpc ++ "\")").toList := by
    intro rpc
    simp [callValue]
  have routes := congrArg String.toList same
  rw [spelled, spelled] at routes
  have quoted := (Text.append_cons_cancel (clean left) (clean right) routes).2
  rw [String.toList_inj, String.append_left_inj, String.append_right_inj] at quoted
  exact (String.append_right_inj _).mp quoted

/-- Methods with different names are called differently, and no call is the channel itself. -/
theorem nodup_values (package : Option String)
    (distinct : (service.rpcs.map Rpc.method).Nodup) :
    ("channel" :: service.rpcs.map (service.callValue package)).Nodup := by
  rw [List.nodup_cons]
  constructor
  · intro member
    obtain ⟨rpc, _, spelled⟩ := List.mem_map.mp member
    have bracket : '(' ∈ "channel".toList := by
      rw [← spelled]
      simp [callValue]
    exact absurd bracket (by decide)
  · rw [List.Nodup, List.pairwise_map] at distinct ⊢
    exact distinct.imp fun different same => different (method_eq_of_callValue same)

/-- The attributes of a stub for methods with different identifiers as names. They are the channel
and one for each method, and all of them are identifiers and no reserved words. They are different
exactly if no method is called like the channel and none by a reserved word while another is called
by this word with an underscore. After all assignments, every attribute holds what was assigned to
it exactly if they are different and no method has a private name while another is called by this
name with the class in front. -/
theorem attributes_apart_iff (service : Service)
    (distinct : (service.rpcs.map Rpc.method).Nodup)
    (identifiers : ∀ rpc ∈ service.rpcs, Name.isIdentifier rpc.method = true)
    (topModule : String) (package : Option String) :
    (service.assigned topModule package =
      ⟨"channel", "channel"⟩ :: service.rpcs.map fun rpc =>
        ⟨Name.attributeName rpc.method, service.callValue package rpc⟩) ∧
    (∀ made ∈ service.assigned topModule package,
      Name.isIdentifier made.target = true ∧ made.target ∉ Name.reservedWords) ∧
    (((service.assigned topModule package).map Assignment.target).Nodup ↔
      "channel" ∉ service.rpcs.map Rpc.method ∧
      ∀ name ∈ service.rpcs.map Rpc.method, name ∈ Name.reservedWords →
        name ++ "_" ∉ service.rpcs.map Rpc.method) ∧
    ((∀ made ∈ service.assigned topModule package,
        service.held topModule package
          (Name.nameWithin (service.className ++ "Stub") made.target) = some made.value) ↔
      ((service.assigned topModule package).map Assignment.target).Nodup ∧
      ∀ name ∈ service.rpcs.map Rpc.method, Name.isPrivate name = true →
        Name.ownerMark (service.className ++ "Stub") ++ name ∉ service.rpcs.map Rpc.method) := by
  have made := assigned_eq identifiers topModule package
  have targets := map_target_assigned identifiers topModule package
  refine ⟨made, ?_, ?_, ?_⟩
  · have channel : Name.isIdentifier "channel" = true ∧ "channel" ∉ Name.reservedWords :=
      ⟨by decide, fun member => (Name.reservedWords_spelled _ member).2.2.2 rfl⟩
    rw [made, List.forall_mem_cons, List.forall_mem_map]
    refine ⟨channel, fun rpc member => ?_⟩
    exact ⟨Name.isIdentifier_attributeName (identifiers rpc member),
      Name.attributeName_not_mem_reservedWords rpc.method⟩
  · rw [targets, Name.nodup_attributeNames_iff distinct]
  · have lettered : (service.className ++ "Stub").toList.any (· != '_') = true := by simp
    have values : ((service.bound topModule package).map Assignment.value).Nodup := by
      rw [map_value_bound identifiers]
      exact nodup_values package distinct
    have kept := all_held_iff values
    rw [map_target_bound, targets, Name.nodup_attributesWithin_iff lettered, ← targets, bound,
      List.forall_mem_map] at kept
    exact kept

/-- A service with methods of the given names. -/
def withMethods (names : List String) : Service :=
  ⟨"Echo", "Echo", names.map fun name => ⟨name, "Q", "Q", false, false⟩⟩

/-- A service whose methods have names close to those that clash. -/
def closelyNamed : Service :=
  withMethods ["class", "None", "import_", "channel_", "__log", "_Echo__log"]

/-- None of the attributes of this service is lost. -/
theorem attributes_of_closelyNamed :
    (closelyNamed.rpcs.map Rpc.method).Nodup ∧
    (∀ rpc ∈ closelyNamed.rpcs, Name.isIdentifier rpc.method = true) ∧
    (closelyNamed.assigned "Office" (some "office")).map Assignment.target =
      ["channel", "class_", "None_", "import_", "channel_", "__log", "_Echo__log"] ∧
    ∀ made ∈ closelyNamed.assigned "Office" (some "office"),
      closelyNamed.held "Office" (some "office")
        (Name.nameWithin (closelyNamed.className ++ "Stub") made.target) = some made.value := by
  have distinct : (closelyNamed.rpcs.map Rpc.method).Nodup := by decide
  have identifiers : ∀ rpc ∈ closelyNamed.rpcs, Name.isIdentifier rpc.method = true := by decide
  obtain ⟨made, _, apart, kept⟩ :=
    attributes_apart_iff closelyNamed distinct identifiers "Office" (some "office")
  refine ⟨distinct, identifiers, ?_, kept.mpr ⟨apart.mpr ?_, ?_⟩⟩
  · rw [made]
    simp [closelyNamed, withMethods, Name.attributeName, Name.reservedWords]
  · simp [closelyNamed, withMethods, Name.reservedWords]
  · simp [closelyNamed, withMethods, className, Name.isPrivate, Name.ownerMark, Text.startsWith,
      Text.endsWith, ← String.toList_inj]

/-- A reserved word beside itself with an underscore, and a method that is called like the channel:
two methods share an attribute, and the channel is lost. -/
theorem attributes_clash :
    (¬ ∀ (service : Service) (topModule : String) (package : Option String),
      (service.rpcs.map Rpc.method).Nodup →
      (∀ rpc ∈ service.rpcs, Name.isIdentifier rpc.method = true) →
      ((service.assigned topModule package).map Assignment.target).Nodup) ∧
    ¬ ∀ (service : Service) (topModule : String) (package : Option String),
      (service.rpcs.map Rpc.method).Nodup →
      (∀ rpc ∈ service.rpcs, Name.isIdentifier rpc.method = true) →
      service.held topModule package "channel" = some "channel" := by
  constructor
  · intro alwaysApart
    have identifiers : ∀ rpc ∈ (withMethods ["class", "class_"]).rpcs,
        Name.isIdentifier rpc.method = true := by decide
    have apart := alwaysApart _ "Office" none (by decide) identifiers
    rw [map_target_assigned identifiers] at apart
    simp [withMethods, Name.attributeName, Name.reservedWords] at apart
  · intro alwaysHeld
    have identifiers : ∀ rpc ∈ (withMethods ["channel"]).rpcs,
        Name.isIdentifier rpc.method = true := by decide
    have kept := alwaysHeld _ "Office" none (by decide) identifiers
    rw [held, bound, assigned_eq identifiers] at kept
    revert kept
    decide

end Service

end ServiceStubs
