import ServiceStubs.Descriptor
import ServiceStubs.Proofs.Text.Split

/-!
# Flattened messages

A message in a forest is known by its address: the places among siblings that lead to it from the
outermost level inwards. In the order of a dictionary, addresses go through the forest with a
parent before its children and a sibling, with all below it, before the next one. The messages that
a file declares are those that are reached without passing a map entry, in this order and under
their dotted names. If siblings have different names without dots, all these names differ.
-/

namespace ServiceStubs

/-- The name of a declared message. -/
def Declaration.message? : Declaration → Option Value
  | .message name => some name
  | _ => none

/-- The name of a declared enumeration. -/
def Declaration.enumeration? : Declaration → Option Value
  | .enumeration name => some name
  | _ => none

namespace Descriptor

namespace Message

/-- The name of a message, without those of the messages around it. -/
def name : Message → String
  | .mk name _ _ _ => name

/-- Whether a message stands for a pair of a map field. -/
def isMapEntry : Message → Bool
  | .mk _ isMapEntry _ _ => isMapEntry

/-- The messages right below a message. -/
def nested : Message → List Message
  | .mk _ _ nested _ => nested

end Message

/-- The messages on the way to an address, from the outermost to the one at the address. -/
def branchAt? : List Message → List Nat → Option (List Message)
  | _, [] => some []
  | forest, place :: places =>
    forest[place]?.bind fun message => (branchAt? message.nested places).map (message :: ·)

/-- An address with the messages on the way to it, none of which is a map entry. -/
structure IsWay (forest : List Message) (address : List Nat) (branch : List Message) : Prop where
  reached : branchAt? forest address = some branch
  written : ∀ message ∈ branch, message.isMapEntry = false

/-- The names on the way to a message, with dots between them. -/
def branchName (branch : List Message) : String :=
  Text.joinStrings "." (branch.map Message.name)

/-- The lists of siblings in a forest that are reached without passing a map entry. -/
inductive IsLevel (forest : List Message) : List Message → Prop where
  | outermost : IsLevel forest forest
  | inside {level : List Message} {message : Message} (above : IsLevel forest level)
      (member : message ∈ level) (written : message.isMapEntry = false) :
      IsLevel forest message.nested

/-- Siblings with different names without dots, map entries aside. -/
structure HasDistinctNames (level : List Message) : Prop where
  distinct : ((level.filter fun message => !message.isMapEntry).map Message.name).Nodup
  dotless : ∀ message ∈ level, message.isMapEntry = false → '.' ∉ message.name.toList

/-- A forest is its first message with the forest nested in it, and the rest. -/
theorem forest_induction {motive : List Message → Prop} (nil : motive [])
    (cons : ∀ message rest, motive message.nested → motive rest → motive (message :: rest)) :
    ∀ forest, motive forest
  | [] => nil
  | .mk name isMapEntry nested enumerations :: rest =>
    cons (.mk name isMapEntry nested enumerations) rest (forest_induction nil cons nested)
      (forest_induction nil cons rest)

mutual

/-- The messages of a tree that are reached without passing a map entry, each with its address and
the way to it. The place of the tree among its siblings is given. -/
def Message.reported (place : Nat) : Message → List (List Nat × List Message)
  | .mk name isMapEntry nested enumerations =>
    if isMapEntry then []
    else
      (([], []) :: reportedFrom 0 nested).map fun inner =>
        (place :: inner.1, .mk name isMapEntry nested enumerations :: inner.2)

/-- `reported` for messages side by side, from a place on. -/
def reportedFrom (place : Nat) : List Message → List (List Nat × List Message)
  | [] => []
  | message :: messages => message.reported place ++ reportedFrom (place + 1) messages

end

section Ways

variable {forest rest branch : List Message} {message : Message} {place : Nat}
  {places address : List Nat}

/-- A way without steps passes no message. -/
theorem isWay_nil_iff : IsWay forest [] branch ↔ branch = [] := by
  constructor
  · intro way
    exact (Option.some.inj way.reached).symm
  · rintro rfl
    exact ⟨rfl, List.forall_mem_nil _⟩

/-- A way is a message of the forest and a way on in what is nested in it. -/
theorem isWay_cons_iff :
    IsWay forest (place :: places) branch ↔
      ∃ message inner, forest[place]? = some message ∧ message.isMapEntry = false ∧
        IsWay message.nested places inner ∧ branch = message :: inner := by
  constructor
  · rintro ⟨reached, written⟩
    rw [branchAt?, Option.bind_eq_some_iff] at reached
    obtain ⟨message, found, below⟩ := reached
    obtain ⟨inner, reachedInner, rfl⟩ := Option.map_eq_some_iff.mp below
    rw [List.forall_mem_cons] at written
    exact ⟨message, inner, found, written.1, ⟨reachedInner, written.2⟩, rfl⟩
  · rintro ⟨message, inner, found, written, way, rfl⟩
    refine ⟨?_, List.forall_mem_cons.mpr ⟨written, way.written⟩⟩
    rw [branchAt?, found, Option.bind_some, way.reached, Option.map_some]

/-- Later places are counted among the messages behind the first. -/
theorem isWay_succ_iff :
    IsWay (message :: rest) ((place + 1) :: places) branch ↔
      IsWay rest (place :: places) branch := by
  rw [isWay_cons_iff, isWay_cons_iff, List.getElem?_cons_succ]

/-- A way has as many messages as its address has places. -/
theorem IsWay.length_eq (way : IsWay forest address branch) : branch.length = address.length := by
  induction address generalizing forest branch with
  | nil => simp [isWay_nil_iff.mp way]
  | cons place places inductionHypothesis =>
    obtain ⟨message, inner, _, _, wayOn, rfl⟩ := isWay_cons_iff.mp way
    rw [List.length_cons, List.length_cons, inductionHypothesis wayOn]

end Ways

section Reported

variable {forest branch : List Message} {address : List Nat}

/-- What is reported for a message: itself and what is nested in it, and nothing for the
entry of a map. -/
theorem Message.reported_eq (place : Nat) (message : Message) :
    message.reported place =
      if message.isMapEntry then []
      else (([], []) :: reportedFrom 0 message.nested).map fun inner =>
        (place :: inner.1, message :: inner.2) := by
  cases message
  rw [Message.reported]
  rfl

/-- What is reported of a message lies on the ways that start with it. -/
theorem Message.mem_reported_iff {message : Message} {rest : List Message} {place : Nat}
    (inside : ∀ places inner, (places, inner) ∈ ([], []) :: reportedFrom 0 message.nested ↔
      IsWay message.nested places inner) :
    (address, branch) ∈ message.reported place ↔
      ∃ places, address = place :: places ∧ IsWay (message :: rest) (0 :: places) branch := by
  rw [Message.reported_eq]
  simp only [isWay_cons_iff, List.getElem?_cons_zero, Option.some.injEq]
  split
  · rename_i entry
    simp [entry]
  · rename_i written
    rw [Bool.not_eq_true] at written
    simp only [List.mem_map, Prod.exists, inside, Prod.mk.injEq]
    constructor
    · rintro ⟨places, inner, way, rfl, rfl⟩
      exact ⟨places, rfl, message, inner, rfl, written, way, rfl⟩
    · rintro ⟨places, rfl, _, inner, rfl, _, way, rfl⟩
      exact ⟨places, inner, way, rfl, rfl⟩

/-- The reported messages are those at the end of a way. Addresses count from the place that the
first message has. -/
theorem mem_reportedFrom_iff {start : Nat} :
    (address, branch) ∈ reportedFrom start forest ↔
      ∃ place places, address = (start + place) :: places ∧
        IsWay forest (place :: places) branch := by
  induction forest using forest_induction generalizing start address branch with
  | nil => simp [reportedFrom, isWay_cons_iff]
  | cons message rest nestedHypothesis restHypothesis =>
    have inside : ∀ places inner, (places, inner) ∈ ([], []) :: reportedFrom 0 message.nested ↔
        IsWay message.nested places inner := by
      intro places inner
      rw [List.mem_cons, nestedHypothesis]
      cases places with
      | nil => simp [isWay_nil_iff]
      | cons place places => simp [and_assoc]
    rw [reportedFrom, List.mem_append, Message.mem_reported_iff inside, restHypothesis]
    constructor
    · rintro (⟨places, rfl, way⟩ | ⟨place, places, rfl, way⟩)
      · exact ⟨0, places, rfl, way⟩
      · exact ⟨place + 1, places, by rw [Nat.add_assoc, Nat.add_comm 1], isWay_succ_iff.mpr way⟩
    · rintro ⟨place, places, rfl, way⟩
      cases place with
      | zero => exact .inl ⟨places, rfl, way⟩
      | succ place =>
        exact .inr ⟨place, places, by rw [Nat.add_assoc, Nat.add_comm 1], isWay_succ_iff.mp way⟩

/-- In a whole forest, the reported messages are those at the end of any way that is not empty. -/
theorem mem_reportedFrom_zero_iff :
    (address, branch) ∈ reportedFrom 0 forest ↔ IsWay forest address branch ∧ branch ≠ [] := by
  rw [mem_reportedFrom_iff]
  simp only [Nat.zero_add]
  constructor
  · rintro ⟨place, places, rfl, way⟩
    have length := way.length_eq
    rw [List.length_cons] at length
    exact ⟨way, List.ne_nil_of_length_eq_add_one length⟩
  · rintro ⟨way, nonempty⟩
    cases address with
    | nil => exact absurd (isWay_nil_iff.mp way) nonempty
    | cons place places => exact ⟨place, places, rfl, way⟩

/-- Reported messages come in the order of their addresses. -/
theorem pairwise_reportedFrom (start : Nat) (forest : List Message) :
    (reportedFrom start forest).Pairwise fun first second =>
      List.Lex (· < ·) first.1 second.1 := by
  induction forest using forest_induction generalizing start with
  | nil => simp [reportedFrom]
  | cons message rest nestedHypothesis restHypothesis =>
    rw [reportedFrom, List.pairwise_append, Message.reported_eq]
    refine ⟨?_, restHypothesis (start + 1), ?_⟩
    · split
      · exact .nil
      · rw [List.pairwise_map, List.pairwise_cons]
        constructor
        -- The message itself stands before all that is nested in it.
        · rintro ⟨address, branch⟩ member
          obtain ⟨place, places, rfl, _⟩ := mem_reportedFrom_iff.mp member
          exact .cons .nil
        · exact (nestedHypothesis 0).imp .cons
    -- Later siblings have later places.
    · rintro ⟨first, firstBranch⟩ inFirst ⟨second, secondBranch⟩ inRest
      obtain ⟨place, places, rfl, _⟩ := mem_reportedFrom_iff.mp inRest
      split at inFirst
      · cases inFirst
      · obtain ⟨inner, _, paired⟩ := List.mem_map.mp inFirst
        cases paired
        exact .rel (by omega)

/-- The names that are declared for a message: its own, and those below it. -/
theorem Message.dottedNames_eq (scope : String) (message : Message) :
    message.dottedNames scope =
      if message.isMapEntry then []
      else (scope ++ message.name) ::
        Message.dottedNamesOf (scope ++ message.name ++ ".") message.nested := by
  cases message
  rw [Message.dottedNames]
  rfl

/-- A message at the top is known by its own name. -/
theorem branchName_singleton (message : Message) : branchName [message] = message.name := by
  rw [← String.toList_inj]
  simp [branchName, Text.joinStrings, Text.joinWith]

/-- A nested message is known by the names around it and its own. -/
theorem branchName_cons (message : Message) {branch : List Message} (nonempty : branch ≠ []) :
    branchName (message :: branch) = message.name ++ "." ++ branchName branch := by
  obtain ⟨next, branch, rfl⟩ := List.exists_cons_of_ne_nil nonempty
  rw [← String.toList_inj]
  simp [branchName, Text.joinStrings, Text.joinWith]

/-- The dotted names are those of the ways to the reported messages. -/
theorem dottedNamesOf_eq (scope : String) (start : Nat) (forest : List Message) :
    Message.dottedNamesOf scope forest =
      (reportedFrom start forest).map fun reported => scope ++ branchName reported.2 := by
  induction forest using forest_induction generalizing scope start with
  | nil => simp [Message.dottedNamesOf, reportedFrom]
  | cons message rest nestedHypothesis restHypothesis =>
    rw [Message.dottedNamesOf, reportedFrom, List.map_append, ← restHypothesis,
      Message.dottedNames_eq, Message.reported_eq]
    congr 1
    split
    · rfl
    · rw [List.map_map, List.map_cons, Function.comp_apply, branchName_singleton,
        nestedHypothesis _ 0]
      congr 1
      refine List.map_congr_left ?_
      rintro ⟨address, branch⟩ member
      have nonempty := (mem_reportedFrom_zero_iff.mp member).2
      simp only [Function.comp_apply, branchName_cons message nonempty, String.append_assoc]

end Reported

section Distinct

variable {forest level branch otherBranch : List Message} {message other : Message}
  {address otherAddress : List Nat}

/-- The levels of a nested message are levels of the messages around it. -/
theorem IsLevel.of_nested (member : message ∈ forest) (written : message.isMapEntry = false)
    (below : IsLevel message.nested level) : IsLevel forest level := by
  induction below with
  | outermost => exact .inside .outermost member written
  | inside _ memberBelow writtenBelow above => exact .inside above memberBelow writtenBelow

/-- Every message on a way is a sibling on a level. -/
theorem IsWay.exists_level (way : IsWay forest address branch) :
    ∀ message ∈ branch, ∃ level, IsLevel forest level ∧ message ∈ level := by
  induction address generalizing forest branch with
  | nil => simp [isWay_nil_iff.mp way]
  | cons place places inductionHypothesis =>
    obtain ⟨first, inner, found, written, wayOn, rfl⟩ := isWay_cons_iff.mp way
    have member := List.mem_of_getElem? found
    rintro message (_ | ⟨_, inInner⟩)
    · exact ⟨forest, .outermost, member⟩
    · obtain ⟨level, below, inLevel⟩ := inductionHypothesis wayOn message inInner
      exact ⟨level, below.of_nested member written, inLevel⟩

/-- Siblings of one name stand at one place. -/
theorem HasDistinctNames.place_eq (names : HasDistinctNames level) {first second : Nat}
    (found : level[first]? = some message) (otherFound : level[second]? = some other)
    (written : message.isMapEntry = false) (otherWritten : other.isMapEntry = false)
    (same : message.name = other.name) : first = second := by
  have distinct := names.distinct
  rw [List.Nodup, List.pairwise_map, List.pairwise_filter, List.pairwise_iff_getElem] at distinct
  obtain ⟨within, rfl⟩ := List.getElem?_eq_some_iff.mp found
  obtain ⟨otherWithin, rfl⟩ := List.getElem?_eq_some_iff.mp otherFound
  rcases Nat.lt_trichotomy first second with before | equal | behind
  · exact absurd same (distinct _ _ within otherWithin before (by simp [written])
      (by simp [otherWritten]))
  · exact equal
  · exact absurd same.symm (distinct _ _ otherWithin within behind (by simp [otherWritten])
      (by simp [written]))

/-- Where siblings differ in name, the names on a way say its address. -/
theorem address_eq_of_names_eq (names : ∀ level, IsLevel forest level → HasDistinctNames level)
    (way : IsWay forest address branch) (otherWay : IsWay forest otherAddress otherBranch)
    (same : branch.map Message.name = otherBranch.map Message.name) : address = otherAddress := by
  induction address generalizing forest branch otherAddress otherBranch with
  | nil =>
    have length := otherWay.length_eq
    rw [isWay_nil_iff.mp way, List.map_nil, eq_comm, List.map_eq_nil_iff] at same
    rw [same, List.length_nil, eq_comm, List.length_eq_zero_iff] at length
    exact length.symm
  | cons place places inductionHypothesis =>
    obtain ⟨message, inner, found, written, wayOn, rfl⟩ := isWay_cons_iff.mp way
    cases otherAddress with
    | nil => simp [isWay_nil_iff.mp otherWay] at same
    | cons otherPlace otherPlaces =>
      obtain ⟨other, otherInner, otherFound, otherWritten, otherWayOn, rfl⟩ :=
        isWay_cons_iff.mp otherWay
      rw [List.map_cons, List.map_cons, List.cons.injEq] at same
      obtain rfl : place = otherPlace :=
        (names forest .outermost).place_eq found otherFound written otherWritten same.1
      obtain rfl : message = other := Option.some.inj (found.symm.trans otherFound)
      have namesBelow : ∀ level, IsLevel message.nested level → HasDistinctNames level :=
        fun level below => names level (below.of_nested (List.mem_of_getElem? found) written)
      rw [inductionHypothesis namesBelow wayOn otherWayOn same.2]

/-- Names without dots can be read off the dotted name. -/
theorem IsWay.splitString_branchName
    (names : ∀ level, IsLevel forest level → HasDistinctNames level)
    (way : IsWay forest address branch) (nonempty : branch ≠ []) :
    Text.splitString '.' (branchName branch) = branch.map Message.name := by
  refine Text.splitString_joinStrings (by simpa using nonempty) ?_
  rw [List.forall_mem_map]
  intro message member
  obtain ⟨level, isLevel, inLevel⟩ := way.exists_level message member
  exact (names level isLevel).dotless message inLevel (way.written message member)

/-- Names that are distinct on every level are distinct as dotted names. -/
theorem nodup_branchNames (names : ∀ level, IsLevel forest level → HasDistinctNames level) :
    ((reportedFrom 0 forest).map fun reported => branchName reported.2).Nodup := by
  rw [List.Nodup, List.pairwise_map]
  refine (pairwise_reportedFrom 0 forest).imp_of_mem ?_
  rintro ⟨address, branch⟩ ⟨otherAddress, otherBranch⟩ member otherMember before same
  obtain ⟨way, nonempty⟩ := mem_reportedFrom_zero_iff.mp member
  obtain ⟨otherWay, otherNonempty⟩ := mem_reportedFrom_zero_iff.mp otherMember
  have sameNames : branch.map Message.name = otherBranch.map Message.name := by
    rw [← way.splitString_branchName names nonempty, same,
      otherWay.splitString_branchName names otherNonempty]
  rw [address_eq_of_names_eq names way otherWay sameNames] at before
  exact List.lex_irrefl Nat.lt_irrefl _ before

end Distinct

section Declarations

variable {α : Type} (file : File) (keepPackage : Bool)

/-- A reader of declarations that passes over packages and services sees the messages and the
enumerations. -/
theorem filterMap_declarations (read : Declaration → Option α)
    (noPackage : ∀ name, read (.package name) = none)
    (noService : ∀ name rows, read (.service name rows) = none) :
    (file.declarations keepPackage).filterMap read =
      (Message.dottedNamesOf "" file.messages).filterMap (fun name => read (.message (.text name)))
        ++ file.enumerations.filterMap fun name => read (.enumeration (.text name)) := by
  have packages : (if file.package = "" then []
      else [Declaration.package (.text file.package)]).filterMap read = [] := by
    split
    · rfl
    · exact List.filterMap_cons_none (noPackage _)
  have services : (file.services.map fun service =>
      service.declaration file.package keepPackage).filterMap read = [] := by
    simp [Service.declaration, noService]
  rw [File.declarations, List.filterMap_append, List.filterMap_append, List.filterMap_append,
    packages, services, List.nil_append, List.append_nil, List.filterMap_map, List.filterMap_map]
  rfl

/-- The messages among the declarations of a file are its dotted names. -/
theorem filterMap_message?_declarations :
    (file.declarations keepPackage).filterMap Declaration.message? =
      (Message.dottedNamesOf "" file.messages).map Value.text := by
  rw [filterMap_declarations file keepPackage _ (fun _ => rfl) fun _ _ => rfl,
    ← List.filterMap_eq_map]
  exact List.append_right_eq_self.mpr (by simp [Declaration.message?])

/-- The enumerations among the declarations of a file are those at its top. -/
theorem filterMap_enumeration?_declarations :
    (file.declarations keepPackage).filterMap Declaration.enumeration? =
      file.enumerations.map Value.text := by
  rw [filterMap_declarations file keepPackage _ (fun _ => rfl) fun _ _ => rfl,
    ← List.filterMap_eq_map]
  exact List.append_left_eq_self.mpr (by simp [Declaration.enumeration?])

end Declarations

/-- Which messages a file declares: those at the end of a way that passes no map entry, each once,
in the order of their addresses and under the dotted name of the way. No enumeration is declared
but those of the file itself. The names differ if siblings have different names without dots. -/
theorem declared_messages (file : File) (keepPackage : Bool) :
    (∃ reported : List (List Nat × List Message),
      (reported.Pairwise fun first second => List.Lex (· < ·) first.1 second.1) ∧
      (∀ address branch, (address, branch) ∈ reported ↔
        IsWay file.messages address branch ∧ branch ≠ []) ∧
      (file.declarations keepPackage).filterMap Declaration.message? =
        reported.map fun entry => .text (branchName entry.2)) ∧
    (file.declarations keepPackage).filterMap Declaration.enumeration? =
      file.enumerations.map Value.text ∧
    ((∀ level, IsLevel file.messages level → HasDistinctNames level) →
      ((file.declarations keepPackage).filterMap Declaration.message?).Nodup) := by
  have declared : (file.declarations keepPackage).filterMap Declaration.message? =
      ((reportedFrom 0 file.messages).map fun entry => branchName entry.2).map Value.text := by
    rw [filterMap_message?_declarations, dottedNamesOf_eq "" 0]
    simp only [String.empty_append]
  refine ⟨⟨reportedFrom 0 file.messages, pairwise_reportedFrom 0 file.messages,
    fun address branch => mem_reportedFrom_zero_iff, ?_⟩,
    filterMap_enumeration?_declarations file keepPackage, ?_⟩
  · rw [declared, List.map_map]
    rfl
  · intro names
    rw [declared]
    refine List.Pairwise.map Value.text ?_ (nodup_branchNames names)
    intro _ _ different same
    exact different (Value.text.inj same)

/-- A file that uses its names again on other levels, with a map entry and a message below it. -/
def orders : File where
  messages :=
    [.mk "Order" false
      [.mk "Item" false [] ["Kind"], .mk "LinesEntry" true [.mk "Hidden" false []]] ["State"],
      .mk "Item" false [.mk "Order" false []]]
  enumerations := ["State"]

/-- Equal names on different levels, an entry of a map and an enumeration. -/
theorem declared_messages_orders :
    (orders.declarations.filterMap Declaration.message? =
      ["Order", "Order.Item", "Item", "Item.Order"].map Value.text) ∧
    orders.declarations.filterMap Declaration.enumeration? = [.text "State"] ∧
    (∀ level, IsLevel orders.messages level → HasDistinctNames level) ∧
    (orders.declarations.filterMap Declaration.message?).Nodup := by
  have levels : ∀ level, IsLevel orders.messages level → level ∈ orders.messages ::
      orders.messages.map Message.nested ++ [[]] := by
    intro level isLevel
    induction isLevel with
    | outermost => exact List.mem_cons_self
    | inside _ member written known =>
      simp only [orders, List.map_cons, List.map_nil, List.cons_append, List.nil_append,
        List.mem_cons, List.not_mem_nil, or_false, Message.nested] at known ⊢
      rcases known with rfl | rfl | rfl | rfl <;> simp at member <;>
        rcases member with rfl | rfl <;> simp [Message.isMapEntry] at written ⊢
  have names : ∀ level, IsLevel orders.messages level → HasDistinctNames level := by
    intro level isLevel
    have known := levels level isLevel
    simp only [orders, List.map_cons, List.map_nil, List.cons_append, List.nil_append,
        List.mem_cons, List.not_mem_nil, or_false, Message.nested] at known
    rcases known with rfl | rfl | rfl | rfl <;> exact ⟨by decide, by decide⟩
  exact ⟨rfl, rfl, names, (declared_messages orders false).2.2 names⟩

end Descriptor

end ServiceStubs
