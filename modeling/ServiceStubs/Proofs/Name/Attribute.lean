import Mathlib.Data.List.Nodup
import Mathlib.Data.List.TakeWhile
import ServiceStubs.Proofs.Name.Identifier

/-!
# Names of attributes

A reserved word becomes an attribute with an underscore behind it, and a private name with its class
in front. In both cases some names are replaced and all others stay, so different names have
different attributes unless a replaced name stands beside what replaces it.
-/

namespace ServiceStubs

section Renaming

variable {α : Type} {affected : α → Bool} {replace : α → α}

/-- A name, with another one in its place if it is affected. -/
def renamed (affected : α → Bool) (replace : α → α) (name : α) : α :=
  if affected name then replace name else name

/-- Affected names are replaced. -/
theorem renamed_of_affected {name : α} (holds : affected name = true) :
    renamed affected replace name = replace name := by
  rw [renamed, if_pos holds]

/-- All other names stay. -/
theorem renamed_of_not_affected {name : α} (free : affected name = false) :
    renamed affected replace name = name := by
  rw [renamed, if_neg (by simp [free])]

/-- If what replaces an affected name tells this name and is not affected, two names become one
exactly if one of them replaces the other. -/
theorem renamed_eq_iff (injective : Function.Injective replace)
    (unaffected : ∀ name, affected (replace name) = false) {left right : α} :
    renamed affected replace left = renamed affected replace right ↔
      left = right ∨ (affected left = true ∧ right = replace left) ∨
        (affected right = true ∧ left = replace right) := by
  constructor
  · intro same
    cases leftAffected : affected left with
    | true =>
      rw [renamed_of_affected leftAffected] at same
      cases rightAffected : affected right with
      | true =>
        rw [renamed_of_affected rightAffected] at same
        exact .inl (injective same)
      | false =>
        rw [renamed_of_not_affected rightAffected] at same
        exact .inr (.inl ⟨rfl, same.symm⟩)
    | false =>
      rw [renamed_of_not_affected leftAffected] at same
      cases rightAffected : affected right with
      | true =>
        rw [renamed_of_affected rightAffected] at same
        exact .inr (.inr ⟨rfl, same⟩)
      | false =>
        rw [renamed_of_not_affected rightAffected] at same
        exact .inl same
  · rintro (rfl | ⟨replaced, rfl⟩ | ⟨replaced, rfl⟩)
    · rfl
    · rw [renamed_of_affected replaced, renamed_of_not_affected (unaffected left)]
    · rw [renamed_of_affected replaced, renamed_of_not_affected (unaffected right)]

/-- Different names stay different, unless an affected one stands beside what replaces it. -/
theorem nodup_map_renamed_iff (injective : Function.Injective replace)
    (unaffected : ∀ name, affected (replace name) = false) {names : List α} :
    (names.map (renamed affected replace)).Nodup ↔
      names.Nodup ∧ ∀ name ∈ names, affected name = true → replace name ∉ names := by
  constructor
  · intro apart
    refine ⟨apart.of_map, ?_⟩
    intro name member holds beside
    have same : name = replace name := List.inj_on_of_nodup_map apart member beside
      ((renamed_eq_iff injective unaffected).mpr (.inr (.inl ⟨holds, rfl⟩)))
    have free := unaffected name
    rw [← same, holds] at free
    cases free
  · rintro ⟨distinct, apart⟩
    refine List.Nodup.map_on ?_ distinct
    intro first member second otherMember same
    rw [renamed_eq_iff injective unaffected] at same
    rcases same with equal | ⟨replaced, rfl⟩ | ⟨replaced, rfl⟩
    · exact equal
    · exact absurd otherMember (apart first member replaced)
    · exact absurd member (apart second otherMember replaced)

end Renaming

namespace Name

section AttributeNames

variable {name : String}

/-- How reserved words are spelled: they are identifiers without an underscore at either end. None
is the name of the channel. -/
theorem reservedWords_spelled : ∀ word ∈ reservedWords, isIdentifier word = true ∧
    word.toList.head? ≠ some '_' ∧ word.toList.getLast? ≠ some '_' ∧ word ≠ "channel" := by
  decide +kernel

/-- No reserved word ends with an underscore. -/
theorem contains_append_underscore (name : String) :
    reservedWords.contains (name ++ "_") = false := by
  rw [Bool.eq_false_iff, Ne, List.contains_iff_mem]
  intro member
  exact (reservedWords_spelled _ member).2.2.1 (by simp)

/-- Attributes are names with the reserved words replaced. -/
theorem attributeName_eq_renamed :
    attributeName = renamed reservedWords.contains fun name => name ++ "_" :=
  rfl

/-- An underscore at the end does not make names equal. -/
theorem append_underscore_injective : Function.Injective fun name : String => name ++ "_" :=
  fun _ _ same => (String.append_left_inj _).mp same

/-- No attribute is a reserved word. -/
theorem attributeName_not_mem_reservedWords (name : String) :
    attributeName name ∉ reservedWords := by
  rw [← List.contains_iff_mem, Bool.not_eq_true, attributeName_eq_renamed]
  cases reserved : reservedWords.contains name with
  | true => rw [renamed_of_affected reserved, contains_append_underscore]
  | false => rw [renamed_of_not_affected reserved, reserved]

/-- An underscore may stand at the end of an identifier. -/
theorem isIdentifier_append_underscore (identifier : isIdentifier name = true) :
    isIdentifier (name ++ "_") = true := by
  obtain ⟨nonempty, words, start⟩ := isIdentifier_iff.mp identifier
  have spelled : name.toList ≠ [] := by simpa using nonempty
  obtain ⟨first, rest, opened⟩ := List.exists_cons_of_ne_nil spelled
  rw [isIdentifier_iff]
  refine ⟨by simp [nonempty], ?_, ?_⟩
  · intro character member
    rw [String.toList_append, List.mem_append] at member
    rcases member with inName | underscore
    · exact words character inName
    · obtain rfl : character = '_' := by simpa using underscore
      decide
  · rw [opened] at start
    simpa [opened] using start

/-- The attribute of an identifier is an identifier. -/
theorem isIdentifier_attributeName (identifier : isIdentifier name = true) :
    isIdentifier (attributeName name) = true := by
  rw [attributeName_eq_renamed]
  cases reserved : reservedWords.contains name with
  | true =>
    rw [renamed_of_affected reserved]
    exact isIdentifier_append_underscore identifier
  | false => rwa [renamed_of_not_affected reserved]

/-- What is no reserved word with an underscore is the attribute of itself only. -/
theorem attributeName_eq_iff {target : String}
    (apart : ∀ word ∈ reservedWords, word ≠ target ∧ word ++ "_" ≠ target) :
    attributeName name = target ↔ name = target := by
  have free : reservedWords.contains target = false := by
    rw [Bool.eq_false_iff, Ne, List.contains_iff_mem]
    exact fun member => (apart target member).1 rfl
  have kept : attributeName target = target := by
    rw [attributeName_eq_renamed, renamed_of_not_affected free]
  constructor
  · intro same
    rw [← kept, attributeName_eq_renamed,
      renamed_eq_iff append_underscore_injective contains_append_underscore] at same
    rcases same with equal | ⟨reserved, longer⟩ | ⟨reserved, _⟩
    · exact equal
    · exact absurd longer.symm (apart name (List.contains_iff_mem.mp reserved)).2
    · rw [free] at reserved
      cases reserved
  · rintro rfl
    exact kept

/-- Attributes of different names are different from each other and from the channel, unless a name
is that of the channel or a reserved word stands beside itself with an underscore. -/
theorem nodup_attributeNames_iff {names : List String} (distinct : names.Nodup) :
    ("channel" :: names.map attributeName).Nodup ↔
      "channel" ∉ names ∧ ∀ name ∈ names, name ∈ reservedWords → name ++ "_" ∉ names := by
  have channel : "channel" ∈ names.map attributeName ↔ "channel" ∈ names := by
    have apart : ∀ word ∈ reservedWords, word ≠ "channel" ∧ word ++ "_" ≠ "channel" := by
      intro word member
      refine ⟨(reservedWords_spelled word member).2.2.2, fun same => ?_⟩
      have ends := congrArg (fun text => text.toList.getLast?) same
      simp at ends
    simp only [List.mem_map, attributeName_eq_iff apart, exists_eq_right]
  rw [List.nodup_cons, channel, attributeName_eq_renamed,
    nodup_map_renamed_iff append_underscore_injective contains_append_underscore]
  simp only [distinct, true_and, List.contains_iff_mem]

/-- An attribute that starts with an underscore has the name of a method. -/
theorem mem_attributeNames_iff {names : List String} {target : String}
    (starts : target.toList.head? = some '_') :
    target ∈ "channel" :: names.map attributeName ↔ target ∈ names := by
  have apart : ∀ word ∈ reservedWords, word ≠ target ∧ word ++ "_" ≠ target := by
    intro word member
    obtain ⟨identifier, letter, _⟩ := reservedWords_spelled word member
    have nonempty : word.toList ≠ [] := by simpa using (isIdentifier_iff.mp identifier).1
    constructor
    · rintro rfl
      exact letter starts
    · rintro rfl
      rw [String.toList_append, List.head?_append_of_ne_nil _ nonempty] at starts
      exact letter starts
  have notChannel : target ≠ "channel" := by
    rintro rfl
    simp at starts
  simp only [List.mem_cons, notChannel, false_or, List.mem_map, attributeName_eq_iff apart,
    exists_eq_right]

end AttributeNames

section PrivateNames

/-- Whether a name is private to the class it is used in: it starts with two underscores and does
not end with two. -/
def isPrivate (name : String) : Bool :=
  Text.startsWith name "__" && !Text.endsWith name "__"

/-- What stands before a private name: the name of the class behind a single underscore. -/
def ownerMark (className : String) : String :=
  "_" ++ String.ofList (className.toList.dropWhile (· == '_'))

/-- The attribute that a name stands for in a class. -/
def nameWithin (className : String) : String → String :=
  renamed isPrivate (ownerMark className ++ ·)

/-- A private name with its class in front is not private any more. -/
theorem isPrivate_ownerMark_append {className : String}
    (lettered : className.toList.any (· != '_') = true) (name : String) :
    isPrivate (ownerMark className ++ name) = false := by
  have single : Text.startsWith (ownerMark className ++ name) "__" = false := by
    cases spelled : className.toList.dropWhile (· == '_') with
    | nil =>
      rw [List.dropWhile_eq_nil_iff] at spelled
      obtain ⟨letter, member, apart⟩ := List.any_eq_true.mp lettered
      simp [bne, spelled letter member] at apart
    | cons first rest =>
      have apart : first ≠ '_' := by
        have kept := List.head?_dropWhile_not (· == '_') className.toList
        rw [spelled] at kept
        simpa using kept
      simp [ownerMark, spelled, Text.startsWith, List.isPrefixOf, Ne.symm apart]
  rw [isPrivate, single, Bool.false_and]

/-- A private name starts with an underscore. -/
theorem head?_of_isPrivate {name : String} (isOwn : isPrivate name = true) :
    name.toList.head? = some '_' := by
  rw [isPrivate, Bool.and_eq_true] at isOwn
  obtain ⟨rest, rfl⟩ := Text.startsWith_iff.mp isOwn.1
  simp

/-- Attributes stay different inside a class, unless a private name stands beside itself with the
class in front. -/
theorem nodup_attributesWithin_iff {className : String}
    (lettered : className.toList.any (· != '_') = true) {names : List String} :
    (("channel" :: names.map attributeName).map (nameWithin className)).Nodup ↔
      ("channel" :: names.map attributeName).Nodup ∧
        ∀ name ∈ names, isPrivate name = true → ownerMark className ++ name ∉ names := by
  have underscored : ∀ name, (ownerMark className ++ name).toList.head? = some '_' := by
    intro name
    simp [ownerMark]
  rw [nameWithin, nodup_map_renamed_iff (fun _ _ same => (String.append_right_inj _).mp same)
    (isPrivate_ownerMark_append lettered)]
  refine and_congr_right fun _ => ?_
  simp only [mem_attributeNames_iff (underscored _)]
  constructor
  · intro apart name member isOwn
    exact apart name ((mem_attributeNames_iff (head?_of_isPrivate isOwn)).mpr member) isOwn
  · intro apart name member isOwn
    exact apart name ((mem_attributeNames_iff (head?_of_isPrivate isOwn)).mp member) isOwn

end PrivateNames

end Name

end ServiceStubs
