import ServiceStubs.Pattern

/-!
# Matching one name

The atoms of a segment match a name if the name can be cut into pieces that they accept one after
another. Matching is computed by rows of accepted suffixes; this module ties the rows to the
relation. A segment without brackets matches itself; one with brackets may or may not.
-/

namespace ServiceStubs.Pattern

/-- Atoms match a name: a run stands for any piece of it, any other atom for one character that it
accepts. -/
inductive Matches : List Atom → List Char → Prop where
  | nil : Matches [] []
  | run {atoms : List Atom} {rest : List Char} (skipped : List Char) (later : Matches atoms rest) :
      Matches (.anyRun :: atoms) (skipped ++ rest)
  | one {atom : Atom} {atoms : List Atom} {character : Char} {rest : List Char}
      (accepted : atom.accepts character = true) (later : Matches atoms rest) :
      Matches (atom :: atoms) (character :: rest)

section Rows

variable {atom : Atom} {atoms : List Atom}

/-- An atom for one character looks at the character and at the suffix behind it. -/
theorem extend_of_ne_anyRun (single : atom ≠ .anyRun) (name : List Char) (later : List Bool) :
    atom.extend name later =
      name.zipWith (fun character hit => atom.accepts character && hit) (later.drop 1) ++
        [false] := by
  cases atom with
  | anyRun => exact absurd rfl single
  | literal | anyCharacter | oneOf | noneOf => rfl

/-- A row starts with the whole name, and goes on with the row of the name without its first
character. -/
theorem acceptedSuffixes_eq (atoms : List Atom) :
    (∃ hit, acceptedSuffixes [] atoms = [hit]) ∧
      ∀ character rest, ∃ hit,
        acceptedSuffixes (character :: rest) atoms = hit :: acceptedSuffixes rest atoms := by
  induction atoms with
  | nil => exact ⟨⟨true, rfl⟩, fun _ _ => ⟨false, rfl⟩⟩
  | cons atom atoms inductionHypothesis =>
    obtain ⟨⟨lastHit, lastRow⟩, rows⟩ := inductionHypothesis
    by_cases run : atom = .anyRun
    · subst run
      refine ⟨⟨lastHit || false, ?_⟩, fun character rest => ?_⟩
      · rw [acceptedSuffixes, lastRow]
        rfl
      · obtain ⟨hit, row⟩ := rows character rest
        rw [acceptedSuffixes, row]
        exact ⟨_, rfl⟩
    · refine ⟨⟨false, ?_⟩, fun character rest => ?_⟩
      · rw [acceptedSuffixes, extend_of_ne_anyRun run]
        rfl
      · obtain ⟨hit, row⟩ := rows character rest
        obtain ⟨nextHit, others, nextRow⟩ :
            ∃ nextHit others, acceptedSuffixes rest atoms = nextHit :: others := by
          cases rest with
          | nil => exact ⟨lastHit, [], lastRow⟩
          | cons next rest =>
            obtain ⟨nextHit, nextRow⟩ := rows next rest
            exact ⟨nextHit, _, nextRow⟩
        rw [acceptedSuffixes, acceptedSuffixes, extend_of_ne_anyRun run,
          extend_of_ne_anyRun run, row, nextRow]
        exact ⟨_, rfl⟩

/-- The empty name has one suffix. -/
theorem acceptedSuffixes_nil (atoms : List Atom) :
    acceptedSuffixes [] atoms = [accepts atoms []] := by
  obtain ⟨hit, row⟩ := (acceptedSuffixes_eq atoms).1
  rw [accepts, row]
  rfl

/-- A suffix is accepted by itself, whatever stands before it. -/
theorem acceptedSuffixes_cons (character : Char) (rest : List Char) (atoms : List Atom) :
    acceptedSuffixes (character :: rest) atoms =
      accepts atoms (character :: rest) :: acceptedSuffixes rest atoms := by
  obtain ⟨hit, row⟩ := (acceptedSuffixes_eq atoms).2 character rest
  rw [accepts, row]
  rfl

/-- No atoms accept nothing but the empty name. -/
@[simp] theorem accepts_nil (name : List Char) : accepts [] name = name.isEmpty := by
  cases name <;> rfl

/-- A run may be empty. -/
@[simp] theorem accepts_anyRun_nil (atoms : List Atom) :
    accepts (.anyRun :: atoms) [] = accepts atoms [] := by
  rw [accepts, acceptedSuffixes, acceptedSuffixes_nil]
  simp [Atom.extend]

/-- A run ends here, or takes the next character. -/
@[simp] theorem accepts_anyRun_cons (atoms : List Atom) (character : Char) (rest : List Char) :
    accepts (.anyRun :: atoms) (character :: rest) =
      (accepts atoms (character :: rest) || accepts (.anyRun :: atoms) rest) := by
  rw [accepts, acceptedSuffixes, acceptedSuffixes_cons]
  rfl

/-- An atom for one character needs a character. -/
theorem accepts_single_nil (single : atom ≠ .anyRun) (atoms : List Atom) :
    accepts (atom :: atoms) [] = false := by
  rw [accepts, acceptedSuffixes, extend_of_ne_anyRun single]
  rfl

/-- An atom for one character takes the next one. -/
theorem accepts_single_cons (single : atom ≠ .anyRun) (atoms : List Atom) (character : Char)
    (rest : List Char) :
    accepts (atom :: atoms) (character :: rest) =
      (atom.accepts character && accepts atoms rest) := by
  rw [accepts, acceptedSuffixes, extend_of_ne_anyRun single, acceptedSuffixes_cons]
  cases rest with
  | nil =>
    rw [acceptedSuffixes_nil]
    rfl
  | cons next rest =>
    rw [acceptedSuffixes_cons]
    rfl

end Rows

section Relation

/-- What matches is accepted. -/
theorem Matches.accepts_eq {atoms : List Atom} {name : List Char} (isMatch : Matches atoms name) :
    accepts atoms name = true := by
  induction isMatch with
  | nil => rfl
  | @run atoms rest skipped later inductionHypothesis =>
    induction skipped with
    | nil =>
      cases rest with
      | nil => simpa using inductionHypothesis
      | cons character rest => simp [inductionHypothesis]
    | cons character others skippedHypothesis => simp [skippedHypothesis]
  | @one atom atoms character rest accepted later inductionHypothesis =>
    have single : atom ≠ .anyRun := by
      rintro rfl
      cases accepted
    rw [accepts_single_cons single, accepted, inductionHypothesis]
    rfl

/-- What is accepted matches. -/
theorem matches_of_accepts {atoms : List Atom} {name : List Char}
    (accepted : accepts atoms name = true) : Matches atoms name := by
  induction atoms generalizing name with
  | nil =>
    rw [accepts_nil, List.isEmpty_iff] at accepted
    rw [accepted]
    exact .nil
  | cons atom atoms inductionHypothesis =>
    by_cases run : atom = .anyRun
    · subst run
      induction name with
      | nil => exact .run [] (inductionHypothesis (by simpa using accepted))
      | cons character rest restHypothesis =>
        rw [accepts_anyRun_cons, Bool.or_eq_true] at accepted
        rcases accepted with here | further
        · exact .run [] (inductionHypothesis here)
        · cases restHypothesis further with
          | run skipped later => exact .run (character :: skipped) later
          | one impossible _ => cases impossible
    · cases name with
      | nil =>
        rw [accepts_single_nil run] at accepted
        cases accepted
      | cons character rest =>
        rw [accepts_single_cons run, Bool.and_eq_true] at accepted
        exact .one accepted.1 (inductionHypothesis accepted.2)

/-- The rows compute the relation. -/
theorem accepts_iff {atoms : List Atom} {name : List Char} :
    accepts atoms name = true ↔ Matches atoms name :=
  ⟨matches_of_accepts, Matches.accepts_eq⟩

instance (atoms : List Atom) (name : List Char) : Decidable (Matches atoms name) :=
  decidable_of_iff (accepts atoms name = true) accepts_iff

end Relation

section Itself

/-- A segment that matches itself when it is read as a pattern. -/
def MatchesItself (segment : String) : Prop :=
  Matches (atoms segment.toList) segment.toList

instance (segment : String) : Decidable (MatchesItself segment) :=
  inferInstanceAs (Decidable (Matches _ _))

/-- When the text of a segment is among the names that it matches. -/
theorem matchesName_self_iff {segment : String} :
    matchesName segment segment = true ↔ MatchesItself segment := by
  rw [matchesName, MatchesItself, accepts_iff.symm]
  cases isHidden segment <;> simp

/-- Only brackets keep a text from matching itself. -/
theorem matches_atoms_of_noBracket {text : List Char} (noBracket : '[' ∉ text) :
    Matches (atoms text) text := by
  induction text with
  | nil =>
    rw [atoms]
    exact .nil
  | cons character rest inductionHypothesis =>
    rw [List.mem_cons, not_or] at noBracket
    have later := inductionHypothesis noBracket.2
    by_cases run : character = '*'
    · subst run
      rw [atoms]
      exact .run ['*'] later
    · by_cases any : character = '?'
      · subst any
        rw [atoms]
        exact .one rfl later
      · rw [atoms]
        · exact .one (by simp [Atom.accepts]) later
        · exact run
        · exact any
        · exact Ne.symm noBracket.1

/-- A text without wildcards has no brackets. -/
theorem noBracket_of_hasWildcard {text : String} (plain : hasWildcard text = false) :
    '[' ∉ text.toList := by
  intro bracket
  rw [hasWildcard, List.any_eq_false] at plain
  exact plain '[' bracket (by decide)

end Itself

end ServiceStubs.Pattern
