import ServiceStubs.Text.Upper

/-!
# What upper case makes

Upper case makes letters. A character of ASCII that is no letter is the image of no character but
itself, so putting words into upper case brings no mark into a text. The first character of an image
is its own upper case, although those behind it need not be. The tables are looked through once for
each of these facts; nothing else here depends on their entries.
-/

namespace ServiceStubs.Text

/-- Whether the images of a run are characters above ASCII. A run of one code point may have a
letter as its image instead. -/
def CaseRun.hasProperImages (run : CaseRun) : Bool :=
  let low := run.first + run.distance
  let high := run.last + run.distance
  (0x80 ≤ low && high < 0xd800) || (0xe000 ≤ low && high < 0x110000) ||
    (low = high && (Char.ofNat low.toNat).isAlpha)

/-- The image of a code point in such a run is above ASCII or a letter. -/
theorem CaseRun.image_of_holds {run : CaseRun} (proper : run.hasProperImages = true) {code : Nat}
    (holds : run.holds code = true) :
    0x80 ≤ (Char.ofNat (code + run.distance).toNat).toNat ∨
      (Char.ofNat (code + run.distance).toNat).isAlpha = true := by
  simp only [CaseRun.holds, Bool.and_eq_true, decide_eq_true_eq] at holds
  obtain ⟨⟨low, high⟩, -⟩ := holds
  simp only [hasProperImages, Bool.or_eq_true, Bool.and_eq_true, decide_eq_true_eq] at proper
  rcases proper with (⟨above, below⟩ | ⟨above, below⟩) | ⟨single, letter⟩
  · left
    have valid : ((code : Int) + run.distance).toNat.isValidChar := .inl (by omega)
    rw [Char.ofNat, dif_pos valid]
    show 0x80 ≤ ((code : Int) + run.distance).toNat
    omega
  · left
    have valid : ((code : Int) + run.distance).toNat.isValidChar := .inr (by omega)
    rw [Char.ofNat, dif_pos valid]
    show 0x80 ≤ ((code : Int) + run.distance).toNat
    omega
  · right
    have alone : (code : Int) + run.distance = run.first + run.distance := by omega
    rw [alone]
    exact letter

/-- Where the image of a character comes from: ASCII has a rule, the two tables give the others, and
all other characters are their own image. -/
theorem upper_cases (character : Char) :
    (character.toNat < 0x80 ∧ upper character = [character.toUpper]) ∨
      (∃ entry ∈ expandingCases, upper character = entry.2.map Char.ofNat) ∨
      (∃ run ∈ caseRuns, run.holds character.toNat = true ∧
        upper character = [Char.ofNat (character.toNat + run.distance).toNat]) ∨
      upper character = [character] := by
  rw [upper]
  split
  · rename_i small
    exact .inl ⟨small, rfl⟩
  · split
    · rename_i entry found
      exact .inr (.inl ⟨entry, List.mem_of_find?_eq_some found, rfl⟩)
    · split
      · rename_i run found
        have inRun : run.holds character.toNat = true :=
          List.find?_some (p := fun run : CaseRun => run.holds character.toNat) found
        exact .inr (.inr (.inl ⟨run, List.mem_of_find?_eq_some found, inRun, rfl⟩))
      · exact .inr (.inr (.inr rfl))

/-- A character of ASCII that is no letter is only the image of itself. -/
theorem eq_of_mem_upper {character image : Char} (ascii : image.toNat < 0x80)
    (notLetter : image.isAlpha = false) (member : image ∈ upper character) : image = character := by
  have expanded : ∀ entry ∈ expandingCases, ∀ code ∈ entry.2,
      0x80 ≤ (Char.ofNat code).toNat ∨ (Char.ofNat code).isAlpha = true := by decide +kernel
  have moved : ∀ run ∈ caseRuns, run.hasProperImages = true := by decide +kernel
  have raised : ∀ code < 0x80, (Char.ofNat code).toUpper.isAlpha = false →
      (Char.ofNat code).toUpper = Char.ofNat code := by decide +kernel
  have apart : ¬ (0x80 ≤ image.toNat ∨ image.isAlpha = true) := by
    rw [notLetter]
    simpa using ascii
  rcases upper_cases character with ⟨small, same⟩ | ⟨entry, known, same⟩ |
      ⟨run, known, inRun, same⟩ | same
  · rw [same, List.mem_singleton] at member
    rw [← Char.ofNat_toNat character] at member ⊢
    rw [member] at notLetter ⊢
    exact raised character.toNat small notLetter
  · rw [same] at member
    obtain ⟨code, inside, rfl⟩ := List.mem_map.mp member
    exact absurd (expanded entry known code inside) apart
  · rw [same, List.mem_singleton] at member
    rw [member] at apart
    exact absurd (run.image_of_holds (moved run known) inRun) apart
  · rw [same] at member
    exact List.mem_singleton.mp member

section Stability

/-- Some code points as one number, with a one at each of them among its binary digits. Two lists
of code points are compared by one operation on their numbers. -/
def codeSet : List Nat → Nat
  | [] => 0
  | code :: codes => 1 <<< code ||| codeSet codes

/-- A set of codes holds the codes that it is made of. -/
theorem testBit_codeSet {codes : List Nat} {code : Nat} :
    (codeSet codes).testBit code = true ↔ code ∈ codes := by
  induction codes with
  | nil => simp [codeSet]
  | cons first rest inductionHypothesis =>
    rw [codeSet, Nat.testBit_or, Bool.or_eq_true, inductionHypothesis, List.mem_cons,
      Nat.one_shiftLeft, Nat.testBit_two_pow, decide_eq_true_iff, eq_comm]

/-- Code points whose numbers share no digit are different. -/
theorem not_mem_of_codeSet {left right : List Nat} (apart : codeSet left &&& codeSet right = 0)
    {code : Nat} (member : code ∈ right) : code ∉ left := by
  intro memberToo
  have shared : (codeSet left &&& codeSet right).testBit code = true := by
    rw [Nat.testBit_and, testBit_codeSet.mpr memberToo, testBit_codeSet.mpr member]
    rfl
  rw [apart, Nat.zero_testBit] at shared
  cases shared

/-- The code points of a run, in ascending order. -/
def CaseRun.codes (run : CaseRun) : List Nat :=
  (List.range ((run.last - run.first) / run.step + 1)).map fun index =>
    run.first + run.step * index

/-- A run is made of the codes that it holds. -/
theorem CaseRun.mem_codes_of_holds {run : CaseRun} {code : Nat} (holds : run.holds code = true) :
    code ∈ run.codes := by
  simp only [CaseRun.holds, Bool.and_eq_true, decide_eq_true_eq, beq_iff_eq] at holds
  obtain ⟨⟨low, high⟩, even⟩ := holds
  have index : (code - run.first) / run.step ≤ (run.last - run.first) / run.step :=
    Nat.div_le_div_right (by omega)
  have distance := Nat.div_add_mod (code - run.first) run.step
  rw [codes, List.mem_map]
  exact ⟨(code - run.first) / run.step, List.mem_range.mpr (by omega), by omega⟩

/-- The code points that may have an image other than themselves. -/
def casedCodes : List Nat :=
  (List.range 26).map ('a'.toNat + ·) ++ expandingCases.map Prod.fst ++
    caseRuns.flatMap CaseRun.codes

/-- The code points that start an image in one of the tables. Zero stands for those that would be no
characters. -/
def imageCodes : List Nat :=
  0 :: (expandingCases.filterMap (fun entry => entry.2.head?) ++
    caseRuns.flatMap fun run => run.codes.map fun (code : Nat) => (code + run.distance).toNat)

/-- A character without case stays as it is. -/
theorem upper_of_not_mem_casedCodes {character : Char} (uncased : character.toNat ∉ casedCodes) :
    upper character = [character] := by
  have raised : ∀ code < 0x80, code ∉ (List.range 26).map ('a'.toNat + ·) →
      (Char.ofNat code).toUpper = Char.ofNat code := by decide +kernel
  simp only [casedCodes, List.mem_append, not_or] at uncased
  obtain ⟨⟨notSmall, notExpanding⟩, notMoved⟩ := uncased
  have noEntry : (expandingCases.find? fun entry => entry.1 == character.toNat) = none := by
    rw [List.find?_eq_none]
    intro entry known same
    exact notExpanding (List.mem_map.mpr ⟨entry, known, beq_iff_eq.mp same⟩)
  have noRun : (caseRuns.find? fun run => run.holds character.toNat) = none := by
    rw [List.find?_eq_none]
    intro run known holds
    exact notMoved (List.mem_flatMap.mpr ⟨run, known, run.mem_codes_of_holds holds⟩)
  rw [upper]
  split
  · rename_i ascii
    have same := raised character.toNat ascii notSmall
    rw [Char.ofNat_toNat] at same
    rw [same]
  · rw [noEntry, noRun]

/-- A code point that starts an image in a table has no image but itself. -/
theorem upper_of_mem_imageCodes {code : Nat} (member : code ∈ imageCodes) :
    upper (Char.ofNat code) = [Char.ofNat code] := by
  have apart : codeSet casedCodes &&& codeSet imageCodes = 0 := by decide +kernel
  apply upper_of_not_mem_casedCodes
  apply not_mem_of_codeSet apart
  by_cases valid : code.isValidChar
  · rw [Char.ofNat, dif_pos valid]
    exact member
  · rw [Char.ofNat, dif_neg valid]
    exact List.mem_cons_self

/-- An image is not empty, and its first character is its own upper case. -/
theorem exists_upper_eq_cons (character : Char) :
    ∃ first rest, upper character = first :: rest ∧ upper first = [first] := by
  have nonempty : ∀ entry ∈ expandingCases, entry.2 ≠ [] := by decide +kernel
  have raised : ∀ code < 0x80, upper (Char.ofNat code).toUpper = [(Char.ofNat code).toUpper] := by
    decide +kernel
  rcases upper_cases character with ⟨small, same⟩ | ⟨entry, known, same⟩ |
      ⟨run, known, inRun, same⟩ | same
  · refine ⟨character.toUpper, [], same, ?_⟩
    have stable := raised character.toNat small
    rwa [Char.ofNat_toNat] at stable
  · obtain ⟨code, codes, spelled⟩ := List.exists_cons_of_ne_nil (nonempty entry known)
    rw [spelled, List.map_cons] at same
    refine ⟨_, _, same, upper_of_mem_imageCodes ?_⟩
    refine List.mem_cons_of_mem _ (List.mem_append_left _ ?_)
    exact List.mem_filterMap.mpr ⟨entry, known, by rw [spelled]; rfl⟩
  · refine ⟨_, _, same, upper_of_mem_imageCodes ?_⟩
    refine List.mem_cons_of_mem _ (List.mem_append_right _ ?_)
    exact List.mem_flatMap.mpr
      ⟨run, known, List.mem_map.mpr ⟨_, run.mem_codes_of_holds inRun, rfl⟩⟩
  · exact ⟨character, [], same, same⟩

end Stability

end ServiceStubs.Text
