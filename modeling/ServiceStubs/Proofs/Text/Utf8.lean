import ServiceStubs.Text.Utf8

/-!
# Decoding what was encoded

Every text is given back by decoding its bytes: the decoder accepts the bytes of each character,
whatever follows, and reads the code point off them. What it does with other bytes is not said
here.
-/

namespace ServiceStubs.Text.Utf8

/-- The bytes of an array from an index on, behind those already collected. -/
theorem toList_loop (bytes : ByteArray) (index : Nat) (reversed : List UInt8) :
    ByteArray.toList.loop bytes index reversed =
      reversed.reverse ++ bytes.data.toList.drop index := by
  fun_induction ByteArray.toList.loop bytes index reversed with
  | case1 index reversed inside inductionHypothesis =>
    have inList : index < bytes.data.toList.length := by simpa using inside
    rw [inductionHypothesis, List.drop_eq_getElem_cons inList, List.reverse_cons,
      List.append_assoc]
    have read : bytes.get! index = bytes.data.toList[index] := by
      rw [Array.getElem_toList]
      exact getElem!_pos bytes.data index inside
    rw [read, List.singleton_append]
  | case2 index reversed outside =>
    have short : bytes.data.toList.length ≤ index := by simpa using outside
    rw [List.drop_eq_nil_of_le short, List.append_nil]

/-- The bytes of a text are those of its characters, one after the other. -/
theorem encode_eq_flatMap (text : String) :
    encode text = text.toList.flatMap String.utf8EncodeChar := by
  have bytes : text.toUTF8.data.toList = text.toList.flatMap String.utf8EncodeChar := by
    rw [String.toUTF8, ← String.utf8Encode_toList, List.utf8Encode, List.data_toByteArray]
  rw [encode, ByteArray.toList, toList_loop, bytes]
  rfl

/-- Bytes that the decoder takes for one code point, whatever follows them: the first one announces
how many others there are, and all of them are acceptable. -/
structure Spells (code : Nat) (first : UInt8) (others : List UInt8) : Prop where
  announced : followers first = some others.length
  accepted : ∀ rest, acceptable
    ((secondByteRange first :: List.replicate 2 (0x80, 0xbf)).take others.length)
    (others ++ rest) = others
  value : codePoint first others = code

/-- Bytes that spell a code point are decoded as its character. -/
theorem Spells.decodeFrom {code : Nat} {first : UInt8} {others : List UInt8}
    (spells : Spells code first others) (position : Nat) (rest : List UInt8) :
    decodeFrom position (first :: others ++ rest) =
      (Utf8.decodeFrom (position + others.length + 1) rest).map (Char.ofNat code :: ·) := by
  rw [List.cons_append, Utf8.decodeFrom, spells.announced]
  simp only [spells.accepted rest, spells.value, if_true, List.drop_left]
  cases Utf8.decodeFrom (position + others.length + 1) rest <;> rfl

section Spelling

/-- A small number fits into a byte. -/
theorem toNat_ofNat_of_lt {number : Nat} (small : number < 256) :
    (UInt8.ofNat number).toNat = number := by
  simpa using small

/-- How many bytes follow, by the number of the first one. -/
theorem followers_eq (first : UInt8) :
    followers first =
      if first.toNat < 0x80 then some 0
      else if first.toNat < 0xc2 then none
      else if first.toNat < 0xe0 then some 1
      else if first.toNat < 0xf0 then some 2
      else if first.toNat < 0xf5 then some 3
      else none :=
  rfl

/-- A byte lies in a range if its number does. -/
theorem inRange_iff {range : UInt8 × UInt8} {byte : UInt8} :
    inRange range byte = true ↔ range.1.toNat ≤ byte.toNat ∧ byte.toNat ≤ range.2.toNat := by
  simp [inRange, UInt8.le_iff_toNat_le]

/-- A second byte is acceptable if it is a continuation byte and keeps clear of overlong forms,
surrogates and code points beyond the last plane. -/
theorem inRange_secondByteRange {first second : UInt8}
    (continuation : 0x80 ≤ second.toNat ∧ second.toNat ≤ 0xbf)
    (threeBytes : first.toNat = 0xe0 → 0xa0 ≤ second.toNat)
    (noSurrogate : first.toNat = 0xed → second.toNat ≤ 0x9f)
    (fourBytes : first.toNat = 0xf0 → 0x90 ≤ second.toNat)
    (lastPlane : first.toNat = 0xf4 → second.toNat ≤ 0x8f) :
    inRange (secondByteRange first) second = true := by
  rw [inRange_iff]
  unfold secondByteRange
  split
  · rename_i first_eq
    exact ⟨threeBytes (by rw [first_eq]; rfl), continuation.2⟩
  · split
    · rename_i first_eq
      exact ⟨continuation.1, noSurrogate (by rw [first_eq]; rfl)⟩
    · split
      · rename_i first_eq
        exact ⟨fourBytes (by rw [first_eq]; rfl), continuation.2⟩
      · split
        · rename_i first_eq
          exact ⟨continuation.1, lastPlane (by rw [first_eq]; rfl)⟩
        · exact continuation

/-- The last six bits of a number as a continuation byte. -/
def continuationByte (number : Nat) : UInt8 :=
  UInt8.ofNat (number % 64 + 128)

/-- A continuation byte carries six binary digits. -/
theorem toNat_continuationByte (number : Nat) :
    (continuationByte number).toNat = number % 64 + 128 :=
  toNat_ofNat_of_lt (by omega)

/-- A continuation byte lies in the range of continuation bytes. -/
theorem inRange_continuationByte (number : Nat) :
    inRange (0x80, 0xbf) (continuationByte number) = true := by
  rw [inRange_iff, toNat_continuationByte]
  constructor
  · exact Nat.le_add_left 128 _
  · show number % 64 + 128 ≤ 191
    omega

variable {code : Nat}

/-- An ASCII character is spelled in one byte. -/
theorem spells_one (ascii : code ≤ 127) : Spells code (UInt8.ofNat code) [] := by
  have firstByte : (UInt8.ofNat code).toNat = code := toNat_ofNat_of_lt (by omega)
  refine ⟨?_, fun _ => rfl, firstByte⟩
  rw [followers_eq, firstByte, if_pos (by omega)]
  rfl

/-- Eleven binary digits are spelled in two bytes. -/
theorem spells_two (long : 127 < code) (short : code ≤ 2047) :
    Spells code (UInt8.ofNat (code / 64 % 32 + 192)) [continuationByte code] := by
  have firstByte : (UInt8.ofNat (code / 64 % 32 + 192)).toNat = code / 64 + 192 := by
    rw [toNat_ofNat_of_lt (by omega)]
    omega
  have second := toNat_continuationByte code
  generalize UInt8.ofNat (code / 64 % 32 + 192) = first at firstByte
  have inside : inRange (secondByteRange first) (continuationByte code) = true := by
    apply inRange_secondByteRange <;> omega
  refine ⟨?_, ?_, ?_⟩
  · rw [followers_eq, firstByte, if_neg (by omega), if_neg (by omega), if_pos (by omega)]
    rfl
  · intro rest
    simp [acceptable, inside]
  · simp only [codePoint, List.length_cons, List.length_nil, List.foldl_cons, List.foldl_nil,
      firstByte, second]
    omega

/-- Sixteen binary digits are spelled in three bytes, unless they are those of a surrogate. -/
theorem spells_three (long : 2047 < code) (short : code ≤ 65535)
    (noSurrogate : code < 0xd800 ∨ 0xdfff < code) :
    Spells code (UInt8.ofNat (code / 4096 % 16 + 224))
      [continuationByte (code / 64), continuationByte code] := by
  have firstByte : (UInt8.ofNat (code / 4096 % 16 + 224)).toNat = code / 4096 + 224 := by
    rw [toNat_ofNat_of_lt (by omega)]
    omega
  have second := toNat_continuationByte (code / 64)
  have third := toNat_continuationByte code
  generalize UInt8.ofNat (code / 4096 % 16 + 224) = first at firstByte
  have inside : inRange (secondByteRange first) (continuationByte (code / 64)) = true := by
    apply inRange_secondByteRange <;> omega
  refine ⟨?_, ?_, ?_⟩
  · rw [followers_eq, firstByte, if_neg (by omega), if_neg (by omega), if_neg (by omega),
      if_pos (by omega)]
    rfl
  · intro rest
    simp [acceptable, inside, inRange_continuationByte]
  · simp only [codePoint, List.length_cons, List.length_nil, List.foldl_cons, List.foldl_nil,
      firstByte, second, third]
    omega

/-- All other code points are spelled in four bytes. -/
theorem spells_four (long : 65535 < code) (lastPlane : code < 0x110000) :
    Spells code (UInt8.ofNat (code / 262144 % 8 + 240))
      [continuationByte (code / 4096), continuationByte (code / 64), continuationByte code] := by
  have firstByte : (UInt8.ofNat (code / 262144 % 8 + 240)).toNat = code / 262144 + 240 := by
    rw [toNat_ofNat_of_lt (by omega)]
    omega
  have second := toNat_continuationByte (code / 4096)
  have third := toNat_continuationByte (code / 64)
  have fourth := toNat_continuationByte code
  generalize UInt8.ofNat (code / 262144 % 8 + 240) = first at firstByte
  have inside : inRange (secondByteRange first) (continuationByte (code / 4096)) = true := by
    apply inRange_secondByteRange <;> omega
  refine ⟨?_, ?_, ?_⟩
  · rw [followers_eq, firstByte, if_neg (by omega), if_neg (by omega), if_neg (by omega),
      if_neg (by omega), if_pos (by omega)]
    rfl
  · intro rest
    simp [acceptable, inside, inRange_continuationByte]
  · simp only [codePoint, List.length_cons, List.length_nil, List.foldl_cons, List.foldl_nil,
      firstByte, second, third, fourth]
    omega

end Spelling

/-- The bytes of a character spell its code point. -/
theorem spells_utf8EncodeChar (character : Char) :
    ∃ first others, String.utf8EncodeChar character = first :: others ∧
      Spells character.toNat first others := by
  have bounds : character.toNat < 0xd800 ∨ 0xdfff < character.toNat ∧ character.toNat < 0x110000 :=
    character.valid
  change ∃ first others, (if character.toNat ≤ 127 then _ else if character.toNat ≤ 2047 then _ else
    if character.toNat ≤ 65535 then _ else _) = _ ∧ _
  split
  · exact ⟨_, _, rfl, spells_one ‹_›⟩
  · split
    · exact ⟨_, _, rfl, spells_two (by omega) ‹_›⟩
    · split
      · exact ⟨_, _, rfl, spells_three (by omega) ‹_› (by omega)⟩
      · exact ⟨_, _, rfl, spells_four (by omega) (by omega)⟩

/-- Decoding the bytes of a text gives its characters. -/
theorem decode_encode (text : String) : decode (encode text) = .ok text.toList := by
  rw [encode_eq_flatMap, decode]
  generalize text.toList = characters
  generalize 0 = position
  induction characters generalizing position with
  | nil => rw [List.flatMap_nil, decodeFrom]
  | cons character others inductionHypothesis =>
    obtain ⟨first, following, shown, spells⟩ := spells_utf8EncodeChar character
    rw [List.flatMap_cons, shown, spells.decodeFrom, inductionHypothesis, Char.ofNat_toNat]
    rfl

end ServiceStubs.Text.Utf8
