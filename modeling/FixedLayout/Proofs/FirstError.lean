import FixedLayout.Proofs.Blocks

/-!
What the decoder reports. A text that leaves a symbol over is turned down for its length, whatever it
is made of; any other one for the first byte that is no symbol, by the whole character there.
-/
namespace FixedLayout.Base64

variable {mode : Mode} {text : List Char}

theorem readSextets_of_stray {front : List Char} {c : Char}
    (accepted : ∀ c ∈ front, mode.Accepts c) (stray : ¬ mode.Accepts c) (position : Nat)
    (back : List Char) :
    readSextets mode position (front ++ c :: back) =
      .error (.invalidCharacter c (position + byteLength front)) := by
  obtain ⟨values, denoted⟩ := (accepts_iff_exists_denotes front).mp accepted
  rw [readSextets_append denoted, readSextets, Mode.sextet?_eq_none_iff.mpr stray]
  rfl

/-- Reading stops at nothing but a character. -/
theorem exists_of_readSextets_eq_error {position : Nat} {error : Error}
    (failed : readSextets mode position text = .error error) :
    ∃ c place, error = .invalidCharacter c place := by
  induction text generalizing position with
  | nil => cases failed
  | cons c rest ih =>
    rw [readSextets] at failed
    cases known : mode.sextet? c with
    | none =>
      rw [known] at failed
      cases failed
      exact ⟨c, position, rfl⟩
    | some sextet =>
      cases later : readSextets mode (position + c.utf8Size) rest with
      | error other =>
        rw [known, later] at failed
        cases failed
        exact ih later
      | ok values =>
        rw [known, later] at failed
        cases failed

theorem decodeList_eq_invalidLength_iff {length : Nat} :
    decodeList mode text = .error (.invalidLength length) ↔
      byteLength text % 4 = 1 ∧ length = byteLength text := by
  rw [decodeList_eq]
  by_cases dangling : byteLength text % 4 = 1
  · rw [if_pos dangling]
    constructor
    · intro failed
      cases failed
      exact ⟨dangling, rfl⟩
    · rintro ⟨-, rfl⟩
      rfl
  · rw [if_neg dangling]
    constructor
    · intro failed
      cases read : readSextets mode 0 (body text) with
      | error error =>
        rw [read] at failed
        cases failed
        obtain ⟨c, place, other⟩ := exists_of_readSextets_eq_error read
        cases other
      | ok values =>
        rw [read] at failed
        cases failed
    · rintro ⟨left, -⟩
      exact absurd left dangling

theorem decodeList_of_stray (balanced : byteLength text % 4 ≠ 1) {before after : Bytes}
    {byte : UInt8} (split : (body text).flatMap String.utf8EncodeChar = before ++ byte :: after)
    (accepted : ∀ byte ∈ before, mode.Accepts (.ofUInt8 byte))
    (stray : ¬ mode.Accepts (.ofUInt8 byte)) :
    ∃ front c back, text = front ++ c :: back ∧ front.length = before.length ∧
      byteLength front = before.length ∧
      decodeList mode text = .error (.invalidCharacter c before.length) := by
  obtain ⟨front, c, back, body_eq, symbols, other, length⟩ := exists_stray split accepted stray
  obtain ⟨count, -, whole, -⟩ := exists_body_append text
  have bytes : byteLength front = before.length := by
    rw [← length]
    exact byteLength_of_ascii fun c member => (symbols c member).isAscii
  refine ⟨front, c, back ++ List.replicate count padSymbol, ?_, length, bytes, ?_⟩
  · rw [body_eq, List.append_assoc, List.cons_append] at whole
    exact whole
  · rw [decodeList_eq, if_neg balanced, body_eq, readSextets_of_stray symbols other, Nat.zero_add,
      bytes]
    rfl

theorem decodeList_of_accepts (balanced : byteLength text % 4 ≠ 1)
    (accepted : ∀ c ∈ body text, mode.Accepts c) : ∃ bytes, decodeList mode text = .ok bytes := by
  obtain ⟨values, denoted⟩ := (accepts_iff_exists_denotes _).mp accepted
  exact ⟨_, decodeList_eq_ok_iff.mpr ⟨balanced, values, denoted, rfl⟩⟩

/-- The length is reported exactly if a symbol is left over. Otherwise the first byte up to the
padding that is no symbol is reported: by its position, behind as many characters as bytes, and by
the character that starts there. Without such a byte the text is decoded. Block by block the decoder
comes to the same end, whatever it could fall back on for a character. -/
theorem decode_error_exact (mode : Mode) (text : String) :
    (∀ length, decode mode text = .error (.invalidLength length) ↔
      text.utf8ByteSize % 4 = 1 ∧ length = text.utf8ByteSize) ∧
    (text.utf8ByteSize % 4 ≠ 1 →
      (∀ before byte after, utf8 (.ofList (unpadded text)) = before ++ byte :: after →
        (∀ byte ∈ before, mode.Accepts (.ofUInt8 byte)) → ¬ mode.Accepts (.ofUInt8 byte) →
        ∃ front character back, text.toList = front ++ character :: back ∧
          front.length = before.length ∧ byteLength front = before.length ∧
          decode mode text = .error (.invalidCharacter character before.length)) ∧
      ((∀ byte ∈ utf8 (.ofList (unpadded text)), mode.Accepts (.ofUInt8 byte)) →
        ∃ bytes, decode mode text = .ok bytes)) ∧
    ∀ fallback, (Blocks.decode fallback mode text).run = some (decode mode text) := by
  rw [utf8_ofList, ← body_toList, ← byteLength_toList]
  refine ⟨fun length => decodeList_eq_invalidLength_iff, fun balanced => ⟨?_, ?_⟩, ?_⟩
  · intro before byte after split accepted stray
    exact decodeList_of_stray balanced split accepted stray
  · intro accepted
    exact decodeList_of_accepts balanced (accepts_of_bytes accepted)
  · intro fallback
    have result := Blocks.decode_eq_answer fallback mode text.toList
    rw [String.ofList_toList] at result
    rw [result]
    rfl

/-- A character of two bytes lies across two blocks, and only two of three pad symbols count. -/
theorem decode_error_exact_straddling :
    let text := "QUJ\u00e9==="
    text.utf8ByteSize % 4 ≠ 1 ∧
    utf8 (.ofList (unpadded text)) = [81, 85, 74] ++ 195 :: [169, 61] ∧
    (∀ byte ∈ ([81, 85, 74] : Bytes), Mode.standard.Accepts (.ofUInt8 byte)) ∧
    ¬ Mode.standard.Accepts (.ofUInt8 195) ∧
    decode .standard text = .error (.invalidCharacter '\u00e9' 3) ∧
    ∀ fallback, (Blocks.decode fallback .standard text).run =
      some (.error (.invalidCharacter '\u00e9' 3)) := by
  intro text
  have balanced : text.utf8ByteSize % 4 ≠ 1 := by decide
  have bytes : utf8 (.ofList (unpadded text)) = [81, 85, 74] ++ 195 :: [169, 61] := by
    rw [utf8_ofList]
    decide +kernel
  have symbols : ∀ byte ∈ ([81, 85, 74] : Bytes), Mode.standard.Accepts (.ofUInt8 byte) := by
    intro byte member
    left
    revert byte
    decide +kernel
  have stray : ¬ Mode.standard.Accepts (.ofUInt8 195) := fun accepted => by
    have ascii := accepted.isAscii
    revert ascii
    decide
  obtain ⟨-, errors, blocks⟩ := decode_error_exact .standard text
  obtain ⟨front, character, back, split, length, -, failed⟩ :=
    (errors balanced).1 _ _ _ bytes symbols stray
  have place : text.toList[front.length]? = some character := by
    rw [split, List.getElem?_append_right (Nat.le_refl _), Nat.sub_self]
    rfl
  have fourth : text.toList[3]? = some '\u00e9' := by decide +kernel
  rw [length] at place
  cases fourth.symm.trans place
  refine ⟨balanced, bytes, symbols, stray, failed, ?_⟩
  intro fallback
  rw [blocks fallback, failed]
  rfl

end FixedLayout.Base64
