import FixedLayout.Proofs.Blocks
import FixedLayout.Proofs.Positions
import FixedLayout.Proofs.RoundTrip

/-!
Texts put together. Behind whole groups, which have no padding, a text is read as it is by itself:
to the same bytes, or to the same error at a place further back. Encoders may as well be given bytes
in parts, as long as all parts but the last fill whole groups. And padding that completes the last
group of a text does not change what is read in it.
-/
namespace FixedLayout.Base64

/-- An error in a text, as it is reported if so many bytes stand before the text. -/
def Error.behind (length : Nat) : Error → Error
  | .invalidCharacter c position => .invalidCharacter c (position + length)
  | .invalidLength rest => .invalidLength (rest + length)
  | .alphabetLength => .alphabetLength
  | .empty => .empty

variable {mode : Mode} {front text : List Char}

/-! ### Padding -/

theorem dropOne_of_bare (bare : front.getLast? ≠ some padSymbol) :
    Blocks.dropOne front = front := by
  rw [Blocks.dropOne, if_neg bare]

theorem dropOne_append (bare : front.getLast? ≠ some padSymbol) (back : List Char) :
    Blocks.dropOne (front ++ back) = front ++ Blocks.dropOne back := by
  rcases List.eq_nil_or_concat back with rfl | ⟨middle, c, rfl⟩
  · rw [List.append_nil, dropOne_of_bare bare]
    exact (List.append_nil front).symm
  · rw [List.concat_eq_append, ← List.append_assoc, Blocks.dropOne_concat, Blocks.dropOne_concat]
    split
    · rfl
    · rw [List.append_assoc]

/-- The padding of what stands behind whole groups is its own. -/
theorem body_append (bare : front.getLast? ≠ some padSymbol) (whole : byteLength front % 4 = 0)
    (back : List Char) : body (front ++ back) = front ++ body back := by
  have length : byteLength (front ++ back) % 4 = 0 ↔ byteLength back % 4 = 0 := by
    rw [byteLength_append]
    omega
  simp only [body_eq, length]
  split
  · rw [Blocks.dropPad_eq_dropOne, Blocks.dropPad_eq_dropOne, dropOne_append bare,
      dropOne_append bare]
  · rfl

theorem dropPad_append_two_pads (text : List Char) :
    dropPad (text ++ [padSymbol, padSymbol]) = text := by
  have split : text ++ [padSymbol, padSymbol] = text ++ [padSymbol] ++ [padSymbol] := by
    rw [List.append_assoc]
    rfl
  rw [split, Blocks.dropPad_eq_dropOne, Blocks.dropOne_concat, if_pos rfl, Blocks.dropOne_concat,
    if_pos rfl]

/-- What completes the last group and is dropped again does not change what is read. -/
theorem decodeList_append_of_dropPad {pads : List Char} (several : 1 < byteLength text % 4)
    (completed : (byteLength text + byteLength pads) % 4 = 0)
    (dropped : dropPad (text ++ pads) = text) (mode : Mode) :
    decodeList mode (text ++ pads) = decodeList mode text := by
  have bare : ¬ byteLength text % 4 = 0 := by omega
  have balanced : ¬ byteLength text % 4 = 1 := by omega
  have filled : ¬ (byteLength text + byteLength pads) % 4 = 1 := by omega
  rw [decodeList_eq, decodeList_eq, body_eq, body_eq, byteLength_append, if_pos completed,
    if_neg bare, dropped, if_neg balanced, if_neg filled]

/-- Padding that completes the last group may be left out: with two pad symbols or without them a
text is read to the same bytes, or turned down for the same character at the same place, whatever it
is made of. This holds for one pad symbol too, unless the text ends in a pad symbol itself. -/
theorem decode_append_pad (mode : Mode) (text : String) :
    (text.utf8ByteSize % 4 = 2 → decode mode (text ++ "==") = decode mode text) ∧
    (text.utf8ByteSize % 4 = 3 → text.toList.getLast? ≠ some '=' →
      decode mode (text ++ "=") = decode mode text) := by
  rw [decode, decode, decode, String.toList_append, String.toList_append, ← byteLength_toList]
  constructor
  · intro two
    have completed : (byteLength text.toList + byteLength "==".toList) % 4 = 0 := by
      change (byteLength text.toList + 2) % 4 = 0
      omega
    exact decodeList_append_of_dropPad (by omega) completed (dropPad_append_two_pads _) mode
  · intro three bare
    have one : 1 ≤ 2 := by decide
    have completed : (byteLength text.toList + byteLength "=".toList) % 4 = 0 := by
      change (byteLength text.toList + 1) % 4 = 0
      omega
    exact decodeList_append_of_dropPad (by omega) completed (dropPad_append_pads bare one) mode

/-- Texts that are turned down, one for a pad symbol inside and one for a character of two bytes. A
text that ends in a pad symbol is read only if another one follows. -/
theorem decode_append_pad_stray :
    "Z=".utf8ByteSize % 4 = 2 ∧
    decode .standard ("Z=" ++ "==") = .error (.invalidCharacter '=' 1) ∧
    "Z\u00e9".utf8ByteSize % 4 = 3 ∧ "Z\u00e9".toList.getLast? ≠ some '=' ∧
    decode .urlSafe ("Z\u00e9" ++ "=") = .error (.invalidCharacter '\u00e9' 1) ∧
    decode .standard "Zg=" = .error (.invalidCharacter '=' 2) ∧
    decode .standard ("Zg=" ++ "=") = .ok [102] := by
  have two : "Z=".utf8ByteSize % 4 = 2 := by decide
  have three : "Z\u00e9".utf8ByteSize % 4 = 3 := by decide
  have bare : "Z\u00e9".toList.getLast? ≠ some '=' := by decide
  refine ⟨two, ?_, three, bare, ?_, by decide +kernel, by decide +kernel⟩
  · have stray : decode .standard "Z=" = .error (.invalidCharacter '=' 1) := by decide +kernel
    rw [(decode_append_pad .standard "Z=").1 two, stray]
  · have stray : decode .urlSafe "Z\u00e9" = .error (.invalidCharacter '\u00e9' 1) := by
      decide +kernel
    rw [(decode_append_pad .urlSafe "Z\u00e9").2 three bare, stray]

/-! ### Whole groups -/

theorem Encoder.encodeToList_append (encoder : Encoder) {front : Bytes}
    (whole : front.length % 3 = 0) (back : Bytes) :
    encoder.encodeToList (front ++ back) =
      encoder.encodeToList front ++ encoder.encodeToList back := by
  induction front using sextets.induct with
  | case1 a b c rest ih =>
    have later : rest.length % 3 = 0 := by
      simp only [List.length_cons] at whole
      omega
    simp only [List.cons_append, encodeToList_block, ih later, List.append_assoc]
  | case2 => simp at whole
  | case3 => simp at whole
  | case4 => rw [List.nil_append, encodeToList_nil, List.nil_append]

/-- Where a text starts does not matter but for what is reported. -/
theorem readSextets_add (mode : Mode) (position length : Nat) (text : List Char) :
    readSextets mode (position + length) text =
      (readSextets mode position text).mapError (·.behind length) := by
  induction text generalizing position with
  | nil => rfl
  | cons c rest ih =>
    rw [readSextets, readSextets, Nat.add_right_comm, ih]
    cases mode.sextet? c with
    | none => rfl
    | some value =>
      cases readSextets mode (position + c.utf8Size) rest with
      | error => rfl
      | ok => rfl

theorem decodeList_append {bytes : Bytes} (decoded : decodeList mode front = .ok bytes)
    (whole : byteLength front % 4 = 0) (bare : front.getLast? ≠ some padSymbol)
    (back : List Char) : decodeList mode (front ++ back) = match decodeList mode back with
      | .ok others => .ok (bytes ++ others)
      | .error error => .error (error.behind (byteLength front)) := by
  obtain ⟨-, values, denoted, rfl⟩ := decodeList_eq_ok_iff.mp decoded
  have all : body front = front := by
    have alone := body_append bare whole []
    rw [List.append_nil] at alone
    exact alone.trans (List.append_nil front)
  rw [all] at denoted
  have groups : values.length % 4 = 0 := by
    rw [← byteLength_of_denotes denoted, whole]
  have length : byteLength (front ++ back) = byteLength back + byteLength front := by
    rw [byteLength_append, Nat.add_comm]
  have dangling : (byteLength back + byteLength front) % 4 = 1 ↔ byteLength back % 4 = 1 := by
    omega
  rw [decodeList_eq, decodeList_eq, body_append bare whole, readSextets_append denoted,
    readSextets_add, length]
  simp only [dangling]
  by_cases left : byteLength back % 4 = 1
  · rw [if_pos left, if_pos left]
    rfl
  · rw [if_neg left, if_neg left]
    cases readSextets mode 0 (body back) with
    | error => rfl
    | ok others => exact congrArg Except.ok (joinSextets_append groups others)

/-- Bytes behind whole groups of three are encoded as they are by themselves. And behind a text of
whole groups that was decoded and does not end in padding, a text is decoded as it is by itself;
what is wrong with it is reported as so much further back. -/
theorem coding_append (encoder : Encoder) (mode : Mode) :
    (∀ front back : Bytes, front.length % 3 = 0 →
      encoder.encode (front ++ back) = encoder.encode front ++ encoder.encode back) ∧
    ∀ (front back : String) (bytes : Bytes), decode mode front = .ok bytes →
      front.utf8ByteSize % 4 = 0 → front.toList.getLast? ≠ some '=' →
      decode mode (front ++ back) = match decode mode back with
        | .ok others => .ok (bytes ++ others)
        | .error error => .error (error.behind front.utf8ByteSize) := by
  constructor
  · intro front back whole
    rw [Encoder.encode, encoder.encodeToList_append whole, String.ofList_append]
    rfl
  · intro front back bytes decoded whole bare
    rw [← byteLength_toList] at whole ⊢
    rw [decode, String.toList_append]
    exact decodeList_append decoded whole bare back.toList

/-- A group, with what is read behind it and what is not. A group with padding does not count. -/
theorem coding_append_group :
    decode .urlSafe "-_9v" = .ok [251, 255, 111] ∧
    decode .urlSafe ("-_9v" ++ "Zg==") = .ok [251, 255, 111, 102] ∧
    decode .urlSafe ("-_9v" ++ "Z\u00e9") = .error (.invalidCharacter '\u00e9' 5) ∧
    decode .urlSafe ("-_9v" ++ "Z") = .error (.invalidLength 5) ∧
    encode .urlSafe ([251, 255, 111] ++ [102]) true = "-_9v" ++ "Zg==" ∧
    decode .urlSafe ("Zg==" ++ "Zg==") = .error (.invalidCharacter '=' 2) := by
  obtain ⟨written, read⟩ := coding_append (Mode.urlSafe.encoder true) .urlSafe
  have group : decode .urlSafe "-_9v" = .ok [251, 255, 111] := by decide +kernel
  have behind (back : String) := read "-_9v" back _ group (by decide) (by decide)
  refine ⟨group, ?_, ?_, ?_, ?_, by decide +kernel⟩
  · have last : decode .urlSafe "Zg==" = .ok [102] := by decide +kernel
    rw [behind, last]
    rfl
  · have stray : decode .urlSafe "Z\u00e9" = .error (.invalidCharacter '\u00e9' 1) := by
      decide +kernel
    rw [behind, stray]
    rfl
  · have dangling : decode .urlSafe "Z" = .error (.invalidLength 1) := by decide +kernel
    rw [behind, dangling]
    rfl
  · rw [encode, written [251, 255, 111] [102] rfl]
    decide +kernel

end FixedLayout.Base64
