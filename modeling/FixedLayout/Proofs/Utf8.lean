import FixedLayout.Base64.Blocks
import FixedLayout.Proofs.Grammar

/-!
Symbols as bytes. The encoding of a character starts with a byte that is a symbol exactly if the
character is one, and then it is this byte alone. So the characters of a text up to the first byte
that is no symbol are as many as the bytes up to there, and one of them starts with that byte.
-/
namespace FixedLayout.Base64

variable {mode : Mode} {c : Char} {byte : UInt8}

theorem utf8_ofList (text : List Char) :
    utf8 (.ofList text) = text.flatMap String.utf8EncodeChar := by
  rw [utf8, String.toUTF8, ← String.utf8Encode_toList, String.toList_ofList, List.utf8Encode,
    List.toList_data_toByteArray]

theorem length_flatMap_encode (text : List Char) :
    (text.flatMap String.utf8EncodeChar).length = byteLength text := by
  induction text with
  | nil => rfl
  | cons c rest ih =>
    rw [List.flatMap_cons, List.length_append, ih, String.length_utf8EncodeChar, byteLength]

theorem encode_of_ascii (ascii : isAscii c) :
    ∃ byte, String.utf8EncodeChar c = [byte] ∧ Char.ofUInt8 byte = c := by
  have small : c.toNat < 128 := of_decide_eq_true ascii
  have low : c.val.toNat ≤ 127 := Nat.le_of_lt_succ small
  refine ⟨.ofNat c.toNat, ?_, ?_⟩
  · rw [String.utf8EncodeChar]
    exact if_pos low
  · apply Char.toNat_inj.mp
    change (UInt8.ofNat c.toNat).toNat = c.toNat
    rw [UInt8.toNat_ofNat']
    omega

/-- No byte of a character beyond ASCII is one of an ASCII character. -/
theorem not_isAscii_of_mem_encode (wide : ¬ isAscii c) (member : byte ∈ String.utf8EncodeChar c) :
    ¬ isAscii (.ofUInt8 byte) := by
  have high : ¬ c.val.toNat ≤ 127 := fun low => wide (decide_eq_true (Nat.lt_succ_of_le low))
  have upper : 128 ≤ byte.toNat := by
    rw [String.utf8EncodeChar] at member
    grind [UInt8.toNat_ofNat']
  intro ascii
  have small : byte.toNat < 128 := of_decide_eq_true ascii
  omega

/-- The first byte of a character tells whether it is a symbol, and which one. -/
theorem exists_encode_eq_cons (mode : Mode) (c : Char) :
    ∃ byte others, String.utf8EncodeChar c = byte :: others ∧
      mode.sextet? (.ofUInt8 byte) = mode.sextet? c ∧ (mode.Accepts c → others = []) := by
  by_cases ascii : isAscii c
  · obtain ⟨byte, encoded, same⟩ := encode_of_ascii ascii
    exact ⟨byte, [], encoded, by rw [same], fun _ => rfl⟩
  · cases encoded : String.utf8EncodeChar c with
    | nil =>
      have length := String.length_utf8EncodeChar c
      rw [encoded] at length
      exact absurd length (Nat.ne_of_lt c.utf8Size_pos)
    | cons byte others =>
      have wide : ¬ isAscii (.ofUInt8 byte) :=
        not_isAscii_of_mem_encode ascii (encoded ▸ List.mem_cons_self)
      have stray : ¬ mode.Accepts c := fun accepted => ascii accepted.isAscii
      have stray_byte : ¬ mode.Accepts (.ofUInt8 byte) := fun accepted => wide accepted.isAscii
      refine ⟨byte, others, rfl, ?_, fun accepted => absurd accepted stray⟩
      rw [Mode.sextet?_eq_none_iff.mpr stray, Mode.sextet?_eq_none_iff.mpr stray_byte]

theorem accepts_ofUInt8_iff {others : Bytes} (encoded : String.utf8EncodeChar c = byte :: others) :
    mode.Accepts (.ofUInt8 byte) ↔ mode.Accepts c := by
  obtain ⟨first, rest, start, same, -⟩ := exists_encode_eq_cons mode c
  cases encoded.symm.trans start
  rw [← not_iff_not, ← Mode.sextet?_eq_none_iff, ← Mode.sextet?_eq_none_iff, same]

/-- The last byte of a character tells whether it is the pad symbol. -/
theorem exists_last_byte (c : Char) : ∃ byte,
    (String.utf8EncodeChar c)[c.utf8Size - 1]? = some byte ∧
      (byte.toNat = padSymbol.toNat ↔ c = padSymbol) := by
  have positive := c.utf8Size_pos
  have inside : c.utf8Size - 1 < (String.utf8EncodeChar c).length := by
    rw [String.length_utf8EncodeChar]
    omega
  refine ⟨_, List.getElem?_eq_getElem inside, ?_⟩
  have member := List.getElem_mem inside
  by_cases ascii : isAscii c
  · obtain ⟨byte, encoded, same⟩ := encode_of_ascii ascii
    simp only [encoded, List.mem_singleton] at member ⊢
    rw [member, ← Char.toNat_inj, ← same]
    rfl
  · have wide := not_isAscii_of_mem_encode ascii member
    constructor
    · intro pad
      have same := Char.toNat_inj.mp (show (Char.ofUInt8 _).toNat = padSymbol.toNat from pad)
      rw [same] at wide
      exact absurd (by decide) wide
    · rintro rfl
      exact absurd (by decide) ascii

/-- A text whose bytes are all symbols is one of symbols. -/
theorem accepts_of_bytes {text : List Char}
    (accepted : ∀ byte ∈ text.flatMap String.utf8EncodeChar, mode.Accepts (.ofUInt8 byte)) :
    ∀ c ∈ text, mode.Accepts c := by
  intro c member
  obtain ⟨byte, others, encoded, -⟩ := exists_encode_eq_cons mode c
  rw [← accepts_ofUInt8_iff encoded]
  exact accepted byte (List.mem_flatMap.mpr ⟨c, member, encoded ▸ List.mem_cons_self⟩)

/-- The first byte that is no symbol is where a character starts, behind as many symbols as
bytes. -/
theorem exists_stray {text : List Char} {before after : Bytes}
    (split : text.flatMap String.utf8EncodeChar = before ++ byte :: after)
    (accepted : ∀ byte ∈ before, mode.Accepts (.ofUInt8 byte))
    (stray : ¬ mode.Accepts (.ofUInt8 byte)) :
    ∃ front c back, text = front ++ c :: back ∧ (∀ c ∈ front, mode.Accepts c) ∧
      ¬ mode.Accepts c ∧ front.length = before.length := by
  induction text generalizing before with
  | nil => simp at split
  | cons c rest ih =>
    obtain ⟨first, others, encoded, -, single⟩ := exists_encode_eq_cons mode c
    have kind : mode.Accepts (.ofUInt8 first) ↔ mode.Accepts c := accepts_ofUInt8_iff encoded
    rw [List.flatMap_cons, encoded, List.cons_append] at split
    cases before with
    | nil =>
      cases split
      exact ⟨[], c, rest, rfl, List.forall_mem_nil _, kind.not.mp stray, rfl⟩
    | cons _ before =>
      obtain ⟨rfl, later⟩ := List.cons.inj split
      obtain ⟨symbol, symbols⟩ := List.forall_mem_cons.mp accepted
      have known := kind.mp symbol
      rw [single known, List.nil_append] at later
      obtain ⟨front, found, back, rfl, fronts, other, length⟩ := ih later symbols
      have accepted_front := List.forall_mem_cons.mpr ⟨known, fronts⟩
      refine ⟨c :: front, found, back, rfl, accepted_front, other, ?_⟩
      rw [List.length_cons, List.length_cons, length]

end FixedLayout.Base64
