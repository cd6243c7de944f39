import FixedLayout.Proofs.BitString
import FixedLayout.Proofs.Utf8
import Mathlib.Algebra.Order.Floor.Div
import Mathlib.Data.Nat.Bitwise

/-!
Base64 by positions. The symbol at a place of an encoded text is the one of six bits of the byte
string, found by counting from its start. This holds for any alphabet, and says nothing of blocks.
-/
namespace FixedLayout

/-- The bit at a position of a byte string, counted from the upper bit of its first byte. Behind the
string all bits are zero. -/
def Bytes.bitAt (bytes : Bytes) (position : Nat) : Bool := bytes.bits.getD position false

/-- The number that the six bits at a place spell. -/
def Bytes.sextetAt (bytes : Bytes) (place : Nat) : Base64.Sextet where
  val := Nat.ofBits fun i : Fin 6 => bytes.bitAt (6 * place + i.rev)
  isLt := Nat.ofBits_lt_two_pow _

theorem getElem?_bitString {width offset : Nat} (n : Nat) (inside : offset < width) :
    (bitString width n)[offset]? = some (n.testBit (width - 1 - offset)) := by
  induction width generalizing offset with
  | zero => cases inside
  | succ width ih =>
    cases offset with
    | zero => rfl
    | succ offset =>
      have rest : offset < width := Nat.lt_of_succ_lt_succ inside
      have same : width + 1 - 1 - (offset + 1) = width - 1 - offset := by omega
      rw [bitString, List.getElem?_cons_succ, ih rest, same]

/-- Each item has its bits at the same distance from the start. -/
theorem getElem?_bitStrings {α : Type} {width offset : Nat} {value : α → Nat} (items : List α)
    (place : Nat) (inside : offset < width) :
    (bitStrings width value items)[width * place + offset]? =
      items[place]?.map fun item => (value item).testBit (width - 1 - offset) := by
  induction items generalizing place with
  | nil => rfl
  | cons item rest ih =>
    rw [bitStrings, List.flatMap_cons, ← bitStrings]
    cases place with
    | zero =>
      have first : width * 0 + offset < (bitString width (value item)).length := by
        rw [length_bitString]
        omega
      rw [List.getElem?_append_left first, Nat.mul_zero, Nat.zero_add, getElem?_bitString _ inside]
      rfl
    | succ place =>
      have position : width * (place + 1) + offset =
          (bitString width (value item)).length + (width * place + offset) := by
        rw [length_bitString, Nat.mul_succ]
        omega
      rw [position, List.getElem?_append_right (Nat.le_add_right ..), Nat.add_sub_cancel_left, ih,
        List.getElem?_cons_succ]

theorem Bytes.testBit_sextetAt (bytes : Bytes) (place : Nat) {i : Nat} (inside : i < 6) :
    (bytes.sextetAt place).val.testBit (5 - i) = bytes.bitAt (6 * place + i) := by
  have low : 5 - i < 6 := by omega
  have mirrored : (Fin.rev ⟨5 - i, low⟩ : Fin 6).val = i := by
    rw [Fin.val_rev]
    change 6 - (5 - i + 1) = i
    omega
  rw [sextetAt, Nat.testBit_ofBits_lt _ _ low, mirrored]

/-- Zeros at the end make no difference. -/
theorem getD_append_zeros (bits : List Bool) (count position : Nat) :
    (bits ++ List.replicate count false).getD position false = bits.getD position false := by
  rw [List.getD_eq_getElem?_getD, List.getD_eq_getElem?_getD]
  by_cases inside : position < bits.length
  · rw [List.getElem?_append_left inside]
  · have beyond : bits.length ≤ position := Nat.le_of_not_lt inside
    rw [List.getElem?_append_right beyond, List.getElem?_eq_none beyond, List.getElem?_replicate]
    split
    · rfl
    · rfl

namespace Base64

theorem testBit_sextet {values : List Sextet} {place i : Nat} (inside : place < values.length)
    (small : i < 6) :
    values[place].val.testBit (5 - i) = (sextetBits values).getD (6 * place + i) false := by
  rw [List.getD_eq_getElem?_getD, sextetBits, getElem?_bitStrings values place small,
    List.getElem?_eq_getElem inside]
  rfl

theorem Sextet.ext_testBit {a b : Sextet}
    (same : ∀ i < 6, a.val.testBit (5 - i) = b.val.testBit (5 - i)) : a = b := by
  have bits : bitString 6 a.val = bitString 6 b.val := by
    rw [bitString_eq_iff_testBit]
    intro i inside
    have mirrored := same (5 - i) (by omega)
    have back : 5 - (5 - i) = i := by omega
    rwa [back] at mirrored
  have low : a.val % 64 = b.val % 64 := bitString_eq_iff.mp bits
  rw [Nat.mod_eq_of_lt a.isLt, Nat.mod_eq_of_lt b.isLt] at low
  exact Fin.ext low

theorem length_sextets_eq (bytes : Bytes) :
    (sextets bytes).length = 8 * bytes.length ⌈/⌉ 6 := by
  have length := length_sextets bytes
  rw [padCount] at length
  rw [Nat.ceilDiv_eq_add_pred_div]
  omega

theorem getElem_sextets (bytes : Bytes) {place : Nat} (inside : place < (sextets bytes).length) :
    (sextets bytes)[place] = bytes.sextetAt place := by
  apply Sextet.ext_testBit
  intro i small
  rw [testBit_sextet inside small, sextetBits_sextets, getD_append_zeros,
    bytes.testBit_sextetAt place small, Bytes.bitAt]

/-- The sextets of a byte string, place by place. -/
theorem sextets_eq_map (bytes : Bytes) :
    sextets bytes = (List.range (8 * bytes.length ⌈/⌉ 6)).map bytes.sextetAt := by
  have length := length_sextets_eq bytes
  apply List.ext_getElem
  · rw [List.length_map, List.length_range, length]
  · intro place inside _
    rw [List.getElem_map, List.getElem_range, getElem_sextets]

/-! ### Blocks -/

theorem map_utf8 {text : List Char} (ascii : ∀ c ∈ text, isAscii c) :
    (utf8 (.ofList text)).map Char.ofUInt8 = text := by
  rw [utf8_ofList]
  induction text with
  | nil => rfl
  | cons c rest ih =>
    obtain ⟨first, later⟩ := List.forall_mem_cons.mp ascii
    obtain ⟨byte, encoded, same⟩ := encode_of_ascii first
    rw [List.flatMap_cons, encoded, List.map_append, ih later, List.map_singleton, same]
    rfl

theorem Encoder.encodeToList_nil (encoder : Encoder) : encoder.encodeToList [] = [] := ite_self []

theorem Encoder.encodeToList_block (encoder : Encoder) (a b c : UInt8) (rest : Bytes) :
    encoder.encodeToList (a :: b :: c :: rest) =
      (sextets [a, b, c]).map encoder.alphabet.symbol ++ encoder.encodeToList rest := by
  have pads : padCount (a :: b :: c :: rest).length = padCount rest.length := by
    simp only [padCount, List.length_cons]
    omega
  rw [encodeToList, encodeToList, pads]
  rfl

namespace Blocks

theorem symbol_eq (alphabet : Alphabet) (bits : Nat) :
    symbol (utf8 alphabet.text) bits = some (alphabet.symbol (.ofNat 64 bits)) := by
  have ascii : ∀ c ∈ alphabet.symbols, isAscii c := List.all_eq_true.mp alphabet.ascii
  have place : bits &&& 0x3f = bits % 64 := Nat.and_two_pow_sub_one_eq_mod bits 6
  have inside : bits % 64 < alphabet.symbols.length := by
    rw [alphabet.length_eq]
    exact Nat.mod_lt bits (by decide)
  rw [symbol, ← List.getElem?_map, Alphabet.text, map_utf8 ascii, place,
    List.getElem?_eq_getElem inside]
  rfl

/-- The bytes of a block do not overlap. -/
theorem or_bytes (a b : UInt8) :
    a.toNat <<< 16 ||| b.toNat <<< 8 = a.toNat <<< 16 + b.toNat <<< 8 := by
  have small : b.toNat <<< 8 < 2 ^ 16 := by
    have := b.toNat_lt
    rw [Nat.shiftLeft_eq]
    omega
  exact (Nat.shiftLeft_add_eq_or_of_lt small a.toNat).symm

theorem or_block (a b c : UInt8) : a.toNat <<< 16 ||| b.toNat <<< 8 ||| c.toNat =
    a.toNat <<< 16 + b.toNat <<< 8 + c.toNat := by
  have upper : a.toNat <<< 16 + b.toNat <<< 8 = (a.toNat <<< 8 + b.toNat) <<< 8 := by
    simp only [Nat.shiftLeft_eq]
    omega
  rw [or_bytes, upper, ← Nat.shiftLeft_add_eq_or_of_lt c.toNat_lt]

/-- No index fails, and what is written is the same. -/
theorem encode_eq (encoder : Encoder) (bytes : Bytes) :
    encode (utf8 encoder.alphabet.text) encoder.pad bytes = some (encoder.encodeToList bytes) := by
  induction bytes using sextets.induct with
  | case1 a b c rest ih =>
    rw [encode, or_block, ih, encoder.encodeToList_block]
    simp only [symbol_eq]
    rfl
  | case2 a b =>
    rw [encode, or_bytes]
    simp only [symbol_eq]
    rfl
  | case3 a =>
    rw [encode]
    simp only [symbol_eq]
    rfl
  | case4 =>
    rw [encode, encoder.encodeToList_nil]
    rfl

end Blocks

/-! ### Texts -/

/-- An encoder is made of the symbols that spell its alphabet, and of no others. -/
theorem Encoder.ofSymbols_eq_ok_iff {encoder : Encoder} {symbols : Option String} {pad : Bool} :
    ofSymbols symbols pad = .ok encoder ↔
      symbols.getD Alphabet.standard.text = encoder.alphabet.text ∧ pad = encoder.pad := by
  cases symbols with
  | none =>
    constructor
    · intro made
      cases made
      exact ⟨rfl, rfl⟩
    · rintro ⟨spelled, rfl⟩
      rw [Option.getD_none, Alphabet.text_inj] at spelled
      rw [ofSymbols, spelled]
  | some symbols =>
    rw [ofSymbols, Option.getD_some]
    constructor
    · intro made
      cases accepted : Alphabet.ofString symbols with
      | error error =>
        rw [accepted] at made
        cases made
      | ok alphabet =>
        rw [accepted] at made
        cases made
        exact ⟨(Alphabet.ofString_eq_ok_iff.mp accepted).symm, rfl⟩
    · rintro ⟨spelled, rfl⟩
      rw [Alphabet.ofString_eq_ok_iff.mpr spelled.symm]
      rfl

theorem Encoder.length_encodeToList (encoder : Encoder) (bytes : Bytes) :
    (encoder.encodeToList bytes).length =
      if encoder.pad then 4 * (bytes.length ⌈/⌉ 3) else 8 * bytes.length ⌈/⌉ 6 := by
  rw [encodeToList, List.length_append, List.length_map, length_sextets_eq]
  cases encoder.pad with
  | false => rfl
  | true =>
    rw [if_pos rfl, if_pos rfl, List.length_replicate, padCount, Nat.ceilDiv_eq_add_pred_div,
      Nat.ceilDiv_eq_add_pred_div]
    omega

/-- An encoder, of whatever symbols it is made, writes for each six bits of a byte string the symbol
in their place of the alphabet. Where bits are missing at the end they are zero, and where symbols
are missing in the last group of four they are pad symbols, if there are to be any. Block by block
the same text is written. -/
theorem encode_bitwise (encoder : Encoder) (bytes : Bytes) :
    (∀ symbols pad, Encoder.ofSymbols symbols pad = .ok encoder ↔
      symbols.getD Alphabet.standard.text = encoder.alphabet.text ∧ pad = encoder.pad) ∧
    (encoder.encode bytes).toList =
      (List.range (8 * bytes.length ⌈/⌉ 6)).map
        (fun place => encoder.alphabet.symbol (bytes.sextetAt place)) ++
      (if encoder.pad then List.replicate ((3 - bytes.length % 3) % 3) '=' else []) ∧
    (encoder.encode bytes).length =
      (if encoder.pad then 4 * (bytes.length ⌈/⌉ 3) else 8 * bytes.length ⌈/⌉ 6) ∧
    Blocks.encode (utf8 encoder.alphabet.text) encoder.pad bytes =
      some (encoder.encode bytes).toList := by
  rw [Encoder.encode, String.length_ofList, String.toList_ofList]
  refine ⟨fun symbols pad => Encoder.ofSymbols_eq_ok_iff, ?_, encoder.length_encodeToList bytes,
    Blocks.encode_eq encoder bytes⟩
  rw [Encoder.encodeToList, sextets_eq_map, List.map_map]
  rfl

/-- The third symbol of two bytes stands for four bits and two zeros. -/
example : (Mode.urlSafe.encoder true).encode [251, 255] = "-_8=" := by
  decide +kernel

end Base64
end FixedLayout
