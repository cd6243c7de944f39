import FixedLayout.Proofs.Positions
import FixedLayout.Proofs.RoundTrip

/-!
One text for all that are read alike. What is read and written again keeps the values of its symbols,
but for the bits of the last one that fill no byte: these become zero. Texts are read alike exactly
if they have the same values after that, in whatever alphabets they are written.
-/
namespace FixedLayout.Base64

/-- How many bits the last of so many symbols holds beyond the last whole byte. -/
def spareBits (count : Nat) : Nat :=
  if count % 4 = 2 then 4 else if count % 4 = 3 then 2 else 0

/-- A sextet with zeros for so many of its lowest bits. -/
def clearLow (count : Nat) (value : Sextet) : Sextet where
  val := value.val >>> count <<< count
  isLt := by
    rw [Nat.shiftLeft_eq, Nat.shiftRight_eq_div_pow]
    exact Nat.lt_of_le_of_lt (Nat.div_mul_le_self ..) value.isLt

/-- The values of a text, with zeros for the spare bits of the last one. -/
def canonical (values : List Sextet) : List Sextet :=
  values.mapIdx fun place value =>
    if place + 1 = values.length then clearLow (spareBits values.length) value else value

theorem length_canonical (values : List Sextet) : (canonical values).length = values.length :=
  List.length_mapIdx

theorem testBit_clearLow (count i : Nat) (value : Sextet) :
    (clearLow count value).val.testBit i = (decide (count ≤ i) && value.val.testBit i) := by
  rw [clearLow, Nat.testBit_shiftLeft, Nat.testBit_shiftRight]
  by_cases above : count ≤ i
  · rw [Nat.add_sub_cancel' above]
  · simp [above]

/-- Of the bits of symbols a byte string has those of whole bytes. -/
theorem bitAt_joinSextets (values : List Sextet) (position : Nat) :
    (joinSextets values).bitAt position = (decide (position < 8 * (6 * values.length / 8)) &&
      (sextetBits values).getD position false) := by
  have start := List.prefix_iff_eq_take.mp (bits_joinSextets values)
  rw [Bytes.length_bits, length_joinSextets] at start
  rw [Bytes.bitAt, start, List.getD_eq_getElem?_getD, List.getD_eq_getElem?_getD, List.getElem?_take]
  split
  · rename_i inside
    rw [decide_eq_true inside, Bool.true_and]
  · rename_i beyond
    rw [decide_eq_false beyond, Bool.false_and]
    rfl

/-- The bits of whole bytes are those of all symbols but for the spare ones. -/
theorem lt_whole_iff {count place i : Nat} (balanced : count % 4 ≠ 1) (inside : place < count)
    (small : i < 6) : 6 * place + i < 8 * (6 * count / 8) ↔
      (place + 1 = count → spareBits count ≤ 5 - i) := by
  rw [spareBits]
  split
  · omega
  · split
    · omega
    · omega

theorem sextets_joinSextets {values : List Sextet} (balanced : values.length % 4 ≠ 1) :
    sextets (joinSextets values) = canonical values := by
  have length : (sextets (joinSextets values)).length = (canonical values).length := by
    have shapes : values.length % 4 = 0 ∨ values.length % 4 = 2 ∨ values.length % 4 = 3 := by omega
    rw [length_sextets_eq, length_joinSextets, length_canonical, Nat.ceilDiv_eq_add_pred_div]
    rcases shapes with whole | two | three
    · omega
    · omega
    · omega
  apply List.ext_getElem length
  intro place inside inside'
  rw [length_canonical] at inside'
  rw [getElem_sextets]
  simp only [canonical, List.getElem_mapIdx]
  apply Sextet.ext_testBit
  intro i small
  rw [Bytes.testBit_sextetAt _ place small, bitAt_joinSextets, ← testBit_sextet inside' small]
  have kept := lt_whole_iff balanced inside' small
  split
  · rename_i last
    rw [testBit_clearLow]
    simp only [kept, last, true_implies]
  · rename_i other
    have whole := kept.mpr fun last => absurd last other
    rw [decide_eq_true whole, Bool.true_and]

theorem sextets_inj {a b : Bytes} : sextets a = sextets b ↔ a = b := by
  constructor
  · intro same
    rw [← joinSextets_sextets a, same, joinSextets_sextets]
  · rintro rfl
    rfl

variable {mode : Mode} {text : String} {bytes : Bytes}

theorem exists_sextets_eq_canonical (decoded : decode mode text = .ok bytes) :
    ∃ values, List.Forall₂ mode.Denotes (unpadded text) values ∧
      sextets bytes = canonical values := by
  rw [decode, decodeList_eq_ok_iff] at decoded
  obtain ⟨whole, values, denoted, rfl⟩ := decoded
  have balanced : values.length % 4 ≠ 1 := by
    rwa [← byteLength_of_denotes denoted, ne_eq, byteLength_body_mod]
  rw [body_toList] at denoted
  exact ⟨values, denoted, sextets_joinSextets balanced⟩

theorem toList_encode_false (mode : Mode) (bytes : Bytes) :
    (encode mode bytes false).toList = (sextets bytes).map mode.alphabet.symbol := by
  simp [encode, Mode.encoder, Encoder.encode, Encoder.encodeToList]

/-- What was read and is written again has as many symbols as before, of the same values, but for the
spare bits of the last one. Texts are read alike if and only if nothing but these bits, their
alphabets and their padding tells them apart. -/
theorem reencode_canonical (decoded : decode mode text = .ok bytes) :
    ∃ values, List.Forall₂ mode.Denotes (unpadded text) values ∧
      (encode .standard bytes false).length = (unpadded text).length ∧
      List.Forall₂ Mode.standard.Denotes (encode .standard bytes false).toList (canonical values) ∧
      ∀ (other : Mode) (text' : String) (bytes' : Bytes), decode other text' = .ok bytes' →
        ∃ values', List.Forall₂ other.Denotes (unpadded text') values' ∧
          (bytes' = bytes ↔ canonical values' = canonical values) := by
  obtain ⟨values, denoted, written⟩ := exists_sextets_eq_canonical decoded
  refine ⟨values, denoted, ?_, ?_, ?_⟩
  · rw [← String.length_toList, toList_encode_false, written, List.length_map, length_canonical,
      denoted.length_eq]
  · rw [toList_encode_false, written, List.forall₂_map_left_iff, List.forall₂_same]
    exact fun value _ => Mode.standard.denotes_symbol value
  · intro other text' bytes' decoded'
    obtain ⟨values', denoted', written'⟩ := exists_sextets_eq_canonical decoded'
    refine ⟨values', denoted', ?_⟩
    rw [← sextets_inj, written, written']

/-- Two symbols of the URL-safe alphabet, one of them with a spare bit, and padding. -/
theorem reencode_canonical_spare :
    decode .urlSafe "-/9=" = .ok [251, 255] ∧ decode .standard "+/8" = .ok [251, 255] ∧
    ∃ values, List.Forall₂ Mode.urlSafe.Denotes (unpadded "-/9=") values ∧
      List.Forall₂ Mode.standard.Denotes (encode .standard [251, 255] false).toList
        (canonical values) ∧
      canonical values = [62, 63, 60] := by
  have padded : decode .urlSafe "-/9=" = .ok [251, 255] := by decide +kernel
  have bare : decode .standard "+/8" = .ok [251, 255] := by decide +kernel
  obtain ⟨values, denoted, -, written, alike⟩ := reencode_canonical padded
  obtain ⟨values', denoted', same⟩ := alike .standard "+/8" [251, 255] bare
  have symbols : List.Forall₂ Mode.standard.Denotes (unpadded "+/8") [62, 63, 60] :=
    .cons (.inl rfl) (.cons (.inl rfl) (.cons (.inl rfl) .nil))
  refine ⟨padded, bare, values, denoted, written, ?_⟩
  rw [← same.mp rfl, ← denotes_unique symbols denoted']
  decide

end FixedLayout.Base64
