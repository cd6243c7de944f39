import FixedLayout.Proofs.FirstError
import FixedLayout.Proofs.Positions
import FixedLayout.Proofs.RoundTrip

/-!
Reading in another mode than was written. A URL-safe text is read in the standard mode as what it
stands for, or not at all: the first symbol that the standard alphabet lacks is reported, at the
place of its six bits in the byte string.
-/
namespace FixedLayout.Base64

/-- The sextets whose symbols differ between the alphabets. -/
def Sextet.Foreign (value : Sextet) : Prop := value.val = 62 ∨ value.val = 63

instance : DecidablePred Sextet.Foreign := fun _ => inferInstanceAs (Decidable (_ ∨ _))

variable {value : Sextet}

theorem Sextet.foreign_iff : value.Foreign ↔ value = 62 ∨ value = 63 := by
  rw [Foreign, Fin.ext_iff, Fin.ext_iff]
  rfl

theorem denotes_symbol_urlSafe (common : ¬ value.Foreign) :
    Mode.standard.Denotes (Alphabet.urlSafe.symbol value) value := by
  rw [Sextet.foreign_iff, not_or] at common
  left
  rw [Alphabet.symbol_standard, if_neg common.2, if_neg common.1]

theorem symbol_urlSafe_of_foreign (foreign : value.Foreign) :
    Alphabet.urlSafe.symbol value = if value.val = 62 then '-' else '_' := by
  rcases Sextet.foreign_iff.mp foreign with rfl | rfl
  · rfl
  · rfl

theorem not_accepts_symbol_urlSafe (foreign : value.Foreign) :
    ¬ Mode.standard.Accepts (Alphabet.urlSafe.symbol value) := by
  have absent : Alphabet.urlSafe.symbol value ∉ Alphabet.standard.symbols := by
    rw [symbol_urlSafe_of_foreign foreign]
    split
    · decide
    · decide
  rintro (member | ⟨other, -⟩)
  · exact absent member
  · cases other

/-- The bytes are read if none of their sextets is foreign. Otherwise the symbol of the first one
that is gets reported. -/
theorem decodeList_encodeToList_urlSafe (bytes : Bytes) (pad : Bool) :
    (∀ value ∈ sextets bytes, ¬ value.Foreign) ∧
        decodeList .standard ((Mode.urlSafe.encoder pad).encodeToList bytes) = .ok bytes ∨
      ∃ front value back, sextets bytes = front ++ value :: back ∧ value.Foreign ∧
        (∀ value ∈ front, ¬ value.Foreign) ∧
        decodeList .standard ((Mode.urlSafe.encoder pad).encodeToList bytes) =
          .error (.invalidCharacter (if value.val = 62 then '-' else '_') front.length) := by
  have read : decodeList .standard ((Mode.urlSafe.encoder pad).encodeToList bytes) =
      (readSextets .standard 0 ((sextets bytes).map Alphabet.urlSafe.symbol)).map joinSextets :=
    decodeList_encodeToList Mode.urlSafe.pad_not_mem bytes
  have denoted {values : List Sextet} (common : ∀ value ∈ values, ¬ value.Foreign) :
      List.Forall₂ Mode.standard.Denotes (values.map Alphabet.urlSafe.symbol) values :=
    denotes_map_symbol fun value member => denotes_symbol_urlSafe (common value member)
  rw [read]
  cases found : (sextets bytes).find? (·.Foreign) with
  | none =>
    have common : ∀ value ∈ sextets bytes, ¬ value.Foreign := by
      simpa using List.find?_eq_none.mp found
    left
    refine ⟨common, ?_⟩
    rw [readSextets_of_denotes (denoted common)]
    exact congrArg Except.ok (joinSextets_sextets bytes)
  | some value =>
    obtain ⟨foreign, front, back, split, before⟩ := List.find?_eq_some_iff_append.mp found
    have foreign : value.Foreign := of_decide_eq_true foreign
    have common : ∀ value ∈ front, ¬ value.Foreign := by
      simpa using before
    have symbols := denoted common
    right
    refine ⟨front, value, back, split, foreign, common, ?_⟩
    rw [split, List.map_append, List.map_cons, readSextets_append symbols, readSextets,
      Mode.sextet?_eq_none_iff.mpr (not_accepts_symbol_urlSafe foreign),
      byteLength_of_denotes symbols, Nat.zero_add, symbol_urlSafe_of_foreign foreign]
    rfl

/-- A sextet is written for each place where six bits start in the byte string. -/
theorem lt_length_sextets_iff (bytes : Bytes) (place : Nat) :
    place < (sextets bytes).length ↔ 6 * place < 8 * bytes.length := by
  have length := length_sextets bytes
  rw [padCount] at length
  omega

/-- In the standard mode a URL-safe text, padded or not, is read as the bytes that it stands for if
no six of their bits, counted off from the first one, are 62 or 63. Otherwise the symbol of the
first six that are is reported, at their place. -/
theorem decode_standard_encode_urlSafe (bytes : Bytes) (pad : Bool) :
    (∀ place, 6 * place < 8 * bytes.length → ¬ (bytes.sextetAt place).Foreign) ∧
        decode .standard (encode .urlSafe bytes pad) = .ok bytes ∨
      ∃ place, 6 * place < 8 * bytes.length ∧ (bytes.sextetAt place).Foreign ∧
        (∀ earlier < place, ¬ (bytes.sextetAt earlier).Foreign) ∧
        decode .standard (encode .urlSafe bytes pad) = .error
          (.invalidCharacter (if (bytes.sextetAt place).val = 62 then '-' else '_') place) := by
  simp only [← lt_length_sextets_iff]
  rw [decode, encode, Encoder.encode, String.toList_ofList]
  rcases decodeList_encodeToList_urlSafe bytes pad with
    ⟨common, read⟩ | ⟨front, value, back, split, foreign, common, failed⟩
  · left
    refine ⟨?_, read⟩
    intro place inside
    rw [← getElem_sextets bytes inside]
    exact common _ (List.getElem_mem inside)
  · have inside : front.length < (sextets bytes).length := by
      rw [split, List.length_append, List.length_cons]
      omega
    have equal : bytes.sextetAt front.length = value := by
      rw [← getElem_sextets bytes inside]
      exact List.getElem_of_append split rfl
    right
    refine ⟨front.length, inside, equal ▸ foreign, ?_, equal ▸ failed⟩
    intro earlier before
    have within : earlier < (sextets bytes).length := Nat.lt_trans before inside
    have same : (sextets bytes)[earlier] = front[earlier] := by
      simp only [split, List.getElem_append_left before]
    rw [← getElem_sextets bytes within, same]
    exact common _ (List.getElem_mem before)

/-- The six bits that make 62 lie across two bytes. -/
example : encode .urlSafe [0, 0, 0, 3, 239] true = "AAAAA-8=" ∧
    decode .standard "AAAAA-8=" = .error (.invalidCharacter '-' 5) := by
  decide +kernel

end FixedLayout.Base64
