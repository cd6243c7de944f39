import FixedLayout.Proofs.Blocks

/-!
One reader for two alphabets. The URL-safe mode reads a text as the standard mode does with standard
symbols in place of the URL-safe ones: to the same bytes or the same error.
-/
namespace FixedLayout.Base64

/-- A character, with the standard symbol in place of a URL-safe one. -/
def standardized (c : Char) : Char := if c = '-' then '+' else if c = '_' then '/' else c

theorem utf8Size_standardized (c : Char) : (standardized c).utf8Size = c.utf8Size := by
  rw [standardized]
  split
  · rename_i dash
    rw [dash]
    rfl
  · split
    · rename_i underscore
      rw [underscore]
      rfl
    · rfl

theorem standardized_eq_pad_iff (c : Char) : standardized c = padSymbol ↔ c = padSymbol := by
  rw [standardized]
  split
  · rename_i dash
    rw [dash]
    decide
  · split
    · rename_i underscore
      rw [underscore]
      decide
    · rfl

theorem standardized_symbol (value : Sextet) :
    standardized (Alphabet.standard.symbol value) = Alphabet.standard.symbol value ∧
      standardized (Alphabet.urlSafe.symbol value) = Alphabet.standard.symbol value := by
  revert value
  decide +kernel

theorem denotes_standardized (c : Char) (value : Sextet) :
    Mode.standard.Denotes (standardized c) value ↔ Mode.urlSafe.Denotes c value := by
  constructor
  · rintro (symbol | ⟨other, -⟩)
    · rw [standardized] at symbol
      split at symbol
      · rename_i dash
        have last : value = 62 := Alphabet.standard_injective symbol
        exact .inr ⟨rfl, by rw [dash, last]; rfl⟩
      · split at symbol
        · rename_i underscore
          have last : value = 63 := Alphabet.standard_injective symbol
          exact .inr ⟨rfl, by rw [underscore, last]; rfl⟩
        · exact .inl symbol
    · cases other
  · rintro (rfl | ⟨-, rfl⟩)
    · exact .inl (standardized_symbol value).1.symm
    · exact .inl (standardized_symbol value).2.symm

theorem sextet?_standardized (c : Char) :
    Mode.standard.sextet? (standardized c) = Mode.urlSafe.sextet? c := by
  ext value
  rw [Mode.sextet?_eq_some_iff, Mode.sextet?_eq_some_iff, denotes_standardized]

/-- What is reported is left as it is. -/
theorem standardized_of_stray {c : Char} (stray : Mode.urlSafe.sextet? c = none) :
    standardized c = c := by
  rw [Mode.sextet?_eq_none_iff, Mode.accepts_iff, not_exists] at stray
  rw [standardized]
  split
  · rename_i dash
    exact absurd (.inr ⟨rfl, dash ▸ rfl⟩) (stray 62)
  · split
    · rename_i underscore
      exact absurd (.inr ⟨rfl, underscore ▸ rfl⟩) (stray 63)
    · rfl

theorem byteLength_map_standardized (text : List Char) :
    byteLength (text.map standardized) = byteLength text := by
  induction text with
  | nil => rfl
  | cons c rest ih => rw [List.map_cons, byteLength, byteLength, utf8Size_standardized, ih]

theorem dropOne_map_standardized (text : List Char) :
    Blocks.dropOne (text.map standardized) = (Blocks.dropOne text).map standardized := by
  rcases List.eq_nil_or_concat text with rfl | ⟨front, c, rfl⟩
  · rfl
  · rw [List.concat_eq_append, List.map_append, List.map_singleton, Blocks.dropOne_concat,
      Blocks.dropOne_concat]
    simp only [standardized_eq_pad_iff]
    split
    · rfl
    · rw [List.map_append, List.map_singleton]

theorem body_map_standardized (text : List Char) :
    body (text.map standardized) = (body text).map standardized := by
  rw [body, body, byteLength_map_standardized]
  split
  · rw [Blocks.dropPad_eq_dropOne, Blocks.dropPad_eq_dropOne, dropOne_map_standardized,
      dropOne_map_standardized]
  · rfl

theorem readSextets_map_standardized (text : List Char) (position : Nat) :
    readSextets .standard position (text.map standardized) =
      readSextets .urlSafe position text := by
  induction text generalizing position with
  | nil => rfl
  | cons c rest ih =>
    rw [List.map_cons, readSextets, readSextets, sextet?_standardized, utf8Size_standardized, ih]
    cases known : Mode.urlSafe.sextet? c with
    | none => rw [standardized_of_stray known]
    | some value => rfl

theorem decodeList_map_standardized (text : List Char) :
    decodeList .standard (text.map standardized) = decodeList .urlSafe text := by
  rw [decodeList_eq, decodeList_eq, byteLength_map_standardized, body_map_standardized,
    readSextets_map_standardized]

theorem decodeList_urlSafe_of_standard {text : List Char} {bytes : Bytes}
    (decoded : decodeList .standard text = .ok bytes) : decodeList .urlSafe text = .ok bytes := by
  obtain ⟨whole, values, denoted, joined⟩ := decodeList_eq_ok_iff.mp decoded
  refine decodeList_eq_ok_iff.mpr ⟨whole, values, denoted.imp ?_, joined⟩
  rintro c value (symbol | ⟨other, -⟩)
  · exact .inl symbol
  · cases other

/-- The URL-safe mode answers as the standard mode does to the text with standard symbols, whether it
decodes or not, and block by block as well. What the standard mode decodes is decoded by both. -/
theorem decode_urlSafe_eq (text : String) :
    decode .urlSafe text = decode .standard (text.map standardized) ∧
    (∀ bytes, decode .standard text = .ok bytes → decode .urlSafe text = .ok bytes) ∧
    ∀ fallback, Blocks.decode fallback .urlSafe text =
      Blocks.decode fallback .standard (text.map standardized) := by
  have translated : text.map standardized = .ofList (text.toList.map standardized) := by
    rw [← String.toList_map, String.ofList_toList]
  refine ⟨?_, fun bytes decoded => decodeList_urlSafe_of_standard decoded, fun fallback => ?_⟩
  · rw [decode, decode, String.toList_map, decodeList_map_standardized]
  · have blocks := Blocks.decode_eq_answer fallback .urlSafe text.toList
    rw [String.ofList_toList] at blocks
    rw [blocks, translated, Blocks.decode_eq_answer, decodeList_map_standardized]

/-- Both read a text of standard symbols; a character that is no symbol is reported as it was. -/
theorem decode_urlSafe_eq_both :
    decode .standard "+/8=" = .ok [251, 255] ∧ decode .urlSafe "+/8=" = .ok [251, 255] ∧
    decode .urlSafe "_-\u00e9" = .error (.invalidCharacter '\u00e9' 2) := by
  have read : decode .standard "+/8=" = .ok [251, 255] := by decide +kernel
  have reported : decode .standard ("_-\u00e9".map standardized) =
      .error (.invalidCharacter '\u00e9' 2) := by
    decide +kernel
  refine ⟨read, (decode_urlSafe_eq "+/8=").2.1 _ read, ?_⟩
  rw [(decode_urlSafe_eq _).1, reported]

end FixedLayout.Base64
