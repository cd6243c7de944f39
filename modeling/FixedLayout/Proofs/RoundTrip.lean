import FixedLayout.Proofs.Grammar

/-!
Reading back what was written. A reader that knows the symbols of an encoder takes their padding for
what it is, and gets the bytes that were encoded.
-/
namespace FixedLayout.Base64

variable {reader : Mode} {encoder : Encoder}

theorem dropPad_append_pads {text : List Char} {count : Nat} (bare : text.getLast? ≠ some padSymbol)
    (few : count ≤ 2) : dropPad (text ++ List.replicate count padSymbol) = text := by
  have reversed : text ++ List.replicate count padSymbol =
      (List.replicate count padSymbol ++ text.reverse).reverse := by
    simp
  have last : text.reverse.takeWhile (· = padSymbol) = [] := by
    cases ending : text.reverse with
    | nil => rfl
    | cons c rest =>
      have other : c ≠ padSymbol := by
        rintro rfl
        rw [← List.head?_reverse, ending] at bare
        exact bare rfl
      simp [other]
  rw [reversed, dropPad_reverse, List.takeWhile_append_of_pos (by simp), last, List.append_nil,
    List.length_replicate, Nat.min_eq_right few, List.drop_left' (List.length_replicate ..),
    List.reverse_reverse]

/-- Padding is recognized behind a text that does not end in a pad symbol itself. -/
theorem body_append_pad {text : List Char} {count : Nat} (bare : text.getLast? ≠ some padSymbol)
    (few : count ≤ 2)
    (whole : count ≠ 0 → byteLength (text ++ List.replicate count padSymbol) % 4 = 0) :
    body (text ++ List.replicate count padSymbol) = text := by
  rw [body_eq]
  split
  · exact dropPad_append_pads bare few
  · rename_i bound
    have none : count = 0 := by
      by_contra some
      exact bound (whole some)
    rw [none, List.replicate_zero, List.append_nil]

theorem byteLength_symbols (encoder : Encoder) (values : List Sextet) :
    byteLength (values.map encoder.alphabet.symbol) = values.length := by
  rw [byteLength_of_ascii, List.length_map]
  intro c member
  obtain ⟨value, -, rfl⟩ := List.mem_map.mp member
  exact encoder.alphabet.isAscii_symbol value

/-- An encoder writes symbols, then either no padding or what makes the text one of whole groups. -/
theorem Encoder.exists_encodeToList_eq (encoder : Encoder) (bytes : Bytes) : ∃ count ≤ 2,
    encoder.encodeToList bytes =
      (sextets bytes).map encoder.alphabet.symbol ++ List.replicate count padSymbol ∧
    (count ≠ 0 → ((sextets bytes).length + count) % 4 = 0) ∧
    ((sextets bytes).length + count) % 4 ≠ 1 := by
  have length := length_sextets bytes
  rw [padCount] at length
  cases pad : encoder.pad with
  | false =>
    refine ⟨0, by decide, ?_, fun padded => absurd rfl padded, by omega⟩
    simp [encodeToList, pad]
  | true =>
    refine ⟨padCount bytes.length, ?_, ?_, ?_, ?_⟩
    · rw [padCount]
      omega
    · simp [encodeToList, pad]
    · rw [padCount]
      omega
    · rw [padCount]
      omega

/-- A reader gets to the symbols of what was encoded, and to no padding. -/
theorem decodeList_encodeToList (safe : padSymbol ∉ encoder.alphabet.symbols) (bytes : Bytes) :
    decodeList reader (encoder.encodeToList bytes) =
      (readSextets reader 0 ((sextets bytes).map encoder.alphabet.symbol)).map joinSextets := by
  obtain ⟨count, few, written, whole, balanced⟩ := encoder.exists_encodeToList_eq bytes
  have length : byteLength (encoder.encodeToList bytes) = (sextets bytes).length + count := by
    rw [written, byteLength_append, byteLength_symbols, byteLength_pad]
  have bare : ((sextets bytes).map encoder.alphabet.symbol).getLast? ≠ some padSymbol := by
    intro last
    obtain ⟨value, -, pad⟩ := List.mem_map.mp (List.mem_of_getLast? last)
    exact safe (Alphabet.mem_symbols_iff.mpr ⟨value, pad⟩)
  have symbols : body (encoder.encodeToList bytes) =
      (sextets bytes).map encoder.alphabet.symbol := by
    rw [← length, written] at whole
    rw [written, body_append_pad bare few whole]
  rw [decodeList_eq, length, if_neg balanced, symbols]

theorem pad_not_mem_of_legible {alphabet : Alphabet}
    (legible : ∀ value, reader.Denotes (alphabet.symbol value) value) :
    padSymbol ∉ alphabet.symbols := by
  intro member
  obtain ⟨value, pad⟩ := Alphabet.mem_symbols_iff.mp member
  exact reader.not_denotes_pad value (pad ▸ legible value)

theorem denotes_map_symbol {alphabet : Alphabet} {values : List Sextet}
    (legible : ∀ value ∈ values, reader.Denotes (alphabet.symbol value) value) :
    List.Forall₂ reader.Denotes (values.map alphabet.symbol) values := by
  rw [List.forall₂_map_left_iff, List.forall₂_same]
  exact legible

theorem decodeList_encodeToList_of_legible
    (legible : ∀ value, reader.Denotes (encoder.alphabet.symbol value) value) (bytes : Bytes) :
    decodeList reader (encoder.encodeToList bytes) = .ok bytes := by
  rw [decodeList_encodeToList (pad_not_mem_of_legible legible),
    readSextets_of_denotes (denotes_map_symbol fun value _ => legible value)]
  exact congrArg Except.ok (joinSextets_sextets bytes)

theorem decode_encode_of_legible {reader writer : Mode}
    (legible : ∀ value, reader.Denotes (writer.alphabet.symbol value) value) (bytes : Bytes)
    (pad : Bool) : decode reader (encode writer bytes pad) = .ok bytes := by
  rw [decode, encode, Encoder.encode, String.toList_ofList]
  exact decodeList_encodeToList_of_legible legible bytes

theorem Mode.denotes_symbol (mode : Mode) (value : Sextet) :
    mode.Denotes (mode.alphabet.symbol value) value := by
  cases mode with
  | standard => exact .inl rfl
  | urlSafe => exact .inr ⟨rfl, rfl⟩

theorem Mode.pad_not_mem (mode : Mode) : padSymbol ∉ mode.alphabet.symbols :=
  pad_not_mem_of_legible mode.denotes_symbol

/-- What was encoded is read back, padded or not. The URL-safe mode reads the texts of both. -/
theorem decode_encode_eq_ok (mode : Mode) (bytes : Bytes) (pad : Bool) :
    decode .urlSafe (encode mode bytes pad) = .ok bytes ∧
      decode .standard (encode .standard bytes pad) = .ok bytes := by
  constructor
  · apply decode_encode_of_legible
    intro value
    cases mode with
    | standard => exact .inl rfl
    | urlSafe => exact Mode.urlSafe.denotes_symbol value
  · exact decode_encode_of_legible Mode.standard.denotes_symbol bytes pad

end FixedLayout.Base64
