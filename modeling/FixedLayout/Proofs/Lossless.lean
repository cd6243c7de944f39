import FixedLayout.Proofs.Canonical

/-!
Which encoders lose nothing. Every alphabet of 64 ASCII characters is accepted, but not every one
tells byte strings apart: two symbols may be the same, and padding may look like a symbol. Nothing
else goes wrong.
-/
namespace FixedLayout.Base64

variable {encoder : Encoder}

theorem clearLow_zero (value : Sextet) : clearLow 0 value = value := rfl

/-- Whole groups have no spare bits. -/
theorem canonical_of_whole {values : List Sextet} (whole : values.length % 4 = 0) :
    canonical values = values := by
  have none : spareBits values.length = 0 := by
    rw [spareBits, whole]
    rfl
  apply List.ext_getElem (length_canonical values)
  intro place inside inside'
  simp only [canonical, List.getElem_mapIdx, none, clearLow_zero, ite_self]

theorem sextets_group {values : List Sextet} (four : values.length = 4) :
    sextets (joinSextets values) = values := by
  have whole : values.length % 4 = 0 := by rw [four]
  rw [sextets_joinSextets (by omega), canonical_of_whole whole]

/-- Any four symbols are the text of three bytes, padded or not. -/
theorem encodeToList_group (encoder : Encoder) {values : List Sextet} (four : values.length = 4) :
    encoder.encodeToList (joinSextets values) = values.map encoder.alphabet.symbol := by
  rw [Encoder.encodeToList, sextets_group four, length_joinSextets, four]
  simp [padCount]

/-- If two symbols are the same, then so are two texts of one group. -/
theorem symbol_injective_of_encode (lossless : encoder.encode.Injective) :
    encoder.alphabet.symbol.Injective := by
  intro u v same
  have texts : encoder.encode (joinSextets [u, 0, 0, 0]) =
      encoder.encode (joinSextets [v, 0, 0, 0]) := by
    rw [Encoder.encode, Encoder.encode, encodeToList_group encoder rfl,
      encodeToList_group encoder rfl, List.map_cons, same]
    rfl
  have groups := congrArg sextets (lossless texts)
  rw [sextets_group rfl, sextets_group rfl] at groups
  exact (List.cons.inj groups).1

/-- If the pad symbol is in the alphabet, then one byte has the text of three. -/
theorem pad_not_mem_of_encode (lossless : encoder.encode.Injective) (pad : encoder.pad = true) :
    padSymbol ∉ encoder.alphabet.symbols := by
  intro member
  obtain ⟨value, symbol⟩ := Alphabet.mem_symbols_iff.mp member
  have texts : encoder.encode [0] = encoder.encode (joinSextets [0, 0, value, value]) := by
    rw [Encoder.encode, Encoder.encode, encodeToList_group encoder rfl, Encoder.encodeToList, pad]
    simp only [List.map_cons, List.map_nil, symbol]
    rfl
  have lengths := congrArg List.length (lossless texts)
  rw [length_joinSextets] at lengths
  exact absurd lengths (by simp)

/-- Without its pad symbols a text is left with the symbols of the bytes. -/
theorem filter_encodeToList (pad : encoder.pad = true)
    (safe : padSymbol ∉ encoder.alphabet.symbols) (bytes : Bytes) :
    (encoder.encodeToList bytes).filter (· ≠ padSymbol) =
      (sextets bytes).map encoder.alphabet.symbol := by
  have symbols : ∀ c ∈ (sextets bytes).map encoder.alphabet.symbol, c ≠ padSymbol := by
    rintro c member rfl
    obtain ⟨value, -, symbol⟩ := List.mem_map.mp member
    exact safe (Alphabet.mem_symbols_iff.mpr ⟨value, symbol⟩)
  rw [Encoder.encodeToList, if_pos pad, List.filter_append,
    List.filter_eq_self.mpr fun c member => decide_eq_true (symbols c member)]
  simp

theorem encode_injective (distinct : encoder.alphabet.symbol.Injective)
    (safe : encoder.pad = true → padSymbol ∉ encoder.alphabet.symbols) :
    encoder.encode.Injective := by
  intro a b same
  have texts : encoder.encodeToList a = encoder.encodeToList b := String.ofList_injective same
  have symbols : (sextets a).map encoder.alphabet.symbol =
      (sextets b).map encoder.alphabet.symbol := by
    cases pad : encoder.pad with
    | false => simpa [Encoder.encodeToList, pad] using texts
    | true => rw [← filter_encodeToList pad (safe pad), texts, filter_encodeToList pad (safe pad)]
  exact sextets_inj.mp (distinct.list_map symbols)

/-- An encoder tells all byte strings apart if and only if its symbols are different from each other
and, in case that it pads, from the pad symbol. -/
theorem encode_injective_iff {symbols : Option String} {pad : Bool}
    (made : Encoder.ofSymbols symbols pad = .ok encoder) :
    encoder.encode.Injective ↔
      (symbols.getD Alphabet.standard.text).toList.Nodup ∧
        (pad = true → '=' ∉ (symbols.getD Alphabet.standard.text).toList) := by
  obtain ⟨spelled, rfl⟩ := Encoder.ofSymbols_eq_ok_iff.mp made
  rw [spelled, Alphabet.text, String.toList_ofList, Alphabet.nodup_symbols_iff]
  constructor
  · intro lossless
    exact ⟨symbol_injective_of_encode lossless, pad_not_mem_of_encode lossless⟩
  · rintro ⟨distinct, safe⟩
    exact encode_injective distinct safe

/-- With the pad symbol in place of the first letter, only an encoder that does not pad is safe. -/
theorem encode_injective_iff_pad :
    let symbols := "=BCDEFGHIJKLMNOPQRSTUVWXYZabcdefghijklmnopqrstuvwxyz0123456789+/"
    ∃ padded bare, Encoder.ofSymbols (some symbols) true = .ok padded ∧
      Encoder.ofSymbols (some symbols) false = .ok bare ∧
      ¬ padded.encode.Injective ∧ bare.encode.Injective := by
  intro symbols
  let alphabet : Alphabet :=
    { symbols := symbols.toList, length_eq := by decide, ascii := by decide }
  have padded : Encoder.ofSymbols (some symbols) true = .ok { alphabet, pad := true } :=
    Encoder.ofSymbols_eq_ok_iff.mpr ⟨String.ofList_toList.symm, rfl⟩
  have bare : Encoder.ofSymbols (some symbols) false = .ok { alphabet, pad := false } :=
    Encoder.ofSymbols_eq_ok_iff.mpr ⟨String.ofList_toList.symm, rfl⟩
  refine ⟨_, _, padded, bare, ?_, ?_⟩
  · rw [encode_injective_iff padded, Option.getD_some]
    rintro ⟨-, safe⟩
    exact safe rfl (by decide +kernel)
  · rw [encode_injective_iff bare, Option.getD_some]
    exact ⟨by decide +kernel, fun pad => absurd pad (by decide)⟩

end FixedLayout.Base64
