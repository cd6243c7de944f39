import FixedLayout.Base64.Vector
import FixedLayout.Proofs.FirstError
import FixedLayout.Proofs.RoundTrip

/-!
Vectors as text. Every vector with bytes has a text, which is parsed back to it, and the text holds
nothing that would end it early. The vector without bytes has none, and no text but the empty one
stands for it.
-/
namespace FixedLayout.Base64

variable {mode : Mode} {bytes : Bytes}

/-! ### Parsing -/

/-- A text that stands for no bytes has no symbols, and then whole groups of padding would be more
than counts as padding. -/
theorem eq_nil_of_decodeList {text : List Char} (decoded : decodeList mode text = .ok []) :
    text = [] := by
  obtain ⟨balanced, values, denoted, joined⟩ := decodeList_eq_ok_iff.mp decoded
  obtain ⟨count, few, split, padded⟩ := exists_body_append text
  have symbols : byteLength (body text) = values.length := byteLength_of_denotes denoted
  have several : values.length % 4 ≠ 1 := by
    rwa [← symbols, ne_eq, byteLength_body_mod]
  have bytes : 6 * values.length / 8 = 0 := by
    rw [← length_joinSextets, joined, List.length_nil]
  have length : byteLength text = values.length + count := by
    rw [split, byteLength_append, byteLength_pad, symbols]
  exact byteLength_eq_zero_iff.mp (by omega)

theorem decode_eq_ok_nil_iff {text : String} : decode mode text = .ok [] ↔ text = "" := by
  constructor
  · intro decoded
    exact String.toList_eq_nil_iff.mp (eq_nil_of_decodeList decoded)
  · rintro rfl
    rfl

/-- The decoder itself has no complaint about a text for being empty. -/
theorem decode_ne_empty (mode : Mode) (text : String) : decode mode text ≠ .error .empty := by
  intro failed
  rw [decode, decodeList_eq] at failed
  split at failed
  · cases failed
  · cases read : readSextets mode 0 (body text.toList) with
    | error error =>
      rw [read] at failed
      cases failed
      obtain ⟨c, place, other⟩ := exists_of_readSextets_eq_error read
      cases other
    | ok values =>
      rw [read] at failed
      cases failed

theorem parseVector_of_decode {text : String} (decoded : decode mode text = .ok bytes)
    (filled : bytes ≠ []) : parseVector mode text = .ok bytes := by
  have content : bytes.isEmpty = false := List.isEmpty_eq_false_iff.mpr filled
  rw [parseVector, decoded]
  change (if bytes.isEmpty then _ else _) = _
  rw [content]
  rfl

/-- Only the empty text is treated apart. -/
theorem parseVector_eq (mode : Mode) (text : String) :
    parseVector mode text = if text = "" then .error .empty else decode mode text := by
  split
  · rename_i empty
    rw [parseVector, decode_eq_ok_nil_iff.mpr empty]
    rfl
  · rename_i written
    cases decoded : decode mode text with
    | error error =>
      rw [parseVector, decoded]
      rfl
    | ok bytes =>
      apply parseVector_of_decode decoded
      rintro rfl
      exact written (decode_eq_ok_nil_iff.mp decoded)

theorem parseVector_encode {reader writer : Mode}
    (legible : ∀ value, reader.Denotes (writer.alphabet.symbol value) value) (filled : bytes ≠ [])
    (pad : Bool) : parseVector reader (encode writer bytes pad) = .ok bytes :=
  parseVector_of_decode (decode_encode_of_legible legible bytes pad) filled

/-! ### Printing -/

theorem printVector_eq_none_iff {options : PrintOptions} :
    printVector mode bytes options = none ↔ bytes = [] := by
  cases bytes with
  | nil => simp [printVector]
  | cons byte rest => simp [printVector]

/-- The text of a vector is what its bytes are encoded to. Only URL-safe text may be left without
padding. -/
theorem exists_printVector_encode (mode : Mode) (filled : bytes ≠ []) (options : PrintOptions) :
    ∃ pad, printVector mode bytes options = some ("\"" ++ encode mode bytes pad ++ "\"") ∧
      (pad = true → mode = .standard ∨ options.cancelPadding = false) := by
  have content : bytes.isEmpty = false := List.isEmpty_eq_false_iff.mpr filled
  rw [printVector, content]
  refine ⟨_, rfl, ?_⟩
  cases mode with
  | standard => simp
  | urlSafe => simp

/-- A vector with bytes has a text, and the text is read back. -/
theorem exists_printVector (mode : Mode) {bytes : Bytes} (filled : bytes ≠ [])
    (options : PrintOptions) : ∃ text,
      printVector mode bytes options = some ("\"" ++ text ++ "\"") ∧
      parseVector mode text = .ok bytes := by
  obtain ⟨pad, printed, -⟩ := exists_printVector_encode mode filled options
  exact ⟨_, printed, parseVector_encode mode.denotes_symbol filled pad⟩

theorem mem_encode {c : Char} {pad : Bool} (member : c ∈ (encode mode bytes pad).toList) :
    c ∈ mode.alphabet.symbols ∨ pad = true ∧ c = padSymbol := by
  rw [encode, Encoder.encode, String.toList_ofList, Encoder.encodeToList, List.mem_append] at member
  rcases member with symbol | padding
  · obtain ⟨value, -, rfl⟩ := List.mem_map.mp symbol
    exact .inl (Alphabet.mem_symbols_iff.mpr ⟨value, rfl⟩)
  · right
    split at padding
    · rename_i padded
      exact ⟨padded, List.eq_of_mem_replicate padding⟩
    · cases padding

theorem quote_not_mem (mode : Mode) : '"' ∉ mode.alphabet.symbols := by
  cases mode with
  | standard => decide
  | urlSafe => decide

/-- The symbols of both modes are good for the URL-safe one. -/
theorem urlSafe_denotes_symbol (mode : Mode) (value : Sextet) :
    Mode.urlSafe.Denotes (mode.alphabet.symbol value) value := by
  cases mode with
  | standard => exact .inl rfl
  | urlSafe => exact .inr ⟨rfl, rfl⟩

/-- Exactly the vectors with bytes are printed. Between its quotes the text of one has no quote, and
no padding where this is canceled in the URL-safe mode; it is parsed back in the mode that it was
printed in, and in the URL-safe mode in any case. Parsing decodes all texts but the empty one, which
no vector is printed as. -/
theorem vectors_have_texts (mode : Mode) :
    (∀ bytes options, printVector mode bytes options = none ↔ bytes = []) ∧
    (∀ bytes options, bytes ≠ [] → ∃ text,
      printVector mode bytes options = some ("\"" ++ text ++ "\"") ∧ '"' ∉ text.toList ∧
      ('=' ∈ text.toList → mode = .standard ∨ options.cancelPadding = false) ∧
      parseVector mode text = .ok bytes ∧ parseVector .urlSafe text = .ok bytes) ∧
    ∀ text, (parseVector mode text = .error .empty ↔ text = "") ∧
      (text ≠ "" → parseVector mode text = decode mode text) := by
  refine ⟨fun _ _ => printVector_eq_none_iff, ?_, ?_⟩
  · intro bytes options filled
    obtain ⟨pad, printed, padded⟩ := exists_printVector_encode mode filled options
    have parsed := parseVector_encode mode.denotes_symbol filled pad
    have parsed' := parseVector_encode (urlSafe_denotes_symbol mode) filled pad
    refine ⟨encode mode bytes pad, printed, ?_, ?_, parsed, parsed'⟩
    · intro quote
      rcases mem_encode quote with symbol | ⟨-, padding⟩
      · exact quote_not_mem mode symbol
      · exact absurd padding (by decide)
    · intro padding
      rcases mem_encode padding with symbol | ⟨pads, -⟩
      · exact absurd symbol mode.pad_not_mem
      · exact padded pads
  · intro text
    rw [parseVector_eq]
    by_cases empty : text = ""
    · simp [empty]
    · simp [empty, decode_ne_empty]

/-- Text without padding, and texts of nothing but padding, of which none stands for no bytes. -/
theorem vectors_have_texts_bare :
    (∃ text, printVector .urlSafe [251] ⟨true⟩ = some ("\"" ++ text ++ "\"") ∧
      '=' ∉ text.toList ∧ parseVector .urlSafe text = .ok [251]) ∧
    parseVector .urlSafe "====" = .error (.invalidCharacter '=' 0) := by
  obtain ⟨-, printed, parsed⟩ := vectors_have_texts .urlSafe
  constructor
  · obtain ⟨text, shown, -, padding, read, -⟩ := printed [251] ⟨true⟩ (by decide)
    refine ⟨text, shown, ?_, read⟩
    intro pads
    rcases padding pads with other | other
    · cases other
    · cases other
  · rw [(parsed "====").2 (by decide)]
    decide +kernel

end FixedLayout.Base64
