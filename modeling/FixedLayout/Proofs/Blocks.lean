import FixedLayout.Bytes.Lemmas
import FixedLayout.Proofs.Utf8

/-!
Reading block by block. Over blocks, and with every access checked, the decoder reads the symbols one
after the other as if there were no blocks, and no check fails; the characters that it looks up for
bytes that are no symbols are there.
-/
namespace FixedLayout.Base64.Blocks

variable {report : Nat → Error} {mode : Mode} {position : Nat}

/-- The end of a decoder none of whose checks fails. -/
def answer (result : Except Error α) : Decoder α := some result

theorem answer_ok_bind (value : α) (next : α → Decoder β) :
    answer (.ok value) >>= next = next value :=
  rfl

theorem some_bind (value : α) (next : α → Decoder β) :
    (liftM (some value) : Decoder α) >>= next = next value :=
  rfl

/-! ### Padding -/

/-- A text without a pad symbol at its end. -/
def dropOne (text : List Char) : List Char :=
  if text.getLast? = some padSymbol then text.dropLast else text

theorem dropOne_concat (front : List Char) (c : Char) :
    dropOne (front ++ [c]) = if c = padSymbol then front else front ++ [c] := by
  simp [dropOne]

theorem dropPad_eq_dropOne (text : List Char) : Base64.dropPad text = dropOne (dropOne text) := by
  rcases List.eq_nil_or_concat text with rfl | ⟨front, c, rfl⟩
  · rfl
  · rw [List.concat_eq_append, dropOne_concat]
    by_cases pad : c = padSymbol
    · subst pad
      rw [if_pos rfl]
      rcases List.eq_nil_or_concat front with rfl | ⟨front, d, rfl⟩
      · rfl
      · rw [List.concat_eq_append, dropOne_concat]
        by_cases second : d = padSymbol
        · simpa [second] using dropPad_reverse (padSymbol :: d :: front.reverse)
        · simpa [second] using dropPad_reverse (padSymbol :: d :: front.reverse)
    · rw [if_neg pad, dropOne_concat, if_neg pad]
      simpa [pad] using dropPad_reverse (c :: front.reverse)

theorem exists_dropOne_append (text : List Char) :
    ∃ count ≤ 1, text = dropOne text ++ List.replicate count padSymbol := by
  rw [dropOne]
  split
  · rename_i pad
    exact ⟨1, Nat.le_refl 1, (List.dropLast_append_getLast? _ pad).symm⟩
  · exact ⟨0, Nat.zero_le 1, (List.append_nil text).symm⟩

/-- Only the last byte is looked at, also if it is that of a longer character. -/
theorem dropPad_encode {text : List Char} (filled : text ≠ []) (rest : Bytes) :
    dropPad (text.flatMap String.utf8EncodeChar ++ rest) (byteLength text) =
      answer (.ok (byteLength (dropOne text))) := by
  rcases List.eq_nil_or_concat text with rfl | ⟨front, c, rfl⟩
  · exact absurd rfl filled
  · rw [List.concat_eq_append, dropOne_concat]
    have positive := c.utf8Size_pos
    have size : byteLength (front ++ [c]) = byteLength front + c.utf8Size := byteLength_append ..
    have before : Word.sub? (byteLength (front ++ [c])) 1 =
        some (byteLength front + (c.utf8Size - 1)) :=
      Word.sub?_eq_some_iff.mpr ⟨by omega, by omega⟩
    obtain ⟨byte, last, pad⟩ := exists_last_byte c
    have found : ((front ++ [c]).flatMap String.utf8EncodeChar ++ rest)[
        byteLength front + (c.utf8Size - 1)]? = some byte := by
      have inside : c.utf8Size - 1 < (String.utf8EncodeChar c).length := by
        rw [String.length_utf8EncodeChar]
        omega
      rw [List.flatMap_append, List.flatMap_singleton, List.append_assoc, ← length_flatMap_encode,
        List.getElem?_append_right (Nat.le_add_right ..), Nat.add_sub_cancel_left,
        List.getElem?_append_left inside, last]
    rw [dropPad, before]
    simp only [some_bind, found, pad]
    by_cases dropped : c = padSymbol
    · subst dropped
      rfl
    · rw [if_neg dropped, if_neg dropped]
      rfl

theorem bodyLength_encode (text : List Char) :
    bodyLength (text.flatMap String.utf8EncodeChar) = answer (.ok (byteLength (body text))) := by
  rw [bodyLength, length_flatMap_encode, body]
  by_cases whole : byteLength text ≠ 0 ∧ byteLength text % 4 = 0
  · have filled : text ≠ [] := by
      rintro rfl
      exact whole.1 rfl
    obtain ⟨count, few, split⟩ := exists_dropOne_append text
    have left : dropOne text ≠ [] := by
      intro empty
      have length := congrArg byteLength split
      rw [empty, List.nil_append, byteLength_pad] at length
      omega
    have once := dropPad_encode filled []
    have twice := dropPad_encode left
      ((List.replicate count padSymbol).flatMap String.utf8EncodeChar)
    rw [← List.flatMap_append, ← split] at twice
    rw [List.append_nil] at once
    rw [if_pos whole, if_pos whole, once, answer_ok_bind, twice, dropPad_eq_dropOne]
  · rw [if_neg whole, if_neg whole]
    rfl

/-! ### Symbols -/

/-- Bytes read one after the other. -/
def readBytes (report : Nat → Error) (mode : Mode) (position : Nat) :
    Bytes → Except Error (List Sextet)
  | [] => return []
  | byte :: rest =>
    match mode.sextet? (.ofUInt8 byte) with
    | none => .error (report position)
    | some sextet => return sextet :: (← readBytes report mode (position + 1) rest)

/-- The number that sextets spell behind a number, most significant first. -/
def spell (high : Nat) (values : List Sextet) : Nat :=
  values.foldl (fun high value => high <<< 6 + value.val) high

theorem readBytes_append (front back : Bytes) :
    readBytes report mode position (front ++ back) = do
      let values ← readBytes report mode position front
      let others ← readBytes report mode (position + front.length) back
      return values ++ others := by
  induction front generalizing position with
  | nil => simp [readBytes]
  | cons byte rest ih =>
    have onwards : position + (byte :: rest).length = position + 1 + rest.length := by
      rw [List.length_cons, Nat.add_right_comm, Nat.add_assoc]
    rw [List.cons_append, readBytes, readBytes, onwards, ih]
    cases mode.sextet? (.ofUInt8 byte) with
    | none => rfl
    | some sextet =>
      cases readBytes report mode (position + 1) rest with
      | error => rfl
      | ok values =>
        cases readBytes report mode (position + 1 + rest.length) back with
        | error => rfl
        | ok => rfl

theorem length_readBytes {bytes : Bytes} {values : List Sextet}
    (read : readBytes report mode position bytes = .ok values) : values.length = bytes.length := by
  induction bytes generalizing position values with
  | nil =>
    cases read
    rfl
  | cons byte rest ih =>
    rw [readBytes] at read
    cases known : mode.sextet? (.ofUInt8 byte) with
    | none =>
      rw [known] at read
      cases read
    | some sextet =>
      cases later : readBytes report mode (position + 1) rest with
      | error error =>
        rw [known, later] at read
        cases read
      | ok others =>
        rw [known, later] at read
        cases read
        rw [List.length_cons, List.length_cons, ih later]

theorem getElem?_decodeTable (mode : Mode) (byte : UInt8) :
    mode.decodeTable[byte.toNat]? = some (mode.sextet? (.ofUInt8 byte)) := by
  have inside : byte.toNat < mode.decodeTable.length := by
    rw [mode.length_decodeTable]
    exact byte.toNat_lt
  have same : (Char.ofUInt8 byte).toNat = byte.toNat := rfl
  rw [Mode.sextet?, same, List.getElem?_eq_getElem inside, Option.join_some]

/-- A sextet goes into free bits. -/
theorem or_sextet (high : Nat) (value : Sextet) (shift : Nat) :
    high <<< (shift + 6) ||| value.val <<< shift = (high <<< 6 + value.val) <<< shift := by
  rw [Nat.shiftLeft_add_eq_or_of_lt value.isLt, Nat.shiftLeft_or_distrib, ← Nat.shiftLeft_add,
    Nat.add_comm]

/-- The bits read so far stand above those of the places to come. -/
theorem readBlock_eq {block : Bytes} {place : Nat} (short : place + block.length ≤ 4) (high : Nat) :
    readBlock report mode position place (high <<< (24 - 6 * place)) block =
      answer ((readBytes report mode (position + place) block).map fun values =>
        spell high values <<< (24 - 6 * (place + block.length))) := by
  induction block generalizing place high with
  | nil => rfl
  | cons byte rest ih =>
    rw [readBlock, getElem?_decodeTable, readBytes]
    cases mode.sextet? (.ofUInt8 byte) with
    | none => rfl
    | some sextet =>
      rw [List.length_cons] at short
      have room : Word.sub? 18 (6 * place) = some (18 - 6 * place) :=
        Word.sub?_eq_some_iff.mpr ⟨by omega, rfl⟩
      have upper : 24 - 6 * place = 18 - 6 * place + 6 := by omega
      have lower : 18 - 6 * place = 24 - 6 * (place + 1) := by omega
      have last : place + (byte :: rest).length = place + 1 + rest.length := by
        rw [List.length_cons, Nat.add_right_comm, Nat.add_assoc]
      have within : place + 1 + rest.length ≤ 4 := by omega
      simp only [some_bind, room]
      rw [upper, or_sextet, lower, ih within, last, Nat.add_assoc position]
      cases readBytes report mode (position + (place + 1)) rest with
      | error => rfl
      | ok => rfl

theorem blockBytes_eq {values : List Sextet} (several : 1 < values.length)
    (short : values.length ≤ 4) :
    blockBytes values.length (spell 0 values <<< (24 - 6 * values.length)) =
      answer (.ok (joinSextets values)) := by
  match values, several, short with
  | [a, b], _, _ =>
    have group : spell 0 [a, b] <<< 12 = a.val <<< 18 + b.val <<< 12 := by
      simp only [spell, List.foldl, Nat.shiftLeft_eq]
      omega
    rw [joinSextets, ← group]
    rfl
  | [a, b, c], _, _ =>
    have group : spell 0 [a, b, c] <<< 6 = a.val <<< 18 + b.val <<< 12 + c.val <<< 6 := by
      simp only [spell, List.foldl, Nat.shiftLeft_eq]
      omega
    rw [joinSextets, ← group]
    rfl
  | [a, b, c, d], _, _ =>
    have group : spell 0 [a, b, c, d] <<< 0 =
        a.val <<< 18 + b.val <<< 12 + c.val <<< 6 + d.val := by
      simp only [spell, List.foldl, Nat.shiftLeft_eq]
      omega
    rw [joinSextets, ← group]
    rfl

theorem readBlock_blockBytes {block : Bytes} (several : 1 < block.length)
    (short : block.length ≤ 4) (position : Nat) :
    readBlock report mode position 0 0 block >>= blockBytes block.length =
      answer ((readBytes report mode position block).map joinSextets) := by
  have bits : readBlock report mode position 0 0 block =
      answer ((readBytes report mode position block).map fun values =>
        spell 0 values <<< (24 - 6 * (0 + block.length))) := readBlock_eq (by omega) 0
  rw [bits]
  cases read : readBytes report mode position block with
  | error error => rfl
  | ok values =>
    have length := length_readBytes read
    change blockBytes block.length (spell 0 values <<< (24 - 6 * (0 + block.length))) = _
    rw [Nat.zero_add, ← length]
    exact blockBytes_eq (length ▸ several) (length ▸ short)

theorem readBlocks_cons {block : Bytes} (several : 1 < block.length) (short : block.length ≤ 4)
    (index : Nat) (rest : List Bytes) :
    readBlocks report mode index (block :: rest) = (do
      let bytes ← answer ((readBytes report mode (4 * index) block).map joinSextets)
      let others ← readBlocks report mode (index + 1) rest
      return bytes ++ others) := by
  rw [← readBlock_blockBytes several short, bind_assoc]
  rfl

/-- Blocks are read like the bytes they are made of. -/
theorem readBlocks_split {bytes : Bytes} (balanced : bytes.length % 4 ≠ 1) (index : Nat) :
    readBlocks report mode index (split bytes) =
      answer ((readBytes report mode (4 * index) bytes).map joinSextets) := by
  fun_induction split bytes generalizing index with
  | case1 a b c d rest ih =>
    have later : rest.length % 4 ≠ 1 := by
      simp only [List.length_cons] at balanced
      omega
    have onwards : 4 * (index + 1) = 4 * index + [a, b, c, d].length := rfl
    have whole : a :: b :: c :: d :: rest = [a, b, c, d] ++ rest := rfl
    have several : 1 < [a, b, c, d].length := by simp
    have short : [a, b, c, d].length ≤ 4 := by simp
    rw [readBlocks_cons several short, ih later, onwards, whole, readBytes_append]
    cases read : readBytes report mode (4 * index) [a, b, c, d] with
    | error => rfl
    | ok values =>
      cases readBytes report mode (4 * index + [a, b, c, d].length) rest with
      | error => rfl
      | ok others =>
        have four : values.length = 4 := length_readBytes read
        have joined := joinSextets_append (by rw [four]) others
        change answer (.ok (joinSextets values ++ joinSextets others)) =
          answer (.ok (joinSextets (values ++ others)))
        rw [joined]
  | case2 => rfl
  | case3 last long filled =>
    have bounds : 1 < last.length ∧ last.length ≤ 4 := by
      match last with
      | [] => exact absurd rfl filled
      | [a] => exact absurd rfl balanced
      | [a, b] => simp
      | [a, b, c] => simp
      | a :: b :: c :: d :: rest => exact (long a b c d rest rfl).elim
    rw [readBlocks_cons bounds.1 bounds.2]
    cases readBytes report mode (4 * index) last with
    | error => rfl
    | ok values =>
      change answer (.ok (joinSextets values ++ [])) = answer (.ok (joinSextets values))
      rw [List.append_nil]

/-! ### Texts -/

/-- Where a character starts, it is found. -/
theorem characterAt_append (fallback c : Char) (front back : List Char) :
    characterAt fallback (.ofList (front ++ c :: back)) (byteLength front) = c := by
  rw [characterAt, byteLength_eq_utf8Len, String.get?_of_valid]
  rfl

/-- The bytes of a part of a text are read like its characters, if the one for each byte that is no
symbol is found. -/
theorem readBytes_encode {whole : List Char}
    (found : ∀ front c back, whole = front ++ c :: back →
      report (byteLength front) = .invalidCharacter c (byteLength front))
    {front text back : List Char} (split : whole = front ++ (text ++ back)) :
    readBytes report mode (byteLength front) (text.flatMap String.utf8EncodeChar) =
      readSextets mode (byteLength front) text := by
  induction text generalizing front with
  | nil => rfl
  | cons c rest ih =>
    obtain ⟨byte, others, encoded, same, single⟩ := exists_encode_eq_cons mode c
    rw [List.flatMap_cons, encoded, List.cons_append, readBytes, readSextets, same]
    cases known : mode.sextet? c with
    | none => rw [found front c (rest ++ back) split]
    | some sextet =>
      have symbol : mode.Accepts c :=
        Mode.accepts_iff.mpr ⟨sextet, Mode.sextet?_eq_some_iff.mp known⟩
      have next : byteLength front + c.utf8Size = byteLength (front ++ [c]) := by
        rw [byteLength_append]
        rfl
      have size : c.utf8Size = 1 := by
        rw [← String.length_utf8EncodeChar, encoded, single symbol]
        rfl
      have onwards : whole = front ++ [c] ++ (rest ++ back) := by
        rw [split, List.append_assoc]
        rfl
      have later := ih onwards
      rw [← next, size] at later
      simp only [single symbol, List.nil_append, size, later]

/-- No check fails, and what to fall back on for a character does not matter. -/
theorem decode_eq_answer (fallback : Char) (mode : Mode) (text : List Char) :
    decode fallback mode (.ofList text) = answer (decodeList mode text) := by
  obtain ⟨count, -, split, -⟩ := exists_body_append text
  have bytes : text.flatMap String.utf8EncodeChar = [] ++
      (body text).flatMap String.utf8EncodeChar ++
        (List.replicate count padSymbol).flatMap String.utf8EncodeChar := by
    rw [List.nil_append, ← List.flatMap_append, ← split]
  have length := length_flatMap_encode (body text)
  have sliced : Bytes.slice? (text.flatMap String.utf8EncodeChar) 0 (byteLength (body text)) =
      some ((body text).flatMap String.utf8EncodeChar) := by
    rw [bytes, ← length]
    exact Bytes.slice?_append ..
  have whole : text = [] ++ (body text ++ List.replicate count padSymbol) := split
  have found (front : List Char) (c : Char) (back : List Char)
      (here : text = front ++ c :: back) :
      Error.invalidCharacter (characterAt fallback (.ofList text) (byteLength front))
        (byteLength front) = .invalidCharacter c (byteLength front) := by
    rw [here, characterAt_append]
  have read : readBytes (fun position =>
        .invalidCharacter (characterAt fallback (.ofList text) position) position) mode (4 * 0)
      ((body text).flatMap String.utf8EncodeChar) = readSextets mode 0 (body text) :=
    readBytes_encode found whole
  have dangling : byteLength (body text) % 4 = 1 ↔ byteLength text % 4 = 1 :=
    byteLength_body_mod text
  rw [decode, utf8_ofList, bodyLength_encode, length_flatMap_encode, decodeList_eq,
    answer_ok_bind]
  simp only [dangling]
  by_cases left : byteLength text % 4 = 1
  · rw [if_pos left, if_pos left]
    rfl
  · have balanced : ((body text).flatMap String.utf8EncodeChar).length % 4 ≠ 1 := by
      rwa [length, ne_eq, dangling]
    rw [if_neg left, if_neg left, sliced, some_bind, readBlocks_split balanced, read]

end FixedLayout.Base64.Blocks
