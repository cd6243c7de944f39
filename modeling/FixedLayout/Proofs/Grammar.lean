import FixedLayout.Proofs.BitString
import FixedLayout.Proofs.Symbols
import Mathlib.Data.List.DropRight
import Mathlib.Data.List.Forall2
import Mathlib.Data.String.Basic

/-!
Which texts stand for bytes, and for which ones. The symbols of a text are told apart from its
padding by counting, and each stands for its place in an alphabet; the bytes are read off the bits of
these places.
-/
namespace FixedLayout.Base64

/-- A text without the pad symbols at its end, of which two count at most. Only a text of whole
groups has any. -/
def unpadded (text : String) : List Char :=
  if text.utf8ByteSize ≠ 0 ∧ text.utf8ByteSize % 4 = 0 then
    text.toList.rdrop (min 2 (text.toList.rtakeWhile (· = padSymbol)).length)
  else
    text.toList

variable {mode : Mode}

/-! ### Padding -/

theorem byteLength_eq_utf8Len (text : List Char) : byteLength text = String.utf8Len text := by
  induction text with
  | nil => rfl
  | cons c rest ih => rw [byteLength, ih, String.utf8Len_cons, Nat.add_comm]

theorem byteLength_toList (text : String) : byteLength text.toList = text.utf8ByteSize := by
  rw [byteLength_eq_utf8Len, String.utf8Len_toList]

theorem byteLength_append (front back : List Char) :
    byteLength (front ++ back) = byteLength front + byteLength back := by
  induction front with
  | nil => rw [List.nil_append, byteLength, Nat.zero_add]
  | cons c rest ih => rw [List.cons_append, byteLength, ih, byteLength, Nat.add_assoc]

theorem byteLength_eq_zero_iff {text : List Char} : byteLength text = 0 ↔ text = [] := by
  cases text with
  | nil => simp [byteLength]
  | cons c rest =>
    have positive := c.utf8Size_pos
    rw [byteLength]
    constructor
    · omega
    · intro empty
      cases empty

theorem byteLength_of_ascii {text : List Char} (ascii : ∀ c ∈ text, isAscii c) :
    byteLength text = text.length := by
  induction text with
  | nil => rfl
  | cons c rest ih =>
    obtain ⟨first, later⟩ := List.forall_mem_cons.mp ascii
    have small : c.toNat < 128 := of_decide_eq_true first
    have single : c.utf8Size = 1 := by
      rw [Char.utf8Size_eq_one_iff, UInt32.le_iff_toNat_le]
      exact Nat.le_of_lt_succ small
    rw [byteLength, single, ih later, List.length_cons, Nat.add_comm]

theorem byteLength_pad (count : Nat) : byteLength (List.replicate count padSymbol) = count := by
  induction count with
  | zero => rfl
  | succ count ih =>
    rw [List.replicate_succ, byteLength, ih, Nat.add_comm]
    rfl

theorem dropPad_reverse (reversed : List Char) : dropPad reversed.reverse =
    (reversed.drop (min 2 (reversed.takeWhile (· = padSymbol)).length)).reverse := by
  rw [dropPad, List.reverse_reverse]
  split
  · simp [padSymbol]
  · rename_i rest single
    cases rest with
    | nil => simp [padSymbol]
    | cons c rest =>
      have other : c ≠ '=' := fun same => single rest (by rw [same])
      simp [padSymbol, other]
  · rename_i none
    cases reversed with
    | nil => rfl
    | cons c rest =>
      have other : c ≠ '=' := fun same => none rest (by rw [same])
      simp [padSymbol, other]

theorem body_toList (text : String) : body text.toList = unpadded text := by
  have counted : dropPad text.toList =
      text.toList.rdrop (min 2 (text.toList.rtakeWhile (· = padSymbol)).length) := by
    have reversed := dropPad_reverse text.toList.reverse
    rw [List.reverse_reverse] at reversed
    rw [List.rdrop_eq_reverse_drop_reverse, List.rtakeWhile, List.length_reverse, reversed]
  rw [body, unpadded, byteLength_toList, counted]

/-- Padding is looked for in all texts of whole groups; that the empty text has none does not need a
case of its own. -/
theorem body_eq (text : List Char) :
    body text = if byteLength text % 4 = 0 then dropPad text else text := by
  rw [body]
  by_cases empty : byteLength text = 0
  · rw [byteLength_eq_zero_iff.mp empty]
    rfl
  · simp only [ne_eq, empty, not_false_eq_true, true_and]

/-- What is dropped are pad symbols. -/
theorem exists_dropPad_append (text : List Char) :
    ∃ count ≤ 2, text = dropPad text ++ List.replicate count padSymbol := by
  have text_eq : text = text.reverse.reverse := (List.reverse_reverse text).symm
  rw [dropPad]
  split
  · rename_i reversed
    refine ⟨2, Nat.le_refl 2, ?_⟩
    rw [text_eq, reversed]
    simp [padSymbol]
  · rename_i reversed
    refine ⟨1, by decide, ?_⟩
    rw [text_eq, reversed]
    simp [padSymbol]
  · exact ⟨0, by decide, by simp⟩

theorem exists_body_append (text : List Char) :
    ∃ count ≤ 2, text = body text ++ List.replicate count padSymbol ∧
      (count ≠ 0 → byteLength text % 4 = 0) := by
  rw [body]
  split
  · rename_i whole
    obtain ⟨count, bound, split⟩ := exists_dropPad_append text
    exact ⟨count, bound, split, fun _ => whole.2⟩
  · exact ⟨0, by decide, by simp, by simp⟩

/-- Without its padding a text leaves a symbol over exactly if it does so with it. -/
theorem byteLength_body_mod (text : List Char) :
    byteLength (body text) % 4 = 1 ↔ byteLength text % 4 = 1 := by
  obtain ⟨count, bound, split, whole⟩ := exists_body_append text
  have length := congrArg byteLength split
  rw [byteLength_append, byteLength_pad] at length
  omega

/-! ### Reading -/

theorem denotes_of_readSextets {text : List Char} {position : Nat} {values : List Sextet}
    (read : readSextets mode position text = .ok values) :
    List.Forall₂ mode.Denotes text values := by
  induction text generalizing position values with
  | nil =>
    cases read
    exact .nil
  | cons c rest ih =>
    rw [readSextets] at read
    cases known : mode.sextet? c with
    | none =>
      rw [known] at read
      cases read
    | some value =>
      cases later : readSextets mode (position + c.utf8Size) rest with
      | error error =>
        rw [known, later] at read
        cases read
      | ok others =>
        rw [known, later] at read
        cases read
        exact .cons (Mode.sextet?_eq_some_iff.mp known) (ih later)

/-- Symbols are read one by one, whatever follows them. -/
theorem readSextets_append {front : List Char} {values : List Sextet}
    (denoted : List.Forall₂ mode.Denotes front values) (position : Nat) (back : List Char) :
    readSextets mode position (front ++ back) =
      (readSextets mode (position + byteLength front) back).map (values ++ ·) := by
  induction denoted generalizing position with
  | nil =>
    rw [List.nil_append, byteLength, Nat.add_zero]
    cases readSextets mode position back with
    | error => rfl
    | ok => rfl
  | cons denotes _ ih =>
    rw [List.cons_append, readSextets, Mode.sextet?_eq_some_iff.mpr denotes, byteLength,
      ← Nat.add_assoc]
    simp only [ih]
    cases readSextets mode _ back with
    | error => rfl
    | ok => rfl

theorem readSextets_of_denotes {text : List Char} {values : List Sextet}
    (denoted : List.Forall₂ mode.Denotes text values) (position : Nat) :
    readSextets mode position text = .ok values := by
  have read := readSextets_append denoted position []
  rw [List.append_nil] at read
  rw [read, readSextets]
  exact congrArg Except.ok (List.append_nil values)

theorem decodeList_eq (mode : Mode) (text : List Char) : decodeList mode text =
    if byteLength text % 4 = 1 then
      .error (.invalidLength (byteLength text))
    else
      (readSextets mode 0 (body text)).map joinSextets := by
  rw [decodeList]
  simp only [byteLength_body_mod]
  by_cases dangling : byteLength text % 4 = 1
  · rw [if_pos dangling, if_pos dangling]
    rfl
  · rw [if_neg dangling, if_neg dangling]
    cases readSextets mode 0 (body text) with
    | error => rfl
    | ok => rfl

theorem decodeList_eq_ok_iff {text : List Char} {bytes : Bytes} :
    decodeList mode text = .ok bytes ↔ byteLength text % 4 ≠ 1 ∧
      ∃ values, List.Forall₂ mode.Denotes (body text) values ∧ joinSextets values = bytes := by
  rw [decodeList_eq]
  by_cases dangling : byteLength text % 4 = 1
  · rw [if_pos dangling]
    constructor
    · intro decoded
      cases decoded
    · rintro ⟨whole, -⟩
      exact absurd dangling whole
  · rw [if_neg dangling]
    constructor
    · intro decoded
      cases read : readSextets mode 0 (body text) with
      | error error =>
        rw [read] at decoded
        cases decoded
      | ok values =>
        rw [read] at decoded
        exact ⟨dangling, values, denotes_of_readSextets read, Except.ok.inj decoded⟩
    · rintro ⟨-, values, denoted, rfl⟩
      rw [readSextets_of_denotes denoted 0]
      rfl

theorem accepts_iff_exists_denotes (text : List Char) :
    (∀ c ∈ text, mode.Accepts c) ↔ ∃ values, List.Forall₂ mode.Denotes text values := by
  constructor
  · intro accepted
    induction text with
    | nil => exact ⟨[], .nil⟩
    | cons c rest ih =>
      obtain ⟨first, later⟩ := List.forall_mem_cons.mp accepted
      obtain ⟨value, denotes⟩ := Mode.accepts_iff.mp first
      obtain ⟨values, denoted⟩ := ih later
      exact ⟨value :: values, .cons denotes denoted⟩
  · rintro ⟨values, denoted⟩
    induction denoted with
    | nil => exact List.forall_mem_nil _
    | cons denotes _ ih => exact List.forall_mem_cons.mpr ⟨Mode.accepts_iff.mpr ⟨_, denotes⟩, ih⟩

/-- A text is read in one way only. -/
theorem denotes_unique {symbols : List Char} {values others : List Sextet}
    (denoted : List.Forall₂ mode.Denotes symbols values)
    (denoted' : List.Forall₂ mode.Denotes symbols others) : values = others := by
  have read := readSextets_of_denotes denoted 0
  rw [readSextets_of_denotes denoted' 0] at read
  exact (Except.ok.inj read).symm

theorem byteLength_of_denotes {symbols : List Char} {values : List Sextet}
    (denoted : List.Forall₂ mode.Denotes symbols values) : byteLength symbols = values.length := by
  have accepted := (accepts_iff_exists_denotes symbols).mpr ⟨values, denoted⟩
  rw [byteLength_of_ascii fun c member => (accepted c member).isAscii, denoted.length_eq]

/-- A mode reads a text if it leaves no symbol over and is made of symbols up to its padding. The
answer is the whole bytes in the bits of the symbols, whatever bits remain. -/
theorem decode_ok_iff (mode : Mode) (text : String) :
    ((∃ bytes, decode mode text = .ok bytes) ↔
      text.utf8ByteSize % 4 ≠ 1 ∧ ∀ c ∈ unpadded text, mode.Accepts c) ∧
    ∀ bytes, decode mode text = .ok bytes ↔ text.utf8ByteSize % 4 ≠ 1 ∧
      ∃ values, List.Forall₂ mode.Denotes (unpadded text) values ∧
        bytes.length = 6 * (unpadded text).length / 8 ∧ bytes.bits <+: sextetBits values := by
  have read (bytes : Bytes) : decode mode text = .ok bytes ↔ text.utf8ByteSize % 4 ≠ 1 ∧
      ∃ values, List.Forall₂ mode.Denotes (unpadded text) values ∧ joinSextets values = bytes := by
    rw [decode, decodeList_eq_ok_iff, byteLength_toList, body_toList]
  constructor
  · rw [accepts_iff_exists_denotes]
    constructor
    · rintro ⟨bytes, decoded⟩
      obtain ⟨whole, values, denoted, -⟩ := (read bytes).mp decoded
      exact ⟨whole, values, denoted⟩
    · rintro ⟨whole, values, denoted⟩
      exact ⟨_, (read _).mpr ⟨whole, values, denoted, rfl⟩⟩
  · intro bytes
    rw [read]
    refine and_congr_right fun _ => exists_congr fun values => and_congr_right fun denoted => ?_
    rw [joinSextets_eq_iff, denoted.length_eq]

/-- The last symbol of three holds two bits more than two bytes need. -/
example : decode .urlSafe "-_9=" = .ok [251, 255] ∧ decode .standard "-_9=" =
    .error (.invalidCharacter '-' 0) := by
  decide +kernel

end FixedLayout.Base64
