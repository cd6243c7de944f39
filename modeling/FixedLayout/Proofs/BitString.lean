import FixedLayout.Base64.Decode
import FixedLayout.Base64.Encode
import Mathlib.Algebra.Group.Nat.Defs
import Mathlib.Data.List.Infix

/-!
Base64 as a matter of bits. Byte strings and lists of sextets are two ways to write one bit string,
most significant bit first. Neither coder changes the string: `sextets` only fills it up with zeros,
and `joinSextets` only leaves out what is no whole byte.
-/
namespace FixedLayout

/-- The lowest `width` bits of a number, most significant first. -/
def bitString : (width n : Nat) → List Bool
  | 0, _ => []
  | width + 1, n => n.testBit width :: bitString width n

@[simp] theorem length_bitString (width n : Nat) : (bitString width n).length = width := by
  induction width with
  | zero => rfl
  | succ width ih => rw [bitString, List.length_cons, ih]

/-- The upper bits of a number come before the lower ones. -/
theorem bitString_add (high low n : Nat) :
    bitString (high + low) n = bitString high (n >>> low) ++ bitString low n := by
  induction high with
  | zero => rw [Nat.zero_add, bitString, List.nil_append]
  | succ high ih =>
    have position : high + 1 + low = high + low + 1 := by omega
    rw [position, bitString, ih, bitString, List.cons_append, Nat.testBit_shiftRight,
      Nat.add_comm low]

theorem bitString_eq_iff_testBit {width m n : Nat} :
    bitString width m = bitString width n ↔ ∀ i < width, m.testBit i = n.testBit i := by
  induction width with
  | zero => simp [bitString]
  | succ width ih =>
    rw [bitString, bitString, List.cons.injEq, ih]
    constructor
    · rintro ⟨top, rest⟩ i below
      rcases Nat.lt_succ_iff_lt_or_eq.mp below with below | rfl
      · exact rest i below
      · exact top
    · intro same
      exact ⟨same width (Nat.lt_succ_self width), fun i below => same i (Nat.lt_succ_of_lt below)⟩

theorem bitString_eq_iff {width m n : Nat} :
    bitString width m = bitString width n ↔ m % 2 ^ width = n % 2 ^ width := by
  rw [bitString_eq_iff_testBit]
  constructor
  · intro same
    apply Nat.eq_of_testBit_eq
    intro i
    rw [Nat.testBit_mod_two_pow, Nat.testBit_mod_two_pow]
    by_cases below : i < width
    · rw [same i below]
    · simp [below]
  · intro same i below
    have bit := congrArg (·.testBit i) same
    simpa [Nat.testBit_mod_two_pow, below] using bit

/-- The bits of items, each of them a number of so many bits. -/
def bitStrings {α : Type} (width : Nat) (value : α → Nat) (items : List α) : List Bool :=
  items.flatMap fun item => bitString width (value item)

section

variable {α : Type} {width : Nat} {value : α → Nat}

@[simp] theorem length_bitStrings (items : List α) :
    (bitStrings width value items).length = width * items.length := by
  induction items with
  | nil => rfl
  | cons item rest ih =>
    rw [bitStrings, List.flatMap_cons, List.length_append, length_bitString, ← bitStrings, ih,
      List.length_cons, Nat.mul_succ, Nat.add_comm]

theorem bitStrings_take (count : Nat) (items : List α) :
    bitStrings width value (items.take count) =
      (bitStrings width value items).take (width * count) := by
  rcases Nat.le_total count items.length with inside | beyond
  · have front : (bitStrings width value (items.take count)).length = width * count := by
      rw [length_bitStrings, List.length_take, Nat.min_eq_left inside]
    have parts : bitStrings width value (items.take count) ++
        bitStrings width value (items.drop count) = bitStrings width value items := by
      rw [bitStrings, bitStrings, ← List.flatMap_append, List.take_append_drop, bitStrings]
    rw [← parts, List.take_left' front]
  · rw [List.take_of_length_le beyond, List.take_of_length_le]
    rw [length_bitStrings]
    exact Nat.mul_le_mul_left width beyond

end

/-- The bits of a byte string. -/
def Bytes.bits (bytes : Bytes) : List Bool := bitStrings 8 UInt8.toNat bytes

/-- The bits of a list of sextets. -/
def Base64.sextetBits (values : List Sextet) : List Bool := bitStrings 6 Fin.val values

namespace Bytes

theorem bits_cons (byte : UInt8) (rest : Bytes) :
    bits (byte :: rest) = bitString 8 byte.toNat ++ bits rest := rfl

theorem bits_append (front back : Bytes) : bits (front ++ back) = bits front ++ bits back :=
  List.flatMap_append ..

theorem length_bits (bytes : Bytes) : bytes.bits.length = 8 * bytes.length :=
  length_bitStrings bytes

/-- A byte string is determined by its bits. -/
theorem bits_inj {a b : Bytes} (same : a.bits = b.bits) : a = b := by
  have length : a.length = b.length := by
    have total := congrArg List.length same
    rw [length_bits, length_bits] at total
    omega
  induction a generalizing b with
  | nil => exact (List.length_eq_zero_iff.mp length.symm).symm
  | cons byte rest ih =>
    cases b with
    | nil => cases length
    | cons other others =>
      rw [bits_cons, bits_cons] at same
      obtain ⟨first, later⟩ := List.append_inj same (by rw [length_bitString, length_bitString])
      have equal : byte.toNat = other.toNat := by
        have low := bitString_eq_iff.mp first
        rwa [Nat.mod_eq_of_lt byte.toNat_lt, Nat.mod_eq_of_lt other.toNat_lt] at low
      rw [UInt8.toNat_inj.mp equal, ih later (Nat.succ.inj length)]

end Bytes

namespace Base64

theorem sextetBits_append (front back : List Sextet) :
    sextetBits (front ++ back) = sextetBits front ++ sextetBits back := List.flatMap_append ..

theorem length_sextetBits (values : List Sextet) :
    (sextetBits values).length = 6 * values.length := length_bitStrings values

theorem sextetBits_take (count : Nat) (values : List Sextet) :
    sextetBits (values.take count) = (sextetBits values).take (6 * count) :=
  bitStrings_take count values

theorem bitString_sextet (n : Nat) : bitString 6 (Fin.ofNat 64 n).val = bitString 6 n :=
  bitString_eq_iff.mpr (Nat.mod_mod ..)

theorem bitString_byte (n : Nat) : bitString 8 (UInt8.ofNat n).toNat = bitString 8 n := by
  rw [bitString_eq_iff, UInt8.toNat_ofNat', Nat.mod_mod]

/-- The four sextets of a group and its three bytes are cut from the same bits. -/
theorem sextetBits_group (group : Nat) :
    sextetBits [.ofNat 64 (group >>> 18), .ofNat 64 (group >>> 12), .ofNat 64 (group >>> 6),
      .ofNat 64 group] =
    Bytes.bits [.ofNat (group >>> 16), .ofNat (group >>> 8), .ofNat group] := by
  simp only [sextetBits, Bytes.bits, bitStrings, List.flatMap_cons, List.flatMap_nil,
    bitString_sextet, bitString_byte, List.append_nil]
  rw [← bitString_add 6 6, ← bitString_add 6 12, ← bitString_add 6 18, ← bitString_add 8 8,
    ← bitString_add 8 16]

theorem sextetBits_of_bytes (a b c : UInt8) {group : Nat}
    (joined : group = a.toNat <<< 16 + b.toNat <<< 8 + c.toNat) :
    sextetBits [.ofNat 64 (group >>> 18), .ofNat 64 (group >>> 12), .ofNat 64 (group >>> 6),
      .ofNat 64 group] = Bytes.bits [a, b, c] := by
  have := a.toNat_lt
  have := b.toNat_lt
  have := c.toNat_lt
  have first : UInt8.ofNat (group >>> 16) = a := by
    rw [← UInt8.toNat_inj, UInt8.toNat_ofNat']
    simp only [joined, Nat.shiftRight_eq_div_pow, Nat.shiftLeft_eq]
    omega
  have second : UInt8.ofNat (group >>> 8) = b := by
    rw [← UInt8.toNat_inj, UInt8.toNat_ofNat']
    simp only [joined, Nat.shiftRight_eq_div_pow, Nat.shiftLeft_eq]
    omega
  have third : UInt8.ofNat group = c := by
    rw [← UInt8.toNat_inj, UInt8.toNat_ofNat']
    simp only [joined, Nat.shiftLeft_eq]
    omega
  rw [sextetBits_group, first, second, third]

theorem bits_of_sextets (a b c d : Sextet) {group : Nat}
    (joined : group = a.val <<< 18 + b.val <<< 12 + c.val <<< 6 + d.val) :
    Bytes.bits [.ofNat (group >>> 16), .ofNat (group >>> 8), .ofNat group] =
      sextetBits [a, b, c, d] := by
  have := a.isLt
  have := b.isLt
  have := c.isLt
  have := d.isLt
  have first : Fin.ofNat 64 (group >>> 18) = a := by
    rw [← Fin.val_inj, Fin.val_ofNat]
    simp only [joined, Nat.shiftRight_eq_div_pow, Nat.shiftLeft_eq]
    omega
  have second : Fin.ofNat 64 (group >>> 12) = b := by
    rw [← Fin.val_inj, Fin.val_ofNat]
    simp only [joined, Nat.shiftRight_eq_div_pow, Nat.shiftLeft_eq]
    omega
  have third : Fin.ofNat 64 (group >>> 6) = c := by
    rw [← Fin.val_inj, Fin.val_ofNat]
    simp only [joined, Nat.shiftRight_eq_div_pow, Nat.shiftLeft_eq]
    omega
  have fourth : Fin.ofNat 64 group = d := by
    rw [← Fin.val_inj, Fin.val_ofNat]
    simp only [joined, Nat.shiftLeft_eq]
    omega
  rw [← sextetBits_group, first, second, third, fourth]

/-- Splitting a byte string into sextets keeps its bits and adds zeros to them. -/
theorem sextetBits_sextets (bytes : Bytes) :
    sextetBits (sextets bytes) =
      bytes.bits ++ List.replicate (2 * padCount bytes.length) false := by
  induction bytes using sextets.induct with
  | case1 a b c rest ih =>
    have pad : padCount (a :: b :: c :: rest).length = padCount rest.length := by
      simp only [padCount, List.length_cons]
      omega
    have whole : sextetBits [_, _, _, _] = Bytes.bits [a, b, c] := sextetBits_of_bytes a b c rfl
    rw [pad]
    change sextetBits ([_, _, _, _] ++ sextets rest) = Bytes.bits ([a, b, c] ++ rest) ++ _
    rw [sextetBits_append, whole, ih, Bytes.bits_append, List.append_assoc]
  | case2 a b =>
    -- Three sextets of a group with a last byte of zero.
    have joined : a.toNat <<< 16 + b.toNat <<< 8 =
        a.toNat <<< 16 + b.toNat <<< 8 + (0 : UInt8).toNat := by
      simp
    have whole := congrArg (List.take 18) (sextetBits_of_bytes a b 0 joined)
    rw [← sextetBits_take 3] at whole
    exact whole
  | case3 a =>
    have joined : a.toNat <<< 16 =
        a.toNat <<< 16 + (0 : UInt8).toNat <<< 8 + (0 : UInt8).toNat := by
      simp
    have whole := congrArg (List.take 12) (sextetBits_of_bytes a 0 0 joined)
    rw [← sextetBits_take 2] at whole
    exact whole
  | case4 => rfl

theorem length_sextets (bytes : Bytes) :
    6 * (sextets bytes).length = 8 * bytes.length + 2 * padCount bytes.length := by
  have length := congrArg List.length (sextetBits_sextets bytes)
  rwa [length_sextetBits, List.length_append, Bytes.length_bits, List.length_replicate] at length

theorem length_joinSextets (values : List Sextet) :
    (joinSextets values).length = 6 * values.length / 8 := by
  fun_induction joinSextets values with
  | case1 a b c d rest group ih =>
    simp only [List.length_cons, ih]
    omega
  | case2 => simp
  | case3 => simp
  | case4 values four three two =>
    match values with
    | [] => rfl
    | [a] => simp
    | [a, b] => exact absurd rfl (two a b)
    | [a, b, c] => exact absurd rfl (three a b c)
    | a :: b :: c :: d :: rest => exact absurd rfl (four a b c d rest)

/-- Four sextets are three bytes, whatever follows. -/
theorem joinSextets_append {values : List Sextet} (whole : values.length % 4 = 0)
    (others : List Sextet) :
    joinSextets (values ++ others) = joinSextets values ++ joinSextets others := by
  induction values using joinSextets.induct with
  | case1 a b c d rest ih =>
    simp only [List.length_cons] at whole
    have later : rest.length % 4 = 0 := by omega
    simp only [List.cons_append, joinSextets, ih later]
  | case2 => simp at whole
  | case3 => simp at whole
  | case4 values four three two =>
    match values with
    | [] => rfl
    | [a] => simp at whole
    | [a, b] => exact absurd rfl (two a b)
    | [a, b, c] => exact absurd rfl (three a b c)
    | a :: b :: c :: d :: rest => exact absurd rfl (four a b c d rest)

/-- Joining sextets to bytes keeps their bits, as far as these fill whole bytes. -/
theorem bits_joinSextets (values : List Sextet) :
    (joinSextets values).bits <+: sextetBits values := by
  fun_induction joinSextets values with
  | case1 a b c d rest group ih =>
    have whole : Bytes.bits [_, _, _] = sextetBits [a, b, c, d] := bits_of_sextets a b c d rfl
    change Bytes.bits ([_, _, _] ++ joinSextets rest) <+: sextetBits ([a, b, c, d] ++ rest)
    rw [sextetBits_append, Bytes.bits_append, whole]
    exact (List.prefix_append_right_inj _).mpr ih
  | case2 a b c group =>
    -- Both are the start of a group that ends in a sextet of zero.
    have joined : group = a.val <<< 18 + b.val <<< 12 + c.val <<< 6 + (0 : Sextet).val := by
      simp [group]
    have inside : Bytes.bits [.ofNat (group >>> 16), .ofNat (group >>> 8)] <+:
        sextetBits [a, b, c, 0] := by
      rw [← bits_of_sextets a b c 0 joined]
      exact List.IsPrefix.flatMap ⟨[_], rfl⟩ _
    have front : sextetBits [a, b, c] <+: sextetBits [a, b, c, 0] :=
      List.IsPrefix.flatMap ⟨[_], rfl⟩ _
    apply List.prefix_of_prefix_length_le inside front
    simp [Bytes.length_bits, length_sextetBits]
  | case3 a b group =>
    have joined : group = a.val <<< 18 + b.val <<< 12 + (0 : Sextet).val <<< 6 +
        (0 : Sextet).val := by
      simp [group]
    have inside : Bytes.bits [.ofNat (group >>> 16)] <+: sextetBits [a, b, 0, 0] := by
      rw [← bits_of_sextets a b 0 0 joined]
      exact List.IsPrefix.flatMap ⟨[_, _], rfl⟩ _
    have front : sextetBits [a, b] <+: sextetBits [a, b, 0, 0] :=
      List.IsPrefix.flatMap ⟨[_, _], rfl⟩ _
    apply List.prefix_of_prefix_length_le inside front
    simp [Bytes.length_bits, length_sextetBits]
  | case4 => exact List.nil_prefix

theorem joinSextets_eq_iff {values : List Sextet} {bytes : Bytes} : joinSextets values = bytes ↔
    bytes.length = 6 * values.length / 8 ∧ bytes.bits <+: sextetBits values := by
  constructor
  · rintro rfl
    exact ⟨length_joinSextets values, bits_joinSextets values⟩
  · rintro ⟨length, bits⟩
    have same_length : (joinSextets values).bits.length = bytes.bits.length := by
      rw [Bytes.length_bits, Bytes.length_bits, length_joinSextets, length]
    have start := List.prefix_of_prefix_length_le (bits_joinSextets values) bits
      (Nat.le_of_eq same_length)
    exact Bytes.bits_inj (start.eq_of_length same_length)

/-- No bits are lost on the way to sextets and back. -/
theorem joinSextets_sextets (bytes : Bytes) : joinSextets (sextets bytes) = bytes := by
  rw [joinSextets_eq_iff]
  constructor
  · have length := length_sextets bytes
    rw [padCount] at length
    omega
  · rw [sextetBits_sextets]
    exact List.prefix_append ..

end Base64
end FixedLayout
