import FixedLayout.Proofs.Fieldwise
import FixedLayout.Record.Lemmas

/-!
Records read and packed again. Packing goes against the order of the fields, into a buffer that is
filled downwards and may have to grow and to be padded first. The bytes come out as they were read
all the same, and either kind of record finds the same fields in them.
-/
namespace FixedLayout

variable {builder after : Builder} {offset : Offset} {kind : RecordKind} {fields : Record}

namespace Build

theorem wellFormed_of_pack (valid : builder.WellFormed)
    (packed : fields.pack kind builder = .ok offset after) : after.WellFormed := by
  obtain ⟨room, rfl, -⟩ := (pack_eq_ok_iff valid kind fields).mp packed
  exact Reservation.wellFormed_grant valid kind.layout_valid.1 room

/-- A record packed last lies at the start. -/
theorem positionOf_of_pack (valid : builder.WellFormed)
    (packed : fields.pack kind builder = .ok offset after) : after.positionOf offset = .ok 0 := by
  obtain ⟨-, -, rfl⟩ := (pack_eq_ok_iff valid kind fields).mp packed
  have start : Word.sub? after.used after.used = some 0 :=
    Word.sub?_eq_some_iff.mpr ⟨Nat.le_refl _, Nat.sub_self _⟩
  change Fault.underflow.orElse (Word.sub? after.used after.used) = .ok 0
  rw [start]
  rfl

/-- Packing puts the bytes of the fields and the padding in front of what is written. -/
theorem exists_finishedData_of_pack (valid : builder.WellFormed)
    (packed : fields.pack kind builder = .ok offset after) :
    ∃ count < 4, after.finishedData =
      fields.bytes ++ (Bytes.zeros count ++ builder.finishedData) := by
  obtain ⟨-, rfl, -⟩ := (pack_eq_ok_iff valid kind fields).mp packed
  have power := kind.layout_valid.1
  have few : (Record.whole kind fields).padding builder < kind.alignment := Word.padding_lt power
  rw [kind.layout_eq.1] at few
  refine ⟨_, few, ?_⟩
  rw [Reservation.finishedData_grant valid power, ← List.append_assoc]
  rfl

/-- What is packed can be unpacked, as a record of either kind. -/
theorem unpack_of_pack (valid : builder.WellFormed)
    (packed : fields.pack kind builder = .ok offset after) (other : RecordKind) :
    View.unpack ⟨other, after.finishedData, 0⟩ = .ok fields := by
  obtain ⟨count, -, data⟩ := exists_finishedData_of_pack valid packed
  have final := wellFormed_of_pack valid packed
  have small : after.finishedData.length < Word.limit := by
    rw [Builder.length_finishedData final]
    exact final.used_lt_limit
  exact View.unpack_of_split [] _ data small

end Build

/-- A record that lies inside a buffer can be unpacked. Packing what was read, wherever that
succeeds, puts the very bytes it was read from in front of the written ones, with less padding
between them than a field takes. Those bytes hold the same fields for the other kind of record, in
the same order. -/
theorem repacked_bytes_eq {buffer : Bytes} (small : buffer.length < Word.limit) {position : Nat}
    (inside : position + 8 ≤ buffer.length) (kind : RecordKind) :
    ∃ fields, View.unpack ⟨kind, buffer, position⟩ = .ok fields ∧
      ∀ builder, Reachable builder →
      ∀ offset after, fields.pack kind builder = .ok offset after →
        (∃ count < 4, after.finishedData = (buffer.drop position).take 8 ++
          (Bytes.zeros count ++ builder.finishedData)) ∧
        after.finishedData.take 8 = (buffer.drop position).take 8 ∧
        after.positionOf offset = .ok 0 ∧
        ∀ other : RecordKind,
          View.unpack ⟨other, buffer, position⟩ = .ok fields ∧
          View.unpack ⟨other, after.finishedData, 0⟩ = .ok fields ∧
          View.unpack ⟨other, after.finishedData.take 8, 0⟩ = .ok fields := by
  let source := (buffer.drop position).take 8
  have length : source.length = 8 := Bytes.length_take_drop inside
  have bytes : (Record.ofBytes source).bytes = source := Record.bytes_ofBytes length
  refine ⟨Record.ofBytes source, View.unpack_of_le small inside, ?_⟩
  intro builder reached offset after packed
  have valid := reached.wellFormed
  obtain ⟨count, few, data⟩ := Build.exists_finishedData_of_pack valid packed
  rw [bytes] at data
  have front : after.finishedData.take 8 = source := by
    rw [data]
    exact List.take_left' length
  refine ⟨⟨count, few, data⟩, front, Build.positionOf_of_pack valid packed, fun other =>
    ⟨View.unpack_of_le small inside, Build.unpack_of_pack valid packed other, ?_⟩⟩
  -- The eight bytes alone are a buffer as well.
  have alone : source = [] ++ (Record.ofBytes source).bytes ++ [] := by
    rw [bytes, List.nil_append, List.append_nil]
  rw [front]
  exact View.unpack_of_split [] [] alone (by rw [length]; decide)

/-- Not a number in front of a negative zero, at an odd position of one buffer, packed behind two
bytes of another one that has to grow. -/
theorem repacked_bytes_eq_grown :
    let buffer : Bytes := [1, 2, 3, 1, 0, 192, 127, 0, 0, 0, 128, 9]
    let fields : Record := ⟨0x7fc00001, 0x80000000⟩
    let builder : Builder := ⟨[187, 170], 2, 2, 2, 18⟩
    let after : Builder := ⟨[187, 170, 0, 0, 128, 0, 0, 0, 127, 192, 0, 1], 12, 16, 4, 18⟩
    buffer.length < Word.limit ∧ 3 + 8 ≤ buffer.length ∧ Reachable builder ∧
    View.unpack ⟨.polarPoint, buffer, 3⟩ = .ok fields ∧
    fields.pack .polarPoint builder = .ok ⟨12⟩ after ∧
    (∃ count < 4, after.finishedData = (buffer.drop 3).take 8 ++
      (Bytes.zeros count ++ builder.finishedData)) ∧
    View.unpack ⟨.transformation, after.finishedData.take 8, 0⟩ = .ok fields := by
  intro buffer fields builder after
  have small : buffer.length < Word.limit := by decide
  have inside : 3 + 8 ≤ buffer.length := by decide
  have reached : Reachable builder :=
    ⟨⟨2, 18⟩, [⟨.push .uint16 0xbbaa, .ok (.placed ⟨2⟩)⟩], .next .start (by decide +kernel)⟩
  have packed : fields.pack .polarPoint builder = .ok ⟨12⟩ after := by decide +kernel
  have shown : View.unpack ⟨.polarPoint, buffer, 3⟩ = .ok fields := rfl
  obtain ⟨read, unpacked, kept⟩ := repacked_bytes_eq small inside .polarPoint
  cases shown.symm.trans unpacked
  obtain ⟨data, -, -, views⟩ := kept builder reached ⟨12⟩ after packed
  exact ⟨small, inside, reached, shown, packed, data, (views .transformation).2.2⟩

end FixedLayout
