import FixedLayout.Proofs.Orderly
import FixedLayout.Proofs.Refusal

/-!
Records field by field. One reservation for a whole record comes to the same as one for each field
in turn: the second one needs no padding, and growing for both at once takes the rounds that growing
twice takes. The whole record is refused where its fields would be refused one by one, but then not
even the first of them is written.
-/
namespace FixedLayout

namespace Builder

variable {builder : Builder} {bytes : Bytes} {needed more : Nat}

/-- The rounds of growing for less are the first ones of growing for more. -/
theorem growUntil_growUntil (le : needed ≤ more) :
    (builder.growUntil needed).growUntil more = builder.growUntil more := by
  fun_induction growUntil needed builder with
  | case1 builder scarce ih =>
    have round : builder.growUntil more = builder.grow.growUntil more := by
      rw [growUntil, if_pos ⟨Nat.lt_of_lt_of_le scarce.1 le, scarce.2⟩]
    rw [ih, round]
  | case2 => rfl

theorem grow_extend (valid : builder.WellFormed) (bytes : Bytes) :
    (builder.extend bytes).grow = builder.grow.extend bytes := by
  -- A new buffer has nothing left over below the written bytes.
  have below : (builder.cells.take builder.used).drop (builder.used + bytes.length) = [] :=
    List.drop_eq_nil_of_le ((List.length_take_le ..).trans (Nat.le_add_right ..))
  have above : (builder.cells.take builder.used).take builder.used =
      builder.cells.take builder.used := by
    rw [List.take_take, Nat.min_self]
  rw [grow, take_cells_extend valid]
  simp only [extend, grow, above, below, List.append_nil]
  rfl

/-- What is written before growing takes up free bytes that growing has to make up for. -/
theorem growUntil_extend (valid : builder.WellFormed) (room : bytes.length ≤ builder.free) :
    (builder.extend bytes).growUntil needed =
      (builder.growUntil (bytes.length + needed)).extend bytes := by
  have left (builder : Builder) : (builder.extend bytes).free = builder.free - bytes.length :=
    (Nat.sub_sub ..).symm
  fun_induction growUntil (bytes.length + needed) builder with
  | case1 builder scarce ih =>
    have larger : builder.free ≤ builder.grow.free :=
      Nat.sub_le_sub_right (Nat.le_of_lt (builder.capacity_lt_grow scarce.2)) builder.used
    have short : (builder.extend bytes).free < needed := by
      rw [left]
      omega
    rw [growUntil, if_pos ⟨short, scarce.2⟩, grow_extend valid]
    exact ih valid.grow (room.trans larger)
  | case2 builder stopped =>
    rw [growUntil, if_neg]
    rintro ⟨short, below⟩
    rw [left] at short
    exact stopped ⟨by omega, below⟩

end Builder

/-- Two reservations in a row are one that needs and writes what they do together. -/
theorem Reservation.grant_grant {lower upper whole : Reservation} {builder : Builder}
    (valid : builder.WellFormed) (power : Word.IsAlignment lower.alignment)
    (room : lower.requested builder ≤ builder.maxSize)
    (full : lower.payload.length = lower.length) (alignment : whole.alignment = lower.alignment)
    (noted : upper.alignment = lower.alignment)
    (needed : whole.needed builder = lower.needed builder + upper.needed (lower.grant builder))
    (bytes : whole.bytes builder = upper.bytes (lower.grant builder) ++ lower.bytes builder) :
    upper.grant (lower.grant builder) = whole.grant builder := by
  have ready := valid.raiseAlign power
  have grown := le_free_grown room
  have length : (lower.bytes builder).length = lower.needed builder := by
    rw [length_bytes, full, Reservation.needed, Nat.add_comm]
  have raised : (lower.grant builder).raiseAlign lower.alignment = lower.grant builder := by
    apply Builder.raiseAlign_eq_self
    rw [minAlign_grant]
    exact Nat.le_max_right ..
  have rounds : (lower.grant builder).growUntil (upper.needed (lower.grant builder)) =
      ((builder.raiseAlign lower.alignment).growUntil (whole.needed builder)).extend
        (lower.bytes builder) := by
    rw [needed, ← length, ← Builder.growUntil_growUntil (Nat.le_add_right ..),
      ← Builder.growUntil_extend ready.growUntil (length ▸ grown), length]
    rfl
  calc upper.grant (lower.grant builder)
      = ((lower.grant builder).growUntil (upper.needed (lower.grant builder))).extend
          (upper.bytes (lower.grant builder)) := by rw [grant, noted, raised]
    _ = ((builder.raiseAlign lower.alignment).growUntil (whole.needed builder)).extend
          (whole.bytes builder) := by rw [rounds, Builder.extend_extend ready.growUntil, bytes]
    _ = whole.grant builder := by rw [grant, alignment]

/-- A record is laid out as two fields of one size, which is its alignment. -/
theorem RecordKind.layout_eq (kind : RecordKind) :
    kind.alignment = ScalarType.float32.size ∧
      kind.size = ScalarType.float32.size + ScalarType.float32.size := by
  cases kind with
  | polarPoint => exact ⟨rfl, rfl⟩
  | transformation => exact ⟨rfl, rfl⟩

namespace Record

variable {builder : Builder} {kind : RecordKind} {fields : Record}

/-- What a field asks for when it is pushed alone. -/
def lone (field : Binary32) : Reservation := (Content.scalar .float32 field).reservation

/-- What a record asks for. -/
def whole (kind : RecordKind) (fields : Record) : Reservation :=
  (Content.record kind fields).reservation

theorem alignment_valid : Word.IsAlignment ScalarType.float32.size :=
  (ScalarType.size_valid .float32).1

/-- The field that goes down first takes the padding of the record with it. -/
theorem padding_lone (kind : RecordKind) (fields : Record) (builder : Builder) :
    (lone fields.second).padding builder = (whole kind fields).padding builder := by
  obtain ⟨alignment, size⟩ := kind.layout_eq
  change Word.padding ScalarType.float32.size (builder.used + ScalarType.float32.size) =
    Word.padding kind.alignment (builder.used + kind.size)
  rw [alignment, size, ← Nat.add_assoc, Word.padding_add_self alignment_valid (_ + _)]

/-- The other one comes to an aligned place. -/
theorem padding_grant_lone (upper lower : Binary32) (builder : Builder) :
    (lone upper).padding ((lone lower).grant builder) = 0 := by
  have below : ScalarType.float32.size ∣ ((lone lower).grant builder).used :=
    Content.dvd_used_grant _ builder alignment_valid
  exact Word.padding_eq_zero alignment_valid (Nat.dvd_add_self_right.mpr below)

theorem needed_whole (kind : RecordKind) (fields : Record) (builder : Builder) :
    (whole kind fields).needed builder =
      (lone fields.second).needed builder + ScalarType.float32.size := by
  rw [Reservation.needed, Reservation.needed, padding_lone kind]
  change _ + kind.size = _ + ScalarType.float32.size + ScalarType.float32.size
  rw [kind.layout_eq.2, Nat.add_assoc]

theorem needed_grant_lone (upper lower : Binary32) (builder : Builder) :
    (lone upper).needed ((lone lower).grant builder) = ScalarType.float32.size := by
  rw [Reservation.needed, padding_grant_lone, Nat.zero_add]
  rfl

theorem requested_grant_lone (kind : RecordKind) (fields : Record) (builder : Builder) :
    (lone fields.first).requested ((lone fields.second).grant builder) =
      (whole kind fields).requested builder := by
  have used : ((lone fields.second).grant builder).used =
      (lone fields.second).requested builder := Content.used_grant _ builder
  rw [Reservation.requested, used, needed_grant_lone, Reservation.requested,
    Reservation.requested, needed_whole, Nat.add_assoc]

theorem bytes_whole (kind : RecordKind) (fields : Record) (builder : Builder) :
    (whole kind fields).bytes builder =
      (lone fields.first).bytes ((lone fields.second).grant builder) ++
        (lone fields.second).bytes builder := by
  rw [Reservation.bytes, Reservation.bytes, Reservation.bytes, padding_grant_lone,
    padding_lone kind]
  change (ScalarType.float32.encode _ ++ ScalarType.float32.encode _) ++ _ =
    (ScalarType.float32.encode _ ++ []) ++ (ScalarType.float32.encode _ ++ _)
  rw [List.append_nil, List.append_assoc]

/-- Granting the fields one by one leaves the builder that granting the record at once leaves, down
to what lies below the written bytes. -/
theorem grant_grant_lone (valid : builder.WellFormed) (kind : RecordKind) (fields : Record)
    (room : (lone fields.second).requested builder ≤ builder.maxSize) :
    (lone fields.first).grant ((lone fields.second).grant builder) =
      (whole kind fields).grant builder := by
  have noted : (lone fields.first).alignment = (lone fields.second).alignment := rfl
  apply Reservation.grant_grant valid alignment_valid room rfl kind.layout_eq.1 noted
  · rw [needed_whole, needed_grant_lone]
  · exact bytes_whole kind fields builder

end Record

variable {builder after : Builder} {offset : Offset}

/-- What is stored succeeds exactly within the limit, and is placed at the new end. -/
theorem Reservation.placed_eq_ok_iff {reservation : Reservation} (valid : builder.WellFormed)
    (power : Word.IsAlignment reservation.alignment) :
    reservation.outcome builder
        (.ok (reservation.grant builder).offset (reservation.grant builder)) = .ok offset after ↔
      reservation.requested builder ≤ builder.maxSize ∧
        after = reservation.grant builder ∧ offset = after.offset := by
  rw [outcome_eq_ok_iff valid]
  constructor
  · rintro ⟨⟨-, room⟩, rfl, rfl⟩
    exact ⟨room, rfl, rfl⟩
  · rintro ⟨room, rfl, rfl⟩
    exact ⟨⟨power, room⟩, rfl, rfl⟩

namespace Build

theorem push_eq_ok_iff (valid : builder.WellFormed) (field : Binary32) :
    push .float32 field builder = .ok offset after ↔
      (Record.lone field).requested builder ≤ builder.maxSize ∧
        after = (Record.lone field).grant builder ∧ offset = after.offset := by
  have outcome : push .float32 field builder = (Record.lone field).outcome builder
      (.ok ((Record.lone field).grant builder).offset ((Record.lone field).grant builder)) :=
    push_apply valid .float32 field
  rw [outcome]
  exact Reservation.placed_eq_ok_iff valid Record.alignment_valid

theorem pack_eq_ok_iff (valid : builder.WellFormed) (kind : RecordKind) (fields : Record) :
    fields.pack kind builder = .ok offset after ↔
      (Record.whole kind fields).requested builder ≤ builder.maxSize ∧
        after = (Record.whole kind fields).grant builder ∧ offset = after.offset := by
  have outcome : fields.pack kind builder = (Record.whole kind fields).outcome builder
      (.ok ((Record.whole kind fields).grant builder).offset
        ((Record.whole kind fields).grant builder)) :=
    pack_apply valid kind fields
  rw [outcome]
  exact Reservation.placed_eq_ok_iff valid kind.layout_valid.1

/-- What a record asks for is what its second field asks for after its first one. -/
theorem pack_iff_push_push (valid : builder.WellFormed) (kind : RecordKind) (fields : Record) :
    fields.pack kind builder = .ok offset after ↔
      ∃ lower middle, push .float32 fields.second builder = .ok lower middle ∧
        push .float32 fields.first middle = .ok offset after := by
  have less : (Record.lone fields.second).requested builder ≤
      (Record.whole kind fields).requested builder := by
    rw [Reservation.requested, Reservation.requested, Record.needed_whole]
    omega
  have ready (room : (Record.lone fields.second).requested builder ≤ builder.maxSize) :
      ((Record.lone fields.second).grant builder).WellFormed :=
    Reservation.wellFormed_grant valid Record.alignment_valid room
  rw [pack_eq_ok_iff valid]
  constructor
  · rintro ⟨room, rfl, rfl⟩
    have first := less.trans room
    refine ⟨_, _, (push_eq_ok_iff valid _).mpr ⟨first, rfl, rfl⟩, ?_⟩
    rw [push_eq_ok_iff (ready first), Record.requested_grant_lone kind, Reservation.maxSize_grant,
      Record.grant_grant_lone valid kind fields first]
    exact ⟨room, rfl, rfl⟩
  · rintro ⟨lower, middle, pushed, next⟩
    obtain ⟨first, rfl, -⟩ := (push_eq_ok_iff valid _).mp pushed
    rwa [push_eq_ok_iff (ready first), Record.requested_grant_lone kind,
      Reservation.maxSize_grant, Record.grant_grant_lone valid kind fields first] at next

end Build

/-- Creating a record succeeds exactly if pushing its fields does, the second one first, and then it
answers the same place and leaves the same builder. Otherwise it is refused and nothing is stored,
not even if the second field alone would fit. -/
theorem create_eq_push_push {builder : Builder} (reached : Reachable builder)
    (small : builder.maxSize ≤ 2 ^ 63) (kind : RecordKind) (first second : Binary32) :
    Record.pack kind ⟨first, second⟩ builder = kind.create first second builder ∧
    (∀ offset after, kind.create first second builder = .ok offset after ↔
      ∃ lower middle, Build.push .float32 second builder = .ok lower middle ∧
        Build.push .float32 first middle = .ok offset after) ∧
    ((∃ offset after, kind.create first second builder = .ok offset after) ∨
      ∃ requested after, builder.maxSize < requested ∧
        kind.create first second builder =
          .refused (.tooLarge requested builder.maxSize) after ∧
        after.stored = builder.stored) := by
  have valid := reached.wellFormed
  let fields : Record := ⟨first, second⟩
  have outcome : kind.create first second builder = (Record.whole kind fields).outcome builder
      (.ok ((Record.whole kind fields).grant builder).offset
        ((Record.whole kind fields).grant builder)) :=
    Build.pack_apply valid kind fields
  obtain ⟨power, word⟩ := Content.requested_lt (.record kind fields) valid small
  refine ⟨rfl, fun _ _ => Build.pack_iff_push_push valid kind fields, ?_⟩
  by_cases room : (Record.whole kind fields).requested builder ≤ builder.maxSize
  · left
    exact ⟨_, _, outcome.trans (Reservation.outcome_of_le valid power room _)⟩
  · right
    have large := Nat.not_le.mp room
    exact ⟨_, _, large, outcome.trans (Reservation.outcome_of_lt power word large _), rfl⟩

/-- Behind two bytes, under a limit of eleven: there is room for the padding and one field. -/
theorem create_eq_push_push_tight :
    let builder : Builder := ⟨[187, 170], 2, 2, 2, 11⟩
    let middle : Builder := ⟨[187, 170, 0, 0, 64, 0, 0, 0], 8, 8, 4, 11⟩
    Reachable builder ∧ builder.maxSize ≤ 2 ^ 63 ∧
    Build.push .float32 0x40000000 builder = .ok ⟨8⟩ middle ∧
    (∀ offset after, RecordKind.polarPoint.create 0x3f800000 0x40000000 builder ≠
      .ok offset after) ∧
    ∃ requested after, 11 < requested ∧
      RecordKind.polarPoint.create 0x3f800000 0x40000000 builder =
        .refused (.tooLarge requested 11) after ∧
      after.stored = builder.stored := by
  intro builder middle
  have reached : Reachable builder :=
    ⟨⟨2, 11⟩, [⟨.push .uint16 0xbbaa, .ok (.placed ⟨2⟩)⟩], .next .start (by decide +kernel)⟩
  have small : builder.maxSize ≤ 2 ^ 63 := by decide
  have lower : Build.push .float32 0x40000000 builder = .ok ⟨8⟩ middle := by decide +kernel
  have upper : Build.push .float32 0x3f800000 middle = .refused (.tooLarge 12 11) middle := by
    decide +kernel
  obtain ⟨-, pushes, result⟩ :=
    create_eq_push_push reached small .polarPoint 0x3f800000 0x40000000
  have fails : ∀ offset after, RecordKind.polarPoint.create 0x3f800000 0x40000000 builder ≠
      .ok offset after := by
    intro offset after created
    obtain ⟨place, between, pushed, next⟩ := (pushes offset after).mp created
    cases lower.symm.trans pushed
    cases upper.symm.trans next
  refine ⟨reached, small, lower, fails, ?_⟩
  rcases result with ⟨offset, after, created⟩ | refused
  · exact absurd created (fails offset after)
  · exact refused

end FixedLayout
