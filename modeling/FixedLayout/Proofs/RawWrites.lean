import FixedLayout.Proofs.Padding

/-!
Raw writes into reserved space. Nothing but the free bytes records a reservation: values that fit
into them, of whatever types, go down one in front of the other, as if they were written at once
with the last one first.
-/
namespace FixedLayout

/-- A value together with its type. -/
structure Scalar where
  type : ScalarType
  value : type.Value

namespace Scalar

def size (scalar : Scalar) : Nat := scalar.type.size

def bytes (scalar : Scalar) : Bytes := scalar.type.encode scalar.value

def put (scalar : Scalar) : Build Unit := Build.put scalar.type scalar.value

theorem length_bytes (scalar : Scalar) : scalar.bytes.length = scalar.size :=
  scalar.type.length_encode scalar.value

/-- The order of the values does not matter for the room that they take. -/
theorem length_flatMap_reverse (scalars : List Scalar) :
    (scalars.reverse.flatMap bytes).length = (scalars.map size).sum := by
  rw [List.length_flatMap, List.map_reverse, List.sum_reverse]
  simp only [length_bytes]

end Scalar

/-- Values that are written one after the other are one piece of bytes. -/
theorem Build.forM_put {builder : Builder} (valid : builder.WellFormed) (scalars : List Scalar) :
    scalars.forM Scalar.put builder =
      Build.write (scalars.reverse.flatMap Scalar.bytes) builder := by
  induction scalars generalizing builder with
  | nil =>
    rw [write_apply]
    simp
  | cons scalar rest ih =>
    have joined : (scalar :: rest).reverse.flatMap Scalar.bytes =
        rest.reverse.flatMap Scalar.bytes ++ scalar.bytes := by
      rw [List.reverse_cons, List.flatMap_append, List.flatMap_singleton]
    have onwards : (scalar.put >>= fun _ => rest.forM Scalar.put) builder =
        (write scalar.bytes >>= fun _ => write (rest.reverse.flatMap Scalar.bytes)) builder := by
      change (write scalar.bytes >>= fun _ => rest.forM Scalar.put) builder = _
      rw [bind_apply, bind_apply, write_apply]
      by_cases room : scalar.bytes.length ≤ builder.free
      · rw [if_pos room]
        exact ih (valid.extend room)
      · rw [if_neg room]
    rw [joined, ← write_write valid]
    exact onwards

/-- After a successful reservation all values that fit into it can be written. Capacity and alignment
stay as they are, and the values lie before the padding, the last one first; when they fill the
reservation they end at a multiple of its alignment. -/
theorem reserved_writes {builder prepared : Builder} (reached : Reachable builder)
    {alignment length : Nat} (granted : Build.prep alignment length builder = .ok () prepared) :
    ∃ padding, IsLeast {count | alignment ∣ builder.used + count + length} padding ∧
      prepared.finishedData = Bytes.zeros padding ++ builder.finishedData ∧
      ∀ scalars : List Scalar, (scalars.map Scalar.size).sum ≤ length →
        ∃ after, scalars.forM Scalar.put prepared = .ok () after ∧
          after.capacity = prepared.capacity ∧ after.minAlign = prepared.minAlign ∧
          after.finishedData = scalars.reverse.flatMap Scalar.bytes ++
            (Bytes.zeros padding ++ builder.finishedData) ∧
          ((scalars.map Scalar.size).sum = length → alignment ∣ after.offset.fromEnd) := by
  have valid := reached.wellFormed
  let reservation : Reservation := ⟨alignment, length, [], Nat.zero_le _⟩
  have outcome : Build.prep alignment length builder =
      reservation.outcome builder (.ok () (reservation.prepared builder)) :=
    Build.prep_apply valid reservation
  obtain ⟨power, room, rfl⟩ := Reservation.of_outcome_eq_ok (outcome.symm.trans granted)
  have ready := Reservation.wellFormed_prepared valid power room
  have padded := Reservation.finishedData_prepared valid power
  have least := reservation.isLeast_padding power builder
  refine ⟨reservation.padding builder, least, padded, ?_⟩
  intro scalars fits
  have size := Scalar.length_flatMap_reverse scalars
  have free : length ≤ (reservation.prepared builder).free :=
    Reservation.length_le_free_prepared room
  refine ⟨(reservation.prepared builder).extend (scalars.reverse.flatMap Scalar.bytes), ?_, rfl,
    rfl, ?_, ?_⟩
  · rw [Build.forM_put ready, Build.write_apply, if_pos (by omega)]
  · rw [Builder.finishedData_extend ready, padded]
  · intro filled
    have used : ((reservation.prepared builder).extend
        (scalars.reverse.flatMap Scalar.bytes)).offset.fromEnd =
        builder.used + reservation.padding builder + length := by
      change (reservation.prepared builder).used + _ = _
      rw [Reservation.used_prepared, size, filled]
    rw [used]
    exact least.1

/-- Two values of different widths, written over what was left from before a reset. -/
theorem reserved_writes_stale :
    let builder : Builder := ⟨[7, 34, 51, 68, 85, 102, 119, 136], 1, 8, 1, 20⟩
    let prepared : Builder := ⟨[7, 0, 51, 68, 85, 102, 119, 136], 2, 8, 4, 20⟩
    let scalars : List Scalar := [⟨.uint16, 0xbbaa⟩, ⟨.float32, 0x7fc00001⟩]
    Reachable builder ∧ Build.prep 4 6 builder = .ok () prepared ∧
    ∃ after, scalars.forM Scalar.put prepared = .ok () after ∧
      after.capacity = 8 ∧ after.minAlign = 4 ∧
      after.finishedData = [1, 0, 192, 127, 170, 187, 0, 7] ∧ 4 ∣ after.offset.fromEnd := by
  intro builder prepared scalars
  have filled : Run (.ofOptions ⟨8, 20⟩) [⟨.push .uint64 0x1122334455667788, .ok (.placed ⟨8⟩)⟩]
      ⟨[17, 34, 51, 68, 85, 102, 119, 136], 8, 8, 8, 20⟩ := .next .start (by decide +kernel)
  have cleared : Run (.ofOptions ⟨8, 20⟩) (⟨.reset, .ok .done⟩ :: _)
      ⟨[17, 34, 51, 68, 85, 102, 119, 136], 0, 8, 1, 20⟩ := .next filled (by decide +kernel)
  have reached : Reachable builder :=
    ⟨⟨8, 20⟩, ⟨.push .uint8 7, .ok (.placed ⟨1⟩)⟩ :: _, .next cleared (by decide +kernel)⟩
  have granted : Build.prep 4 6 builder = .ok () prepared := by decide +kernel
  refine ⟨reached, granted, ?_⟩
  obtain ⟨padding, -, padded, writes⟩ := reserved_writes reached granted
  obtain ⟨after, written, capacity, align, data, whole⟩ := writes scalars (by decide)
  refine ⟨after, written, capacity, align, ?_, whole rfl⟩
  rw [data, ← padded]
  decide +kernel

end FixedLayout
