import FixedLayout.Proofs.Observation

/-!
What a refused step leaves behind. The buffer stays as it was, but the alignment of the request is
noted, and the data will be finished to it; a refused step goes unseen exactly when its alignment
was asked for before.
-/
namespace FixedLayout

/-- All that a builder shows. -/
def Builder.sight (builder : Builder) : Bytes × Offset × Nat × Nat :=
  (builder.finishedData, builder.offset, builder.capacity, builder.minAlign)

/-- What a builder shows apart from its alignment. -/
def Builder.stored (builder : Builder) : Bytes × Offset × Nat :=
  (builder.finishedData, builder.offset, builder.capacity)

/-- Two builders with the same buffer under the same limit. -/
structure SameBuffer (a b : Builder) : Prop where
  left : a.WellFormed
  right : b.WellFormed
  cells : a.cells = b.cells
  used : a.used = b.used
  capacity : a.capacity = b.capacity
  maxSize : a.maxSize = b.maxSize

namespace SameBuffer

variable {a b : Builder} {step : Step} {reservation : Reservation} {needed : Nat}

theorem finishedData (same : SameBuffer a b) : a.finishedData = b.finishedData := by
  rw [Builder.finishedData, Builder.finishedData, same.cells, same.used]

theorem stored_eq (same : SameBuffer a b) : a.stored = b.stored := by
  simp only [Builder.stored, Builder.offset, same.finishedData, same.used, same.capacity]

theorem raiseAlign (same : SameBuffer a b) {alignment : Nat} (power : Word.IsAlignment alignment) :
    SameBuffer (a.raiseAlign alignment) (b.raiseAlign alignment) :=
  ⟨same.left.raiseAlign power, same.right.raiseAlign power, same.cells, same.used, same.capacity,
    same.maxSize⟩

theorem extend (same : SameBuffer a b) {bytes : Bytes} (room : bytes.length ≤ a.free) :
    SameBuffer (a.extend bytes) (b.extend bytes) where
  left := same.left.extend room
  right := same.right.extend (by rwa [Builder.free, ← same.used, ← same.capacity])
  cells := by simp only [Builder.extend, same.cells, same.used]
  used := congrArg (· + bytes.length) same.used
  capacity := same.capacity
  maxSize := same.maxSize

theorem grow (same : SameBuffer a b) : SameBuffer a.grow b.grow where
  left := same.left.grow
  right := same.right.grow
  cells := by simp only [Builder.grow, same.cells, same.used]
  used := same.used
  capacity := by simp only [Builder.grow, same.capacity, same.maxSize]
  maxSize := same.maxSize

theorem growUntil (same : SameBuffer a b) :
    SameBuffer (a.growUntil needed) (b.growUntil needed) := by
  fun_induction Builder.growUntil needed a generalizing b with
  | case1 a room ih =>
    have other_room : b.free < needed ∧ b.capacity < b.maxSize := by
      rwa [Builder.free, ← same.used, ← same.capacity, ← same.maxSize]
    have grows : b.growUntil needed = b.grow.growUntil needed := by
      rw [Builder.growUntil, if_pos other_room]
    rw [grows]
    exact ih same.grow
  | case2 a stopped =>
    have other_stopped : ¬ (b.free < needed ∧ b.capacity < b.maxSize) := by
      rwa [Builder.free, ← same.used, ← same.capacity, ← same.maxSize]
    have stays : b.growUntil needed = b := by
      rw [Builder.growUntil, if_neg other_stopped]
    rw [stays]
    exact same

theorem grant (same : SameBuffer a b) (power : Word.IsAlignment reservation.alignment)
    (room : reservation.requested a ≤ a.maxSize) :
    SameBuffer (reservation.grant a) (reservation.grant b) := by
  rw [Reservation.grant, Reservation.grant, ← Reservation.needed_eq same.used,
    ← Reservation.bytes_eq same.used]
  apply (same.raiseAlign power).growUntil.extend
  exact Reservation.length_bytes_le.trans (Reservation.le_free_grown room)

theorem reset_eq (same : SameBuffer a b) : a.reset = b.reset := by
  simp only [Builder.reset, same.cells, same.capacity, same.maxSize]

theorem perform_reservation (same : SameBuffer a b) (unfinished : step ≠ .finish)
    (asks : step.reservation? a = some reservation) :
    (step.perform a).Matches SameBuffer (step.perform b) := by
  have other_asks : step.reservation? b = some reservation := by
    rw [← asks]
    exact Step.reservation?_eq fun finishes => absurd finishes unfinished
  apply Step.perform_matches same.left same.right asks other_asks same.used same.maxSize
    same.raiseAlign same.grant
  intro a b related
  exact Step.reply_eq related.used related.finishedData

theorem perform (same : SameBuffer a b) (unfinished : step ≠ .finish) (kept : step ≠ .reset) :
    (step.perform a).Matches SameBuffer (step.perform b) := by
  cases step with
  | put type value =>
    have free : a.free = b.free := by rw [Builder.free, Builder.free, same.used, same.capacity]
    exact Step.put_matches value (by rw [free]) fun room _ => same.extend room
  | reset => exact absurd rfl kept
  | prep | push | create | pack | finish => exact same.perform_reservation unfinished rfl

/-- The first reset makes the builders equal, and up to there the alignment goes unread. -/
theorem watch_eq (same : SameBuffer a b) {steps : List Step}
    (unfinished : .finish ∉ steps.takeWhile (· ≠ .reset)) :
    watch Builder.stored steps a = watch Builder.stored steps b := by
  induction steps generalizing a b with
  | nil => rfl
  | cons step rest ih =>
    by_cases kept : step = .reset
    · subst kept
      simp only [watch, Step.perform_reset, same.reset_eq]
    · have onward : (step :: rest).takeWhile (· ≠ .reset) =
          step :: rest.takeWhile (· ≠ .reset) := by
        simp [kept]
      rw [onward, List.mem_cons, not_or] at unfinished
      obtain ⟨now, later⟩ := unfinished
      apply watch_cons_eq (same.perform (Ne.symm now) kept) stored_eq
      intro a' b' _ _ next
      exact ih next later

end SameBuffer

theorem Builder.raiseAlign_eq_self {builder : Builder} {alignment : Nat}
    (noted : alignment ≤ builder.minAlign) : builder.raiseAlign alignment = builder := by
  rw [raiseAlign, Nat.max_eq_left noted]

/-- No steps tell the two builders apart. -/
def SeenAlike (a b : Builder) : Prop :=
  a.sight = b.sight ∧ ∀ steps, watch Builder.sight steps a = watch Builder.sight steps b

/-- A refused step shows exactly if it asked for a larger alignment than any before, which stays
noted. Up to the next reset nothing but finishing, and the alignment itself, can tell. -/
theorem refusal_visible {builder after : Builder} {step : Step} {error : BufferError}
    (reached : Reachable builder) (refused : step.perform builder = .refused error after) :
    ∃ reservation, step.reservation? builder = some reservation ∧
      after = builder.raiseAlign reservation.alignment ∧
      (SeenAlike after builder ↔ reservation.alignment ≤ builder.minAlign) ∧
      ∀ steps, .finish ∉ steps.takeWhile (· ≠ .reset) →
        watch Builder.stored steps after = watch Builder.stored steps builder := by
  have valid := reached.wellFormed
  have leads : step.Leads builder (.error error) after := Step.leads valid refused
  cases leads with
  | @refused _ reservation asks power large =>
    refine ⟨reservation, asks, rfl, ⟨?_, ?_⟩, ?_⟩
    · rintro ⟨same, -⟩
      have align : (builder.raiseAlign reservation.alignment).minAlign = builder.minAlign :=
        congrArg (·.2.2.2) same
      rw [← align]
      exact Nat.le_max_right ..
    · intro noted
      rw [Builder.raiseAlign_eq_self noted]
      exact ⟨rfl, fun _ => rfl⟩
    · intro steps unfinished
      have same : SameBuffer (builder.raiseAlign reservation.alignment) builder :=
        ⟨valid.raiseAlign power, valid, rfl, rfl, rfl, rfl⟩
      exact same.watch_eq unfinished

/-- A record that does not fit behind a single byte, under a limit of three. -/
theorem refusal_visible_record :
    let builder : Builder := ⟨[7], 1, 1, 1, 3⟩
    let after : Builder := ⟨[7], 1, 1, 4, 3⟩
    let step : Step := .create .polarPoint 0x3f800000 0x40000000
    Reachable builder ∧ step.perform builder = .refused (.tooLarge 12 3) after ∧
      ¬ SeenAlike after builder := by
  intro builder after step
  have reached : Reachable builder :=
    ⟨⟨0, 3⟩, [⟨.push .uint8 7, .ok (.placed ⟨1⟩)⟩], .next .start (by decide +kernel)⟩
  have refused : step.perform builder = .refused (.tooLarge 12 3) after := by decide +kernel
  refine ⟨reached, refused, ?_⟩
  obtain ⟨reservation, asks, -, alike, -⟩ := refusal_visible reached refused
  cases asks
  rw [alike]
  decide

/-- Had it not been tried, the data would have been finished as they were; now they are not even
finished. -/
theorem refusal_blocks_finish :
    let builder : Builder := ⟨[7], 1, 1, 1, 3⟩
    let after : Builder := ⟨[7], 1, 1, 4, 3⟩
    Reachable builder ∧
      (Step.create .polarPoint 0x3f800000 0x40000000).perform builder =
        .refused (.tooLarge 12 3) after ∧
      Step.finish.perform builder = .ok (.finished [7]) builder ∧
      Step.finish.perform after = .refused (.tooLarge 4 3) after := by
  intro builder after
  refine ⟨?_, by decide +kernel, by decide +kernel, by decide +kernel⟩
  exact ⟨⟨0, 3⟩, [⟨.push .uint8 7, .ok (.placed ⟨1⟩)⟩], .next .start (by decide +kernel)⟩

end FixedLayout
