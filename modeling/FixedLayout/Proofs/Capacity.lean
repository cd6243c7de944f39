import FixedLayout.Proofs.Observation

/-!
The capacity shows only where a raw write runs out of it. Builders with the same finished data,
alignment and limit go through the same steps alike, whatever their capacities are and whatever
lies below the finished data; a reset builder is no exception.
-/
namespace FixedLayout

/-- What a builder shows apart from its capacity. -/
def Builder.contents (builder : Builder) : Bytes × Offset × Nat :=
  (builder.finishedData, builder.offset, builder.minAlign)

/-- Each raw write that the steps come to finds the free bytes it needs. -/
def Roomy : List Step → Builder → Prop
  | [], _ => True
  | step :: rest, builder =>
    (∀ type value, step = .put type value → type.size ≤ builder.capacity - builder.used) ∧
      ∀ after, (step.perform builder).after? = some after → Roomy rest after

/-- Two builders that hold the same under the same limit, in buffers of any size. -/
structure SameContents (a b : Builder) : Prop where
  left : a.WellFormed
  right : b.WellFormed
  finishedData : a.finishedData = b.finishedData
  minAlign : a.minAlign = b.minAlign
  maxSize : a.maxSize = b.maxSize

namespace SameContents

variable {a b : Builder} {step : Step} {reservation : Reservation}

theorem used (same : SameContents a b) : a.used = b.used := by
  rw [← Builder.length_finishedData same.left, ← Builder.length_finishedData same.right,
    same.finishedData]

theorem contents_eq (same : SameContents a b) : a.contents = b.contents := by
  simp only [Builder.contents, Builder.offset, same.finishedData, same.used, same.minAlign]

theorem raiseAlign (same : SameContents a b) {alignment : Nat}
    (power : Word.IsAlignment alignment) :
    SameContents (a.raiseAlign alignment) (b.raiseAlign alignment) where
  left := same.left.raiseAlign power
  right := same.right.raiseAlign power
  finishedData := same.finishedData
  minAlign := congrArg (max · alignment) same.minAlign
  maxSize := same.maxSize

theorem extend (same : SameContents a b) {bytes : Bytes} (room : bytes.length ≤ a.free)
    (other_room : bytes.length ≤ b.free) : SameContents (a.extend bytes) (b.extend bytes) where
  left := same.left.extend room
  right := same.right.extend other_room
  finishedData := by
    rw [Builder.finishedData_extend same.left, Builder.finishedData_extend same.right,
      same.finishedData]
  minAlign := same.minAlign
  maxSize := same.maxSize

theorem reset (same : SameContents a b) : SameContents a.reset b.reset where
  left := same.left.reset
  right := same.right.reset
  finishedData := by rw [Builder.finishedData_reset, Builder.finishedData_reset]
  minAlign := rfl
  maxSize := same.maxSize

/-- The two buffers may grow by different factors, or only one of them; the data come out equal. -/
theorem grant (same : SameContents a b) (power : Word.IsAlignment reservation.alignment)
    (room : reservation.requested a ≤ a.maxSize) :
    SameContents (reservation.grant a) (reservation.grant b) where
  left := Reservation.wellFormed_grant same.left power room
  right := by
    apply Reservation.wellFormed_grant same.right power
    rwa [← same.maxSize, ← Reservation.requested_eq same.used]
  finishedData := by
    rw [Reservation.finishedData_grant same.left power,
      Reservation.finishedData_grant same.right power, same.finishedData,
      Reservation.bytes_eq same.used]
  minAlign := by rw [Reservation.minAlign_grant, Reservation.minAlign_grant, same.minAlign]
  maxSize := by rw [Reservation.maxSize_grant, Reservation.maxSize_grant, same.maxSize]

theorem perform_reservation (same : SameContents a b)
    (asks : step.reservation? a = some reservation) :
    (step.perform a).Matches SameContents (step.perform b) := by
  have other_asks : step.reservation? b = some reservation := by
    rw [← asks]
    exact Step.reservation?_eq fun _ => same.minAlign.symm
  apply Step.perform_matches same.left same.right asks other_asks same.used same.maxSize
    same.raiseAlign same.grant
  intro a b related
  exact Step.reply_eq related.used related.finishedData

/-- A step that is no raw write, or one for which both or neither have room, ends the same way. -/
theorem perform (same : SameContents a b)
    (rooms : ∀ type value, step = .put type value → (type.size ≤ a.free ↔ type.size ≤ b.free)) :
    (step.perform a).Matches SameContents (step.perform b) := by
  cases step with
  | put type value => exact Step.put_matches value (rooms type value rfl) same.extend
  | reset => exact .ok same.reset
  | prep | push | create | pack | finish => exact same.perform_reservation rfl

theorem watch_eq (same : SameContents a b) {steps : List Step} (roomy : Roomy steps a)
    (other_roomy : Roomy steps b) :
    watch Builder.contents steps a = watch Builder.contents steps b := by
  induction steps generalizing a b with
  | nil => rfl
  | cons step rest ih =>
    have rooms : ∀ type value, step = .put type value →
        (type.size ≤ a.free ↔ type.size ≤ b.free) := fun type value put =>
      ⟨fun _ => other_roomy.1 type value put, fun _ => roomy.1 type value put⟩
    apply watch_cons_eq (same.perform rooms) contents_eq
    intro a' b' leads other_leads next
    exact ih next (roomy.2 a' leads) (other_roomy.2 b' other_leads)

/-- A raw write that answers had room. -/
theorem room_of_answered {before after : Builder} {type : ScalarType} {value : type.Value}
    {answer : Except BufferError Reply} (valid : before.WellFormed) (put : step = .put type value)
    (performed : step.perform before = .answered answer after) : type.size ≤ before.free := by
  subst put
  cases Step.leads valid performed with
  | granted asks => cases asks
  | refused asks => cases asks
  | written room => exact room

theorem run {start other a b : Builder} {history : List Event} (same : SameContents start other)
    (first : Run start history a) (second : Run other history b) : SameContents a b := by
  induction first generalizing b with
  | start =>
    cases second with
    | start => exact same
  | next _ performed ih =>
    cases second with
    | next earlier other_performed =>
      have before := ih earlier
      have matched := before.perform fun type value put =>
        ⟨fun _ => room_of_answered before.right put other_performed,
          fun _ => room_of_answered before.left put performed⟩
      rw [performed, other_performed] at matched
      exact matched.answered

end SameContents

/-- A raw write faults exactly where the free bytes do not suffice. -/
theorem Step.put_faults_iff {builder : Builder} {type : ScalarType} {value : type.Value} :
    (∃ cause, (Step.put type value).perform builder = .fault cause) ↔
      builder.capacity - builder.used < type.size := by
  change _ ↔ builder.free < type.size
  rw [Step.perform_put]
  by_cases room : type.size ≤ builder.free
  · rw [if_pos room]
    constructor
    · rintro ⟨cause, impossible⟩
      cases impossible
    · omega
  · rw [if_neg room]
    exact ⟨fun _ => Nat.not_le.mp room, fun _ => ⟨_, rfl⟩⟩

/-- Runs from builders that hold the same are seen alike as long as raw writes find room. After the
same history a step can only tell them apart by being a raw write that fits into one of them, and
it faults in the other. -/
theorem capacity_invisible {a b : Builder} (reached : Reachable a) (other_reached : Reachable b)
    (data : a.finishedData = b.finishedData) (align : a.minAlign = b.minAlign)
    (limit : a.maxSize = b.maxSize) :
    (∀ steps, Roomy steps a → Roomy steps b →
      watch Builder.contents steps a = watch Builder.contents steps b) ∧
    (∀ history a' b', Run a history a' → Run b history b' →
      a'.contents = b'.contents ∧
      ∀ step : Step,
        (step.perform a').seen Builder.contents = (step.perform b').seen Builder.contents ∨
        ∃ type value, step = .put type value ∧
          ¬ (type.size ≤ a'.capacity - a'.used ↔ type.size ≤ b'.capacity - b'.used)) ∧
    ∀ (builder : Builder) (type : ScalarType) (value : type.Value),
      (∃ cause, (Step.put type value).perform builder = .fault cause) ↔
        builder.capacity - builder.used < type.size := by
  have same : SameContents a b :=
    ⟨reached.wellFormed, other_reached.wellFormed, data, align, limit⟩
  refine ⟨fun steps => same.watch_eq, ?_, fun _ _ _ => Step.put_faults_iff⟩
  intro history a' b' first second
  have now := same.run first second
  refine ⟨now.contents_eq, fun step => ?_⟩
  by_cases rooms : ∀ type value, step = .put type value →
      (type.size ≤ a'.free ↔ type.size ≤ b'.free)
  · exact .inl ((now.perform rooms).seen_eq SameContents.contents_eq)
  · simp only [not_forall] at rooms
    obtain ⟨type, value, put, differ⟩ := rooms
    exact .inr ⟨type, value, put, differ⟩

/-- A builder that was reset, with four stale bytes, and a fresh one with a larger buffer. -/
theorem capacity_invisible_reset :
    let a : Builder := ⟨[0, 0, 0, 7], 0, 4, 1, 20⟩
    let b : Builder := .ofOptions ⟨20, 20⟩
    Reachable a ∧ Reachable b ∧ a.capacity ≠ b.capacity ∧
      ∀ steps, Roomy steps a → Roomy steps b →
        watch Builder.contents steps a = watch Builder.contents steps b := by
  intro a b
  have pushed : Run (.ofOptions ⟨1, 20⟩) [⟨.push .uint32 7, .ok (.placed ⟨4⟩)⟩]
      ⟨[0, 0, 0, 7], 4, 4, 4, 20⟩ := .next .start (by decide +kernel)
  have reached : Reachable a :=
    ⟨⟨1, 20⟩, ⟨.reset, .ok .done⟩ :: _, .next pushed (by decide +kernel)⟩
  have other_reached : Reachable b := ⟨⟨20, 20⟩, [], .start⟩
  exact ⟨reached, other_reached, by decide,
    (capacity_invisible reached other_reached rfl rfl rfl).1⟩

end FixedLayout
