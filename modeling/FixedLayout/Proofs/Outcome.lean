import FixedLayout.Proofs.Reservation

/-!
How steps end. A step that needs space ends as its reservation does, whatever the capacity, which
is `Step.perform_reservation`; `Step.Leads` lists all that a step can do when it answers.
-/
namespace FixedLayout

namespace Build

variable {builder : Builder}

theorem write_apply (bytes : Bytes) (builder : Builder) : write bytes builder =
    if bytes.length ≤ builder.free then .ok () (builder.extend bytes) else .fault .unreserved := by
  simp only [write, bind_apply, observe_apply, require_apply]
  by_cases room : bytes.length ≤ builder.free
  · simp only [if_pos room, update_apply]
  · simp only [if_neg room]

theorem sum_apply (a b : Nat) (builder : Builder) :
    ofExcept (Fault.overflow.orElse (Word.add? a b)) builder =
      if Word.limit ≤ a + b then .fault .overflow else .ok (a + b) builder := by
  by_cases overflows : Word.limit ≤ a + b
  · rw [Word.add?_eq_none_iff.mpr overflows, if_pos overflows]
    rfl
  · rw [Word.add?_eq_some_iff.mpr ⟨Nat.not_le.mp overflows, rfl⟩, if_neg overflows]
    rfl

theorem reserve_apply (valid : builder.WellFormed) (needed : Nat) : reserve needed builder =
    if Word.limit ≤ builder.used + needed then
      .fault .overflow
    else if builder.maxSize < builder.used + needed then
      .refused (.tooLarge (builder.used + needed) builder.maxSize) builder
    else
      .ok () (builder.growUntil needed) := by
  simp only [reserve, bind_apply, observe_apply]
  by_cases scarce : builder.free < needed
  · simp only [if_pos scarce, bind_apply, observe_apply, sum_apply]
    by_cases overflows : Word.limit ≤ builder.used + needed
    · simp only [if_pos overflows]
    · simp only [if_neg overflows]
      split
      · rfl
      · rfl
  · -- Enough free bytes: neither limit is tested, and neither could be exceeded.
    have enough := Nat.not_lt.mp scarce
    have within : builder.used + needed ≤ builder.capacity := by
      have := valid.used_le_cells
      have := valid.cells_le_capacity
      simp only [Builder.free] at enough
      omega
    have := valid.capacity_le_maxSize
    have := valid.maxSize_lt_limit
    rw [if_neg scarce, if_neg (by omega), if_neg (by omega), Builder.growUntil_eq_self enough]
    rfl

theorem prep_apply (valid : builder.WellFormed) (reservation : Reservation) :
    prep reservation.alignment reservation.length builder =
      reservation.outcome builder (.ok () (reservation.prepared builder)) := by
  by_cases power : Word.IsAlignment reservation.alignment
  · have padding : Word.padding reservation.alignment
        ((builder.raiseAlign reservation.alignment).used + reservation.length) =
          reservation.padding builder := rfl
    have needed : reservation.padding builder + reservation.length =
        reservation.needed builder := rfl
    have requested : (builder.raiseAlign reservation.alignment).used +
        reservation.needed builder = reservation.requested builder := rfl
    simp only [prep, bind_apply, require_apply, if_pos power, update_apply, observe_apply,
      Reservation.outcome, padding, sum_apply, needed]
    by_cases overflows : Word.limit ≤ reservation.requested builder
    · rw [if_pos overflows]
      by_cases early : Word.limit ≤ reservation.needed builder
      · simp only [if_pos early]
      · simp only [if_neg early, reserve_apply (valid.raiseAlign power), requested,
          if_pos overflows]
    · have fits : ¬ Word.limit ≤ reservation.needed builder :=
        fun early => overflows (early.trans (Nat.le_add_left ..))
      simp only [if_neg overflows, if_neg fits, reserve_apply (valid.raiseAlign power), requested]
      by_cases large : builder.maxSize < reservation.requested builder
      · have refused : (builder.raiseAlign reservation.alignment).maxSize <
            reservation.requested builder := large
        simp only [if_pos large, if_pos refused]
        rfl
      · have accepted : ¬ (builder.raiseAlign reservation.alignment).maxSize <
            reservation.requested builder := large
        have free := Reservation.le_free_grown (Nat.not_lt.mp large)
        have padded : (Bytes.zeros (reservation.padding builder)).length ≤
            ((builder.raiseAlign reservation.alignment).growUntil
              (reservation.needed builder)).free := by
          rw [Bytes.length_zeros]
          exact (Nat.le_add_right ..).trans free
        simp only [if_neg large, if_neg accepted, write_apply, if_pos padded]
        rfl
  · simp only [prep, bind_apply, require_apply, if_neg power, Reservation.outcome]

theorem put_apply (type : ScalarType) (value : type.Value) (builder : Builder) :
    put type value builder =
      if type.size ≤ builder.free then
        .ok () (builder.extend (type.encode value))
      else
        .fault .unreserved := by
  rw [put, write_apply, ScalarType.length_encode]

/-- Two writes in a row are one. -/
theorem write_write (valid : builder.WellFormed) (first second : Bytes) :
    (write first >>= fun _ => write second) builder = write (second ++ first) builder := by
  have total : (second ++ first).length = second.length + first.length := List.length_append
  rw [bind_apply, write_apply, write_apply, total]
  by_cases room : first.length ≤ builder.free
  · have left : (builder.extend first).free = builder.free - first.length := by
      simp only [Builder.free, Builder.extend]
      omega
    simp only [if_pos room, write_apply, left, Builder.extend_extend valid]
    by_cases both : second.length + first.length ≤ builder.free
    · rw [if_pos both, if_pos (by omega)]
    · rw [if_neg both, if_neg (by omega)]
  · rw [if_neg room, if_neg (by omega)]

/-- What is reserved can be written. -/
theorem write_prepared (valid : builder.WellFormed) {reservation : Reservation}
    (power : Word.IsAlignment reservation.alignment)
    (room : reservation.requested builder ≤ builder.maxSize) :
    write reservation.payload (reservation.prepared builder) =
      .ok () (reservation.grant builder) := by
  have enough := reservation.fits.trans (Reservation.length_le_free_prepared room)
  rw [write_apply, if_pos enough, Reservation.extend_prepared valid power]

theorem prep_bind (valid : builder.WellFormed) (reservation : Reservation)
    {next : Unit → Build α} {success : Outcome α}
    (completes : Word.IsAlignment reservation.alignment →
      reservation.requested builder ≤ builder.maxSize →
      next () (reservation.prepared builder) = success) :
    (prep reservation.alignment reservation.length >>= next) builder =
      reservation.outcome builder success := by
  rw [bind_apply, prep_apply valid]
  by_cases power : Word.IsAlignment reservation.alignment
  · by_cases overflows : Word.limit ≤ reservation.requested builder
    · simp only [Reservation.outcome, if_pos power, if_pos overflows]
    · by_cases large : builder.maxSize < reservation.requested builder
      · simp only [Reservation.outcome, if_pos power, if_neg overflows, if_pos large]
      · simp only [Reservation.outcome, if_pos power, if_neg overflows, if_neg large]
        exact completes power (Nat.not_lt.mp large)
  · simp only [Reservation.outcome, if_neg power]

theorem push_bind (valid : builder.WellFormed) (type : ScalarType) (value : type.Value)
    (next : Offset → Build α) :
    (push type value >>= next) builder = (Content.scalar type value).reservation.outcome builder
      (next ((Content.scalar type value).reservation.grant builder).offset
        ((Content.scalar type value).reservation.grant builder)) := by
  rw [push, bind_assoc]
  refine prep_bind valid (Content.scalar type value).reservation fun power room => ?_
  have written : put type value ((Content.scalar type value).reservation.prepared builder) =
      .ok () ((Content.scalar type value).reservation.grant builder) :=
    write_prepared valid power room
  rw [bind_assoc, bind_apply, written]
  rfl

/-- The fields of a record go down one after the other, but as if they were one payload. -/
theorem pack_bind (valid : builder.WellFormed) (kind : RecordKind) (record : Record)
    (next : Offset → Build α) :
    (record.pack kind >>= next) builder = (Content.record kind record).reservation.outcome builder
      (next ((Content.record kind record).reservation.grant builder).offset
        ((Content.record kind record).reservation.grant builder)) := by
  rw [Record.pack, RecordKind.create, bind_assoc]
  refine prep_bind valid (Content.record kind record).reservation fun power room => ?_
  have prepared := Reservation.wellFormed_prepared valid power room
  have written : (put .float32 record.second >>= fun _ => put .float32 record.first)
      ((Content.record kind record).reservation.prepared builder) =
        .ok () ((Content.record kind record).reservation.grant builder) :=
    (write_write prepared ..).trans (write_prepared valid power room)
  have regrouped : ((put .float32 record.second >>= fun _ => put .float32 record.first >>= fun _ =>
      observe Builder.offset) >>= next) =
      ((put .float32 record.second >>= fun _ => put .float32 record.first) >>= fun _ =>
        observe Builder.offset >>= next) := by
    simp only [bind_assoc]
  rw [regrouped, bind_apply, written]
  rfl

theorem finish_bind (valid : builder.WellFormed) (next : Bytes → Build α) :
    (finish >>= next) builder = builder.closing.outcome builder
      (next (builder.closing.grant builder).finishedData (builder.closing.grant builder)) := by
  have opened : (finish >>= next) builder = (prep builder.minAlign 0 >>= fun _ =>
      observe Builder.finishedData >>= next) builder := by
    change ((prep builder.minAlign 0 >>= fun _ => observe Builder.finishedData) >>= next) builder =
      _
    rw [bind_assoc]
  rw [opened]
  refine prep_bind valid builder.closing fun _ _ => ?_
  rfl

theorem push_apply (valid : builder.WellFormed) (type : ScalarType) (value : type.Value) :
    push type value builder = (Content.scalar type value).reservation.outcome builder
      (.ok ((Content.scalar type value).reservation.grant builder).offset
        ((Content.scalar type value).reservation.grant builder)) := by
  rw [← bind_pure (push type value)]
  exact push_bind valid type value pure

theorem pack_apply (valid : builder.WellFormed) (kind : RecordKind) (record : Record) :
    record.pack kind builder = (Content.record kind record).reservation.outcome builder
      (.ok ((Content.record kind record).reservation.grant builder).offset
        ((Content.record kind record).reservation.grant builder)) := by
  rw [← bind_pure (record.pack kind)]
  exact pack_bind valid kind record pure

theorem finish_apply (valid : builder.WellFormed) :
    finish builder = builder.closing.outcome builder
      (.ok (builder.closing.grant builder).finishedData (builder.closing.grant builder)) := by
  rw [← bind_pure finish]
  exact finish_bind valid pure

end Build

/-- Every step but a raw write and a reset ends as its reservation does. -/
theorem Step.perform_reservation {builder : Builder} {reservation : Reservation} {step : Step}
    (valid : builder.WellFormed) (asks : step.reservation? builder = some reservation) :
    step.perform builder = reservation.outcome builder
      (.ok (step.reply (reservation.grant builder)) (reservation.grant builder)) := by
  cases step with
  | prep alignment length =>
    cases asks
    refine Build.prep_bind valid ⟨alignment, length, [], _⟩ fun _ _ => ?_
    rfl
  | push type value =>
    cases asks
    exact Build.push_bind valid type value _
  | create kind first second =>
    cases asks
    exact Build.pack_bind valid kind ⟨first, second⟩ _
  | pack kind record =>
    cases asks
    exact Build.pack_bind valid kind record _
  | finish =>
    cases asks
    exact Build.finish_bind valid _
  | put type value => cases asks
  | reset => cases asks

/-- The end of a computation that answers. -/
def Outcome.answered : Except BufferError α → Builder → Outcome α
  | .ok value, after => .ok value after
  | .error error, after => .refused error after

namespace Step

variable {builder after : Builder} {step : Step} {answer : Except BufferError Reply}

theorem perform_put (type : ScalarType) (value : type.Value) (builder : Builder) :
    (Step.put type value).perform builder =
      if type.size ≤ builder.free then
        .ok .done (builder.extend (type.encode value))
      else
        .fault .unreserved := by
  change (Build.put type value >>= fun _ => pure Reply.done) builder = _
  rw [Build.bind_apply, Build.put_apply]
  by_cases room : type.size ≤ builder.free
  · simp only [if_pos room, Build.pure_apply]
  · simp only [if_neg room]

theorem perform_reset (builder : Builder) : Step.reset.perform builder = .ok .done builder.reset :=
  rfl

/-- All that a step can do when it answers. -/
inductive Leads (builder : Builder) : Step → Except BufferError Reply → Builder → Prop where
  | granted {step : Step} {reservation : Reservation}
      (asks : step.reservation? builder = some reservation)
      (power : Word.IsAlignment reservation.alignment)
      (room : reservation.requested builder ≤ builder.maxSize) :
      Leads builder step (.ok (step.reply (reservation.grant builder))) (reservation.grant builder)
  | refused {step : Step} {reservation : Reservation}
      (asks : step.reservation? builder = some reservation)
      (power : Word.IsAlignment reservation.alignment)
      (large : builder.maxSize < reservation.requested builder) :
      Leads builder step (.error (.tooLarge (reservation.requested builder) builder.maxSize))
        (builder.raiseAlign reservation.alignment)
  | written {type : ScalarType} {value : type.Value} (room : type.size ≤ builder.free) :
      Leads builder (.put type value) (.ok .done) (builder.extend (type.encode value))
  | reset : Leads builder .reset (.ok .done) builder.reset

theorem leads_of_reservation {reservation : Reservation} (valid : builder.WellFormed)
    (asks : step.reservation? builder = some reservation)
    (performed : step.perform builder = .answered answer after) :
    Leads builder step answer after := by
  rw [perform_reservation valid asks] at performed
  rcases reservation.outcome_cases builder
      (.ok (step.reply (reservation.grant builder)) (reservation.grant builder)) with
    ⟨cause, faults⟩ | ⟨power, large, refused⟩ | ⟨power, room, granted⟩
  · have ended := faults.symm.trans performed
    cases answer <;> cases ended
  · have ended := refused.symm.trans performed
    cases answer with
    | ok reply => cases ended
    | error error =>
      cases ended
      exact .refused asks power large
  · have ended := granted.symm.trans performed
    cases answer with
    | ok reply =>
      cases ended
      exact .granted asks power room
    | error error => cases ended

theorem leads (valid : builder.WellFormed)
    (performed : step.perform builder = .answered answer after) :
    Leads builder step answer after := by
  cases step with
  | put type value =>
    rw [perform_put] at performed
    by_cases room : type.size ≤ builder.free
    · rw [if_pos room] at performed
      cases answer with
      | ok reply =>
        cases performed
        exact .written room
      | error error => cases performed
    · rw [if_neg room] at performed
      cases answer <;> cases performed
  | reset =>
    cases answer with
    | ok reply =>
      cases performed
      exact .reset
    | error error => cases performed
  | prep | push | create | pack | finish => exact leads_of_reservation valid rfl performed

end Step
end FixedLayout
