import FixedLayout.Proofs.Bounds
import FixedLayout.Proofs.Checked
import FixedLayout.Proofs.Padding

/-!
Orderly use of a builder: valid alignments, sizes of at most `2 ^ 63`, and no raw write beyond what
was reserved for it. Every step is then answered, also in memory, where each sum, each difference
and each access is checked. A refused reservation leaves an alignment of up to `2 ^ 63` behind, but
all alignments divide that number, so padding does not lead beyond it.
-/
namespace FixedLayout

/-- What a step has to keep to while `reserved` bytes are left of the last reservation. -/
def Step.Allowed (reserved : Nat) (builder : Builder) : Step → Prop
  | .prep alignment length => Word.IsAlignment alignment ∧ builder.used + length ≤ 2 ^ 63
  | .put type _ => type.size ≤ reserved
  | .push .. | .create .. | .pack .. | .finish | .reset => True

/-- What is left of a reservation for raw writes after a step and its answer. -/
def Step.remaining (reserved : Nat) : Step → Except BufferError Reply → Nat
  | .prep _ length, .ok _ => length
  | .put type _, .ok _ => reserved - type.size
  | _, _ => 0

/-- Steps that are all allowed where they are taken, with `reserved` bytes at hand at first. -/
def Orderly (reserved : Nat) : List Step → Builder → Prop
  | [], _ => True
  | step :: rest, builder =>
    step.Allowed reserved builder ∧
      match step.perform builder with
      | .ok reply after => Orderly (step.remaining reserved (.ok reply)) rest after
      | .refused error after => Orderly (step.remaining reserved (.error error)) rest after
      | .fault _ => True

instance (reserved : Nat) (builder : Builder) :
    (step : Step) → Decidable (step.Allowed reserved builder)
  | .prep alignment length =>
    inferInstanceAs (Decidable (Word.IsAlignment alignment ∧ builder.used + length ≤ 2 ^ 63))
  | .put type _ => inferInstanceAs (Decidable (type.size ≤ reserved))
  | .push .. | .create .. | .pack .. | .finish | .reset => isTrue trivial

instance Orderly.decidable (reserved : Nat) :
    (steps : List Step) → (builder : Builder) → Decidable (Orderly reserved steps builder)
  | [], _ => isTrue trivial
  | step :: rest, builder =>
    have : Decidable (match step.perform builder with
        | .ok reply after => Orderly (step.remaining reserved (.ok reply)) rest after
        | .refused error after => Orderly (step.remaining reserved (.error error)) rest after
        | .fault _ => True) :=
      match step.perform builder with
      | .ok .. => decidable _ rest _
      | .refused .. => decidable _ rest _
      | .fault _ => isTrue trivial
    inferInstanceAs (Decidable (_ ∧ _))

/-- Performs steps in memory, one after the other, and lists their answers. -/
def Memory.run? : List Step → Memory → Option (List (Except BufferError Reply) × Memory)
  | [], memory => some ([], memory)
  | step :: rest, memory => do
    let (answer, after) ← Checked.perform step memory
    let (answers, last) ← run? rest after
    return (answer :: answers, last)

variable {builder : Builder} {step : Step} {reserved : Nat} {reservation : Reservation}

/-- The largest alignment is a multiple of all others. -/
theorem Word.IsAlignment.dvd_half_limit {alignment : Nat} (power : IsAlignment alignment) :
    alignment ∣ 2 ^ 63 := by
  obtain ⟨k, small, rfl⟩ := power.exists_pow
  exact Nat.pow_dvd_pow 2 (Nat.le_of_lt_succ small)

/-- Padding does not lead beyond a bound that is a multiple of the alignment. -/
theorem Reservation.requested_le {bound : Nat} (power : Word.IsAlignment reservation.alignment)
    (whole : reservation.alignment ∣ bound) (within : builder.used + reservation.length ≤ bound) :
    reservation.requested builder ≤ bound := by
  have least : reservation.padding builder ≤ bound - (builder.used + reservation.length) := by
    apply (reservation.isLeast_padding power builder).2
    have total : builder.used + (bound - (builder.used + reservation.length)) +
        reservation.length = bound := by omega
    rwa [Set.mem_ofPred_eq, total]
  rw [requested_eq_add]
  omega

theorem Reservation.requested_lt (power : Word.IsAlignment reservation.alignment)
    (within : builder.used + reservation.length ≤ 2 ^ 63) :
    reservation.requested builder < Word.limit :=
  (requested_le power power.dvd_half_limit within).trans_lt (by decide)

theorem ScalarType.size_valid (type : ScalarType) :
    Word.IsAlignment type.size ∧ type.size ∣ 8 := by
  cases type <;> decide

theorem RecordKind.layout_valid (kind : RecordKind) :
    Word.IsAlignment kind.alignment ∧ kind.alignment ∣ 8 ∧ kind.size ≤ 8 := by
  cases kind <;> decide

theorem Content.layout_valid (content : Content) :
    Word.IsAlignment content.alignment ∧ content.alignment ∣ 8 ∧ content.size ≤ 8 := by
  cases content with
  | scalar type value =>
    obtain ⟨power, divides⟩ := type.size_valid
    exact ⟨power, divides, Nat.le_of_dvd (by decide) divides⟩
  | record kind record => exact kind.layout_valid

/-- Content asks for at most eight bytes beyond the limit, padding included. -/
theorem Content.requested_lt (content : Content) (valid : builder.WellFormed)
    (small : builder.maxSize ≤ 2 ^ 63) :
    Word.IsAlignment content.reservation.alignment ∧
      content.reservation.requested builder < Word.limit := by
  obtain ⟨power, divides, size⟩ := content.layout_valid
  have used := valid.used_le_maxSize.trans small
  have whole : content.alignment ∣ 2 ^ 63 + 8 := divides.trans (by decide : 8 ∣ 2 ^ 63 + 8)
  have requested : content.reservation.requested builder ≤ 2 ^ 63 + 8 :=
    Reservation.requested_le power whole (Nat.add_le_add used size)
  exact ⟨power, requested.trans_lt (by decide)⟩

/-- What an allowed step asks for is a word, however large the alignments noted so far. -/
theorem Step.Allowed.requested_lt (allowed : step.Allowed reserved builder)
    (valid : builder.WellFormed) (small : builder.maxSize ≤ 2 ^ 63)
    (asks : step.reservation? builder = some reservation) :
    Word.IsAlignment reservation.alignment ∧ reservation.requested builder < Word.limit := by
  cases step with
  | prep alignment length =>
    cases asks
    obtain ⟨power, size⟩ := allowed
    exact ⟨power, Reservation.requested_lt power size⟩
  | push | create | pack =>
    cases asks
    exact Content.requested_lt _ valid small
  | finish =>
    cases asks
    have power : Word.IsAlignment builder.closing.alignment := valid.minAlign_valid
    have size : builder.used + builder.closing.length ≤ 2 ^ 63 :=
      valid.used_le_maxSize.trans small
    exact ⟨power, Reservation.requested_lt power size⟩
  | put | reset => cases asks

/-- A reservation within the words ends in one of two ways. -/
theorem Reservation.outcome_answered (power : Word.IsAlignment reservation.alignment)
    (word : reservation.requested builder < Word.limit) (value : α) (success : Builder) :
    ∃ answer after, reservation.outcome builder (.ok value success) = .answered answer after := by
  rw [outcome, if_pos power, if_neg (Nat.not_le.mpr word)]
  by_cases large : builder.maxSize < reservation.requested builder
  · rw [if_pos large]
    exact ⟨.error _, _, rfl⟩
  · rw [if_neg large]
    exact ⟨.ok _, _, rfl⟩

theorem Step.Allowed.answered (allowed : step.Allowed reserved builder)
    (valid : builder.WellFormed) (small : builder.maxSize ≤ 2 ^ 63)
    (enough : reserved ≤ builder.free) :
    ∃ answer after, step.perform builder = .answered answer after := by
  cases step with
  | put type value =>
    have room : type.size ≤ builder.free := Nat.le_trans allowed enough
    rw [perform_put, if_pos room]
    exact ⟨.ok _, _, rfl⟩
  | reset => exact ⟨.ok _, _, rfl⟩
  | prep | push | create | pack | finish =>
    obtain ⟨power, word⟩ := allowed.requested_lt valid small rfl
    rw [perform_reservation valid rfl]
    exact Reservation.outcome_answered power word _ _

/-- What was reserved and not written yet is free. -/
theorem Reservation.length_le_free_grant
    (room : reservation.requested builder ≤ builder.maxSize) :
    reservation.length ≤ (reservation.grant builder).free + reservation.payload.length := by
  have grown := le_free_grown room
  change reservation.padding builder + reservation.length ≤ _ at grown
  simp only [Builder.free] at grown
  simp only [grant, Builder.free, Builder.extend, length_bytes]
  omega

variable {answer : Except BufferError Reply} {after : Builder}

/-- The invariant behind raw writes: what remains of a reservation is free. -/
theorem Step.Leads.remaining_le (leads : step.Leads builder answer after)
    (enough : reserved ≤ builder.free) : step.remaining reserved answer ≤ after.free := by
  cases leads with
  | granted asks power room =>
    cases step with
    | prep alignment length =>
      cases asks
      exact Reservation.length_le_free_grant room
    | put => cases asks
    | push | create | pack | finish | reset => exact Nat.zero_le _
  | refused asks =>
    cases step with
    | prep | put | push | create | pack | finish | reset => exact Nat.zero_le _
  | @written type value room =>
    change reserved - type.size ≤ builder.capacity - (builder.used + (type.encode value).length)
    rw [type.length_encode]
    simp only [Builder.free] at enough
    omega
  | reset => exact Nat.zero_le _

/-- A step that answers succeeds or is refused for its size. -/
theorem Step.Leads.ok_or_tooLarge (leads : step.Leads builder answer after) :
    (∃ reply, answer = .ok reply) ∨
      ∃ requested, answer = .error (.tooLarge requested builder.maxSize) := by
  cases leads with
  | granted | written | reset => exact .inl ⟨_, rfl⟩
  | refused => exact .inr ⟨_, rfl⟩

theorem Orderly.tail {rest : List Step} (orderly : Orderly reserved (step :: rest) builder)
    (performed : step.perform builder = .answered answer after) :
    Orderly (step.remaining reserved answer) rest after := by
  have onwards := orderly.2
  rw [performed] at onwards
  cases answer with
  | ok reply => exact onwards
  | error error => exact onwards

/-- Orderly steps continue a run to their end, whatever came before. -/
theorem Orderly.run {start : Builder} {history : List Event} {steps : List Step}
    (orderly : Orderly reserved steps builder) (run : Run start history builder)
    (valid : builder.WellFormed) (small : builder.maxSize ≤ 2 ^ 63)
    (enough : reserved ≤ builder.free) :
    ∃ events last, Run start (events ++ history) last ∧
      (events.map Event.step).reverse = steps ∧
      (∀ event ∈ events, (∃ reply, event.answer = .ok reply) ∨
        ∃ requested, event.answer = .error (.tooLarge requested builder.maxSize)) ∧
      builder.inMemory.run? steps = some ((events.map Event.answer).reverse, last.inMemory) := by
  induction steps generalizing builder reserved history with
  | nil => exact ⟨[], builder, run, rfl, by simp, rfl⟩
  | cons step rest ih =>
    obtain ⟨answer, after, performed⟩ := orderly.1.answered valid small enough
    have leads := Step.leads valid performed
    have limit := leads.maxSize_eq
    have longer : Run start (⟨step, answer⟩ :: history) after := run.next performed
    obtain ⟨events, last, run_last, steps_eq, answers, in_memory⟩ := ih (orderly.tail performed)
      longer (leads.wellFormed valid) (limit ▸ small) (leads.remaining_le enough)
    refine ⟨events ++ [⟨step, answer⟩], last, ?_, ?_, ?_, ?_⟩
    · rwa [List.append_assoc]
    · rw [List.map_append, List.reverse_append, steps_eq]
      rfl
    · intro event member
      rcases List.mem_append.mp member with later | first
      · rw [limit]
        exact answers event later
      · rw [List.mem_singleton.mp first]
        exact leads.ok_or_tooLarge
    · have first := (Checked.perform_follows step).answered valid performed
      rw [Memory.run?, first, List.map_append, List.reverse_append]
      simp only [Option.bind_eq_bind, Option.bind_some, in_memory]
      rfl

/-- In orderly use no step faults and no check in memory fails: all steps are performed, and each of
them succeeds or is refused for its size. -/
theorem orderly_answered (options : BuilderOptions) (small : options.maxSize.toNat ≤ 2 ^ 63)
    {steps : List Step} (orderly : Orderly 0 steps (.ofOptions options)) :
    ∃ history builder, Run (.ofOptions options) history builder ∧
      (history.map Event.step).reverse = steps ∧
      (∀ event ∈ history, (∃ reply, event.answer = .ok reply) ∨
        ∃ requested, event.answer = .error (.tooLarge requested options.maxSize.toNat)) ∧
      (Memory.ofOptions options).run? steps =
        some ((history.map Event.answer).reverse, builder.inMemory) := by
  obtain ⟨history, builder, run, steps_eq, answers, in_memory⟩ :=
    orderly.run .start (.ofOptions options) small (Nat.zero_le _)
  rw [List.append_nil] at run
  rw [Builder.inMemory_ofOptions] at in_memory
  exact ⟨history, builder, run, steps_eq, answers, in_memory⟩

/-- The second reservation is refused and leaves its alignment behind, so that the bytes written by
then cannot be finished before a reset. -/
theorem orderly_answered_refused :
    let options : BuilderOptions := ⟨1, 18⟩
    let steps : List Step := [.prep 4 7, .put .uint16 0xbbaa, .put .uint8 1, .put .uint32 2,
      .push .uint8 3, .prep 0x8000000000000000 0, .create .polarPoint 0x3f800000 0, .finish, .reset,
      .prep 1 0, .finish]
    options.maxSize.toNat ≤ 2 ^ 63 ∧ Orderly 0 steps (.ofOptions options) ∧
    ∃ answers last, (Memory.ofOptions options).run? steps = some (answers, last) ∧
      answers.length = 11 := by
  intro options steps
  have small : options.maxSize.toNat ≤ 2 ^ 63 := by decide
  have orderly : Orderly 0 steps (.ofOptions options) := by decide +kernel
  refine ⟨small, orderly, ?_⟩
  obtain ⟨history, builder, -, taken, -, in_memory⟩ := orderly_answered options small orderly
  refine ⟨_, _, in_memory, ?_⟩
  have count := congrArg List.length taken
  rw [List.length_reverse, List.length_map] at count ⊢
  exact count

end FixedLayout
