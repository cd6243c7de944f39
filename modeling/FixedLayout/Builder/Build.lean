import FixedLayout.Builder.Basic
import FixedLayout.Fault

/-!
Computations on a builder. Each one succeeds with a value, or is refused with an error and leaves
a builder to go on with, or faults and leaves nothing.
-/
namespace FixedLayout

/-- How a computation on a builder ends. -/
inductive Outcome (α : Type) where
  | ok (value : α) (after : Builder)
  | refused (error : BufferError) (after : Builder)
  | fault (cause : Fault)
  deriving DecidableEq, Repr

def Build (α : Type) : Type := Builder → Outcome α

namespace Build

protected def pure (value : α) : Build α := .ok value

/-- Runs one computation and, where it succeeds, the next. -/
protected def bind (first : Build α) (next : α → Build β) : Build β := fun builder =>
  match first builder with
  | .ok value after => next value after
  | .refused error after => .refused error after
  | .fault cause => .fault cause

instance : Monad Build where
  pure := Build.pure
  bind := Build.bind

/-- What `view` shows of the builder. -/
def observe (view : Builder → α) : Build α := fun builder => .ok (view builder) builder

def update (change : Builder → Builder) : Build Unit := fun builder => .ok () (change builder)

def refuse (error : BufferError) : Build α := .refused error

/-- The value of a checked computation. -/
def ofExcept : Except Fault α → Build α
  | .ok value => pure value
  | .error cause => fun _ => .fault cause

/-- Faults unless the condition holds. -/
def require (condition : Prop) [Decidable condition] (cause : Fault) : Build Unit :=
  if condition then pure () else fun _ => .fault cause

variable (builder : Builder)

@[simp] theorem pure_apply (value : α) : (pure value : Build α) builder = .ok value builder := rfl

theorem bind_apply (first : Build α) (next : α → Build β) :
    (first >>= next) builder = match first builder with
      | .ok value after => next value after
      | .refused error after => .refused error after
      | .fault cause => .fault cause := rfl

theorem bind_assoc (first : Build α) (next : α → Build β) (last : β → Build γ) :
    first >>= next >>= last = first >>= fun value => next value >>= last := by
  funext builder
  simp only [bind_apply]
  cases first builder with
  | ok => rfl
  | refused => rfl
  | fault => rfl

theorem bind_pure (first : Build α) : first >>= pure = first := by
  funext builder
  rw [bind_apply]
  cases first builder with
  | ok => rfl
  | refused => rfl
  | fault => rfl

@[simp] theorem observe_apply (view : Builder → α) :
    observe view builder = .ok (view builder) builder := rfl

@[simp] theorem update_apply (change : Builder → Builder) :
    update change builder = .ok () (change builder) := rfl

@[simp] theorem refuse_apply (error : BufferError) :
    (refuse error : Build α) builder = .refused error builder := rfl

@[simp] theorem ofExcept_ok_apply (value : α) :
    (ofExcept (.ok value) : Build α) builder = .ok value builder := rfl

@[simp] theorem ofExcept_error_apply (cause : Fault) :
    (ofExcept (.error cause) : Build α) builder = .fault cause := rfl

@[simp] theorem require_apply (condition : Prop) [Decidable condition] (cause : Fault) :
    require condition cause builder = if condition then .ok () builder else .fault cause := by
  by_cases holds : condition
  · simp [require, holds]
  · simp [require, holds]

end Build
end FixedLayout
