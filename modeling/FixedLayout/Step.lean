import FixedLayout.Record.Basic

/-!
Runs of a builder, step by step.
-/
namespace FixedLayout

inductive Step where
  | prep (alignment length : Nat)
  | put (type : ScalarType) (value : type.Value)
  | push (type : ScalarType) (value : type.Value)
  | create (kind : RecordKind) (first second : Binary32)
  | pack (kind : RecordKind) (record : Record)
  | finish
  | reset
  deriving DecidableEq, Repr

/-- What a request that succeeds answers. -/
inductive Reply where
  | done
  | placed (offset : Offset)
  | finished (data : Bytes)
  deriving DecidableEq, Repr

def Step.perform : Step → Build Reply
  | .prep alignment length => do Build.prep alignment length; return .done
  | .put type value => do Build.put type value; return .done
  | .push type value => return .placed (← Build.push type value)
  | .create kind first second => return .placed (← kind.create first second)
  | .pack kind record => return .placed (← record.pack kind)
  | .finish => return .finished (← Build.finish)
  | .reset => do Build.reset; return .done

end FixedLayout
