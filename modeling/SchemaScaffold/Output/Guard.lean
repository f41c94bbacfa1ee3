import SchemaScaffold.Error
import SchemaScaffold.Path

/-!
# Guards

A guard confines paths to a directory. It goes by the text of a path alone, so that a path can be
checked before anything exists at its place.
-/

namespace SchemaScaffold

structure Guard where
  start : AbsPath
  root : AbsPath
  deriving DecidableEq, Repr, Inhabited

namespace Guard

def absolute (start : AbsPath) (path : Path) : Result AbsPath :=
  if path.isEmpty then Result.invalid .emptyPath else .ok (start.follow path)

def make (start : AbsPath) (dir : Path) : Result Guard := do
  return { start, root := ← absolute start dir }

def resolveFrom (guard : Guard) (base : AbsPath) (candidate : Path) : Result AbsPath :=
  if !base.within guard.root then .error (.escape (.base base.toString))
  else
    let full := base.follow candidate
    if full.within guard.root then .ok full else .error (.escape (.candidate candidate.text))

def resolve (guard : Guard) (base candidate : Path) : Result AbsPath := do
  guard.resolveFrom (← absolute guard.start base) candidate

/-- The place of a directory, confined. -/
def resolveDir (guard : Guard) (dir : Path) : Result AbsPath := guard.resolve dir ⟨""⟩

end Guard

end SchemaScaffold
