import SchemaScaffold.Disk

/-!
# Changing a disk

An activity that changes a disk may fail half-way; what it has done by then stays done.
-/

namespace SchemaScaffold

abbrev Filing := ExceptT Error (StateM Disk)

namespace Filing

def on {α : Type} (activity : Filing α) (disk : Disk) : Result α × Disk := activity.run disk

def refuse {α : Type} (fault : FileFault) : Filing α := throw (.file fault)

def ofAnswer {α : Type} : Except FileFault α → Filing α
  | .ok a => pure a
  | .error fault => refuse fault

def ofResult {α : Type} : Result α → Filing α
  | .ok a => pure a
  | .error e => throw e

def put (place : AbsPath) (node : Node String) : Filing Unit := modify fun disk => disk.put place node

def withDirectory (disk : Disk) (place : AbsPath) : Except FileFault Disk :=
  match disk.follow false AbsPath.root place.toPath with
  | .ok (.free real) => .ok (disk.put real .emptyDirectory)
  | .ok (.found ..) => .error .alreadyExists
  | .error fault => .error fault

def ensureDirectory (place : AbsPath) : Filing Unit := do
  let disk ← get
  match withDirectory disk place with
  | .ok disk => set disk
  | .error fault =>
    if disk.isDirectory AbsPath.root place.toPath then pure () else refuse fault

def makeDirectoriesUp : List String → Filing Unit
  | [] => pure ()
  | name :: above => do
    let place : AbsPath := ⟨(name :: above).reverse⟩
    match withDirectory (← get) place with
    | .error .notFound =>
      makeDirectoriesUp above
      ensureDirectory place
    | _ => ensureDirectory place

def makeDirectories (place : AbsPath) : Filing Unit := makeDirectoriesUp place.names.reverse

def write (place : AbsPath) (bytes : ByteArray) : Filing Unit := do
  match ← ofAnswer ((← get).follow true AbsPath.root place.toPath) with
  | .found real (.file _) | .free real => put real (.file bytes)
  | .found _ _ => refuse .isADirectory

end Filing

end SchemaScaffold
