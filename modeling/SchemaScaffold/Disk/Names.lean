import SchemaScaffold.Disk
import SchemaScaffold.Text.Utf8

/-!
# Names in a file system

The names that a file system has are bytes, and any bytes but those of a slash will do. Most names are
those of texts; a program that needs a text of another name shows it as one, and different names may
then look the same.
-/

namespace SchemaScaffold

/-- A name as a file system has it. -/
@[ext]
structure DiskName where
  bytes : List UInt8
  deriving DecidableEq, Repr, Inhabited

namespace DiskName

def ofText (text : String) : DiskName := ⟨text.toUTF8.data.toList⟩

def text (name : DiskName) : String := Text.decode name.bytes

end DiskName

namespace Node

variable {α β : Type}

mutual

def renamed (rename : α → β) : Node α → Node β
  | file bytes => file bytes
  | link target => link target
  | directory entries => directory (renamedAmong rename entries)

def renamedAmong (rename : α → β) : List (α × Node α) → List (β × Node β)
  | [] => []
  | (name, node) :: rest => (rename name, renamed rename node) :: renamedAmong rename rest

end

end Node

end SchemaScaffold
