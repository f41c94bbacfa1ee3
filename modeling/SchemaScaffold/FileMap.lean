namespace SchemaScaffold

def putEntry (name content : String) : List (String × String) → List (String × String)
  | [] => [(name, content)]
  | entry :: rest =>
    if entry.1 = name then (name, content) :: rest else entry :: putEntry name content rest

theorem map_fst_putEntry (name content : String) (entries : List (String × String)) :
    (putEntry name content entries).map Prod.fst =
      if name ∈ entries.map Prod.fst then entries.map Prod.fst
      else entries.map Prod.fst ++ [name] := by
  induction entries with
  | nil => simp [putEntry]
  | cons entry rest ih =>
    by_cases h : entry.1 = name
    · simp [putEntry, h]
    · have h' : ¬name = entry.1 := fun e => h e.symm
      simp only [putEntry, h, if_false, List.map_cons, List.mem_cons, h', false_or, ih]
      split <;> simp

/-- Contents by name. No name occurs twice. -/
structure FileMap where
  entries : List (String × String)
  nodup : (entries.map Prod.fst).Nodup

namespace FileMap

def empty : FileMap := ⟨[], List.nodup_nil⟩

def insert (files : FileMap) (name content : String) : FileMap where
  entries := putEntry name content files.entries
  nodup := by
    rw [map_fst_putEntry]
    split
    · exact files.nodup
    · rename_i h
      exact List.nodup_append.2
        ⟨files.nodup, List.nodup_cons.2 ⟨List.not_mem_nil, List.nodup_nil⟩,
          fun a ha b hb e => h (by
            rw [List.mem_singleton] at hb
            rw [← hb, ← e]
            exact ha)⟩

def ofList (entries : List (String × String)) : FileMap :=
  entries.foldl (fun files entry => files.insert entry.1 entry.2) empty

def names (files : FileMap) : List String := files.entries.map Prod.fst

def content? (files : FileMap) (name : String) : Option String := files.entries.lookup name

end FileMap

end SchemaScaffold
