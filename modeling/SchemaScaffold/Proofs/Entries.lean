import Mathlib.Data.List.Nodup
import SchemaScaffold.FileMap

namespace SchemaScaffold

theorem lookup_eq_some_iff_mem {Name α : Type} [DecidableEq Name] {name : Name} {value : α}
    {entries : List (Name × α)} (hnodup : (entries.map Prod.fst).Nodup) :
    entries.lookup name = some value ↔ (name, value) ∈ entries := by
  induction entries with
  | nil => simp
  | cons entry rest ih =>
      obtain ⟨first, stood⟩ := entry
      rw [List.map_cons, List.nodup_cons] at hnodup
      rw [List.lookup_cons, List.mem_cons]
      by_cases hname : name = first
      · subst hname
        have hfresh : (name, value) ∉ rest := fun hmem =>
          hnodup.1 (List.mem_map.mpr ⟨(name, value), hmem, rfl⟩)
        simp [hfresh, eq_comm]
      · simpa [hname, beq_eq_false_iff_ne.mpr hname] using ih hnodup.2

namespace FileMap

theorem putEntry_of_fresh {name : String} (content : String) {entries : List (String × String)}
    (hfresh : name ∉ entries.map Prod.fst) :
    putEntry name content entries = entries ++ [(name, content)] := by
  induction entries with
  | nil => rfl
  | cons entry rest ih =>
      rw [List.map_cons, List.mem_cons, not_or] at hfresh
      rw [putEntry, if_neg (Ne.symm hfresh.1), ih hfresh.2, List.cons_append]

theorem entries_foldl_insert {entries : List (String × String)} (files : FileMap)
    (hnodup : ((files.entries ++ entries).map Prod.fst).Nodup) :
    (entries.foldl (fun files entry => files.insert entry.1 entry.2) files).entries =
      files.entries ++ entries := by
  induction entries generalizing files with
  | nil => simp
  | cons entry rest ih =>
      have hfresh : entry.1 ∉ files.entries.map Prod.fst := by
        rw [List.map_append, List.nodup_append] at hnodup
        exact fun hmem => hnodup.2.2 _ hmem _ (by simp) rfl
      have hinsert : (files.insert entry.1 entry.2).entries = files.entries ++ [entry] :=
        putEntry_of_fresh entry.2 hfresh
      rw [List.append_cons, ← hinsert] at hnodup
      rw [List.foldl_cons, ih _ hnodup, hinsert, List.append_assoc, List.singleton_append]

theorem entries_ofList {entries : List (String × String)}
    (hnodup : (entries.map Prod.fst).Nodup) : (ofList entries).entries = entries :=
  entries_foldl_insert empty hnodup

theorem ofList_entries (files : FileMap) : ofList files.entries = files := by
  have hentries := entries_ofList files.nodup
  cases files
  cases hofList : ofList _
  rw [hofList] at hentries
  cases hentries
  rfl

theorem content?_eq_some_iff {files : FileMap} {name content : String} :
    files.content? name = some content ↔ (name, content) ∈ files.entries :=
  lookup_eq_some_iff_mem files.nodup

end FileMap

end SchemaScaffold
