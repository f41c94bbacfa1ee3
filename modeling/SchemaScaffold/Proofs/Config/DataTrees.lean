import SchemaScaffold.Config.Sources
import SchemaScaffold.Proofs.Entries
import SchemaScaffold.Proofs.Paths

/-!
# Trees of data

Sources are put into one tree, later ones on top of earlier ones. What is found under a key is what
the later source says there, if it says anything, and what the earlier one says otherwise. Tables
are merged, so under a key that leads to a table in both the same holds one level deeper.
-/

namespace SchemaScaffold.Config

/-! ### Keys of a table -/

theorem lookup_cons_of_ne {α : Type} {name first : String} (h : name ≠ first) (value : α)
    (rest : List (String × α)) : ((first, value) :: rest).lookup name = rest.lookup name := by
  rw [List.lookup_cons, beq_eq_false_iff_ne.mpr h]

theorem lookup_putDatum (key name : String) (datum : Datum) (fields : List (String × Datum)) :
    (putDatum key datum fields).lookup name =
      if name = key then some datum else fields.lookup name := by
  induction fields with
  | nil =>
      by_cases h : name = key
      · simp [putDatum, h]
      · simp [putDatum, lookup_cons_of_ne h, h]
  | cons field rest ih =>
      obtain ⟨first, old⟩ := field
      rw [putDatum]
      split
      · rename_i hfirst
        obtain rfl : first = key := hfirst
        by_cases h : name = first
        · simp [h]
        · rw [lookup_cons_of_ne h, lookup_cons_of_ne h, if_neg h]
      · rename_i hfirst
        by_cases h : name = first
        · have hkey : first ≠ key := hfirst
          simp [h, hkey]
        · rw [lookup_cons_of_ne h, lookup_cons_of_ne h, ih]

theorem mem_putDatum {key : String} {datum : Datum} {fields : List (String × Datum)}
    {field : String × Datum} (h : field ∈ putDatum key datum fields) :
    field = (key, datum) ∨ field ∈ fields := by
  induction fields with
  | nil => exact .inl (List.mem_singleton.mp h)
  | cons first rest ih =>
      rw [putDatum] at h
      split at h
      · rcases List.mem_cons.mp h with h | h
        · exact .inl h
        · exact .inr (List.mem_cons_of_mem _ h)
      · rcases List.mem_cons.mp h with rfl | h
        · exact .inr List.mem_cons_self
        · exact (ih h).imp_right (List.mem_cons_of_mem _)

theorem map_fst_putDatum (key : String) (datum : Datum) (fields : List (String × Datum)) :
    (putDatum key datum fields).map Prod.fst =
      if key ∈ fields.map Prod.fst then fields.map Prod.fst else fields.map Prod.fst ++ [key] := by
  induction fields with
  | nil => simp [putDatum]
  | cons field rest ih =>
      rw [putDatum]
      split
      · rename_i hfirst
        simp [hfirst]
      · rename_i hfirst
        rw [List.map_cons, ih]
        have hkey : key ≠ field.1 := Ne.symm hfirst
        by_cases hmem : key ∈ rest.map Prod.fst
        · rw [if_pos hmem, if_pos (by simp [hmem])]
          rfl
        · rw [if_neg hmem, if_neg (by simpa [hkey] using hmem)]
          rfl

/-- Data in whose tables no key occurs twice. What stands in lists does not matter. -/
inductive Datum.Distinct : Datum → Prop where
  | plain {datum : Datum} (h : datum.fields = []) : Distinct datum
  | table {fields : List (String × Datum)} (hnodup : (fields.map Prod.fst).Nodup)
      (hinner : ∀ field ∈ fields, Distinct field.2) : Distinct (.table fields)

namespace Datum.Distinct

theorem nodup {datum : Datum} (h : datum.Distinct) : (datum.fields.map Prod.fst).Nodup := by
  cases h with
  | plain h => simp [h]
  | table hnodup _ => exact hnodup

theorem inner {datum : Datum} (h : datum.Distinct) : ∀ field ∈ datum.fields, field.2.Distinct := by
  cases h with
  | plain h => simp [h]
  | table _ hinner => exact hinner

theorem lookup {datum : Datum} (h : datum.Distinct) (key : String) :
    ((datum.fields.lookup key).getD .null).Distinct := by
  cases hkey : datum.fields.lookup key with
  | none => exact .plain rfl
  | some found => exact h.inner (key, found) ((lookup_eq_some_iff_mem h.nodup).mp hkey)

theorem table_fields {datum : Datum} (h : datum.Distinct) : (Datum.table datum.fields).Distinct :=
  .table h.nodup h.inner

theorem put {datum old : Datum} (hold : old.Distinct) (hdatum : datum.Distinct) (key : String) :
    (Datum.table (putDatum key datum old.fields)).Distinct := by
  refine .table ?_ ?_
  · rw [map_fst_putDatum]
    split
    · exact hold.nodup
    · rename_i hfresh
      exact List.nodup_append.mpr ⟨hold.nodup, by simp, by rintro _ hmem _ h rfl; simp_all⟩
  · intro field hmem
    rcases mem_putDatum hmem with rfl | hmem
    · exact hdatum
    · exact hold.inner field hmem

mutual

theorem merge {old : Datum} (hold : old.Distinct) : ∀ new : Datum, (Config.merge old new).Distinct
  | .table fields => by
      rw [Config.merge]
      exact mergeFields hold.table_fields fields
  | .null | .bool _ | .integer _ | .fraction .. | .text _ | .moment _ | .list _ => by
      rw [Config.merge]
      · exact .plain rfl
      · simp

theorem mergeFields {old : List (String × Datum)} (hold : (Datum.table old).Distinct) :
    ∀ fields : List (String × Datum), (Datum.table (Config.mergeFields old fields)).Distinct
  | [] => by rwa [Config.mergeFields]
  | (key, datum) :: rest => by
      rw [Config.mergeFields]
      exact mergeFields (hold.put (merge (hold.lookup key) datum) key) rest

end

theorem mergeAt {datum : Datum} (way : List String) {old : Datum} (hold : old.Distinct) :
    (Config.mergeAt datum way old).Distinct := by
  induction way generalizing old with
  | nil => exact merge hold datum
  | cons key rest ih => exact hold.put (ih (hold.lookup key)) key

end Datum.Distinct

/-! ### Data at the end of ways -/

structure Entry where
  way : List String
  datum : Datum

def mergeAll (tree : Datum) (entries : List Entry) : Datum :=
  entries.foldl (fun tree entry => mergeAt entry.datum entry.way tree) tree

def entriesOf (source : List (String × Datum)) : List Entry :=
  source.map fun field => ⟨keysOf field.1, field.2⟩

theorem addAll_eq (tree : Datum) (source : List (String × Datum)) :
    addAll tree source = mergeAll tree (entriesOf source) := by
  rw [addAll, mergeAll, entriesOf, List.foldl_map]

theorem keysOf_ne_nil (name : String) : keysOf name ≠ [] := by
  simp only [keysOf]
  split
  · exact fun h => Text.fields_ne_nil '.' name.toList (List.map_eq_nil_iff.mp h)
  · simp

theorem keysOf_eq_singleton {name key : String} (h : keysOf name = [key]) : name = key := by
  simp only [keysOf] at h
  split at h
  · obtain ⟨field, hfields, rfl⟩ := List.map_eq_singleton_iff.mp h
    have htext := Text.intercalate_fields '.' name.toList
    rw [hfields, List.intercalate_singleton] at htext
    rw [htext, String.ofList_toList]
  · exact List.singleton_inj.mp h

theorem Datum.Distinct.mergeAll {tree : Datum} (h : tree.Distinct) (entries : List Entry) :
    (Config.mergeAll tree entries).Distinct := by
  induction entries generalizing tree with
  | nil => exact h
  | cons entry rest ih => exact ih (h.mergeAt entry.way)

/-- Data that no plain setting tells apart: the same data, or two tables. -/
inductive Datum.Alike : Datum → Datum → Prop where
  | refl (datum : Datum) : Alike datum datum
  | tables (fields others : List (String × Datum)) : Alike (.table fields) (.table others)

def Datum.IsPlain (datum : Datum) : Prop := ∀ fields, datum ≠ .table fields

/-- Plain data say the same wherever they are put; data further down make a table of anything. -/
theorem alike_mergeAt {datum : Datum} (hplain : datum.IsPlain) (way : List String)
    (old other : Datum) : (mergeAt datum way old).Alike (mergeAt datum way other) := by
  cases way with
  | nil =>
      rw [mergeAt, mergeAt, merge, merge]
      · exact .refl datum
      · exact hplain
      · exact hplain
  | cons key rest => exact .tables _ _

theorem lookup_mergeAt_cons (datum : Datum) (key : String) (rest : List String) (old : Datum)
    (name : String) :
    (mergeAt datum (key :: rest) old).fields.lookup name =
      if name = key then some (mergeAt datum rest ((old.fields.lookup key).getD .null))
      else old.fields.lookup name :=
  lookup_putDatum ..

/-- What is found under a key is what entries say there, and otherwise what was there. -/
theorem alike_lookup_mergeAll {entries : List Entry}
    (hentries : ∀ entry ∈ entries, entry.way ≠ [] ∧ entry.datum.IsPlain)
    {tree alone : Datum} {old : List (String × Datum)} {name : String}
    (htree : Option.Rel Datum.Alike (tree.fields.lookup name)
      ((alone.fields.lookup name).or (old.lookup name))) :
    Option.Rel Datum.Alike ((mergeAll tree entries).fields.lookup name)
      (((mergeAll alone entries).fields.lookup name).or (old.lookup name)) := by
  induction entries generalizing tree alone with
  | nil => exact htree
  | cons entry rest ih =>
      rw [List.forall_mem_cons] at hentries
      obtain ⟨way, datum⟩ := entry
      obtain ⟨⟨hway, hplain⟩, hrest⟩ := hentries
      obtain ⟨key, others, rfl⟩ := List.exists_cons_of_ne_nil hway
      refine ih hrest ?_
      rw [lookup_mergeAt_cons, lookup_mergeAt_cons]
      split
      · exact .some (alike_mergeAt hplain others _ _)
      · exact htree

def below (key : String) (entries : List Entry) : List Entry :=
  entries.filterMap fun entry =>
    match entry.way with
    | [] => none
    | first :: rest => if first = key then some ⟨rest, entry.datum⟩ else none

/-- Where no entry is about a key as a whole, entries below it are put into the table there. -/
theorem lookup_mergeAll {entries : List Entry} {key : String}
    (hways : ∀ entry ∈ entries, entry.way ≠ [] ∧ entry.way ≠ [key]) (tree : Datum) :
    (mergeAll tree entries).fields.lookup key =
      if below key entries = [] then tree.fields.lookup key
      else some (mergeAll (.table ((tree.fields.lookup key).getD .null).fields)
        (below key entries)) := by
  induction entries generalizing tree with
  | nil => rfl
  | cons entry rest ih =>
      rw [List.forall_mem_cons] at hways
      obtain ⟨way, datum⟩ := entry
      obtain ⟨⟨hway, hwhole⟩, hrest⟩ := hways
      obtain ⟨first, more, rfl⟩ := List.exists_cons_of_ne_nil hway
      have hall : mergeAll tree (⟨first :: more, datum⟩ :: rest) =
          mergeAll (mergeAt datum (first :: more) tree) rest := rfl
      rw [hall, ih hrest, lookup_mergeAt_cons]
      by_cases hfirst : first = key
      · subst hfirst
        obtain ⟨second, others, rfl⟩ := List.exists_cons_of_ne_nil
          (fun hmore : more = [] => hwhole (by rw [hmore]))
        have hbelow : below first (⟨first :: second :: others, datum⟩ :: rest) =
            ⟨second :: others, datum⟩ :: below first rest := by simp [below]
        rw [hbelow, if_pos rfl, if_neg (List.cons_ne_nil _ _)]
        split
        · rename_i hnone
          rw [hnone]
          rfl
        · rfl
      · have hbelow : below key (⟨first :: more, datum⟩ :: rest) = below key rest := by
          simp [below, hfirst]
        rw [hbelow, if_neg (Ne.symm hfirst)]

theorem mem_below {key : String} {entries : List Entry} {entry : Entry}
    (h : entry ∈ below key entries) : ⟨key :: entry.way, entry.datum⟩ ∈ entries := by
  obtain ⟨⟨way, datum⟩, hmem, hentry⟩ := List.mem_filterMap.mp h
  cases way with
  | nil => cases hentry
  | cons first rest =>
      simp only [Option.ite_none_right_eq_some, Option.some.injEq] at hentry
      obtain ⟨rfl, rfl⟩ := hentry
      exact hmem

end SchemaScaffold.Config
