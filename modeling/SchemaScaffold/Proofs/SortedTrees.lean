import SchemaScaffold.Proofs.Archives
import SchemaScaffold.Proofs.NameOrder

/-!
# Trees in the order of their names

A walk that goes through each directory in the order of its names meets everything below in the order
of the paths. What a directory holds comes behind it and before whatever has a later name beside it, so
the order of each directory is the order of all. A list of files that is sorted by paths is therefore
what such a walk finds.
-/

namespace SchemaScaffold

/-! ### Sorting by names -/

section

variable {κ α : Type} {r : κ → κ → Prop}

theorem eq_of_perm_of_pairwise [Std.Asymm r] {entries others : List (κ × α)}
    (hperm : entries.Perm others) (hentries : (entries.map Prod.fst).Pairwise r)
    (hothers : (others.map Prod.fst).Pairwise r) : entries = others := by
  rw [List.pairwise_map] at hentries hothers
  exact hperm.eq_of_pairwise (fun a b _ _ hab hba => absurd hba (Std.Asymm.asymm _ _ hab))
    hentries hothers

variable [Std.Asymm r] [Std.Trichotomous r] [IsOrderConnected κ r] {before : κ → κ → Bool}

/-- Names that all differ are strictly in order once they are sorted. -/
theorem pairwise_mergeSort_fst (hbefore : ∀ a b, before a b ↔ r a b) {entries : List (κ × α)}
    (hnodup : (entries.map Prod.fst).Nodup) :
    ((entries.mergeSort fun a b => !before b.1 a.1).map Prod.fst).Pairwise r := by
  have hnot : ∀ a b, (!before b a) = true ↔ ¬r b a := by simp [← hbefore]
  have hsorted : (entries.mergeSort fun a b => !before b.1 a.1).Pairwise
      fun a b => !before b.1 a.1 := by
    refine List.pairwise_mergeSort (fun a b c hab hbc => ?_) (fun a b => ?_) entries
    · rw [hnot] at hab hbc ⊢
      exact fun hca => (IsOrderConnected.conn _ b.1 _ hca).elim hbc hab
    · rw [Bool.or_eq_true, hnot, hnot, or_iff_not_imp_left, not_not]
      exact Std.Asymm.asymm _ _
  have hdistinct : ((entries.mergeSort fun a b => !before b.1 a.1).map Prod.fst).Nodup :=
    ((List.mergeSort_perm _ _).map _).nodup_iff.mpr hnodup
  rw [List.nodup_iff_pairwise_ne, List.pairwise_map] at hdistinct
  rw [List.pairwise_map]
  refine (hsorted.and hdistinct).imp fun {a b} ⟨hle, hne⟩ => ?_
  rw [hnot] at hle
  by_contra hlt
  exact hne (Std.Trichotomous.trichotomous _ _ hlt hle)

end

namespace Node

open Archive (NameBefore PathBefore)

variable {node other found : Node DiskName} {entries : List (DiskName × Node DiskName)}
  {names : List DiskName}

mutual

/-- A tree with the entries of each directory in the order of their names. -/
def sorted : Node DiskName → Node DiskName
  | directory entries =>
    directory ((sortedAmong entries).mergeSort fun a b => !Archive.nameBefore b.1 a.1)
  | file bytes => file bytes
  | link target => link target

def sortedAmong : List (DiskName × Node DiskName) → List (DiskName × Node DiskName)
  | [] => []
  | (name, node) :: rest => (name, sorted node) :: sortedAmong rest

end

theorem sortedAmong_eq (entries : List (DiskName × Node DiskName)) :
    sortedAmong entries = entries.map fun entry => (entry.1, entry.2.sorted) := by
  induction entries with
  | nil => rfl
  | cons entry rest ih => rw [sortedAmong, ih, List.map_cons]

def IsInOrder (node : Node DiskName) : Prop :=
  ∀ names entries, node.get? names = some (directory entries) →
    (entries.map Prod.fst).Pairwise NameBefore

theorem map_fst_sortedAmong (entries : List (DiskName × Node DiskName)) :
    (sortedAmong entries).map Prod.fst = entries.map Prod.fst := by
  rw [sortedAmong_eq, List.map_map]
  rfl

/-- Sorting a directory changes nothing about what stands under its names. -/
theorem lookup_sorted (hnodup : (entries.map Prod.fst).Nodup) (name : DiskName) :
    ((sortedAmong entries).mergeSort fun a b => !Archive.nameBefore b.1 a.1).lookup name =
      (entries.lookup name).map sorted := by
  have hperm := List.mergeSort_perm (sortedAmong entries)
    fun a b => !Archive.nameBefore b.1 a.1
  have hsorted := (hperm.map Prod.fst).nodup_iff.mpr (by rwa [map_fst_sortedAmong])
  ext found
  rw [lookup_eq_some_iff_mem hsorted, hperm.mem_iff, sortedAmong_eq, List.mem_map,
    Option.map_eq_some_iff]
  constructor
  · rintro ⟨⟨_, child⟩, hchild, hentry⟩
    obtain ⟨rfl, rfl⟩ := Prod.mk.inj hentry
    exact ⟨child, (lookup_eq_some_iff_mem hnodup).mpr hchild, rfl⟩
  · rintro ⟨child, hchild, rfl⟩
    exact ⟨(name, child), mem_of_lookup hchild, rfl⟩

theorem get?_sorted (htidy : node.IsTidy) (names : List DiskName) :
    node.sorted.get? names = (node.get? names).map sorted := by
  induction names generalizing node with
  | nil => rw [get?_nil, get?_nil, Option.map_some]
  | cons name rest ih =>
      cases node with
      | file | link => simp [sorted, get?]
      | directory entries =>
          rw [sorted, get?, get?, lookup_sorted htidy.nodup]
          cases hchild : entries.lookup name with
          | none => rfl
          | some child => exact ih (htidy.entry (mem_of_lookup hchild))

theorem exists_of_sorted_eq_directory (h : node.sorted = directory entries) :
    ∃ inside, node = directory inside ∧
      entries = (sortedAmong inside).mergeSort fun a b => !Archive.nameBefore b.1 a.1 := by
  cases node with
  | file | link => simp [sorted] at h
  | directory inside =>
      rw [sorted, directory.injEq] at h
      exact ⟨inside, rfl, h.symm⟩

theorem isInOrder_sorted (htidy : node.IsTidy) : node.sorted.IsInOrder := by
  intro names entries h
  rw [get?_sorted htidy] at h
  obtain ⟨found, hfound, hsorted⟩ := Option.map_eq_some_iff.mp h
  obtain ⟨inside, rfl, rfl⟩ := exists_of_sorted_eq_directory hsorted
  refine pairwise_mergeSort_fst (fun _ _ => Archive.nameBefore_iff) ?_
  rw [map_fst_sortedAmong]
  exact htidy names inside hfound

theorem IsInOrder.isTidy (h : node.IsInOrder) : node.IsTidy := fun names entries hentries =>
  (h names entries hentries).imp fun hbefore hsame => by
    subst hsame
    exact Std.Asymm.asymm _ _ hbefore hbefore

theorem IsInOrder.entry (h : (directory entries).IsInOrder) {entry : DiskName × Node DiskName}
    (hentry : entry ∈ entries) : entry.2.IsInOrder := by
  intro names inner hinner
  refine h (entry.1 :: names) inner ?_
  rw [get?, h.isTidy.lookup hentry]
  exact hinner

/-- What is below a node is met in the order of the paths, if each directory is in order. -/
theorem pairwise_descendants (node : Node DiskName) (h : node.IsInOrder) :
    (node.descendants.map Prod.fst).Pairwise PathBefore := by
  induction node using Node.induction with
  | file | link => exact List.Pairwise.nil
  | directory entries ih =>
      exact pairwise_descendantsAmong (fun _ _ _ => .cons .nil) (fun _ _ _ => .cons)
        (fun _ _ => .rel) (h [] entries (get?_nil _)) fun entry hentry =>
          ih entry hentry (h.entry hentry)

end Node

namespace Archive

variable {node other : Node DiskName}

theorem pairwise_filesOf (h : node.IsInOrder) :
    ((filesOf node).map Prod.fst).Pairwise PathBefore := by
  refine List.Pairwise.sublist (sublist_regularFiles _) ?_
  rw [List.map_cons, List.pairwise_cons]
  refine ⟨fun names hmem => ?_, Node.pairwise_descendants node h⟩
  obtain ⟨found, hfound, rfl⟩ := List.mem_map.mp hmem
  obtain ⟨name, rest, hnames⟩ :=
    List.exists_cons_of_ne_nil (Node.ne_nil_of_mem_descendants hfound)
  rw [hnames]
  exact .nil

theorem perm_filesOf_of_same (hnode : node.IsTidy) (hother : other.IsTidy)
    (hsame : ∀ names bytes, node.get? names = some (.file bytes) ↔
      other.get? names = some (.file bytes)) : (filesOf node).Perm (filesOf other) := by
  refine (List.perm_ext_iff_of_nodup (nodup_filesOf hnode).of_map
    (nodup_filesOf hother).of_map).mpr ?_
  rintro ⟨names, bytes⟩
  rw [mem_filesOf hnode, mem_filesOf hother, hsame]

theorem get?_sorted_eq_file_iff (htidy : node.IsTidy) {names : List DiskName} {bytes : ByteArray} :
    node.sorted.get? names = some (.file bytes) ↔ node.get? names = some (.file bytes) := by
  rw [Node.get?_sorted htidy, Option.map_eq_some_iff]
  constructor
  · rintro ⟨found, hfound, hfile⟩
    cases found with
    | file => rwa [← hfile]
    | link | directory => simp [Node.sorted] at hfile
  · intro hfound
    exact ⟨_, hfound, rfl⟩

/-- A walk that takes each directory in the order of its names finds the files in the order of their
paths. -/
theorem inPathOrder_eq_of_same (hnode : node.IsTidy) (hother : other.IsTidy)
    (hsame : ∀ names bytes, node.get? names = some (.file bytes) ↔
      other.get? names = some (.file bytes)) :
    inPathOrder (filesOf node) = filesOf other.sorted := by
  have hordered := Node.isInOrder_sorted hother
  have hperm := perm_filesOf_of_same hnode hordered.isTidy fun names bytes =>
    (hsame names bytes).trans (get?_sorted_eq_file_iff hother).symm
  refine eq_of_perm_of_pairwise ((List.mergeSort_perm _ _).trans hperm) ?_ (pairwise_filesOf hordered)
  exact pairwise_mergeSort_fst (fun _ _ => lex_nameBefore_iff) (nodup_filesOf hnode)

end Archive

end SchemaScaffold
