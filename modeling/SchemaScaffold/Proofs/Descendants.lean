import SchemaScaffold.Disk.Names
import SchemaScaffold.Proofs.DiskGrowth
import SchemaScaffold.Proofs.Entries

namespace SchemaScaffold

namespace Node

variable {Name : Type} {node found : Node Name} {entries : List (Name × Node Name)} {names : List Name}

theorem mem_descendantsAmong :
    (names, found) ∈ descendantsAmong entries ↔ ∃ entry ∈ entries, ∃ rest,
      names = entry.1 :: rest ∧ (rest = [] ∧ found = entry.2 ∨ (rest, found) ∈ entry.2.descendants) := by
  induction entries with
  | nil => simp [descendantsAmong]
  | cons entry others ih =>
      obtain ⟨name, child⟩ := entry
      simp only [descendantsAmong, List.cons_append, List.mem_cons, List.mem_append, List.mem_map,
        Prod.mk.injEq, Prod.exists, ih, exists_eq_or_imp]
      constructor
      · rintro (⟨rfl, rfl⟩ | ⟨rest, below, hbelow, rfl, rfl⟩ | ⟨first, other, h⟩)
        · exact .inl ⟨[], rfl, .inl ⟨rfl, rfl⟩⟩
        · exact .inl ⟨rest, rfl, .inr hbelow⟩
        · exact .inr ⟨first, other, h⟩
      · rintro (⟨rest, rfl, ⟨rfl, rfl⟩ | hbelow⟩ | ⟨first, other, h⟩)
        · exact .inl ⟨rfl, rfl⟩
        · exact .inr (.inl ⟨rest, found, hbelow, rfl, rfl⟩)
        · exact .inr (.inr ⟨first, other, h⟩)

theorem ne_nil_of_mem_descendants (h : (names, found) ∈ node.descendants) : names ≠ [] := by
  cases node with
  | file | link => cases h
  | directory entries =>
      obtain ⟨entry, -, rest, rfl, -⟩ := mem_descendantsAmong.mp h
      exact List.cons_ne_nil _ _

/-- What is true of a directory if it is true of its entries, and of whatever is no directory, is true
of all nodes. -/
@[elab_as_elim]
theorem induction {motive : Node Name → Prop} (file : ∀ bytes, motive (file bytes))
    (link : ∀ target, motive (link target))
    (directory : ∀ entries, (∀ entry ∈ entries, motive entry.2) → motive (directory entries))
    (node : Node Name) : motive node := by
  match node with
  | .file bytes => exact file bytes
  | .link target => exact link target
  | .directory entries =>
      exact directory entries fun entry hentry => induction file link directory entry.2
  termination_by node
  decreasing_by
    have hsize := List.sizeOf_lt_of_mem hentry
    obtain ⟨name, child⟩ := entry
    simp only [Prod.mk.sizeOf_spec, Node.directory.sizeOf_spec] at hsize ⊢
    omega

/-- What is below some entries is in order, if the names are and what is below each of them is. A path
must come before those that go on from it, and the first names of two paths decide between them. -/
theorem pairwise_descendantsAmong {r : Name → Name → Prop} {R : List Name → List Name → Prop}
    (hself : ∀ name first rest, R [name] (name :: first :: rest))
    (hcons : ∀ name {names others}, R names others → R (name :: names) (name :: others))
    (hfirst : ∀ {name later} names others, r name later → R (name :: names) (later :: others))
    (hnames : (entries.map Prod.fst).Pairwise r)
    (hbelow : ∀ entry ∈ entries, (entry.2.descendants.map Prod.fst).Pairwise R) :
    ((descendantsAmong entries).map Prod.fst).Pairwise R := by
  induction entries with
  | nil => simp [descendantsAmong]
  | cons entry others ih =>
      obtain ⟨name, child⟩ := entry
      rw [List.map_cons, List.pairwise_cons] at hnames
      rw [List.forall_mem_cons] at hbelow
      have hchild : ((child.descendants.map Prod.fst).map (name :: ·)).Pairwise R :=
        List.pairwise_map.mpr (hbelow.1.imp (hcons name))
      have hhead : ∀ names ∈ (child.descendants.map Prod.fst).map (name :: ·), R [name] names := by
        intro names hmem
        obtain ⟨rest, hrest, rfl⟩ := List.mem_map.mp hmem
        obtain ⟨below, hfound, rfl⟩ := List.mem_map.mp hrest
        obtain ⟨first, more, hsplit⟩ :=
          List.exists_cons_of_ne_nil (ne_nil_of_mem_descendants hfound)
        rw [hsplit]
        exact hself name first more
      -- Whatever is found under the other entries begins with another name.
      have hothers : ∀ names ∈ (descendantsAmong others).map Prod.fst,
          ∃ later rest, names = later :: rest ∧ r name later := by
        intro names hmem
        obtain ⟨below, hfound, rfl⟩ := List.mem_map.mp hmem
        obtain ⟨other, hother, rest, hsplit, -⟩ := mem_descendantsAmong.mp hfound
        exact ⟨other.1, rest, hsplit, hnames.1 _ (List.mem_map_of_mem hother)⟩
      have hlist : (descendantsAmong ((name, child) :: others)).map Prod.fst =
          ([name] :: (child.descendants.map Prod.fst).map (name :: ·)) ++
            (descendantsAmong others).map Prod.fst := by
        simp [descendantsAmong, Function.comp_def]
      rw [hlist, List.pairwise_append]
      refine ⟨List.pairwise_cons.mpr ⟨hhead, hchild⟩, ih hnames.2 hbelow.2, ?_⟩
      intro path hpath second hsecond
      obtain ⟨later, rest, rfl, hlater⟩ := hothers second hsecond
      rcases List.mem_cons.mp hpath with rfl | hpath
      · exact hfirst [] rest hlater
      · obtain ⟨below, -, rfl⟩ := List.mem_map.mp hpath
        exact hfirst below rest hlater

theorem descendants_renamed {Other : Type} (rename : Name → Other) (node : Node Name) :
    (node.renamed rename).descendants =
      node.descendants.map fun below => (below.1.map rename, below.2.renamed rename) := by
  induction node using Node.induction with
  | file | link => rfl
  | directory entries ih =>
      change descendantsAmong (renamedAmong rename entries) = (descendantsAmong entries).map _
      induction entries with
      | nil => rfl
      | cons entry others ihOthers =>
          obtain ⟨name, child⟩ := entry
          rw [List.forall_mem_cons] at ih
          simp [renamedAmong, descendantsAmong, ih.1, ihOthers ih.2, Function.comp_def]

section

variable [DecidableEq Name]

/-- A directory where names lead to has no two entries of one name. -/
def IsTidyAt (node : Node Name) (names : List Name) : Prop :=
  ∀ entries, node.get? names = some (directory entries) → (entries.map Prod.fst).Nodup

def IsTidy (node : Node Name) : Prop := ∀ names, node.IsTidyAt names

theorem IsTidy.nodup (h : (directory entries).IsTidy) : (entries.map Prod.fst).Nodup :=
  h [] entries (get?_nil _)

theorem IsTidy.lookup (h : (directory entries).IsTidy) {entry : Name × Node Name}
    (hentry : entry ∈ entries) : entries.lookup entry.1 = some entry.2 :=
  (lookup_eq_some_iff_mem h.nodup).mpr hentry

theorem IsTidy.entry (h : (directory entries).IsTidy) {entry : Name × Node Name}
    (hentry : entry ∈ entries) : entry.2.IsTidy := by
  intro names inner hinner
  refine h (entry.1 :: names) inner ?_
  rw [get?, h.lookup hentry]
  exact hinner

theorem mem_of_lookup {name : Name} (h : entries.lookup name = some node) :
    (name, node) ∈ entries := by
  obtain ⟨before, after, rfl, -⟩ := List.lookup_eq_some_iff.mp h
  simp

theorem mem_descendants_of_get? {name : Name} (h : node.get? (name :: names) = some found) :
    (name :: names, found) ∈ node.descendants := by
  induction names generalizing node name with
  | nil =>
      obtain ⟨entries, next, rfl, hnext, hrest⟩ := exists_of_get?_cons h
      rw [get?_nil] at hrest
      obtain rfl := Option.some.inj hrest
      exact mem_descendantsAmong.mpr ⟨_, mem_of_lookup hnext, [], rfl, .inl ⟨rfl, rfl⟩⟩
  | cons second rest ih =>
      obtain ⟨entries, next, rfl, hnext, hrest⟩ := exists_of_get?_cons h
      exact mem_descendantsAmong.mpr ⟨_, mem_of_lookup hnext, _, rfl, .inr (ih hrest)⟩

theorem get?_of_mem_descendants (htidy : node.IsTidy) (h : (names, found) ∈ node.descendants) :
    node.get? names = some found := by
  induction names generalizing node with
  | nil =>
      cases node with
      | file | link => cases h
      | directory entries =>
          obtain ⟨entry, -, rest, hnames, -⟩ := mem_descendantsAmong.mp h
          cases hnames
  | cons name rest ih =>
      cases node with
      | file | link => cases h
      | directory entries =>
          obtain ⟨entry, hentry, rest', hnames, hbelow⟩ := mem_descendantsAmong.mp h
          obtain ⟨rfl, rfl⟩ := List.cons.inj hnames
          rw [get?, htidy.lookup hentry]
          rcases hbelow with ⟨rfl, rfl⟩ | hbelow
          · exact get?_nil _
          · exact ih (htidy.entry hentry) hbelow

theorem nodup_descendants (node : Node Name) (htidy : node.IsTidy) :
    (node.descendants.map Prod.fst).Nodup := by
  induction node using Node.induction with
  | file | link => exact List.nodup_nil
  | directory entries ih =>
      refine pairwise_descendantsAmong (r := (· ≠ ·)) ?_ ?_ ?_ htidy.nodup fun entry hentry =>
        ih entry hentry (htidy.entry hentry)
      · simp
      · simp
      · exact fun _ _ hne hsame => hne (List.cons.inj hsame).1

end

def isLink : Node Name → Bool
  | link _ => true
  | _ => false

end Node

theorem Disk.linkFree_of_descendants {disk : Disk}
    (h : ∀ found ∈ disk.root.descendants, found.2.isLink = false) : disk.LinkFree := by
  intro place target hkind
  obtain ⟨node, hnode, hlink⟩ := Option.map_eq_some_iff.mp hkind
  cases node <;> cases hlink
  rw [node?] at hnode
  cases hnames : place.names with
  | nil =>
      rw [hnames, Node.get?_nil] at hnode
      cases hnode
  | cons name rest =>
      rw [hnames] at hnode
      cases h _ (Node.mem_descendants_of_get? hnode)

end SchemaScaffold
