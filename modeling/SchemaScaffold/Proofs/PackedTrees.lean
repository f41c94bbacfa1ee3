import SchemaScaffold.Proofs.SortedTrees

/-!
# Archives of trees

Whatever tree a directory holds, its archive is the files of the tree, each of them once under the
names that lead down to it, in the order of the paths. Links and directories without files leave no
trace, and neither does the order that a directory has its entries in, so trees with the same files
have the same archive. An archive shows names as texts: files that look alike then are refused, which
names of texts never do.
-/

namespace SchemaScaffold

open DiskName (slash)

namespace Node

variable {node found : Node DiskName} {names : List DiskName}

def entryNames : Node DiskName → List DiskName
  | directory entries => entries.map Prod.fst
  | _ => []

/-- Whether a node is one that a file system can hold: from it down, the entries of a directory have
different names, and no slash is in them. -/
def IsSound (node : Node DiskName) : Prop :=
  ∀ below ∈ ([], node) :: node.descendants,
    below.2.entryNames.Nodup ∧ ∀ name ∈ below.2.entryNames, slash ∉ name.bytes

instance (node : Node DiskName) : Decidable node.IsSound :=
  inferInstanceAs (Decidable (∀ below ∈ ([], node) :: node.descendants, _ ∧ _))

theorem IsSound.of_get? (h : node.IsSound) (hfound : node.get? names = some found) :
    found.entryNames.Nodup ∧ ∀ name ∈ found.entryNames, slash ∉ name.bytes := by
  cases names with
  | nil =>
      rw [get?_nil] at hfound
      obtain rfl := Option.some.inj hfound
      exact h _ List.mem_cons_self
  | cons name rest => exact h _ (List.mem_cons_of_mem _ (mem_descendants_of_get? hfound))

theorem IsSound.isTidy (h : node.IsSound) : node.IsTidy := fun _ _ hentries =>
  (h.of_get? hentries).1

theorem IsSound.slash_not_mem (h : node.IsSound) (hfound : node.get? names = some found) :
    ∀ name ∈ names, slash ∉ name.bytes := by
  intro name hname
  obtain ⟨before, after, rfl⟩ := List.append_of_mem hname
  rw [get?_append] at hfound
  obtain ⟨parent, hparent, hrest⟩ := Option.bind_eq_some_iff.mp hfound
  obtain ⟨entries, next, rfl, hnext, -⟩ := exists_of_get?_cons hrest
  exact (h.of_get? hparent).2 name (List.mem_map_of_mem (mem_of_lookup hnext))

end Node

namespace Archive

variable {source : Source} {guard : Guard} {dir : Path} {tree : Node DiskName}

/-- A tree that stands where a path leads to, in a directory inside the root of a guard. -/
structure HoldsTree (source : Source) (guard : Guard) (dir : Path) (tree : Node DiskName) :
    Prop where
  nonempty : dir.isEmpty = false
  isDirectory : source.isDirectory guard.start dir
  within : (guard.start.follow dir).within guard.root
  found : source.find (guard.start.follow dir) = .ok tree
  directory : tree.isDirectory
  sound : tree.IsSound

/-- A tree is held by the directory that it stands in, if no link is on the way there. -/
theorem holdsTree_of_node? {disk : Disk} {inside : List (String × Node String)}
    (hempty : dir.isEmpty = false) (hup : ".." ∉ dir.names)
    (hwithin : (guard.start.follow dir).within guard.root)
    (hne : (guard.start.follow dir).names ≠ [])
    (hnames : ∀ name ∈ (guard.start.follow dir).names, Disk.IsEntryName name)
    (hnode : disk.node? (guard.start.follow dir) = some (.directory inside))
    (hsound : ((Node.directory inside).renamed DiskName.ofText).IsSound) :
    HoldsTree (.ofDisk disk) guard dir ((Node.directory inside).renamed DiskName.ofText) :=
  have hsource := Source.ofDisk_of_directory hempty hup hne hnames hnode
  ⟨hempty, hsource.1, hwithin, hsource.2, rfl, hsound⟩

/-- Trees with the same files have the same archive: the files as they are met when each directory is
walked in the order of its names. -/
theorem HoldsTree.pack_eq_of_same {other : Node DiskName} (h : HoldsTree source guard dir tree)
    (hother : other.IsSound)
    (hsame : ∀ names bytes, tree.get? names = some (.file bytes) ↔
      other.get? names = some (.file bytes)) :
    packFrom source dir guard =
      if (((filesOf other.sorted).map entryOf).map (·.name)).Nodup then
        .ok ((filesOf other.sorted).map entryOf)
      else .error (.archive .duplicateName) := by
  rw [packFrom_eq h.nonempty h.isDirectory h.within h.found, ofTree_eq,
    inPathOrder_eq_of_same h.sound.isTidy hother.isTidy hsame]

theorem mem_filesOf_sorted (hsound : tree.IsSound) {names : List DiskName} {bytes : ByteArray} :
    (names, bytes) ∈ filesOf tree.sorted ↔ tree.get? names = some (.file bytes) :=
  (mem_filesOf (Node.isInOrder_sorted hsound.isTidy).isTidy).trans
    (get?_sorted_eq_file_iff hsound.isTidy)

theorem HoldsTree.names_ne_nil (h : HoldsTree source guard dir tree) {names : List DiskName}
    {bytes : ByteArray} (hfound : tree.get? names = some (.file bytes)) : names ≠ [] := by
  rintro rfl
  rw [Node.get?_nil] at hfound
  have hdirectory := h.directory
  rw [Option.some.inj hfound] at hdirectory
  cases hdirectory

theorem HoldsTree.entryName_inj (h : HoldsTree source guard dir tree)
    {names others : List DiskName} {bytes moreBytes : ByteArray}
    (hnames : tree.get? names = some (.file bytes))
    (hothers : tree.get? others = some (.file moreBytes))
    (htexts : ∀ name ∈ names, name.IsText) (hmoreTexts : ∀ name ∈ others, name.IsText)
    (hsame : entryName names = entryName others) : names = others := by
  have hslash := h.sound.slash_not_mem hnames
  have hmoreSlash := h.sound.slash_not_mem hothers
  refine (DiskName.joined_inj hslash hmoreSlash (h.names_ne_nil hnames)
    (h.names_ne_nil hothers)).mp ?_
  rw [← (DiskName.ofText_intercalate_iff hslash).mpr htexts,
    ← (DiskName.ofText_intercalate_iff hmoreSlash).mpr hmoreTexts]
  exact congrArg DiskName.ofText hsame

theorem HoldsTree.nodup_names (h : HoldsTree source guard dir tree)
    (htexts : ∀ file ∈ filesOf tree.sorted, ∀ name ∈ file.1, name.IsText) :
    (((filesOf tree.sorted).map entryOf).map (·.name)).Nodup := by
  have hpaths : ((filesOf tree.sorted).map Prod.fst).Nodup :=
    nodup_filesOf (Node.isInOrder_sorted h.sound.isTidy).isTidy
  rw [List.map_map, show (fun entry => entry.name) ∘ entryOf = entryName ∘ Prod.fst from rfl,
    ← List.map_map]
  refine hpaths.map_on fun names hpath others hotherPath hsame => ?_
  obtain ⟨file, hfile, rfl⟩ := List.mem_map.mp hpath
  obtain ⟨other, hother, rfl⟩ := List.mem_map.mp hotherPath
  exact h.entryName_inj ((mem_filesOf_sorted h.sound).mp hfile)
    ((mem_filesOf_sorted h.sound).mp hother) (htexts file hfile) (htexts other hother) hsame

/-- If all names are those of texts, an entry is the file under the names in its own name. -/
theorem HoldsTree.entry_mem_iff (h : HoldsTree source guard dir tree)
    (htexts : ∀ file ∈ filesOf tree.sorted, ∀ name ∈ file.1, name.IsText) (texts : List String)
    (hne : texts ≠ []) (hslash : ∀ text ∈ texts, '/' ∉ text.toList) {content : ByteArray} :
    ⟨"/".intercalate texts, content⟩ ∈ (filesOf tree.sorted).map entryOf ↔
      tree.get? (texts.map DiskName.ofText) = some (.file content) := by
  constructor
  · intro hmem
    obtain ⟨file, hfile, hentry⟩ := List.mem_map.mp hmem
    have hfound := (mem_filesOf_sorted h.sound).mp hfile
    have hpath := (DiskName.ofText_intercalate_iff (h.sound.slash_not_mem hfound)).mpr
      (htexts file hfile)
    rw [show "/".intercalate _ = "/".intercalate texts from congrArg ArchiveEntry.name hentry,
      DiskName.ofText_intercalate, DiskName.joined_inj _ (h.sound.slash_not_mem hfound)
        (by simpa using hne) (h.names_ne_nil hfound)] at hpath
    · rw [hpath, ← show file.2 = content from congrArg ArchiveEntry.content hentry]
      exact hfound
    · exact List.forall_mem_map.mpr fun text htext =>
        mt DiskName.slash_mem_bytes_ofText_iff.mp (hslash text htext)
  · intro hfound
    rw [← entryName_map_ofText]
    exact List.mem_map_of_mem ((mem_filesOf_sorted h.sound).mpr hfound)

theorem isText_of_get?_renamed {node : Node String}
    (htidy : (node.renamed DiskName.ofText).IsTidy) {names : List DiskName} {bytes : ByteArray}
    (h : (node.renamed DiskName.ofText).get? names = some (.file bytes)) :
    ∀ name ∈ names, name.IsText := by
  have hfile := (mem_filesOf htidy).mpr h
  rw [filesOf_renamed] at hfile
  obtain ⟨file, -, hsame⟩ := List.mem_map.mp hfile
  obtain ⟨rfl, -⟩ := Prod.mk.inj hsame
  exact List.forall_mem_map.mpr fun text _ => ⟨text, rfl⟩

def shopTree : Node String := .directory [
  ("a.txt", .file "1".toUTF8),
  ("é", .file "2".toUTF8),
  ("a", .directory [("up", .link ⟨".."⟩), ("none", .emptyDirectory), ("z", .file "3".toUTF8)]),
  ("latest", .link ⟨"a.txt"⟩)]

def otherShopTree : Node String := .directory [
  ("a", .directory [("z", .file "3".toUTF8)]),
  ("é", .file "2".toUTF8),
  ("a.txt", .file "1".toUTF8)]

/-- Two files whose names are those of no texts, and look alike. -/
def oddTree : Node DiskName := .directory [
  (⟨[0xFF]⟩, .file "1".toUTF8),
  (⟨[0xFE]⟩, .file "2".toUTF8)]

theorem same_files_shop (names : List DiskName) (bytes : ByteArray) :
    (otherShopTree.renamed DiskName.ofText).get? names = some (.file bytes) ↔
      (shopTree.renamed DiskName.ofText).get? names = some (.file bytes) := by
  have hsound : (shopTree.renamed DiskName.ofText).IsSound := by decide
  have hother : (otherShopTree.renamed DiskName.ofText).IsSound := by decide
  have hperm : (filesOf (otherShopTree.renamed DiskName.ofText)).Perm
      (filesOf (shopTree.renamed DiskName.ofText)) :=
    List.reverse_perm (filesOf (shopTree.renamed DiskName.ofText))
  rw [← mem_filesOf hother.isTidy, ← mem_filesOf hsound.isTidy, hperm.mem_iff]

end Archive

end SchemaScaffold
