import SchemaScaffold.Output.Archive
import SchemaScaffold.Proofs.DiskNames
import SchemaScaffold.Proofs.ProjectDirectories
import SchemaScaffold.Proofs.TidyDisks
import SchemaScaffold.Proofs.WrittenFiles

namespace SchemaScaffold

namespace Archive

section

variable {Name : Type} {node : Node Name} {nodes : List (List Name × Node Name)} {names : List Name}
  {bytes : ByteArray}

theorem mem_regularFiles : (names, bytes) ∈ regularFiles nodes ↔ (names, .file bytes) ∈ nodes := by
  rw [regularFiles, List.mem_filterMap]
  constructor
  · rintro ⟨⟨found, other⟩, hmem, hfile⟩
    cases other <;> cases hfile
    exact hmem
  · intro hmem
    exact ⟨_, hmem, rfl⟩

theorem sublist_regularFiles (nodes : List (List Name × Node Name)) :
    ((regularFiles nodes).map Prod.fst).Sublist (nodes.map Prod.fst) := by
  induction nodes with
  | nil => exact List.Sublist.refl _
  | cons found rest ih =>
      obtain ⟨names, node⟩ := found
      cases node with
      | file bytes => exact ih.cons_cons names
      | link | directory => exact ih.cons names

def filesOf (node : Node Name) : List (List Name × ByteArray) :=
  regularFiles (([], node) :: node.descendants)

theorem filesOf_renamed {Other : Type} (rename : Name → Other) (node : Node Name) :
    filesOf (node.renamed rename) =
      (filesOf node).map fun file => (file.1.map rename, file.2) := by
  have hfiles : ∀ nodes : List (List Name × Node Name),
      regularFiles (nodes.map fun found => (found.1.map rename, found.2.renamed rename)) =
        (regularFiles nodes).map fun file => (file.1.map rename, file.2) := by
    intro nodes
    rw [regularFiles, regularFiles, List.filterMap_map, List.map_filterMap]
    refine List.filterMap_congr fun found _ => ?_
    obtain ⟨names, node⟩ := found
    cases node <;> rfl
  rw [filesOf, filesOf, ← hfiles, List.map_cons, Node.descendants_renamed]
  rfl

variable [DecidableEq Name]

theorem mem_filesOf (htidy : node.IsTidy) :
    (names, bytes) ∈ filesOf node ↔ node.get? names = some (.file bytes) := by
  rw [filesOf, mem_regularFiles, List.mem_cons]
  constructor
  · rintro (hself | hbelow)
    · cases hself
      exact Node.get?_nil _
    · exact Node.get?_of_mem_descendants htidy hbelow
  · intro hfound
    cases names with
    | nil =>
        rw [Node.get?_nil] at hfound
        obtain rfl := Option.some.inj hfound
        exact .inl rfl
    | cons name rest => exact .inr (Node.mem_descendants_of_get? hfound)

theorem nodup_filesOf (htidy : node.IsTidy) : ((filesOf node).map Prod.fst).Nodup := by
  refine (sublist_regularFiles _).nodup ?_
  rw [List.map_cons, List.nodup_cons]
  refine ⟨fun hself => ?_, Node.nodup_descendants node htidy⟩
  obtain ⟨found, hfound, hnames⟩ := List.mem_map.mp hself
  exact Node.ne_nil_of_mem_descendants hfound hnames

end

/-! ### Adding files -/

theorem addFiles_eq {archive : List ArchiveEntry} (harchive : (archive.map (·.name)).Nodup)
    (files : List (List DiskName × ByteArray)) :
    addFiles archive files =
      if ((archive ++ files.map entryOf).map (·.name)).Nodup then .ok (archive ++ files.map entryOf)
      else .error (.archive .duplicateName) := by
  induction files generalizing archive with
  | nil => rw [addFiles, List.map_nil, List.append_nil, if_pos harchive]
  | cons file rest ih =>
      -- The first file is one of the archive that the others are added to.
      have hsplit : archive ++ (file :: rest).map entryOf =
          archive ++ [entryOf file] ++ rest.map entryOf := by simp
      rw [addFiles, hsplit]
      split
      case isTrue htaken =>
        obtain ⟨entry, hentry, hname⟩ := List.any_eq_true.mp htaken
        rw [beq_iff_eq] at hname
        have htwice : ¬((archive ++ [entryOf file]).map (·.name)).Nodup := by
          rw [List.map_append, List.map_singleton, List.nodup_append_comm]
          exact fun hnodup => (List.nodup_cons.mp hnodup).1
            (List.mem_map.mpr ⟨entry, hentry, hname⟩)
        rw [if_neg fun hnodup => htwice ?_]
        · rfl
        · rw [List.map_append] at hnodup
          exact hnodup.of_append_left
      case isFalse hfree =>
        refine ih ?_
        rw [List.map_append, List.map_singleton, List.nodup_append_comm]
        refine List.nodup_cons.mpr ⟨fun hmem => hfree ?_, harchive⟩
        obtain ⟨entry, hentry, hname⟩ := List.mem_map.mp hmem
        exact List.any_eq_true.mpr ⟨entry, hentry, beq_iff_eq.mpr hname⟩

theorem ofTree_eq (node : Node DiskName) :
    ofTree node =
      if (((inPathOrder (filesOf node)).map entryOf).map (·.name)).Nodup then
        .ok ((inPathOrder (filesOf node)).map entryOf)
      else .error (.archive .duplicateName) := by
  rw [ofTree, @addFiles_eq [] List.nodup_nil, List.nil_append]
  rfl

theorem entryName_map_ofText (names : List String) :
    entryName (names.map DiskName.ofText) = "/".intercalate names := by
  rw [entryName, List.map_map]
  simp [Function.comp_def]

/-- Files under texts are all taken in, if no two of them are at the same path. -/
theorem exists_ofTree_renamed {node : Node String}
    (hnodup : ((filesOf node).map fun file => "/".intercalate file.1).Nodup) :
    ∃ entries, ofTree (node.renamed DiskName.ofText) = .ok entries ∧
      entries.Perm ((filesOf node).map fun file => ⟨"/".intercalate file.1, file.2⟩) := by
  have hperm : ((inPathOrder (filesOf (node.renamed DiskName.ofText))).map entryOf).Perm
      ((filesOf node).map fun file => ⟨"/".intercalate file.1, file.2⟩) := by
    refine ((List.mergeSort_perm _ _).map entryOf).trans (.of_eq ?_)
    rw [filesOf_renamed, List.map_map]
    refine List.map_congr_left fun file _ => ?_
    rw [Function.comp_apply, entryOf, entryName_map_ofText]
  have hnames : (((filesOf node).map fun file => ArchiveEntry.mk ("/".intercalate file.1) file.2).map
      (·.name)).Nodup := by rwa [List.map_map]
  exact ⟨_, (ofTree_eq _).trans (if_pos ((hperm.map _).nodup_iff.mpr hnames)), hperm⟩

/-! ### Packing -/

theorem packFrom_eq {source : Source} {guard : Guard} {dir : Path} {node : Node DiskName}
    (hempty : dir.isEmpty = false) (hdirectory : source.isDirectory guard.start dir)
    (hwithin : (guard.start.follow dir).within guard.root)
    (hfind : source.find (guard.start.follow dir) = .ok node) :
    packFrom source dir guard = ofTree node := by
  have hresolve := Guard.resolveDir_eq_ok_iff.mpr ⟨hempty, hwithin, rfl⟩
  simp [packFrom, hdirectory, hresolve, hfind]

theorem Source.isDirectory_ofDisk (disk : Disk) (place : AbsPath) (path : Path) :
    (ofDisk disk).isDirectory place path = disk.isDirectory place path := rfl

theorem Source.find_ofDisk (disk : Disk) (place : AbsPath) :
    (ofDisk disk).find place =
      (disk.find .root place.toPath).map (·.renamed DiskName.ofText) := rfl

theorem Source.ofDisk_of_directory {disk : Disk} {place : AbsPath} {dir : Path}
    {inside : List (String × Node String)} (hempty : dir.isEmpty = false) (hup : ".." ∉ dir.names)
    (hne : (place.follow dir).names ≠ [])
    (hnames : ∀ name ∈ (place.follow dir).names, Disk.IsEntryName name)
    (hnode : disk.node? (place.follow dir) = some (.directory inside)) :
    (ofDisk disk).isDirectory place dir ∧
      (ofDisk disk).find (place.follow dir) =
        .ok ((Node.directory inside).renamed DiskName.ofText) := by
  constructor
  · rw [isDirectory_ofDisk, Disk.isDirectory, Disk.find_of_directory hempty hup hnames hnode]
    rfl
  · rw [find_ofDisk, Disk.find, Disk.follow_of_node? hnode (fun _ h => by cases h) hnames hne]
    rfl

end Archive

namespace Disk

variable {disk : Disk} {place : AbsPath} {node : Node String}

theorem ne_nil_of_kind?_eq_none (h : disk.kind? place = none) : place.names ≠ [] := by
  intro hnil
  rw [kind?, node?, hnil, Node.get?_nil] at h
  cases h

theorem isTidyAt_of_none (h : disk.kind? place = none) : disk.IsTidyAt place := by
  intro entries hentries
  rw [kind?, Option.map_eq_none_iff] at h
  cases h.symm.trans hentries

theorem node?_append (hnode : disk.node? place = some node) (names : List String) :
    disk.node? ⟨place.names ++ names⟩ = node.get? names := by
  rw [node?] at hnode ⊢
  rw [Node.get?_append, hnode, Option.bind_some]

theorem isTidy_of_below (hnode : disk.node? place = some node)
    (h : ∀ names, disk.IsTidyAt ⟨place.names ++ names⟩) : node.IsTidy := by
  intro names entries hentries
  rw [← node?_append hnode] at hentries
  exact h names entries hentries

end Disk

namespace Placement

variable {files : FileMap} {project : Project} {guard : Guard} {placements : List Placement}

theorem nodup_components_of_plan (hpackage : Validation.packageName project.packageName = .ok ())
    (h : plan files project guard = .ok placements) :
    (placements.map (·.relativePath.components.2)).Nodup := by
  obtain ⟨-, -, -, hnodup⟩ := (plan_eq_ok_iff hpackage (dir_of_plan h)).mp h
  have hcomponents : placements.map (·.relativePath.components) =
      (placements.map (·.relativePath.components.2)).map (Prod.mk false) := by
    rw [List.map_map]
    refine List.map_congr_left fun placement hplacement => ?_
    have hdescends := (names_of_plan hpackage h hplacement).1
    simp [hdescends.components_eq]
  rw [hcomponents] at hnodup
  exact hnodup.of_map

/-- The name of an archive entry tells the components of its path. -/
theorem fieldsOf_entryName (hpackage : Validation.packageName project.packageName = .ok ())
    (h : plan files project guard = .ok placements) {placement : Placement}
    (hplacement : placement ∈ placements) :
    Text.fieldsOf '/' ("/".intercalate placement.relativePath.components.2) =
      placement.relativePath.components.2 := by
  have hdescends := (names_of_plan hpackage h hplacement).1
  obtain ⟨first, rest, hfirst⟩ := hdescends.exists_component
  refine Text.fieldsOf_intercalate (by rw [hfirst]; exact List.cons_ne_nil _ _) fun name hname => ?_
  rw [hdescends.components_eq] at hname
  exact (Path.isFileName_of_mem_names (List.mem_filter.mp hname).1).1

theorem nodup_entryNames_of_plan (hpackage : Validation.packageName project.packageName = .ok ())
    (h : plan files project guard = .ok placements) :
    (placements.map fun placement => "/".intercalate placement.relativePath.components.2).Nodup := by
  have hback : (placements.map fun placement =>
      "/".intercalate placement.relativePath.components.2).map (Text.fieldsOf '/') =
        placements.map (·.relativePath.components.2) := by
    rw [List.map_map]
    refine List.map_congr_left fun placement hplacement => ?_
    rw [Function.comp_apply]
    exact fieldsOf_entryName hpackage h hplacement
  refine List.Nodup.of_map (Text.fieldsOf '/') ?_
  rw [hback]
  exact nodup_components_of_plan hpackage h

end Placement

namespace Output

variable {files : FileMap} {project : Project} {guard : Guard} {disk changed : Disk}
  {placements : List Placement}

theorem Written.kind?_of_directory (h : Written files placements disk changed) {base : AbsPath}
    {inside : List (String × Node String)} (hinside : changed.node? base = some (.directory inside))
    (hfresh : ∀ old, disk.node? base ≠ some (.directory old)) : disk.kind? base = none := by
  have hdirectory := Disk.kind?_eq_directory_iff.mpr ⟨inside, hinside⟩
  rcases h.place_or_kept base with ⟨placement, hplacement, rfl⟩ | hsame | ⟨hnone, -⟩
  · cases (h.written placement hplacement).symm.trans hdirectory
  · obtain ⟨old, hold⟩ := Disk.kind?_eq_directory_iff.mp (hsame.symm.trans hdirectory)
    exact absurd hold (hfresh old)
  · exact hnone

/-- Below a place that was free, there are no files but those that are written. -/
theorem Written.file_below_iff (h : Written files placements disk changed) {base : AbsPath}
    (hbase : disk.kind? base = none) {names : List String} {bytes : ByteArray} :
    changed.node? ⟨base.names ++ names⟩ = some (.file bytes) ↔
      ∃ placement ∈ placements, placement.absolutePath.names = base.names ++ names ∧
        bytes = bytesOf files placement := by
  rw [← Disk.kind?_eq_file_iff]
  constructor
  · intro hfile
    rcases h.place_or_kept ⟨base.names ++ names⟩ with
      ⟨placement, hplacement, hplace⟩ | hsame | ⟨-, hdirectory, -⟩
    · have hwritten := h.written placement hplacement
      rw [hplace, hfile, Option.some.injEq, Kind.file.injEq] at hwritten
      exact ⟨placement, hplacement, congrArg AbsPath.names hplace, hwritten⟩
    · cases (hsame.symm.trans hfile).symm.trans (Disk.kind?_below_of_none hbase names)
    · cases hfile.symm.trans hdirectory
  · rintro ⟨placement, hplacement, hplace, rfl⟩
    rw [← hplace]
    exact h.written placement hplacement

section

variable (hpackage : Validation.packageName project.packageName = .ok ())
  (hplan : Placement.plan files project guard = .ok placements)
  (hwritten : Written files placements disk changed)

include hpackage hplan hwritten

theorem exists_directory_of_written {placement : Placement} (hplacement : placement ∈ placements) :
    ∃ inside, changed.node? (guard.start.follow project.dir) = some (.directory inside) := by
  obtain ⟨hdescends, hnames⟩ := Placement.names_of_plan hpackage hplan hplacement
  obtain ⟨first, rest, hfirst⟩ := hdescends.exists_component
  have hfile := Disk.kind?_eq_file_iff.mp (hwritten.written placement hplacement)
  rw [Disk.node?, hnames, hfirst] at hfile
  exact Disk.exists_directory_of_below hfile

/-- The directory of a project that was free holds its files and no others. -/
theorem perm_filesOf_of_written (hbase : disk.kind? (guard.start.follow project.dir) = none)
    {node : Node String} (hnode : changed.node? (guard.start.follow project.dir) = some node)
    (htidy : node.IsTidy) : (Archive.filesOf node).Perm (placements.map fun placement =>
      (placement.relativePath.components.2, bytesOf files placement)) := by
  have hnodup : (placements.map fun placement =>
      (placement.relativePath.components.2, bytesOf files placement)).Nodup := by
    refine List.Nodup.of_map Prod.fst ?_
    rw [List.map_map]
    exact Placement.nodup_components_of_plan hpackage hplan
  refine (List.perm_ext_iff_of_nodup (Archive.nodup_filesOf htidy).of_map hnodup).mpr ?_
  rintro ⟨names, bytes⟩
  rw [Archive.mem_filesOf htidy, ← Disk.node?_append hnode, hwritten.file_below_iff hbase,
    List.mem_map]
  constructor
  · rintro ⟨placement, hplacement, hplace, rfl⟩
    rw [(Placement.names_of_plan hpackage hplan hplacement).2] at hplace
    exact ⟨placement, hplacement, Prod.ext (List.append_cancel_left hplace) rfl⟩
  · rintro ⟨placement, hplacement, hfile⟩
    cases hfile
    exact ⟨placement, hplacement, (Placement.names_of_plan hpackage hplan hplacement).2, rfl⟩

theorem exists_entries_of_written (hbase : disk.kind? (guard.start.follow project.dir) = none)
    {node : Node String} (hnode : changed.node? (guard.start.follow project.dir) = some node)
    (htidy : node.IsTidy) : ∃ entries,
      Archive.ofTree (node.renamed DiskName.ofText) = .ok entries ∧
        entries.Perm (placements.map fun placement =>
          ⟨"/".intercalate placement.relativePath.components.2, bytesOf files placement⟩) := by
  have hfiles := perm_filesOf_of_written hpackage hplan hwritten hbase hnode htidy
  have hnames := hfiles.map fun file => "/".intercalate file.1
  rw [List.map_map] at hnames
  obtain ⟨entries, hentries, hperm⟩ := Archive.exists_ofTree_renamed
    (hnames.nodup_iff.mpr (Placement.nodup_entryNames_of_plan hpackage hplan))
  refine ⟨entries, hentries, hperm.trans ((hfiles.map _).trans (.of_eq ?_))⟩
  rw [List.map_map]
  rfl

end

theorem isTidy_of_writeProject {base : AbsPath} (hbase : disk.kind? base = none) {node : Node String}
    (hnode : changed.node? base = some node)
    (h : (writeProject files project guard).on disk = (.ok placements, changed)) :
    node.IsTidy := by
  refine Disk.isTidy_of_below hnode fun names => ?_
  have hkept := keepsTidy_writeProject files project guard disk ⟨base.names ++ names⟩
    (Disk.isTidyAt_of_none (Disk.kind?_below_of_none hbase names))
  rwa [h] at hkept

/-- A project that is written where nothing was can be packed, and its archive holds each of its
files once, under the components of the path inside the project. -/
theorem pack_writeProject (hfree : disk.LinkFree)
    (hstart : ∃ path, guard.start = AbsPath.root.follow path)
    (hname : Validation.projectName project.name = .ok ())
    (hpackage : Validation.packageName project.packageName = .ok ())
    (hroot : Validation.outputDir project.outputRoot.text = .ok ())
    (hfresh : disk.contains guard.start project.dir = false) (hfiles : files.entries ≠ [])
    (h : (writeProject files project guard).on disk = (.ok placements, changed)) :
    ∃ entries, Archive.pack changed project.dir guard = .ok entries ∧
      (entries.map (·.name)).Nodup ∧ entries.length = files.entries.length ∧
      ∀ name bytes, ⟨name, bytes⟩ ∈ entries ↔ ∃ placement ∈ placements, ∃ content,
        files.content? placement.logicalName = some content ∧
          name = "/".intercalate placement.relativePath.components.2 ∧
          bytes = content.toUTF8 := by
  obtain ⟨path, hpath⟩ := hstart
  have hplain : guard.start.IsPlain := hpath ▸ AbsPath.isPlain_root.follow path
  have hplan := plan_of_writeProject h
  have hempty := Placement.dir_of_plan hplan
  have hup := Project.up_not_mem_dir hname hroot
  obtain ⟨hwritten, hnames⟩ := written_writeProject hfree hplain hpackage h
  obtain ⟨-, hwithin, hplaced, -⟩ := (Placement.plan_eq_ok_iff hpackage hempty).mp hplan
  have hlogical := Traversal.map_eq_of_mapM (fun _ _ => Placement.logicalName_of_alone) hplaced
  have hlength : placements.length = files.entries.length := by
    simpa using congrArg List.length hlogical
  obtain ⟨first, hfirst⟩ : ∃ first, first ∈ placements := by
    apply List.exists_mem_of_ne_nil
    rintro rfl
    exact hfiles (List.length_eq_zero_iff.mp hlength.symm)
  obtain ⟨inside, hinside⟩ := exists_directory_of_written hpackage hplan hwritten hfirst
  have hshort : ∀ name ∈ (guard.start.follow project.dir).names, Disk.IsEntryName name := by
    intro name hmem
    refine hnames first hfirst name ?_
    rw [(Placement.names_of_plan hpackage hplan hfirst).2]
    exact List.mem_append_left _ hmem
  have hbase : disk.kind? (guard.start.follow project.dir) = none := by
    refine hwritten.kind?_of_directory hinside fun old hold => ?_
    rw [Disk.contains, Disk.find_of_directory hempty hup hshort hold] at hfresh
    cases hfresh
  obtain ⟨hdirectory, hfind⟩ := Archive.Source.ofDisk_of_directory hempty hup
    (Disk.ne_nil_of_kind?_eq_none hbase) hshort hinside
  obtain ⟨entries, hentries, hperm⟩ := exists_entries_of_written hpackage hplan hwritten hbase
    hinside (isTidy_of_writeProject hbase hinside h)
  refine ⟨entries, (Archive.packFrom_eq hempty hdirectory hwithin hfind).trans hentries, ?nodup,
    by rw [hperm.length_eq, List.length_map, hlength], ?mem⟩
  case nodup =>
    rw [(hperm.map _).nodup_iff, List.map_map]
    exact Placement.nodup_entryNames_of_plan hpackage hplan
  case mem =>
    intro name bytes
    rw [hperm.mem_iff, List.mem_map]
    constructor
    · rintro ⟨placement, hplacement, hentry⟩
      obtain ⟨content, hcontent⟩ := Placement.exists_content_of_plan hpackage hplan hplacement
      cases hentry
      exact ⟨placement, hplacement, content, hcontent, rfl, by rw [bytesOf, hcontent]; rfl⟩
    · rintro ⟨placement, hplacement, content, hcontent, rfl, rfl⟩
      exact ⟨placement, hplacement, by rw [bytesOf, hcontent]; rfl⟩

/-- A file of the directories of a project is in its archive under the names of the directories. -/
theorem pack_writeProject_shop :
    let files := FileMap.ofList [("application.properties", "server.port=8080")]
    let guard : Guard := ⟨.root, ⟨["out"]⟩⟩
    let disk : Disk := ⟨[("out", .directory [("notes", .file "keep".toUTF8)])]⟩
    disk.LinkFree ∧ (∃ path, guard.start = AbsPath.root.follow path) ∧
      Validation.projectName shop.name = .ok () ∧
      Validation.packageName shop.packageName = .ok () ∧
      Validation.outputDir shop.outputRoot.text = .ok () ∧
      disk.contains guard.start shop.dir = false ∧ files.entries ≠ [] ∧
        ∃ placements changed entries,
          (writeProject files shop guard).on disk = (.ok placements, changed) ∧
          Archive.pack changed shop.dir guard = .ok entries ∧
          (entries.map (·.name)).Nodup ∧ entries.length = files.entries.length ∧
          ⟨"src/main/resources/application.properties", "server.port=8080".toUTF8⟩ ∈ entries := by
  intro files guard disk
  have hfree : disk.LinkFree := Disk.linkFree_of_descendants (by decide)
  have hstart : ∃ path, guard.start = AbsPath.root.follow path := ⟨⟨"/"⟩, by decide⟩
  have hname : Validation.projectName shop.name = .ok () := by
    rw [Validation.projectName_eq_ok_iff, Text.isBlankText_eq]
    decide
  have hroot : Validation.outputDir shop.outputRoot.text = .ok () := by
    rw [Validation.outputDir_eq_ok_iff, Text.isBlankText_eq]
    decide
  have hfresh : disk.contains guard.start shop.dir = false := by decide
  have hfiles : files.entries ≠ [] := by decide
  have hrun : ((writeProject files shop guard).on disk).1.toOption.map (fun placements =>
      placements.any fun placement => placement.logicalName == "application.properties" &&
        placement.relativePath.components.2 ==
          ["src", "main", "resources", "application.properties"]) = some true := by decide +kernel
  rcases h : (writeProject files shop guard).on disk with ⟨error | placements, changed⟩
  · rw [h] at hrun
    cases hrun
  · obtain ⟨entries, hpack, hnodup, hlength, hmem⟩ := pack_writeProject hfree hstart hname
      packageName_shop hroot hfresh hfiles h
    rw [h] at hrun
    obtain ⟨placement, hplacement, hsettings⟩ := List.any_eq_true.mp (Option.some.inj hrun)
    simp only [Bool.and_eq_true, beq_iff_eq] at hsettings
    refine ⟨hfree, hstart, hname, packageName_shop, hroot, hfresh, hfiles, placements, changed,
      entries, rfl, hpack, hnodup, hlength, (hmem _ _).mpr ⟨placement, hplacement, _, ?_, ?_, rfl⟩⟩
    · rw [hsettings.1]
      rfl
    · rw [hsettings.2]
      decide

end Output

end SchemaScaffold
