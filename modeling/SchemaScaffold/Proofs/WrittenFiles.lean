import SchemaScaffold.Proofs.Descendants
import SchemaScaffold.Proofs.Placements

namespace SchemaScaffold

namespace Disk

variable {disk between changed : Disk} {place above : AbsPath} {bytes : ByteArray}

/-- Directories that do not reach as far as a file are made without touching its place. -/
theorem GrowsTo.gainsFile (hgrows : disk.GrowsTo between above)
    (habove : above.names <+: place.names) (hshort : ¬place.names <+: above.names)
    (hgains : between.GainsFile changed place bytes) : disk.GainsFile changed place bytes := by
  have hplace : between.kind? place = disk.kind? place := by
    rcases hgrows place with hsame | ⟨-, -, hway⟩
    · exact hsame
    · exact absurd hway hshort
  exact ⟨hgains.written, by simpa only [hplace] using hgains.replaced,
    fun other hother => (hgrows.mono habove other).trans (hgains.kept other hother)⟩

theorem read_of_kind? (hkind : disk.kind? place = some (.file bytes))
    (hnames : ∀ name ∈ place.names, IsEntryName name) :
    disk.read .root place.toPath = .ok bytes := by
  have hnode := kind?_eq_file_iff.mp hkind
  rw [read, find, follow_of_node? hnode (fun _ h => by cases h) hnames (exists_parent hnode).1]

end Disk

namespace Output

def bytesOf (files : FileMap) (placement : Placement) : ByteArray :=
  ((files.content? placement.logicalName).getD "").toUTF8

/-- Files at their places, and new directories on the way to them, set a disk apart from what it
was. -/
structure Written (files : FileMap) (placements : List Placement) (disk changed : Disk) : Prop where
  written : ∀ placement ∈ placements,
    changed.kind? placement.absolutePath = some (.file (bytesOf files placement))
  replaced : ∀ placement ∈ placements, disk.kind? placement.absolutePath = none ∨
    ∃ old, disk.kind? placement.absolutePath = some (.file old)
  kept : ∀ other, (∀ placement ∈ placements, placement.absolutePath ≠ other) →
    disk.MadeAtMost changed other
      (∃ placement ∈ placements, other.names <+: placement.absolutePath.names)

variable {files : FileMap} {disk between changed : Disk}

/-- A place is that of a file that is written, or nothing but a directory may have come there. -/
theorem Written.place_or_kept {placements : List Placement}
    (h : Written files placements disk changed) (place : AbsPath) :
    (∃ placement ∈ placements, placement.absolutePath = place) ∨
      disk.MadeAtMost changed place
        (∃ placement ∈ placements, place.names <+: placement.absolutePath.names) := by
  by_cases hplace : ∃ placement ∈ placements, placement.absolutePath = place
  · exact .inl hplace
  · exact .inr (h.kept place fun placement hplacement heq => hplace ⟨placement, hplacement, heq⟩)

theorem gainsFile_writeFile {placement : Placement} {content : String} (hfree : disk.LinkFree)
    (hplain : placement.absolutePath.IsPlain) (hne : placement.absolutePath.names ≠ [])
    (h : (writeFile placement content).on disk = (.ok (), changed)) :
    disk.GainsFile changed placement.absolutePath content.toUTF8 ∧
      ∀ name ∈ placement.absolutePath.names, Disk.IsEntryName name := by
  obtain ⟨_, between, hmade, hwritten⟩ := Filing.exists_of_on_bind h
  have habove : placement.absolutePath.parent.names <+: placement.absolutePath.names :=
    List.dropLast_prefix _
  have hgrows := Filing.growsTo_makeDirectories hfree (hplain.mono habove.subset) hmade
  obtain ⟨hgains, hnames⟩ :=
    Filing.gainsFile_write (hgrows.linkFree hfree) hplain hne hwritten
  refine ⟨hgrows.gainsFile habove (fun hreaches => ?_) hgains, hnames⟩
  have hlength := hreaches.length_le
  rw [AbsPath.parent, List.length_dropLast] at hlength
  have hpos := List.length_pos_iff.mpr hne
  omega

/-- A file that is written first stays as it is while the others are written. -/
theorem Written.cons {placement : Placement} {rest : List Placement}
    (hfirst : disk.GainsFile between placement.absolutePath (bytesOf files placement))
    (hrest : Written files rest between changed)
    (hdiffer : ∀ other ∈ rest, other.absolutePath ≠ placement.absolutePath) :
    Written files (placement :: rest) disk changed where
  written := by
    have hsame := (hrest.kept _ hdiffer).eq_of_ne_none (by simp [hfirst.written])
    exact List.forall_mem_cons.mpr ⟨hsame.trans hfirst.written, hrest.written⟩
  replaced := by
    refine List.forall_mem_cons.mpr ⟨hfirst.replaced, fun other hother => ?_⟩
    rcases hfirst.kept _ (hdiffer other hother) with hsame | ⟨hnone, -⟩
    · rw [← hsame]
      exact hrest.replaced other hother
    · exact .inl hnone
  kept := by
    intro other hother
    rw [List.forall_mem_cons] at hother
    simp only [List.exists_mem_cons_iff]
    exact ((hfirst.kept other hother.1.symm).mono .inl).trans
      ((hrest.kept other hother.2).mono .inr)

theorem written_writeAll {placements : List Placement} (hfree : disk.LinkFree)
    (hplain : ∀ placement ∈ placements, placement.absolutePath.IsPlain)
    (hne : ∀ placement ∈ placements, placement.absolutePath.names ≠ [])
    (hnodup : (placements.map (·.absolutePath)).Nodup)
    (h : (writeAll files placements).on disk = (.ok (), changed)) :
    Written files placements disk changed ∧
      ∀ placement ∈ placements, ∀ name ∈ placement.absolutePath.names, Disk.IsEntryName name := by
  induction placements generalizing disk with
  | nil =>
      cases h
      exact ⟨⟨by simp, by simp, fun _ _ => .inl rfl⟩, by simp⟩
  | cons placement rest ih =>
      rw [List.forall_mem_cons] at hplain hne
      rw [List.map_cons, List.nodup_cons] at hnodup
      obtain ⟨_, between, hfile, hlater⟩ := Filing.exists_of_on_bind h
      obtain ⟨hgains, hnames⟩ := gainsFile_writeFile hfree hplain.1 hne.1 hfile
      obtain ⟨hrest, hrestNames⟩ :=
        ih (hgains.linkFree hfree) hplain.2 hne.2 hnodup.2 hlater
      refine ⟨.cons hgains hrest fun other hother heq => hnodup.1 ?_,
        List.forall_mem_cons.mpr ⟨hnames, hrestNames⟩⟩
      rw [← heq]
      exact List.mem_map_of_mem hother

end Output

namespace Placement

variable {files : FileMap} {project : Project} {guard : Guard} {placements : List Placement}

theorem exists_content_of_plan (hpackage : Validation.packageName project.packageName = .ok ())
    (h : plan files project guard = .ok placements) {placement : Placement}
    (hplacement : placement ∈ placements) :
    ∃ content, files.content? placement.logicalName = some content := by
  obtain ⟨-, -, hplaced, -⟩ := (plan_eq_ok_iff hpackage (dir_of_plan h)).mp h
  obtain ⟨file, hfile, halone⟩ := Traversal.exists_of_mem_mapM hplaced hplacement
  refine ⟨file.2, FileMap.content?_eq_some_iff.mpr ?_⟩
  rwa [logicalName_of_alone halone]

theorem names_of_plan (hpackage : Validation.packageName project.packageName = .ok ())
    (h : plan files project guard = .ok placements) {placement : Placement}
    (hplacement : placement ∈ placements) :
    placement.relativePath.Descends ∧ placement.absolutePath.names =
      (guard.start.follow project.dir).names ++ placement.relativePath.components.2 := by
  obtain ⟨-, -, hplaced, -⟩ := (plan_eq_ok_iff hpackage (dir_of_plan h)).mp h
  obtain ⟨file, -, halone⟩ := Traversal.exists_of_mem_mapM hplaced hplacement
  exact ⟨descends_of_alone hpackage halone, names_of_alone hpackage halone⟩

theorem isPlain_of_plan (hpackage : Validation.packageName project.packageName = .ok ())
    (hstart : guard.start.IsPlain) (h : plan files project guard = .ok placements)
    {placement : Placement} (hplacement : placement ∈ placements) :
    placement.absolutePath.IsPlain ∧ placement.absolutePath.names ≠ [] := by
  obtain ⟨-, -, hplaced, -⟩ := (plan_eq_ok_iff hpackage (dir_of_plan h)).mp h
  obtain ⟨file, -, halone⟩ := Traversal.exists_of_mem_mapM hplaced hplacement
  constructor
  · obtain ⟨-, safe, -, rfl⟩ := alone_eq_ok_iff.mp halone
    dsimp only
    exact (hstart.follow _).follow _
  · obtain ⟨first, rest, hfirst⟩ := (descends_of_alone hpackage halone).exists_component
    rw [names_of_alone hpackage halone, hfirst]
    exact List.append_ne_nil_of_right_ne_nil _ (List.cons_ne_nil _ _)

end Placement

namespace Output

variable {files : FileMap} {project : Project} {guard : Guard} {disk changed : Disk}
  {placements : List Placement}

theorem written_writeProject (hfree : disk.LinkFree) (hstart : guard.start.IsPlain)
    (hpackage : Validation.packageName project.packageName = .ok ())
    (h : (writeProject files project guard).on disk = (.ok placements, changed)) :
    Written files placements disk changed ∧
      ∀ placement ∈ placements, ∀ name ∈ placement.absolutePath.names, Disk.IsEntryName name := by
  have hplan := plan_of_writeProject h
  rw [on_writeProject_of_ok hplan] at h
  obtain ⟨_, between, hall, hdone⟩ := Filing.exists_of_on_bind h
  cases hdone
  have hplaces := fun placement (hplacement : placement ∈ placements) =>
    Placement.isPlain_of_plan hpackage hstart hplan hplacement
  obtain ⟨-, -, hplaced, hnodup⟩ :=
    (Placement.plan_eq_ok_iff hpackage (Placement.dir_of_plan hplan)).mp hplan
  exact written_writeAll hfree (fun placement hplacement => (hplaces placement hplacement).1)
    (fun placement hplacement => (hplaces placement hplacement).2)
    (Placement.nodup_absolutePath hpackage hplaced hnodup) hall

/-- After a project is written on a disk without links, every file stands at its place with its
content, all other files are as they were, and the directories that are new lead to a file of the
project. The guard may start wherever a path can lead to. -/
theorem writeProject_writes_placements (hfree : disk.LinkFree)
    (hstart : ∃ path, guard.start = AbsPath.root.follow path)
    (hpackage : Validation.packageName project.packageName = .ok ())
    (h : (writeProject files project guard).on disk = (.ok placements, changed)) :
    placements.map (·.logicalName) = files.names ∧
      (∀ placement ∈ placements, ∃ content,
        files.content? placement.logicalName = some content ∧
          changed.kind? placement.absolutePath = some (.file content.toUTF8) ∧
          changed.read .root placement.absolutePath.toPath = .ok content.toUTF8) ∧
      (∀ place, (∀ placement ∈ placements, placement.absolutePath ≠ place) → ∀ bytes,
        changed.kind? place = some (.file bytes) ↔ disk.kind? place = some (.file bytes)) ∧
      (∀ place old, disk.kind? place = some (.file old) →
        ∃ new, changed.kind? place = some (.file new)) ∧
      (∀ place, disk.kind? place = some .directory → changed.kind? place = some .directory) ∧
      ∀ place, changed.kind? place = some .directory → disk.kind? place = some .directory ∨
        disk.kind? place = none ∧ ∃ placement ∈ placements,
          place.names <+: placement.absolutePath.names ∧ place ≠ placement.absolutePath := by
  obtain ⟨path, hpath⟩ := hstart
  have hplain : guard.start.IsPlain := hpath ▸ AbsPath.isPlain_root.follow path
  have hplan := plan_of_writeProject h
  obtain ⟨hwritten, hnames⟩ := written_writeProject hfree hplain hpackage h
  obtain ⟨-, -, hplaced, -⟩ :=
    (Placement.plan_eq_ok_iff hpackage (Placement.dir_of_plan hplan)).mp hplan
  refine ⟨Traversal.map_eq_of_mapM (fun _ _ => Placement.logicalName_of_alone) hplaced,
    ?contents, ?others, ?files, ?directories, ?ways⟩
  case contents =>
    intro placement hplacement
    obtain ⟨content, hcontent⟩ := Placement.exists_content_of_plan hpackage hplan hplacement
    have hkind := hwritten.written placement hplacement
    rw [bytesOf, hcontent, Option.getD_some] at hkind
    exact ⟨content, hcontent, hkind, Disk.read_of_kind? hkind (hnames placement hplacement)⟩
  case others =>
    intro place hplace bytes
    rcases hwritten.kept place hplace with hsame | ⟨hnone, hdirectory, -⟩
    · rw [hsame]
    · simp [hnone, hdirectory]
  case files =>
    intro place old hold
    rcases hwritten.place_or_kept place with ⟨placement, hplacement, rfl⟩ | hsame | ⟨hnone, -⟩
    · exact ⟨_, hwritten.written placement hplacement⟩
    · exact ⟨old, hsame.trans hold⟩
    · cases hnone.symm.trans hold
  case directories =>
    intro place hdirectory
    rcases hwritten.place_or_kept place with ⟨placement, hplacement, rfl⟩ | hsame | ⟨hnone, -⟩
    · rcases hwritten.replaced placement hplacement with hnone | ⟨old, hfile⟩
      · cases hnone.symm.trans hdirectory
      · cases hfile.symm.trans hdirectory
    · exact hsame.trans hdirectory
    · cases hnone.symm.trans hdirectory
  case ways =>
    intro place hdirectory
    have hplace : ∀ placement ∈ placements, place ≠ placement.absolutePath := by
      rintro placement hplacement rfl
      cases (hwritten.written placement hplacement).symm.trans hdirectory
    rcases hwritten.kept place fun placement hplacement => (hplace placement hplacement).symm with
      hsame | ⟨hnone, -, placement, hplacement, hway⟩
    · exact .inl (hsame.symm.trans hdirectory)
    · exact .inr ⟨hnone, placement, hplacement, hway, hplace placement hplacement⟩

/-- A file of an earlier run is written anew, and one beside it is left alone. -/
theorem writeProject_rewrites_file :
    let files := FileMap.ofList [("pom.xml", "<project/>"), ("build.gradle", "plugins {}")]
    let guard : Guard := ⟨.root, ⟨["out"]⟩⟩
    let disk : Disk := ⟨[("out", .directory [("shop", .directory
      [("pom.xml", .file "old".toUTF8), ("notes", .file "keep".toUTF8)])])]⟩
    disk.LinkFree ∧ (∃ path, guard.start = AbsPath.root.follow path) ∧
      Validation.packageName shop.packageName = .ok () ∧
        ∃ placements changed, (writeProject files shop guard).on disk = (.ok placements, changed) ∧
          placements.map (·.logicalName) = files.names ∧
          (∀ placement ∈ placements, ∃ content,
            files.content? placement.logicalName = some content ∧
              changed.read .root placement.absolutePath.toPath = .ok content.toUTF8) ∧
          changed.kind? ⟨["out", "shop", "notes"]⟩ = some (.file "keep".toUTF8) := by
  intro files guard disk
  have hfree : disk.LinkFree := Disk.linkFree_of_descendants (by decide)
  have hstart : ∃ path, guard.start = AbsPath.root.follow path := ⟨⟨"/"⟩, by decide⟩
  have hrun : ((writeProject files shop guard).on disk).1.toOption.map
      (fun placements => placements.all (·.absolutePath.names != ["out", "shop", "notes"])) =
        some true := by decide +kernel
  rcases h : (writeProject files shop guard).on disk with ⟨error | placements, changed⟩
  · rw [h] at hrun
    cases hrun
  · have hothers : ∀ placement ∈ placements,
        placement.absolutePath ≠ ⟨["out", "shop", "notes"]⟩ := by
      rintro placement hplacement hnotes
      rw [h] at hrun
      have hall := List.all_eq_true.mp (Option.some.inj hrun) placement hplacement
      rw [hnotes] at hall
      cases hall
    obtain ⟨hlogical, hcontents, hkept, -⟩ :=
      writeProject_writes_placements hfree hstart packageName_shop h
    refine ⟨hfree, hstart, packageName_shop, placements, changed, rfl, hlogical, ?_,
      (hkept _ hothers _).mpr rfl⟩
    intro placement hplacement
    obtain ⟨content, hcontent, -, hread⟩ := hcontents placement hplacement
    exact ⟨content, hcontent, hread⟩

end Output

end SchemaScaffold
