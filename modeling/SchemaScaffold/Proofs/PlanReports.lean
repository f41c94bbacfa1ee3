import SchemaScaffold.Command.Execution
import SchemaScaffold.Proofs.DiskPlaces
import SchemaScaffold.Proofs.Generation
import SchemaScaffold.Proofs.Placements

namespace SchemaScaffold

namespace Traversal

variable {α β γ ε : Type}

/-- Two traversals one after the other relate what goes in to what comes out. -/
theorem forall₂_of_mapM_mapM {f : α → Except ε β} {g : β → Except ε γ} {xs : List α} {ys : List β}
    {zs : List γ} (hf : xs.mapM f = .ok ys) (hg : ys.mapM g = .ok zs) :
    List.Forall₂ (fun x z => ∃ y, f x = .ok y ∧ g y = .ok z) xs zs := by
  rw [mapM_eq_ok_iff] at hf hg
  induction hf generalizing zs with
  | nil =>
      cases hg
      exact .nil
  | cons hx _ ih =>
      cases hg with
      | cons hy hys => exact .cons ⟨_, hx, hy⟩ (ih hys)

end Traversal

namespace Path

theorem isEmpty_join {directory path : Path} (h : directory.isEmpty = false) :
    (directory.join path).isEmpty = false := by
  have hne : directory.text ≠ "" := by simpa [isEmpty] using h
  rw [join]
  split
  · rename_i habsolute
    rw [h, Bool.or_false] at habsolute
    rw [isEmpty, String.isEmpty_eq_false_iff]
    intro hempty
    rw [isAbsolute, hempty] at habsolute
    cases habsolute
  · split <;> simp [isEmpty, hne]

end Path

theorem Guard.start_of_make {start : AbsPath} {dir : Path} {guard : Guard}
    (h : make start dir = .ok guard) : guard.start = start := by
  obtain ⟨root, -, h⟩ := Traversal.bind_eq_ok_iff.mp h
  cases h
  rfl

theorem Settings.checkProject_eq_ok_iff {settings : Settings} : settings.checkProject = .ok () ↔
    Validation.projectName settings.projectName = .ok () ∧
      Validation.packageName settings.packageName = .ok () ∧
      Validation.outputDir settings.outputDir.text = .ok () ∧
      Validation.stack settings.stack = .ok () ∧ settings.maxTables ≠ 0 := by
  simp [checkProject, Traversal.bind_eq_ok_iff, Validation.require_eq_ok_iff, Unique.exists_iff]

/-- A project described by checked settings has a package name that passes the check. -/
theorem Settings.packageName_project {settings : Settings} (h : settings.checkProject = .ok ()) :
    Validation.packageName settings.project.packageName = .ok () := by
  obtain ⟨-, hpackage, -⟩ := checkProject_eq_ok_iff.mp h
  rwa [project, Validation.trim_of_packageName hpackage]

namespace Run

theorem prepare_eq_ok_iff {disk : Disk} {start : AbsPath} {settings : Settings} {files : FileMap}
    {guard : Guard} : prepare disk start settings = .ok (files, guard) ↔
      check disk start settings = .ok () ∧
        ∃ script, readScript disk start settings.sqlFile = .ok script ∧
        ∃ renderer, Renderer.ofDirectory disk start settings.templatesDir = .ok renderer ∧
        ∃ tables, settings.project.parseTables script settings.dialect = .ok tables ∧
        ∃ artifacts, Plan.make settings.project Selector.standard tables settings.maxTables =
          .ok artifacts ∧
        ∃ rendered, Generate.renderAll renderer settings.project artifacts = .ok rendered ∧
          FileMap.ofList rendered = files ∧ Guard.make start settings.baseDir = .ok guard := by
  simp only [prepare, Generate.ofScript, Generate.ofTables, Traversal.bind_eq_ok_iff, pure,
    Except.pure, Except.ok.injEq, Prod.mk.injEq]
  constructor
  · rintro ⟨⟨⟩, hcheck, script, hscript, renderer, hrenderer, files,
      ⟨tables, htables, artifacts, hartifacts, rendered, hrendered, rfl⟩, guard, hguard, rfl, rfl⟩
    exact ⟨hcheck, script, hscript, renderer, hrenderer, tables, htables, artifacts, hartifacts,
      rendered, hrendered, rfl, hguard⟩
  · rintro ⟨hcheck, script, hscript, renderer, hrenderer, tables, htables, artifacts, hartifacts,
      rendered, hrendered, rfl, hguard⟩
    exact ⟨(), hcheck, script, hscript, renderer, hrenderer, _,
      ⟨tables, htables, artifacts, hartifacts, rendered, hrendered, rfl⟩, guard, hguard, rfl, rfl⟩

theorem checkProject_of_check {disk : Disk} {start : AbsPath} {settings : Settings}
    (h : check disk start settings = .ok ()) : settings.checkProject = .ok () := by
  obtain ⟨-, -, h⟩ := Traversal.bind_eq_ok_iff.mp h
  obtain ⟨-, -, h⟩ := Traversal.bind_eq_ok_iff.mp h
  exact h

end Run

namespace Command

variable {α β : Type}

/-! ### Lines of a report -/

structure PlanLine where
  fileName : String
  template : TemplateId
  path : Path

namespace PlanLine

def text (line : PlanLine) : String :=
  "  " ++ padTo 40 line.fileName ++ " " ++ padTo 40 line.template ++ " " ++ line.path.text

/-- A line about the file of a placement, with a path that leads to its place. -/
structure Announces (start : AbsPath) (line : PlanLine) (placement : Placement) : Prop where
  name : line.fileName = placement.logicalName
  place : Guard.absolute start line.path = .ok placement.absolutePath

end PlanLine

def planHeading (project : Project) (count : Nat) : List String :=
  [toString count ++ " artifacts for " ++ project.name ++ " (" ++ project.stack.orm.label ++ " + "
    ++ project.stack.buildTool.label ++ "):", ""]

theorem exists_line {project : Project} {start : AbsPath} (hdir : project.dir.isEmpty = false)
    {artifact : Artifact} {entry : String × String} (hname : entry.1 = artifact.fileName)
    {placement : Placement} (h : Placement.alone project.packageName
      (start.follow project.dir) entry = .ok placement) :
    ∃ line : PlanLine, artifactLine project artifact = .ok line.text ∧
      line.Announces start placement := by
  obtain ⟨-, safe, hsafe, rfl⟩ := Placement.alone_eq_ok_iff.mp h
  let path := Layout.resolve safe project.packageName
  refine ⟨⟨artifact.fileName, artifact.template, project.dir.join path⟩, ?_, hname.symm, ?_⟩
  · rw [artifactLine, ← hname, hsafe]
    rfl
  · simp [Guard.absolute, Path.isEmpty_join hdir, AbsPath.follow_join, path]

/-- The report on a plan announces where its files are placed, in order. -/
theorem exists_lines {renderer : Renderer} {project : Project} {start : AbsPath}
    (hdir : project.dir.isEmpty = false) {artifacts : List Artifact}
    {rendered : List (String × String)} {placements : List Placement}
    (hrendered : Generate.renderAll renderer project artifacts = .ok rendered)
    (hplaced : rendered.mapM (Placement.alone project.packageName (start.follow project.dir)) =
      .ok placements) :
    ∃ lines : List PlanLine,
      planReport project artifacts =
        .ok (ofLines (planHeading project placements.length ++ lines.map (·.text))) ∧
      List.Forall₂ (PlanLine.Announces start) lines placements := by
  have hboth := Traversal.forall₂_of_mapM_mapM hrendered hplaced
  have hlines : ∃ lines : List PlanLine,
      artifacts.mapM (artifactLine project) = .ok (lines.map (·.text)) ∧
        List.Forall₂ (PlanLine.Announces start) lines placements := by
    simp only [Traversal.mapM_eq_ok_iff]
    clear hrendered hplaced
    induction hboth with
    | nil => exact ⟨[], .nil, .nil⟩
    | cons h _ ih =>
        obtain ⟨entry, hentry, hplacement⟩ := h
        obtain ⟨lines, htexts, hlines⟩ := ih
        obtain ⟨line, htext, hline⟩ := exists_line hdir
          (Generate.render_eq_ok_iff.mp hentry).name hplacement
        exact ⟨line :: lines, .cons htext htexts, .cons hline hlines⟩
  obtain ⟨lines, htexts, hlines⟩ := hlines
  refine ⟨lines, ?_, hlines⟩
  rw [planReport, htexts, ← hboth.length_eq]
  rfl

/-! ### The report of a command -/

@[simp]
theorem run_ofResult (result : Result α) (disk : Disk) :
    (ofResult result).run disk = (result.mapError Failure.plain, disk) := by
  cases result <;> rfl

theorem run_bind_of_ok {first : Execution α} {disk changed : Disk} {a : α}
    (h : first.run disk = (.ok a, changed)) (next : α → Execution β) :
    (first >>= next).run disk = (next a).run changed := by
  change ExceptT.bindCont next (first.run disk).1 (first.run disk).2 = _
  rw [h]
  rfl

theorem run_readTables {start : AbsPath} {settings : Settings} {disk : Disk} {script : String}
    (hcheck : Run.check disk start settings = .ok ())
    (hscript : Run.readScript disk start settings.sqlFile = .ok script) :
    (readTables start settings).run disk =
      (ofResult (settings.project.parseTables script settings.dialect)).run disk := by
  have hget : (get : Execution Disk).run disk = (.ok disk, disk) := rfl
  have hchecked : (ofResult (Run.check disk start settings)).run disk = (.ok (), disk) := by
    rw [run_ofResult, hcheck]
    rfl
  rw [readTables, run_bind_of_ok hget, run_bind_of_ok hchecked, hscript]

theorem run_plan {start : AbsPath} {settings : Settings} {disk : Disk} {script : String}
    {tables : List Table} {artifacts : List Artifact}
    (hcheck : Run.check disk start settings = .ok ())
    (hscript : Run.readScript disk start settings.sqlFile = .ok script)
    (htables : settings.project.parseTables script settings.dialect = .ok tables)
    (hartifacts : Plan.make settings.project Selector.standard tables settings.maxTables =
      .ok artifacts) :
    (plan start settings).run disk =
      (ofResult (planReport settings.project artifacts)).run disk := by
  have hread : (readTables start settings).run disk = (.ok tables, disk) := by
    rw [run_readTables hcheck hscript, htables, run_ofResult]
    rfl
  have hmade : (ofResult (Plan.make settings.project Selector.standard tables
      settings.maxTables)).run disk = (.ok artifacts, disk) := by
    rw [run_ofResult, hartifacts]
    rfl
  rw [plan, run_bind_of_ok hread, run_bind_of_ok hmade]

end Command

namespace Run

end Run

/-! ### A run over what it wrote before -/

namespace Rerun

open Placement (alone)

def blanks (names : List String) : Node String := .directory (names.map fun name => (name, .file .empty))

def settings : Settings where
  sqlFile := ⟨"s"⟩
  projectName := "a"
  packageName := "a"
  outputDir := ⟨"o"⟩
  templatesDir := ⟨"t"⟩
  stack := { orm := .jpa }

def templates : Node String := .directory [
  ("maven", blanks ["pom.xml.ftl"]),
  ("common", blanks ["application.properties.ftl", "Result.java.ftl", "ResultCode.java.ftl",
    "Service.java.ftl", "Controller.java.ftl"]),
  ("jpa", blanks ["Application.java.ftl", "Entity.java.ftl", "Repository.java.ftl",
    "ServiceImpl.java.ftl"])]

def sources : Node String := .directory [
  ("AApplication.java", .file .empty),
  ("common", .directory [("api", blanks ["Result.java", "ResultCode.java"])]),
  ("entity", blanks ["T.java"]),
  ("repository", blanks ["TRepository.java"]),
  ("service", .directory [("ITService.java", .file .empty),
    ("impl", blanks ["TServiceImpl.java"])]),
  ("controller", blanks ["TController.java"])]

def disk : Disk where
  entries := [("s", .file "CREATE TABLE t (id int)".toUTF8), ("t", templates),
    ("o", .directory [("a", .directory [
      ("pom.xml", .file .empty),
      ("src", .directory [("main", .directory [
        ("resources", blanks ["application.properties"]),
        ("java", .directory [("a", sources)])])])])])]

def files : List (String × List String) :=
  let java := ["src", "main", "java", "a"]
  [("pom.xml", []), ("application.properties", ["src", "main", "resources"]),
    ("Result.java", java ++ ["common", "api"]), ("ResultCode.java", java ++ ["common", "api"]),
    ("AApplication.java", java), ("T.java", java ++ ["entity"]),
    ("TRepository.java", java ++ ["repository"]), ("ITService.java", java ++ ["service"]),
    ("TServiceImpl.java", java ++ ["service", "impl"]),
    ("TController.java", java ++ ["controller"])]

def placement (file : String × List String) : Placement where
  logicalName := file.1
  relativePath := Layout.resolve file.1 "a"
  absolutePath := ⟨"o" :: "a" :: file.2 ++ [file.1]⟩

def entries : List (String × String) := files.map fun file => (file.1, "")

theorem packageName_settings : Validation.packageName "a" = .ok () := by
  rw [Validation.packageName_eq_ok_iff, Text.isBlankText_eq]
  decide

def isBlank : Node String → Bool
  | .file bytes => bytes.size == 0
  | _ => false

theorem checked_file : ∀ file ∈ files,
    (FileName.clean file.1.toList ≠ [] ∧ file.1 = String.ofList
      ((FileName.avoidDevice (FileName.clean file.1.toList)).take Limits.maxFileNameLength)) ∧
    (Layout.directory "a" (Layout.location file.1)).components = (false, file.2) ∧
    (∀ name ∈ (placement file).absolutePath.names, '/' ∉ name.toList ∧ name ≠ "" ∧ name ≠ "." ∧
      name ≠ ".." ∧ name.utf8ByteSize ≤ Disk.maxNameBytes) ∧
    (disk.node? (placement file).absolutePath).any isBlank := by
  decide +kernel

theorem sanitize_file : ∀ file ∈ files, FileName.sanitize file.1 = .ok file.1 :=
  fun file hfile => FileName.sanitize_eq_ok_iff.mpr (checked_file file hfile).1

theorem isEntryName_file : ∀ file ∈ files, ∀ name ∈ (placement file).absolutePath.names,
    Disk.IsEntryName name := by
  intro file hfile name hname
  obtain ⟨-, -, hnames, -⟩ := checked_file file hfile
  obtain ⟨hslash, hempty, hdot, hup, hshort⟩ := hnames name hname
  exact ⟨⟨hslash, hempty, hdot⟩, hup, hshort⟩

theorem components_file : ∀ file ∈ files,
    (Layout.resolve file.1 "a").components = (false, file.2 ++ [file.1]) := by
  intro file hfile
  have hname := isEntryName_file file hfile file.1 (by simp [placement])
  obtain ⟨-, hdirectory, -⟩ := checked_file file hfile
  rw [Layout.resolve, Layout.IsFileName.components_join hname.toIsFileName, hdirectory]

theorem alone_file : ∀ file ∈ files,
    alone "a" ⟨["o", "a"]⟩ (file.1, "") = .ok (placement file) := by
  intro file hfile
  have hsafe := sanitize_file file hfile
  have hdescends := Layout.descends_resolve packageName_settings (FileName.isSafe_of_sanitize hsafe)
  refine Placement.alone_eq_ok_iff.mpr ⟨by simp, file.1, hsafe, ?_⟩
  have hnames := AbsPath.names_follow hdescends ⟨["o", "a"]⟩
  rw [components_file file hfile] at hnames
  have hplace : (AbsPath.mk ["o", "a"]).follow (Layout.resolve file.1 "a") =
      ⟨"o" :: "a" :: file.2 ++ [file.1]⟩ := congrArg AbsPath.mk hnames
  rw [placement, hplace]

theorem node?_file : ∀ file ∈ files,
    disk.node? (placement file).absolutePath = some (.file "".toUTF8) := by
  intro file hfile
  obtain ⟨-, -, -, hblank⟩ := checked_file file hfile
  obtain ⟨node, hnode, hempty⟩ := Option.any_eq_true _ _ |>.mp hblank
  cases node with
  | file bytes =>
      obtain rfl := ByteArray.size_eq_zero_iff.mp (beq_iff_eq.mp hempty)
      exact hnode
  | link target => cases hempty
  | directory entries => cases hempty

theorem prepare_files : ∃ map, map.entries = entries ∧
    Run.prepare disk .root settings = .ok (map, ⟨.root, ⟨["o"]⟩⟩) := by
  have hready : (Run.prepare disk .root settings).toOption.map
      (fun ready => (ready.1.entries, ready.2)) = some (entries, ⟨.root, ⟨["o"]⟩⟩) := by
    -- The kernel cannot evaluate the library's searches in strings.
    simp only [Run.prepare, Run.check, Run.readScript, Settings.checkProject,
      Validation.projectName, Validation.packageName, Validation.outputDir, Validation.sql,
      Text.isBlankText_eq, Generate.ofScript, Project.parseTables, Schema.parse, Schema.parseWith,
      Renderer.ofDirectory]
    delta Renderer.textIn
    simp only [Renderer.isSafeName, String.contains_char_eq]
    decide +kernel
  obtain ⟨⟨map, guard⟩, hprepare, hmap⟩ := Option.map_eq_some_iff.mp hready
  obtain ⟨hentries, rfl⟩ := Prod.mk.inj hmap
  exact ⟨map, hentries, Traversal.toOption_eq_some_iff.mp hprepare⟩

theorem plan_files {map : FileMap} (hmap : map.entries = entries) :
    Placement.plan map settings.project ⟨.root, ⟨["o"]⟩⟩ = .ok (files.map placement) := by
  have hbase : AbsPath.root.follow settings.project.dir = ⟨["o", "a"]⟩ := by decide
  have hpackage : settings.project.packageName = "a" := by decide
  refine (Placement.plan_eq_ok_iff (by rw [hpackage]; exact packageName_settings)
    (by decide)).mpr ⟨by rw [hmap]; decide, by rw [hbase]; decide, ?_, ?_⟩
  · rw [hmap, hbase, hpackage, Traversal.mapM_eq_ok_iff, entries, List.forall₂_map_left_iff,
      List.forall₂_map_right_iff, List.forall₂_same]
    exact alone_file
  · rw [List.map_map, List.map_congr_left (g := fun file => (false, file.2 ++ [file.1]))
      components_file]
    decide

end Rerun

end SchemaScaffold
