import SchemaScaffold.Proofs.Confinement

namespace SchemaScaffold

variable {α β : Type}

/-- A property of pairs carries over to related lists when it carries over to related items. -/
theorem pairwise_iff_of_forall₂ {R : α → β → Prop} {P : α → α → Prop} {Q : β → β → Prop}
    (hiff : ∀ a b x y, R a x → R b y → (P a b ↔ Q x y)) {as : List α} {bs : List β}
    (h : List.Forall₂ R as bs) : as.Pairwise P ↔ bs.Pairwise Q := by
  have hhead : ∀ {a x as xs}, R a x → List.Forall₂ R as xs →
      ((∀ b ∈ as, P a b) ↔ ∀ y ∈ xs, Q x y) := by
    intro a x as xs ha has
    induction has with
    | nil => simp
    | cons hb _ ih =>
        rw [List.forall_mem_cons, List.forall_mem_cons]
        exact and_congr (hiff a _ x _ ha hb) ih
  induction h with
  | nil => simp
  | cons ha has ih =>
      rw [List.pairwise_cons, List.pairwise_cons]
      exact and_congr (hhead ha has) ih

namespace Guard

theorem resolveFrom_eq_ok {guard : Guard} {base : AbsPath} {path : Path}
    (hbase : base.within guard.root) (hpath : path.Descends) :
    guard.resolveFrom base path = .ok (base.follow path) := by
  have hfull : (base.follow path).within guard.root :=
    AbsPath.within_iff.mpr ((AbsPath.within_iff.mp hbase).trans
      (AbsPath.within_iff.mp (AbsPath.within_follow hpath base)))
  simp [resolveFrom, hbase, hfull]

theorem follow_empty (base : AbsPath) : base.follow ⟨""⟩ = base := by
  have hnames : (Path.mk "").names = [] := by decide
  have hrelative : (Path.mk "").isAbsolute = false := by decide
  simp [AbsPath.follow, hnames, hrelative]

/-- A path is resolved when the base and the place that it leads to from there are inside the
root. -/
theorem resolve_eq_ok_iff {guard : Guard} {base candidate : Path} {place : AbsPath} :
    guard.resolve base candidate = .ok place ↔
      base.isEmpty = false ∧ (guard.start.follow base).within guard.root ∧
        (guard.start.follow (base.join candidate)).within guard.root ∧
        guard.start.follow (base.join candidate) = place := by
  rw [AbsPath.follow_join]
  cases hempty : base.isEmpty with
  | true => simp [resolve, absolute, hempty, Result.invalid]
  | false =>
      cases hbase : (guard.start.follow base).within guard.root <;>
        cases hfull : ((guard.start.follow base).follow candidate).within guard.root <;>
        simp [resolve, absolute, hempty, resolveFrom, hbase, hfull]

/-- A directory is resolved to its place when that is inside the root. -/
theorem resolveDir_eq_ok_iff {guard : Guard} {dir : Path} {place : AbsPath} :
    guard.resolveDir dir = .ok place ↔
      dir.isEmpty = false ∧ (guard.start.follow dir).within guard.root ∧
        guard.start.follow dir = place := by
  rw [resolveDir, resolve_eq_ok_iff, AbsPath.follow_join, follow_empty, and_self_left]

end Guard

namespace Placement

/-- Where a file is placed by itself, its content being small enough and its name fit. -/
def alone (packageName : String) (base : AbsPath) (file : String × String) : Result Placement := do
  Validation.fileSize file.1 file.2.utf8ByteSize
  let relativePath := Layout.resolve (← FileName.sanitize file.1) packageName
  return { logicalName := file.1, relativePath, absolutePath := base.follow relativePath }

theorem alone_eq_ok_iff {packageName : String} {base : AbsPath} {file : String × String}
    {placement : Placement} : alone packageName base file = .ok placement ↔
      file.2.utf8ByteSize ≤ Limits.maxFileBytes ∧ ∃ safe, FileName.sanitize file.1 = .ok safe ∧
        ⟨file.1, Layout.resolve safe packageName,
          base.follow (Layout.resolve safe packageName)⟩ = placement := by
  simp [alone, Traversal.bind_eq_ok_iff, Validation.fileSize, Validation.require_eq_ok_iff, pure,
    Except.pure]

theorem exists_alone_iff {packageName : String} {base : AbsPath} {file : String × String} :
    (∃ placement, alone packageName base file = .ok placement) ↔
      file.2.utf8ByteSize ≤ Limits.maxFileBytes ∧
        ∃ safe, FileName.sanitize file.1 = .ok safe := by
  simp only [alone_eq_ok_iff, exists_and_left]
  refine and_congr_right fun _ => ⟨?_, ?_⟩
  · rintro ⟨-, safe, hsafe, -⟩
    exact ⟨safe, hsafe⟩
  · rintro ⟨safe, hsafe⟩
    exact ⟨_, safe, hsafe, rfl⟩

theorem logicalName_of_alone {packageName : String} {base : AbsPath} {file : String × String}
    {placement : Placement} (h : alone packageName base file = .ok placement) :
    placement.logicalName = file.1 := by
  obtain ⟨-, safe, -, rfl⟩ := alone_eq_ok_iff.mp h
  rfl

section

variable {packageName : String} (hpackage : Validation.packageName packageName = .ok ())
  {guard : Guard} {base : AbsPath} (hbase : base.within guard.root)

include hpackage

theorem descends_of_alone {file : String × String} {placement : Placement}
    (h : alone packageName base file = .ok placement) : placement.relativePath.Descends := by
  obtain ⟨-, safe, hsafe, rfl⟩ := alone_eq_ok_iff.mp h
  exact Layout.descends_resolve hpackage (FileName.isSafe_of_sanitize hsafe)

theorem names_of_alone {file : String × String} {placement : Placement}
    (h : alone packageName base file = .ok placement) :
    placement.absolutePath.names = base.names ++ placement.relativePath.components.2 := by
  have hdescends := descends_of_alone hpackage h
  obtain ⟨-, safe, -, rfl⟩ := alone_eq_ok_iff.mp h
  exact AbsPath.names_follow hdescends base

theorem nodup_absolutePath {files : List (String × String)} {placements : List Placement}
    (hplaced : files.mapM (alone packageName base) = .ok placements)
    (hnodup : (placements.map (·.relativePath.components)).Nodup) :
    (placements.map (·.absolutePath)).Nodup := by
  rw [List.Nodup, List.pairwise_map] at hnodup ⊢
  refine hnodup.imp_of_mem fun {placement other} hmem hother hne heq => hne ?_
  obtain ⟨file, -, hfile⟩ := Traversal.exists_of_mem_mapM hplaced hmem
  obtain ⟨otherFile, -, hotherFile⟩ := Traversal.exists_of_mem_mapM hplaced hother
  have hnames := names_of_alone hpackage hfile
  rw [heq, names_of_alone hpackage hotherFile] at hnames
  rw [(descends_of_alone hpackage hfile).components_eq,
    (descends_of_alone hpackage hotherFile).components_eq] at hnames ⊢
  exact congrArg (Prod.mk false) (List.append_cancel_left hnames).symm

include hbase

/-- A file is placed as it is by itself unless its path is taken. -/
theorem place_eq_ok_iff {placed : List Placement} {file : String × String}
    {placement : Placement} : place packageName guard base placed file.1 file.2 = .ok placement ↔
      alone packageName base file = .ok placement ∧
        ∀ other ∈ placed, other.relativePath.components ≠ placement.relativePath.components := by
  simp only [place, alone_eq_ok_iff, Traversal.bind_eq_ok_iff, Validation.fileSize,
    Validation.require_eq_ok_iff, decide_eq_true_eq, exists_and_left, exists_const, and_assoc]
  refine and_congr_right fun _ => ?_
  rw [← exists_and_right]
  refine exists_congr fun safe => ?_
  rw [and_assoc]
  refine and_congr_right fun hsafe => ?_
  have hdescends := Layout.descends_resolve hpackage (FileName.isSafe_of_sanitize hsafe)
  cases hfind : placed.find? fun other =>
      other.relativePath.components == (Layout.resolve safe packageName).components with
  | some first =>
      have hmem := List.mem_of_find?_eq_some hfind
      have hsame : first.relativePath.components =
          (Layout.resolve safe packageName).components := by
        simpa using List.find?_some hfind
      simp only [Result.invalid, reduceCtorEq, false_iff, not_and]
      rintro rfl hfresh
      exact hfresh first hmem hsame
  | none =>
      have hfresh : ∀ other ∈ placed, other.relativePath.components ≠
          (Layout.resolve safe packageName).components := by
        simpa using hfind
      rw [Guard.resolveFrom_eq_ok hbase hdescends]
      simp only [Traversal.ok_bind, pure, Except.pure, Except.ok.injEq]
      constructor
      · rintro rfl
        exact ⟨rfl, hfresh⟩
      · rintro ⟨rfl, -⟩
        rfl

/-- Files are placed as each of them is by itself, no two at the same path. -/
theorem placeAll_eq_ok_iff {placed placements : List Placement}
    {files : List (String × String)}
    (hplaced : (placed.map (·.relativePath.components)).Nodup) :
    placeAll packageName guard base placed files = .ok placements ↔
      ∃ added, placements = placed ++ added ∧
        files.mapM (alone packageName base) = .ok added ∧
          ((placed ++ added).map (·.relativePath.components)).Nodup := by
  simp only [Traversal.mapM_eq_ok_iff]
  -- Every step keeps the paths of the files that are placed apart from each other.
  induction files generalizing placed with
  | nil =>
      simp only [placeAll, Except.ok.injEq, List.forall₂_nil_left_iff]
      constructor
      · rintro rfl
        exact ⟨[], by simp, rfl, by simpa using hplaced⟩
      · rintro ⟨_, rfl, rfl, -⟩
        simp
  | cons file rest ih =>
      have hnodup : ∀ placement : Placement,
          (∀ other ∈ placed, other.relativePath.components ≠
            placement.relativePath.components) ↔
          ((placed ++ [placement]).map (·.relativePath.components)).Nodup := by
        intro placement
        rw [List.map_append, List.nodup_append]
        simp [hplaced]
      simp only [placeAll, Traversal.bind_eq_ok_iff, place_eq_ok_iff hpackage hbase,
        List.forall₂_cons_left_iff]
      constructor
      · rintro ⟨placement, ⟨halone, hfresh⟩, hrest⟩
        obtain ⟨added, rfl, hadded, hall⟩ := (ih ((hnodup placement).mp hfresh)).mp hrest
        rw [List.append_assoc] at hall
        exact ⟨placement :: added, by simp, ⟨placement, added, halone, hadded, rfl⟩, hall⟩
      · rintro ⟨_, rfl, ⟨placement, added, halone, hadded, rfl⟩, hall⟩
        rw [List.append_cons] at hall
        have hfirst : ((placed ++ [placement]).map (·.relativePath.components)).Nodup := by
          rw [List.map_append] at hall
          exact (List.nodup_append.mp hall).1
        exact ⟨placement, ⟨halone, (hnodup placement).mpr hfirst⟩,
          (ih hfirst).mpr ⟨added, List.append_cons .., hadded, hall⟩⟩

end

theorem plan_eq_ok_iff {files : FileMap} {project : Project} {guard : Guard}
    (hpackage : Validation.packageName project.packageName = .ok ())
    (hdir : project.dir.isEmpty = false) {placements : List Placement} :
    plan files project guard = .ok placements ↔
      files.entries.length ≤ Limits.maxFiles ∧
        (guard.start.follow project.dir).within guard.root ∧
        files.entries.mapM (alone project.packageName (guard.start.follow project.dir)) =
          .ok placements ∧
        (placements.map (·.relativePath.components)).Nodup := by
  simp only [plan, Traversal.bind_eq_ok_iff, Validation.fileCount, Validation.require_eq_ok_iff,
    decide_eq_true_eq, exists_and_left, exists_const, Guard.resolveDir_eq_ok_iff, hdir, true_and]
  refine and_congr_right fun _ => ?_
  constructor
  · rintro ⟨_, ⟨hwithin, rfl⟩, h⟩
    obtain ⟨_, rfl, hadded, hnodup⟩ := (placeAll_eq_ok_iff hpackage hwithin (by simp)).mp h
    exact ⟨hwithin, hadded, hnodup⟩
  · rintro ⟨hwithin, hadded, hnodup⟩
    exact ⟨_, ⟨hwithin, rfl⟩, (placeAll_eq_ok_iff hpackage hwithin (by simp)).mpr
      ⟨placements, rfl, hadded, hnodup⟩⟩

theorem dir_of_plan {files : FileMap} {project : Project} {guard : Guard}
    {placements : List Placement} (h : plan files project guard = .ok placements) :
    project.dir.isEmpty = false := by
  obtain ⟨-, -, h⟩ := Traversal.bind_eq_ok_iff.mp h
  obtain ⟨base, hbase, -⟩ := Traversal.bind_eq_ok_iff.mp h
  exact (Guard.resolveDir_eq_ok_iff.mp hbase).1

/-- Two files whose safe names lead to different paths. -/
def Apart (packageName : String) (file other : String × String) : Prop :=
  ∀ safe otherSafe, FileName.sanitize file.1 = .ok safe →
    FileName.sanitize other.1 = .ok otherSafe →
    (Layout.resolve safe packageName).components ≠ (Layout.resolve otherSafe packageName).components

theorem apart_iff_of_alone {packageName : String} {base : AbsPath} {file other : String × String}
    {placement otherPlacement : Placement} (h : alone packageName base file = .ok placement)
    (hother : alone packageName base other = .ok otherPlacement) :
    Apart packageName file other ↔
      placement.relativePath.components ≠ otherPlacement.relativePath.components := by
  obtain ⟨-, safe, hsafe, rfl⟩ := alone_eq_ok_iff.mp h
  obtain ⟨-, otherSafe, hotherSafe, rfl⟩ := alone_eq_ok_iff.mp hother
  simp [Apart, hsafe, hotherSafe]

theorem pairwise_apart_iff {packageName : String} {base : AbsPath}
    {files : List (String × String)} {placements : List Placement}
    (h : files.mapM (alone packageName base) = .ok placements) :
    files.Pairwise (Apart packageName) ↔
      (placements.map (·.relativePath.components)).Nodup := by
  have hplaced := (Traversal.mapM_eq_ok_iff _ _ _).mp h
  rw [List.Nodup, List.pairwise_map]
  refine pairwise_iff_of_forall₂ (fun _ _ _ _ hfile hother => ?_) hplaced
  exact apart_iff_of_alone hfile hother

/-- The files of a project are placed exactly when there are not too many, their directory is inside
the root of the guard, none is too large, all names can be sanitized and no two of these lead to the
same path. Then there is one placement for each file, in order, all of them below the directory of
the project and at different places. -/
theorem plan_accepts_iff (files : FileMap) (project : Project) (guard : Guard)
    (hpackage : Validation.packageName project.packageName = .ok ())
    (hdir : project.dir.isEmpty = false) :
    ((∃ placements, plan files project guard = .ok placements) ↔
        files.entries.length ≤ 1000 ∧
          (guard.start.follow project.dir).within guard.root ∧
          (∀ file ∈ files.entries, file.2.utf8ByteSize ≤ 10 * 1024 * 1024) ∧
          (∀ file ∈ files.entries, ∃ safe, FileName.sanitize file.1 = .ok safe) ∧
          files.entries.Pairwise (Apart project.packageName)) ∧
      ∀ placements, plan files project guard = .ok placements →
        placements.map (·.logicalName) = files.names ∧
          (∀ placement ∈ placements, ∃ first rest, placement.absolutePath.names =
            (guard.start.follow project.dir).names ++ first :: rest) ∧
          (placements.map (·.absolutePath)).Nodup := by
  refine ⟨?_, ?_⟩
  · simp only [plan_eq_ok_iff hpackage hdir, exists_and_left, Limits.maxFiles]
    refine and_congr_right fun _ => and_congr_right fun _ => ?_
    have hexists := Traversal.exists_mapM_eq_ok_iff
      (alone project.packageName (guard.start.follow project.dir)) files.entries
    simp only [exists_alone_iff, forall_and] at hexists
    constructor
    · rintro ⟨placements, hplaced, hnodup⟩
      obtain ⟨hsize, hsafe⟩ := hexists.mp ⟨placements, hplaced⟩
      exact ⟨hsize, hsafe, (pairwise_apart_iff hplaced).mpr hnodup⟩
    · rintro ⟨hsize, hsafe, hdifferent⟩
      obtain ⟨placements, hplaced⟩ := hexists.mpr ⟨hsize, hsafe⟩
      exact ⟨placements, hplaced, (pairwise_apart_iff hplaced).mp hdifferent⟩
  · intro placements h
    obtain ⟨-, -, hplaced, hnodup⟩ := (plan_eq_ok_iff hpackage hdir).mp h
    refine ⟨?_, ?_, nodup_absolutePath hpackage hplaced hnodup⟩
    · exact Traversal.map_eq_of_mapM (fun _ _ => logicalName_of_alone) hplaced
    · intro placement hmem
      obtain ⟨file, -, hfile⟩ := Traversal.exists_of_mem_mapM hplaced hmem
      obtain ⟨first, rest, hfirst⟩ := (descends_of_alone hpackage hfile).exists_component
      exact ⟨first, rest, by rw [names_of_alone hpackage hfile, hfirst]⟩

/-- Names that mean harm are placed inside the project. -/
theorem plan_accepts_hostile_names :
    let files := FileMap.ofList [("../../evil.java", "x"), ("CON.java", "y"), (".", "z")]
    let guard : Guard := ⟨.root, ⟨["out"]⟩⟩
    Validation.packageName shop.packageName = .ok () ∧ shop.dir.isEmpty = false ∧
      ∃ placements, plan files shop guard = .ok placements ∧
        placements.map (·.logicalName) = ["../../evil.java", "CON.java", "."] ∧
        (∀ placement ∈ placements, ∃ first rest,
          placement.absolutePath.names = ["out", "shop"] ++ first :: rest) ∧
        (placements.map (·.absolutePath)).Nodup := by
  intro files guard
  have hdir : shop.dir.isEmpty = false := by decide
  obtain ⟨haccepts, hplaces⟩ := plan_accepts_iff files shop guard packageName_shop hdir
  let safeName := fun file : String × String =>
    String.ofList ((FileName.avoidDevice (FileName.clean file.1.toList)).take
      Limits.maxFileNameLength)
  have hclean : ∀ file ∈ files.entries, FileName.clean file.1.toList ≠ [] := by decide
  have hsafe : ∀ file ∈ files.entries, ∃ safe, FileName.sanitize file.1 = .ok safe :=
    fun file hfile => ⟨safeName file, FileName.sanitize_eq_ok_iff.mpr ⟨hclean file hfile, rfl⟩⟩
  have hpaths : files.entries.Pairwise fun file other =>
      (Layout.resolve (safeName file) shop.packageName).components ≠
        (Layout.resolve (safeName other) shop.packageName).components := by decide +kernel
  have hapart : files.entries.Pairwise (Apart shop.packageName) := by
    refine hpaths.imp fun hne safe otherSafe h hother => ?_
    obtain ⟨-, rfl⟩ := FileName.sanitize_eq_ok_iff.mp h
    obtain ⟨-, rfl⟩ := FileName.sanitize_eq_ok_iff.mp hother
    exact hne
  obtain ⟨placements, hplan⟩ := haccepts.mpr
    ⟨by decide, by decide, by decide, hsafe, hapart⟩
  obtain ⟨hnames, hbelow, hdistinct⟩ := hplaces placements hplan
  exact ⟨packageName_shop, hdir, placements, hplan, hnames, hbelow, hdistinct⟩

end Placement

end SchemaScaffold
