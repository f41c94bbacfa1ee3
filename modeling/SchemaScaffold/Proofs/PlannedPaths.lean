import SchemaScaffold.Proofs.Placements
import SchemaScaffold.Proofs.Plans
import SchemaScaffold.Proofs.PrintableNames
import SchemaScaffold.Proofs.Tables

namespace SchemaScaffold

open Text (isInk)

def fileExtensions : List String := [".java", ".xml", ".gradle", ".properties"]

structure HasStem (name stem : String) : Prop where
  ne : stem ≠ ""
  ink : ∀ c ∈ stem.toList, isInk c
  extension : ∃ extension ∈ fileExtensions, name = stem ++ extension

theorem HasStem.append {before ending tail extension : String}
    (hbefore : ∀ c ∈ before.toList, isInk c) (hne : before ++ tail ≠ "")
    (hending : ending = tail ++ extension) (htail : tail.toList.all isInk)
    (hmem : extension ∈ fileExtensions) : HasStem (before ++ ending) (before ++ tail) where
  ne := hne
  ink c hc := by
    rw [String.toList_append, List.mem_append] at hc
    exact hc.elim (hbefore c) (List.all_eq_true.mp htail c)
  extension := ⟨extension, hmem, by rw [hending, String.append_assoc]⟩

theorem Role.exists_hasStem (role : Role) {className appName : String}
    (hclass : className ≠ "" ∧ ∀ c ∈ className.toList, isInk c)
    (happ : appName ≠ "" ∧ ∀ c ∈ appName.toList, isInk c) (stack : Stack) :
    ∃ stem, HasStem (role.fileName className appName stack) stem := by
  have hfixed : ∀ tail extension : String, tail ≠ "" → tail.toList.all isInk →
      extension ∈ fileExtensions → ∃ stem, HasStem (tail ++ extension) stem := by
    intro tail extension hne htail hmem
    exact ⟨tail, hne, List.all_eq_true.mp htail, extension, hmem, rfl⟩
  have hown : ∀ (tail extension : String) {before ending : String},
      (before ≠ "" ∧ ∀ c ∈ before.toList, isInk c) → ending = tail ++ extension →
        tail.toList.all isInk → extension ∈ fileExtensions →
          ∃ stem, HasStem (before ++ ending) stem := by
    intro tail extension before ending hbefore hending htail hmem
    refine ⟨_, HasStem.append hbefore.2 ?_ hending htail hmem⟩
    simp [hbefore.1]
  cases role with
  | buildFile =>
      rw [Role.fileName]
      cases stack.buildTool with
      | maven => exact hfixed "pom" ".xml" (by decide) (by decide) (by decide)
      | gradle =>
          exact hfixed "build" ".gradle" (by decide) (by decide) (by decide)
  | appConfig =>
      exact hfixed "application" ".properties" (by decide) (by decide)
        (by decide)
  | resultWrapper =>
      exact hfixed "Result" ".java" (by decide) (by decide) (by decide)
  | resultCodeEnum =>
      exact hfixed "ResultCode" ".java" (by decide) (by decide) (by decide)
  | apiDocConfig =>
      exact hfixed "OpenApiConfig" ".java" (by decide) (by decide)
        (by decide)
  | applicationEntryPoint =>
      exact hown "Application" ".java" happ rfl (by decide) (by decide)
  | entity => exact hown "" ".java" hclass rfl (by decide) (by decide)
  | dataAccess =>
      rw [Role.fileName]
      cases stack.orm with
      | jpa =>
          exact hown "Repository" ".java" hclass rfl (by decide) (by decide)
      | mybatis | mybatisPlus =>
          exact hown "Mapper" ".java" hclass rfl (by decide) (by decide)
  | dataAccessMarkup =>
      exact hown "Mapper" ".xml" hclass rfl (by decide) (by decide)
  | serviceInterface =>
      have hname : "I" ++ className ≠ "" ∧ ∀ c ∈ ("I" ++ className).toList, isInk c := by
        have hfirst : isInk 'I' := by decide
        simpa [hfirst] using hclass.2
      exact hown "Service" ".java" hname rfl (by decide) (by decide)
  | serviceImpl =>
      exact hown "ServiceImpl" ".java" hclass rfl (by decide) (by decide)
  | controller =>
      exact hown "Controller" ".java" hclass rfl (by decide) (by decide)

namespace HasStem

open FileName

variable {name stem : String}

theorem exists_toList (h : HasStem name stem) : ∃ letters,
    name.toList = stem.toList ++ '.' :: letters ∧ (∀ c ∈ letters, isInk c) ∧
      letters.length ≤ 10 := by
  obtain ⟨extension, hmem, rfl⟩ := h.extension
  have hletters : ∀ extension ∈ fileExtensions, extension.toList.head? = some '.' ∧
      extension.toList.tail.all isInk ∧ extension.toList.tail.length ≤ 10 := by decide
  obtain ⟨hhead, hink, hlength⟩ := hletters extension hmem
  obtain ⟨letters, hextension⟩ := List.head?_eq_some_iff.mp hhead
  rw [hextension, List.tail_cons] at hink hlength
  refine ⟨letters, ?_, List.all_eq_true.mp hink, hlength⟩
  rw [String.toList_append, hextension]

theorem not_mem_stem (h : HasStem name stem) {c : Char} (hc : isInk c = false) :
    c ∉ stem.toList := by
  intro hmem
  rw [h.ink c hmem] at hc
  cases hc

theorem dot_not_mem {chars : List Char} (h : ∀ c ∈ chars, isInk c) : '.' ∉ chars := by
  intro hmem
  have hfalse := h _ hmem
  revert hfalse
  decide

/-! ### Making a planned name safe -/

theorem isLegal_of_isInk {c : Char} (h : isInk c) : IsLegal c := by
  refine ⟨fun hmem => ?_, ?_⟩
  · have hmarks : illegalChars.all fun mark => !isInk mark := by decide
    have hmark := List.all_eq_true.mp hmarks c hmem
    simp [h] at hmark
  · rw [isInk, Bool.and_eq_true, Bool.and_eq_true, Bool.not_eq_true'] at h
    exact h.1.2

theorem clean_eq (h : HasStem name stem) : clean name.toList = name.toList := by
  obtain ⟨letters, hname, hletters, -⟩ := h.exists_toList
  have hchars : ∀ c ∈ name.toList, isInk c ∨ c = '.' := by
    rw [hname]
    simp only [List.mem_append, List.mem_cons]
    rintro c (hc | rfl | hc)
    · exact .inl (h.ink c hc)
    · exact .inr rfl
    · exact .inl (hletters c hc)
  have hlegal : ∀ c ∈ name.toList, IsLegal c := by
    intro c hc
    rcases hchars c hc with hink | rfl
    · exact isLegal_of_isInk hink
    · exact ⟨by decide, by decide⟩
  have hdots : name.toList.count '.' ≤ 1 := by
    rw [hname, List.count_append, List.count_cons_self,
      List.count_eq_zero_of_not_mem (dot_not_mem h.ink),
      List.count_eq_zero_of_not_mem (dot_not_mem hletters)]
  rw [clean_eq_trimList hlegal (not_dots_infix_of_count hdots)]
  apply Text.trimList_of_forall_not_isBlank
  intro c hc
  rcases hchars c hc with hink | rfl
  · exact Text.not_isBlank_of_isInk hink
  · decide

/-- The name of a device stands in front of a dot only as the stem of a name. -/
theorem isDevice_iff (h : HasStem name stem) :
    isDevice name.toList ↔ Text.upper stem ∈ deviceNames := by
  obtain ⟨letters, hname, hletters, -⟩ := h.exists_toList
  have hupper : ∀ c ∈ Text.upperList stem.toList, isInk c := by
    intro c hc
    obtain ⟨d, hd, hc⟩ := List.mem_flatMap.mp hc
    exact Text.isInk_of_mem_upperChar (h.ink d hd) hc
  have hstem : '.' ∉ Text.upperList stem.toList := dot_not_mem hupper
  have hchars : (Text.upper (String.ofList name.toList)).toList =
      Text.upperList stem.toList ++ '.' :: Text.upperList letters := by
    have hmark : Text.upperChar '.' = ['.'] := by decide
    simp [Text.upper, Text.upperList, hname, hmark]
  have hdevices : ∀ device ∈ deviceNames, '.' ∉ device.toList := by decide
  have htake : ∀ front back : List Char, '.' ∉ front →
      (front ++ '.' :: back).takeWhile (· != '.') = front := by
    intro front back hfront
    rw [List.takeWhile_append_of_pos]
    · simp
    · intro c hc
      rw [bne_iff_ne]
      rintro rfl
      exact hfront hc
  simp only [isDevice, hchars, List.any_eq_true, Bool.or_eq_true, beq_iff_eq,
    List.isPrefixOf_iff_prefix]
  constructor
  · rintro ⟨device, hdevice, hsame | ⟨back, hback⟩⟩
    · exact absurd (hsame ▸ by simp) (hdevices device hdevice)
    · have hfront := congrArg (List.takeWhile (· != '.')) hback
      rw [List.append_assoc, List.singleton_append, htake _ _ (hdevices device hdevice),
        htake _ _ hstem] at hfront
      have heq : Text.upper stem = device := by
        rw [Text.upper, ← hfront, String.ofList_toList]
      rwa [heq]
  · intro hdevice
    refine ⟨_, hdevice, .inr ⟨Text.upperList letters, ?_⟩⟩
    simp [Text.upper]

def safe (name stem : String) : String :=
  if Text.upper stem ∈ deviceNames then "_" ++ name else name

theorem sanitize_eq (h : HasStem name stem) (hlength : name.length ≤ Limits.maxFileNameLength) :
    sanitize name = .ok (safe name stem) := by
  obtain ⟨letters, hname, -, hletters⟩ := h.exists_toList
  rw [sanitize_eq_ok_iff, h.clean_eq]
  refine ⟨by simp [hname], ?_⟩
  by_cases hdevice : Text.upper stem ∈ deviceNames
  · have hshort : ∀ device ∈ deviceNames, device.toList.length ≤ 4 := by decide
    have hupper := hshort _ hdevice
    have hstem := Text.length_le_upperList stem.toList
    rw [Text.upper, String.toList_ofList] at hupper
    have htake : ('_' :: name.toList).length ≤ Limits.maxFileNameLength := by
      simp only [hname, List.length_cons, List.length_append, Limits.maxFileNameLength]
      omega
    rw [avoidDevice, if_pos (h.isDevice_iff.mpr hdevice), List.take_of_length_le htake, safe,
      if_pos hdevice]
    apply String.toList_inj.mp
    simp
  · have htake : name.toList.length ≤ Limits.maxFileNameLength := by
      rwa [String.length_toList]
    rw [avoidDevice, if_neg (fun hd => hdevice (h.isDevice_iff.mp hd)),
      List.take_of_length_le htake, String.ofList_toList, safe, if_neg hdevice]

theorem underscore_not_head (h : HasStem name stem) : name.toList.head? ≠ some '_' := by
  obtain ⟨letters, hname, -⟩ := h.exists_toList
  have hne : stem.toList ≠ [] := by simpa using h.ne
  obtain ⟨c, rest, hstem⟩ := List.exists_cons_of_ne_nil hne
  rw [hname, hstem, List.cons_append, List.head?_cons]
  intro heq
  have hmem : '_' ∈ stem.toList := by
    rw [hstem, Option.some.inj heq]
    exact List.mem_cons_self
  exact h.not_mem_stem (by decide) hmem

theorem safe_inj {other otherStem : String} (h : HasStem name stem)
    (hother : HasStem other otherStem) (heq : safe name stem = safe other otherStem) :
    name = other := by
  have hfirst := h.underscore_not_head
  have hsecond := hother.underscore_not_head
  unfold safe at heq
  split at heq <;> split at heq
  · simpa [← String.toList_inj] using heq
  · simp [← heq] at hsecond
  · simp [heq] at hfirst
  · exact heq

theorem isFileName_safe (h : HasStem name stem) : Layout.IsFileName (safe name stem) := by
  obtain ⟨letters, hname, hletters, -⟩ := h.exists_toList
  have hne : stem.toList ≠ [] := by simpa using h.ne
  have hslash : '/' ∉ name.toList := by
    have hink : isInk '/' = false := by decide
    have hmore : '/' ∉ letters := by
      intro hmem
      rw [hletters _ hmem] at hink
      cases hink
    simp [hname, h.not_mem_stem hink, hmore]
  have hlength : 1 < name.toList.length := by
    have hpositive := List.length_pos_of_ne_nil hne
    simp only [hname, List.length_append, List.length_cons]
    omega
  unfold safe
  split
  · exact .append (by decide) hslash hlength
  · rw [← String.empty_append (s := name)]
    exact .append (by decide) hslash hlength

theorem eq_of_components_eq {other otherStem packageName : String} (h : HasStem name stem)
    (hother : HasStem other otherStem)
    (heq : (Layout.resolve (safe name stem) packageName).components =
      (Layout.resolve (safe other otherStem) packageName).components) :
    safe name stem = safe other otherStem := by
  rw [Layout.resolve, Layout.resolve, h.isFileName_safe.components_join,
    hother.isFileName_safe.components_join, Prod.mk.injEq] at heq
  have hlast := congrArg List.getLast? heq.2
  rw [List.getLast?_concat, List.getLast?_concat] at hlast
  exact Option.some.inj hlast

end HasStem

/-! ### Collisions of paths -/

namespace Placement

/-- Whether an error says that two files would be written to one path. -/
def IsCollision (error : Error) : Prop :=
  ∃ first second path, error = .invalid (.samePath first second path)

theorem not_isCollision_of_sanitize {name : String} {error : Error}
    (h : FileName.sanitize name = .error error) : ¬IsCollision error := by
  rintro ⟨first, second, path, rfl⟩
  simp only [FileName.sanitize, Traversal.bind_eq_error_iff, Validation.require, Result.invalid,
    pure, Except.pure] at h
  rcases h with h | ⟨-, -, h | ⟨-, -, h⟩⟩
  · split at h <;> cases h
  · split at h <;> cases h
  · cases h

theorem not_isCollision_of_resolveFrom {guard : Guard} {base : AbsPath} {path : Path}
    {error : Error} (h : guard.resolveFrom base path = .error error) : ¬IsCollision error := by
  rintro ⟨first, second, place, rfl⟩
  unfold Guard.resolveFrom at h
  split at h
  · cases h
  · dsimp only at h
    split at h <;> cases h

section

variable {packageName : String} {guard : Guard} {base : AbsPath}

/-- What has been placed keeps clear of the path of a file. -/
def IsFree (packageName : String) (placed : List Placement) (file : String × String) : Prop :=
  ∀ safe, FileName.sanitize file.1 = .ok safe → ∀ other ∈ placed,
    other.relativePath.components ≠ (Layout.resolve safe packageName).components

/-- A file whose path is free is placed there or refused for another reason. -/
theorem place_of_isFree (guard : Guard) (base : AbsPath) {placed : List Placement}
    {file : String × String} (hfree : IsFree packageName placed file) :
    (∀ error, place packageName guard base placed file.1 file.2 = .error error →
        ¬IsCollision error) ∧
      ∀ placement, place packageName guard base placed file.1 file.2 = .ok placement →
        ∃ safe, FileName.sanitize file.1 = .ok safe ∧
          placement.relativePath = Layout.resolve safe packageName := by
  have hfind : ∀ safe, FileName.sanitize file.1 = .ok safe → placed.find? (fun other =>
      other.relativePath.components == (Layout.resolve safe packageName).components) = none := by
    intro safe hsafe
    simpa using hfree safe hsafe
  constructor
  · intro error h
    simp only [place, Traversal.bind_eq_error_iff] at h
    rcases h with hsize | ⟨-, -, hname | ⟨safe, hsafe, h⟩⟩
    · rintro ⟨first, second, path, rfl⟩
      unfold Validation.fileSize Validation.require Result.invalid at hsize
      split at hsize <;> cases hsize
    · exact not_isCollision_of_sanitize hname
    · simp only [hfind safe hsafe] at h
      rcases Traversal.bind_eq_error_iff.mp h with hguard | ⟨full, -, hdone⟩
      · exact not_isCollision_of_resolveFrom hguard
      · cases hdone
  · intro placement h
    simp only [place, Traversal.bind_eq_ok_iff] at h
    obtain ⟨-, -, safe, hsafe, h⟩ := h
    simp only [hfind safe hsafe] at h
    obtain ⟨full, -, hdone⟩ := Traversal.bind_eq_ok_iff.mp h
    cases hdone
    exact ⟨safe, hsafe, rfl⟩

/-- Files with paths of their own are never refused for a collision. -/
theorem not_isCollision_of_placeAll {files : List (String × String)} {placed : List Placement}
    (hfree : ∀ file ∈ files, IsFree packageName placed file)
    (hapart : files.Pairwise (Apart packageName)) {error : Error}
    (h : placeAll packageName guard base placed files = .error error) : ¬IsCollision error := by
  -- Every step keeps the paths of the files that are left free.
  induction files generalizing placed with
  | nil => cases h
  | cons file rest ih =>
      rw [List.forall_mem_cons] at hfree
      rw [List.pairwise_cons] at hapart
      obtain ⟨hrefused, hplaced⟩ := place_of_isFree guard base hfree.1
      rw [placeAll, Traversal.bind_eq_error_iff] at h
      rcases h with h | ⟨placement, hplacement, h⟩
      · exact hrefused error h
      · refine ih ?_ hapart.2 h
        obtain ⟨safe, hsafe, hpath⟩ := hplaced placement hplacement
        intro other hother otherSafe hotherSafe first hfirst
        rw [List.mem_append, List.mem_singleton] at hfirst
        rcases hfirst with hfirst | rfl
        · exact hfree.2 other hother otherSafe hotherSafe first hfirst
        · rw [hpath]
          exact hapart.1 other hother safe otherSafe hsafe hotherSafe

end

theorem not_isCollision_of_plan {files : FileMap} {project : Project} {guard : Guard}
    (hapart : files.entries.Pairwise (Apart project.packageName)) {error : Error}
    (h : plan files project guard = .error error) : ¬IsCollision error := by
  simp only [plan, Traversal.bind_eq_error_iff] at h
  rcases h with hcount | ⟨done, -, hdir | ⟨base, -, hplace⟩⟩
  · rintro ⟨first, second, path, rfl⟩
    unfold Validation.fileCount Validation.require Result.invalid at hcount
    split at hcount <;> cases hcount
  · simp only [Guard.resolveDir, Guard.resolve, Guard.absolute, Traversal.bind_eq_error_iff] at hdir
    rcases hdir with hempty | ⟨start, -, hdir⟩
    · rintro ⟨first, second, path, rfl⟩
      unfold Result.invalid at hempty
      split at hempty <;> cases hempty
    · exact not_isCollision_of_resolveFrom hdir
  · refine not_isCollision_of_placeAll ?_ hapart hplace
    simp [IsFree]

end Placement

/-! ### Plans -/

section

variable {project : Project} {tables : List Table} {maxTables : Nat} {plan : List Artifact}

theorem exists_hasStem_of_make
    (htables : ∀ table ∈ tables,
      ∃ rawName comment columns, Table.make rawName comment columns = .ok table)
    (hplan : Plan.make project .standard tables maxTables = .ok plan) :
    ∀ artifact ∈ plan, ∃ stem, HasStem artifact.fileName stem := by
  obtain ⟨-, -, happ, -, rfl⟩ := Plan.make_eq_ok_iff.mp hplan
  have happName : project.appName ≠ "" ∧ ∀ c ∈ project.appName.toList, isInk c := by
    refine ⟨happ, fun c hc => ?_⟩
    rw [Project.appName, Naming.applicationClassName, String.toList_ofList] at hc
    exact Naming.isInk_of_mem_typeNameList hc
  intro artifact hartifact
  rw [Plan.mem_all_iff] at hartifact
  rcases hartifact with hproject | ⟨table, htable, hartifact⟩
  · obtain ⟨hrole, -, -, hname⟩ := Plan.mem_artifacts_iff.mp hproject
    have hclass : ∀ other : String, artifact.role.fileName "" project.appName project.stack =
        artifact.role.fileName other project.appName project.stack := by
      intro other
      revert hrole
      cases artifact.role <;> first | (intro; rfl) | (intro h; exact absurd h (by decide))
    rw [hname, Option.map_none, Option.getD_none, hclass "Table"]
    have hink : "Table".toList.all isInk := by decide
    exact artifact.role.exists_hasStem ⟨by decide, List.all_eq_true.mp hink⟩ happName project.stack
  · obtain ⟨-, -, -, hname⟩ := Plan.mem_artifacts_iff.mp hartifact
    obtain ⟨rawName, comment, columns, hmake⟩ := htables table htable
    obtain ⟨hne, rfl⟩ := (Table.make_eq_ok_iff _ _ _ _).mp hmake
    rw [hname, Option.map_some, Option.getD_some, Table.of_className]
    refine artifact.role.exists_hasStem ⟨hne, fun c hc => ?_⟩ happName project.stack
    rw [Naming.typeName, String.toList_ofList] at hc
    exact Naming.isInk_of_mem_typeNameList hc

/-- The files of a plan whose names are not too long are written under these names, but for an
underscore in front of the stem of a device, and to paths that all differ. So no map of files with
the names of the plan is refused because two of them collide. -/
theorem planned_paths_differ
    (htables : ∀ table ∈ tables,
      ∃ rawName comment columns, Table.make rawName comment columns = .ok table)
    (hplan : Plan.make project .standard tables maxTables = .ok plan)
    (hlength : ∀ artifact ∈ plan, artifact.fileName.length ≤ 200) :
    (∀ artifact ∈ plan, ∃ stem, HasStem artifact.fileName stem ∧
      FileName.sanitize artifact.fileName =
        .ok (if Text.upper stem ∈ FileName.deviceNames then "_" ++ artifact.fileName
          else artifact.fileName)) ∧
    (∃ safeNames, plan.mapM (fun artifact => FileName.sanitize artifact.fileName) = .ok safeNames ∧
      (safeNames.map fun safe =>
        (Layout.resolve safe project.packageName).components).Nodup) ∧
    ∀ (files : FileMap) (guard : Guard), files.names = plan.map (·.fileName) →
      ∀ first second path, Placement.plan files project guard ≠
        .error (.invalid (.samePath first second path)) := by
  have hstems := exists_hasStem_of_make htables hplan
  have hnodup : (plan.map (·.fileName)).Nodup := by
    obtain ⟨-, -, -, hnodup, rfl⟩ := Plan.make_eq_ok_iff.mp hplan
    exact hnodup
  -- The last component of a path tells the name, an underscore in front left aside.
  have hpaths : (plan.map (·.fileName)).Pairwise fun name other =>
      ∀ safe otherSafe, FileName.sanitize name = .ok safe →
        FileName.sanitize other = .ok otherSafe →
          (Layout.resolve safe project.packageName).components ≠
            (Layout.resolve otherSafe project.packageName).components := by
    refine hnodup.imp_of_mem fun {name other} hname hother hne => ?_
    obtain ⟨artifact, hartifact, rfl⟩ := List.mem_map.mp hname
    obtain ⟨second, hsecond, rfl⟩ := List.mem_map.mp hother
    intro safe otherSafe hsafe hotherSafe heq
    obtain ⟨stem, hstem⟩ := hstems artifact hartifact
    obtain ⟨otherStem, hotherStem⟩ := hstems second hsecond
    rw [hstem.sanitize_eq (hlength artifact hartifact), Except.ok.injEq] at hsafe
    rw [hotherStem.sanitize_eq (hlength second hsecond), Except.ok.injEq] at hotherSafe
    rw [← hsafe, ← hotherSafe] at heq
    exact hne (hstem.safe_inj hotherStem (HasStem.eq_of_components_eq hstem hotherStem heq))
  have hsafe : ∀ artifact ∈ plan, ∃ stem, HasStem artifact.fileName stem ∧
      FileName.sanitize artifact.fileName = .ok (HasStem.safe artifact.fileName stem) := by
    intro artifact hartifact
    obtain ⟨stem, hstem⟩ := hstems artifact hartifact
    exact ⟨stem, hstem, hstem.sanitize_eq (hlength artifact hartifact)⟩
  refine ⟨hsafe, ?_, ?_⟩
  · have hexists : ∀ artifact ∈ plan, ∃ safe, FileName.sanitize artifact.fileName = .ok safe :=
      fun artifact hartifact => (hsafe artifact hartifact).elim fun _ h => ⟨_, h.2⟩
    obtain ⟨safeNames, hsafeNames⟩ := (Traversal.exists_mapM_eq_ok_iff _ plan).mpr hexists
    have hplaced := (Traversal.mapM_eq_ok_iff _ _ _).mp hsafeNames
    refine ⟨safeNames, hsafeNames, ?_⟩
    rw [List.Nodup, List.pairwise_map]
    rw [List.pairwise_map] at hpaths
    refine (pairwise_iff_of_forall₂ ?_ hplaced).mp hpaths
    intro artifact other safe otherSafe hartifact hother
    constructor
    · intro happart
      exact happart safe otherSafe hartifact hother
    · intro hne first second hfirst hsecond
      rw [hartifact, Except.ok.injEq] at hfirst
      rw [hother, Except.ok.injEq] at hsecond
      rwa [← hfirst, ← hsecond]
  · intro files guard hnames first second path herror
    have hapart : files.entries.Pairwise (Placement.Apart project.packageName) := by
      rw [← hnames, FileMap.names, List.pairwise_map] at hpaths
      exact hpaths
    exact Placement.not_isCollision_of_plan hapart herror ⟨first, second, path, rfl⟩

end

/-- A table named like a device: its entity is written as `_Con.java`. -/
theorem planned_paths_differ_con :
    let table := Table.of "con" none [keyColumn]
    let plan := Plan.all shop .standard [table]
    Plan.make shop .standard [table] 100 = .ok plan ∧
      (∀ artifact ∈ plan, artifact.fileName.length ≤ 200) ∧
      FileName.sanitize "Con.java" = .ok "_Con.java" ∧
      ∃ safeNames,
        plan.mapM (fun artifact => FileName.sanitize artifact.fileName) = .ok safeNames ∧
          (safeNames.map fun safe => (Layout.resolve safe shop.packageName).components).Nodup := by
  intro table plan
  have hmake : Table.make "con" none [keyColumn] = .ok table :=
    (Table.make_eq_ok_iff _ _ _ _).mpr ⟨by decide, rfl⟩
  have hplan : Plan.make shop .standard [table] 100 = .ok plan :=
    Plan.make_eq_ok_iff.mpr ⟨by simp, by simp, by decide, by decide, rfl⟩
  have hlength : ∀ artifact ∈ plan, artifact.fileName.length ≤ 200 := by decide
  have htables : ∀ other ∈ [table],
      ∃ rawName comment columns, Table.make rawName comment columns = .ok other := by
    rintro other hother
    obtain rfl := List.mem_singleton.mp hother
    exact ⟨_, _, _, hmake⟩
  obtain ⟨-, hpaths, -⟩ := planned_paths_differ htables hplan hlength
  refine ⟨hplan, hlength, ?_, hpaths⟩
  rw [FileName.sanitize_eq_ok_iff]
  decide

end SchemaScaffold
