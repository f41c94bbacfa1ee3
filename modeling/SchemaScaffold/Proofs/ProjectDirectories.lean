import SchemaScaffold.Proofs.DiskGrowth

namespace SchemaScaffold

namespace Validation

theorem hasDoubleDot_of_infix {chars : List Char} (h : ['.', '.'] <:+: chars) :
    hasDoubleDot chars := by
  induction chars with
  | nil => simp at h
  | cons c rest ih =>
      unfold hasDoubleDot
      split
      case h_1 => rfl
      case h_2 hnext heq =>
        obtain ⟨rfl, rfl⟩ := List.cons.inj heq
        rcases List.infix_cons_iff.mp h with ⟨after, hafter⟩ | h
        · obtain ⟨rfl, hrest⟩ := List.cons.inj hafter
          exact absurd hrest.symm (hnext after rfl)
        · exact ih h
      case h_3 heq => cases heq

theorem outputDir_eq_ok_iff {dir : String} :
    outputDir dir = .ok () ↔
      Text.isBlankText dir = false ∧ hasDoubleDot dir.toList = false ∧ '~' ∉ dir.toList := by
  simp [outputDir, Traversal.bind_eq_ok_iff, require_eq_ok_iff]

theorem up_not_mem_of_outputDir {dir : String} (h : outputDir dir = .ok ()) :
    ".." ∉ (Path.mk dir).names := by
  intro hup
  obtain ⟨field, hfield, hdots⟩ := Path.exists_field_of_mem_names hup
  have hchars : ['.', '.'] = field := by
    exact (congrArg String.toList hdots).trans String.toList_ofList
  have hdouble : hasDoubleDot dir.toList :=
    hasDoubleDot_of_infix (hchars ▸ Text.infix_of_mem_fields hfield)
  rw [(outputDir_eq_ok_iff.mp h).2.1] at hdouble
  cases hdouble

theorem projectName_eq_ok_iff {name : String} :
    projectName name = .ok () ↔
      Text.isBlankText name = false ∧ isProjectName (Text.lower name).toList ∧
        name.length ≤ Limits.maxProjectNameLength := by
  simp [projectName, Traversal.bind_eq_ok_iff, require_eq_ok_iff]

theorem slash_not_mem_of_projectName {name : String} (h : projectName name = .ok ()) :
    '/' ∉ name.toList := by
  intro hslash
  have hmem : '/' ∈ (Text.lower name).toList := by
    rw [Text.lower, String.toList_ofList]
    exact Text.mem_lowerFrom (by decide) (by decide) hslash []
  have hform := (projectName_eq_ok_iff.mp h).2.1
  simp only [isProjectName, Bool.and_eq_true] at hform
  have hchar := List.all_eq_true.mp hform.1.1 _ hmem
  revert hchar
  decide

theorem ne_empty_of_projectName {name : String} (h : projectName name = .ok ()) : name ≠ "" := by
  rintro rfl
  have hform := (projectName_eq_ok_iff.mp h).2.1
  revert hform
  decide

theorem ne_up_of_projectName {name : String} (h : projectName name = .ok ()) : name ≠ ".." := by
  rintro rfl
  have hform := (projectName_eq_ok_iff.mp h).2.1
  revert hform
  decide

end Validation

theorem Project.up_not_mem_dir {project : Project}
    (hname : Validation.projectName project.name = .ok ())
    (hroot : Validation.outputDir project.outputRoot.text = .ok ()) : ".." ∉ project.dir.names := by
  have hslash := Validation.slash_not_mem_of_projectName hname
  rw [Project.dir, Path.names_join (Layout.isAbsolute_mk hslash),
    Layout.names_mk (Validation.ne_empty_of_projectName hname) hslash, List.mem_append,
    List.mem_singleton, not_or]
  exact ⟨Validation.up_not_mem_of_outputDir hroot, (Validation.ne_up_of_projectName hname).symm⟩

namespace AbsPath

theorem names_follow_of_up_not_mem {path : Path} (hup : ".." ∉ path.names) (base : AbsPath) :
    (base.follow path).names =
      (if path.isAbsolute then root else base).names ++ path.names.filter (· != ".") :=
  names_foldl_step hup _

end AbsPath

namespace Disk

variable {disk : Disk} {place base : AbsPath} {names : List String}
  {entries : List (String × Node String)}

theorem exists_directory_of_below {name : String} {node : Node String}
    (h : disk.node? ⟨place.names ++ name :: names⟩ = some node) :
    ∃ above, disk.node? place = some (.directory above) := by
  rw [node?, Node.get?_append] at h
  obtain ⟨found, hfound, hbelow⟩ := Option.bind_eq_some_iff.mp h
  obtain ⟨above, -, rfl, -, -⟩ := Node.exists_of_get?_cons hbelow
  exact ⟨above, hfound⟩

theorem exists_directory_above (h : disk.node? ⟨place.names ++ names⟩ = some (.directory entries)) :
    ∃ above, disk.node? place = some (.directory above) := by
  cases names with
  | nil =>
      rw [List.append_nil] at h
      exact ⟨entries, h⟩
  | cons name rest => exact exists_directory_of_below h

theorem kind?_below_of_none (h : disk.kind? base = none) (names : List String) :
    disk.kind? ⟨base.names ++ names⟩ = none := by
  rw [kind?, Option.map_eq_none_iff] at h ⊢
  rw [node?] at h ⊢
  rw [Node.get?_append, h, Option.bind_none]

/-- A directory is found along names that lead down to it, those that stay in place left aside. -/
theorem walkNames_of_directory {followLast : Bool}
    {onLink : AbsPath → Path → List String → Except FileFault Spot}
    (hnames : ∀ name ∈ names.filter (· != "."), IsEntryName name)
    (h : disk.node? ⟨place.names ++ names.filter (· != ".")⟩ = some (.directory entries)) :
    walkNames disk followLast onLink place names =
      .ok (.found ⟨place.names ++ names.filter (· != ".")⟩ (.directory entries)) := by
  induction names generalizing place with
  | nil =>
      rw [List.filter_nil, List.append_nil] at h ⊢
      rw [walkNames, h]
  | cons name rest ih =>
      obtain ⟨above, habove⟩ := exists_directory_above h
      by_cases hdot : name = "."
      · rw [List.filter_cons_of_neg (by simpa using hdot)] at hnames h ⊢
        rw [walkNames, habove]
        dsimp only
        rw [if_pos (by simpa using hdot)]
        exact ih hnames h
      · rw [List.filter_cons_of_pos (by simpa using hdot)] at hnames h ⊢
        rw [List.forall_mem_cons] at hnames
        have hstep : place.names ++ name :: rest.filter (· != ".") =
            (place.child name).names ++ rest.filter (· != ".") := List.append_cons _ _ _
        rw [hstep] at h ⊢
        obtain ⟨next, hnext⟩ := exists_directory_above h
        have hlookup : above.lookup name = some (.directory next) :=
          (node?_child habove).symm.trans hnext
        have hlater := ih hnames.2 h
        simp [walkNames, habove, hdot, hnames.1.up, Nat.not_lt.mpr hnames.1.short, hlookup, hlater]

theorem find_of_directory {start : AbsPath} {path : Path} (hempty : path.isEmpty = false)
    (hup : ".." ∉ path.names) (hnames : ∀ name ∈ (start.follow path).names, IsEntryName name)
    (h : disk.node? (start.follow path) = some (.directory entries)) :
    disk.find start path = .ok (.directory entries) := by
  have hstays : (namesToFollow path).filter (· != ".") = path.names.filter (· != ".") := by
    rw [namesToFollow]
    split
    · rw [List.filter_append]
      simp
    · rfl
  have hplace : start.follow path = ⟨(if path.isAbsolute then AbsPath.root else start).names ++
      (namesToFollow path).filter (· != ".")⟩ := by
    rw [hstays, ← AbsPath.names_follow_of_up_not_mem hup]
  rw [hplace] at hnames h
  rw [find, follow, if_neg (by simp [hempty]), maxLinks, walk,
    walkNames_of_directory (fun name hname => hnames name (List.mem_append_right _ hname)) h]

end Disk

end SchemaScaffold
