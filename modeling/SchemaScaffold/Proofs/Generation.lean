import SchemaScaffold.Generate
import SchemaScaffold.Proofs.Entries
import SchemaScaffold.Proofs.PackageNames
import SchemaScaffold.Proofs.Plans
import SchemaScaffold.Proofs.Tables

namespace SchemaScaffold

namespace Plan

variable {project : Project} {selector : Selector} {tables : List Table}

theorem role_of_mem_all {artifact : Artifact} (h : artifact ∈ all project selector tables) :
    (artifact.role ∈ Role.ofProject ∧ artifact.table = none) ∨
      artifact.role ∈ Role.ofTable ∧ ∃ table ∈ tables, artifact.table = some table := by
  rcases mem_all_iff.mp h with hproject | ⟨table, htable, hown⟩
  · obtain ⟨hrole, hnone, -⟩ := mem_artifacts_iff.mp hproject
    exact .inl ⟨hrole, hnone⟩
  · obtain ⟨hrole, hsome, -⟩ := mem_artifacts_iff.mp hown
    exact .inr ⟨hrole, table, htable, hsome⟩

/-- A file of a table that is planned with other tables would have the name of a file of its own. -/
theorem filter_table_eq_nil {table : Table} {others : List Table}
    (hapart : ∀ artifact ∈ others.flatMap fun other =>
        artifacts project selector (some other) Role.ofTable,
      ∀ own ∈ artifacts project selector (some table) Role.ofTable,
        artifact.fileName ≠ own.fileName) :
    (others.flatMap fun other => artifacts project selector (some other) Role.ofTable).filter
      (·.table = some table) = [] := by
  rw [List.filter_eq_nil_iff]
  intro artifact hartifact hsome
  obtain ⟨other, -, hother⟩ := List.mem_flatMap.mp hartifact
  have hsame : some other = some table :=
    (mem_artifacts_iff.mp hother).2.1.symm.trans (of_decide_eq_true hsome)
  rw [hsame] at hother
  exact hapart artifact hartifact artifact hother rfl

/-- The files of a table in a plan are those that its roles lead to, whatever the other tables. -/
theorem filter_table_all (hnodup : ((all project selector tables).map (·.fileName)).Nodup)
    {table : Table} (htable : table ∈ tables) :
    (all project selector tables).filter (·.table = some table) =
      artifacts project selector (some table) Role.ofTable := by
  obtain ⟨before, after, rfl⟩ := List.append_of_mem htable
  rw [all, List.flatMap_append, List.flatMap_cons] at hnodup ⊢
  rw [List.Nodup, List.pairwise_map, List.pairwise_append, List.pairwise_append,
    List.pairwise_append] at hnodup
  obtain ⟨-, ⟨-, ⟨-, -, hafter⟩, hbefore⟩, -⟩ := hnodup
  have hproject : (artifacts project selector none Role.ofProject).filter
      (·.table = some table) = [] := by
    rw [List.filter_eq_nil_iff]
    intro artifact hartifact
    simp [(mem_artifacts_iff.mp hartifact).2.1]
  have hearlier := filter_table_eq_nil fun artifact hartifact own hown =>
    hbefore artifact hartifact own (List.mem_append_left _ hown)
  have hlater := filter_table_eq_nil fun artifact hartifact own hown =>
    (hafter own hown artifact hartifact).symm
  have hhere : (artifacts project selector (some table) Role.ofTable).filter
      (·.table = some table) = artifacts project selector (some table) Role.ofTable := by
    rw [List.filter_eq_self]
    intro artifact hartifact
    simp [(mem_artifacts_iff.mp hartifact).2.1]
  simp only [List.filter_append, hproject, hearlier, hlater, hhere, List.nil_append,
    List.append_nil]

end Plan

namespace Generate

def contentOf (renderer : Renderer) (project : Project) (artifact : Artifact) : Result String :=
  renderer (Model.make project artifact.table) artifact.template

/-- A planned file with the content that a renderer gives it. -/
structure IsRendered (renderer : Renderer) (project : Project) (artifact : Artifact)
    (entry : String × String) : Prop where
  name : entry.1 = artifact.fileName
  content : contentOf renderer project artifact = .ok entry.2

def filesOf (plan : List Artifact) (files : FileMap) (table : Table) :
    List (String × Option String) :=
  (plan.filter (·.table = some table)).map fun artifact =>
    (artifact.fileName, files.content? artifact.fileName)

variable {renderer : Renderer} {project : Project} {selector : Selector} {tables : List Table}
  {maxTables : Nat} {plan : List Artifact}

theorem render_eq_ok_iff {artifact : Artifact} {entry : String × String} :
    (do return (artifact.fileName, ← renderer (Model.make project artifact.table)
      artifact.template) : Result (String × String)) = .ok entry ↔
      IsRendered renderer project artifact entry := by
  rw [Traversal.bind_eq_ok_iff]
  constructor
  · rintro ⟨content, hcontent, hentry⟩
    cases hentry
    exact ⟨rfl, hcontent⟩
  · rintro ⟨hname, hcontent⟩
    exact ⟨entry.2, hcontent, by rw [← hname]; rfl⟩

theorem renderAll_eq_ok_iff {entries : List (String × String)} :
    renderAll renderer project plan = .ok entries ↔
      List.Forall₂ (IsRendered renderer project) plan entries := by
  simp only [renderAll, Traversal.mapM_eq_ok_iff, render_eq_ok_iff]

theorem fileNames_renderAll {rendered : List (String × String)}
    (h : renderAll renderer project plan = .ok rendered) :
    rendered.map Prod.fst = plan.map (·.fileName) :=
  Traversal.map_eq_of_mapM (fun _ _ hentry => (render_eq_ok_iff.mp hentry).name) h

theorem exists_isRendered_iff {artifact : Artifact} :
    (∃ entry, IsRendered renderer project artifact entry) ↔
      ∃ content, contentOf renderer project artifact = .ok content := by
  constructor
  · rintro ⟨entry, -, hcontent⟩
    exact ⟨entry.2, hcontent⟩
  · rintro ⟨content, hcontent⟩
    exact ⟨(artifact.fileName, content), rfl, hcontent⟩

theorem exists_renderAll_iff :
    (∃ entries, renderAll renderer project plan = .ok entries) ↔
      ∀ artifact ∈ plan, ∃ content, contentOf renderer project artifact = .ok content := by
  rw [renderAll, Traversal.exists_mapM_eq_ok_iff]
  simp only [render_eq_ok_iff, exists_isRendered_iff]

theorem renderAll_eq_error_iff {error : Error} :
    renderAll renderer project plan = .error error ↔
      ∃ before artifact after, plan = before ++ artifact :: after ∧
        (∀ earlier ∈ before, ∃ content, contentOf renderer project earlier = .ok content) ∧
          contentOf renderer project artifact = .error error := by
  have hfailed : ∀ artifact : Artifact,
      (do return (artifact.fileName, ← renderer (Model.make project artifact.table)
        artifact.template) : Result (String × String)) = .error error ↔
        contentOf renderer project artifact = .error error := by
    intro artifact
    simp [Traversal.bind_eq_error_iff, contentOf, pure, Except.pure]
  rw [renderAll, Traversal.mapM_eq_error_iff]
  simp only [render_eq_ok_iff, exists_isRendered_iff, hfailed]

/-! ### The files of an accepted plan -/

section

variable (hplan : Plan.make project selector tables maxTables = .ok plan)

include hplan

theorem nodup_fileName : (plan.map (·.fileName)).Nodup := by
  obtain ⟨-, -, -, hnodup, rfl⟩ := Plan.make_eq_ok_iff.mp hplan
  exact hnodup

theorem ofTables_eq : ofTables renderer project selector tables maxTables =
    (renderAll renderer project plan >>= fun entries => .ok (FileMap.ofList entries)) := by
  rw [ofTables, hplan]
  rfl

theorem ofTables_eq_ok_iff {files : FileMap} :
    ofTables renderer project selector tables maxTables = .ok files ↔
      List.Forall₂ (IsRendered renderer project) plan files.entries := by
  rw [ofTables_eq hplan, Traversal.bind_eq_ok_iff, ← renderAll_eq_ok_iff]
  constructor
  · rintro ⟨entries, hentries, hfiles⟩
    have hnodup : (entries.map Prod.fst).Nodup := by
      rw [fileNames_renderAll hentries]
      exact nodup_fileName hplan
    rw [← Except.ok.inj hfiles, FileMap.entries_ofList hnodup, hentries]
  · intro hentries
    exact ⟨files.entries, hentries, congrArg Except.ok files.ofList_entries⟩

theorem exists_ofTables_iff :
    (∃ files, ofTables renderer project selector tables maxTables = .ok files) ↔
      ∀ artifact ∈ plan, ∃ content, contentOf renderer project artifact = .ok content := by
  rw [← exists_renderAll_iff, ofTables_eq hplan]
  simp [Traversal.bind_eq_ok_iff]

theorem ofTables_eq_error_iff {error : Error} :
    ofTables renderer project selector tables maxTables = .error error ↔
      renderAll renderer project plan = .error error := by
  rw [ofTables_eq hplan, Traversal.bind_eq_error_iff]
  simp

/-- A file of the map holds what is rendered for it, since no other file has its name. -/
theorem content?_of_ofTables {files : FileMap}
    (hfiles : ofTables renderer project selector tables maxTables = .ok files)
    {artifact : Artifact} (hartifact : artifact ∈ plan) :
    files.content? artifact.fileName = (contentOf renderer project artifact).toOption := by
  have hrendered := (ofTables_eq_ok_iff hplan).mp hfiles
  obtain ⟨entry, hentry, hname, hcontent⟩ :
      ∃ entry ∈ files.entries, IsRendered renderer project artifact entry := by
    obtain ⟨i, hi, rfl⟩ := List.getElem_of_mem hartifact
    have hi' : i < files.entries.length := hrendered.length_eq ▸ hi
    exact ⟨files.entries[i], List.getElem_mem hi', hrendered.get hi hi'⟩
  rw [hcontent, ← hname]
  exact FileMap.content?_eq_some_iff.mpr hentry

theorem filesOf_eq {files : FileMap}
    (hfiles : ofTables renderer project selector tables maxTables = .ok files)
    {table : Table} (htable : table ∈ tables) :
    filesOf plan files table =
      (Plan.artifacts project selector (some table) Role.ofTable).map fun artifact =>
        (artifact.fileName, (contentOf renderer project artifact).toOption) := by
  have hown : plan.filter (·.table = some table) =
      Plan.artifacts project selector (some table) Role.ofTable := by
    obtain ⟨-, -, -, hnodup, rfl⟩ := Plan.make_eq_ok_iff.mp hplan
    exact Plan.filter_table_all hnodup htable
  rw [filesOf, hown]
  refine List.map_congr_left fun artifact hartifact => ?_
  rw [← hown] at hartifact
  rw [content?_of_ofTables hplan hfiles (List.mem_filter.mp hartifact).1]

end

/-- The files of an accepted plan are generated exactly when all of them can be rendered, each from
its own table or from the project, and otherwise the first one that cannot be rendered decides on the
error. Two plans that share a table give its files the same names and contents. -/
theorem ofTables_renders_plan (renderer : Renderer) (project : Project) (selector : Selector)
    (tables : List Table) (maxTables : Nat) (plan : List Artifact)
    (hplan : Plan.make project selector tables maxTables = .ok plan) :
    (∀ artifact ∈ plan, (artifact.role ∈ Role.ofProject ∧ artifact.table = none) ∨
        artifact.role ∈ Role.ofTable ∧ ∃ table ∈ tables, artifact.table = some table) ∧
      ((∃ files, ofTables renderer project selector tables maxTables = .ok files) ↔
        ∀ artifact ∈ plan, ∃ content, contentOf renderer project artifact = .ok content) ∧
      (∀ files, ofTables renderer project selector tables maxTables = .ok files ↔
        List.Forall₂ (IsRendered renderer project) plan files.entries) ∧
      (∀ error, ofTables renderer project selector tables maxTables = .error error ↔
        ∃ before artifact after, plan = before ++ artifact :: after ∧
          (∀ earlier ∈ before, ∃ content, contentOf renderer project earlier = .ok content) ∧
          contentOf renderer project artifact = .error error) ∧
      ∀ otherTables otherMax otherPlan files otherFiles,
        Plan.make project selector otherTables otherMax = .ok otherPlan →
          ofTables renderer project selector tables maxTables = .ok files →
          ofTables renderer project selector otherTables otherMax = .ok otherFiles →
          ∀ table ∈ tables, table ∈ otherTables →
            filesOf plan files table = filesOf otherPlan otherFiles table := by
  refine ⟨?_, exists_ofTables_iff hplan, fun files => ofTables_eq_ok_iff hplan, ?_, ?_⟩
  · obtain ⟨-, -, -, -, rfl⟩ := Plan.make_eq_ok_iff.mp hplan
    exact fun artifact => Plan.role_of_mem_all
  · intro error
    rw [ofTables_eq_error_iff hplan]
    exact renderAll_eq_error_iff
  · intro otherTables otherMax otherPlan files otherFiles hother hfiles hotherFiles table htable
      hshared
    rw [filesOf_eq hplan hfiles htable, filesOf_eq hother hotherFiles hshared]

/-- A renderer that tells the class that a file is made for, and its template. -/
def announce : Renderer := fun model template =>
  match model.field? "className" with
  | some (.text name) => .ok (name ++ " by " ++ template)
  | _ => .error (.render template .noTemplate)

theorem exists_contentOf_announce (project : Project) (artifact : Artifact) :
    ∃ content, contentOf announce project artifact = .ok content := by
  rw [contentOf]
  cases artifact.table <;> exact ⟨_, rfl⟩

/-- The files of a table stay what they are when the tables change places. -/
theorem ofTables_renders_users_and_orders :
    let users := Table.of "sys_user" none []
    let orders := Table.of "order_item" none []
    let plan := Plan.all shop .standard [users, orders]
    let otherPlan := Plan.all shop .standard [orders, users]
    Plan.make shop .standard [users, orders] 100 = .ok plan ∧
      Plan.make shop .standard [orders, users] 100 = .ok otherPlan ∧
      ∃ files otherFiles, ofTables announce shop .standard [users, orders] 100 = .ok files ∧
        ofTables announce shop .standard [orders, users] 100 = .ok otherFiles ∧
        filesOf plan files users = filesOf otherPlan otherFiles users := by
  intro users orders plan otherPlan
  have hplan : Plan.make shop .standard [users, orders] 100 = .ok plan :=
    Plan.make_eq_ok_iff.mpr ⟨by simp, by simp, by decide, by decide, rfl⟩
  have hother : Plan.make shop .standard [orders, users] 100 = .ok otherPlan :=
    Plan.make_eq_ok_iff.mpr ⟨by simp, by simp, by decide, by decide, rfl⟩
  obtain ⟨-, hexists, -, -, hshared⟩ := ofTables_renders_plan announce _ _ _ _ _ hplan
  obtain ⟨-, hotherExists, -⟩ := ofTables_renders_plan announce _ _ _ _ _ hother
  obtain ⟨files, hfiles⟩ := hexists.mpr fun artifact _ => exists_contentOf_announce shop artifact
  obtain ⟨otherFiles, hotherFiles⟩ :=
    hotherExists.mpr fun artifact _ => exists_contentOf_announce shop artifact
  exact ⟨hplan, hother, files, otherFiles, hfiles, hotherFiles,
    hshared _ _ _ _ _ hother hfiles hotherFiles users (by simp) (by simp)⟩

end Generate

end SchemaScaffold
