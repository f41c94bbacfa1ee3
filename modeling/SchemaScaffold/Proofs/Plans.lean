import SchemaScaffold.Plan
import SchemaScaffold.Proofs.Traversal

namespace SchemaScaffold.Plan

theorem firstClash_eq_none_iff (seen plan : List Artifact)
    (hseen : (seen.map (·.fileName)).Nodup) :
    firstClash seen plan = none ↔ ((seen ++ plan).map (·.fileName)).Nodup := by
  induction plan generalizing seen with
  | nil => simpa [firstClash] using hseen
  | cons artifact rest ih =>
      unfold firstClash
      cases hfind : seen.find? (·.fileName == artifact.fileName) with
      | some first =>
          have hfirst := List.mem_of_find?_eq_some hfind
          have hname : first.fileName = artifact.fileName := by
            simpa using List.find?_some hfind
          simp only [reduceCtorEq, false_iff]
          intro hnodup
          rw [List.map_append, List.nodup_append] at hnodup
          exact hnodup.2.2 _ (List.mem_map_of_mem hfirst) _
            (List.mem_map_of_mem List.mem_cons_self) hname
      | none =>
          have hfresh : ∀ first ∈ seen, first.fileName ≠ artifact.fileName := by
            simpa using hfind
          have hseen' : ((seen ++ [artifact]).map (·.fileName)).Nodup := by
            rw [List.map_append, List.nodup_append]
            refine ⟨hseen, by simp, ?_⟩
            intro name hname other hother heq
            obtain ⟨first, hfirst, rfl⟩ := List.mem_map.mp hname
            obtain rfl : other = artifact.fileName := by simpa using hother
            exact hfresh first hfirst heq
          have hlater := ih (seen ++ [artifact]) hseen'
          rw [List.append_assoc] at hlater
          exact hlater

theorem checkNames_eq_ok_iff (plan : List Artifact) :
    checkNames plan = .ok () ↔ (plan.map (·.fileName)).Nodup := by
  have hclash := firstClash_eq_none_iff [] plan (by simp)
  rw [List.nil_append] at hclash
  rw [← hclash, checkNames]
  cases firstClash [] plan with
  | none => simp
  | some clash => simp [Result.invalid]

theorem make_eq_ok_iff {project : Project} {selector : Selector} {tables : List Table}
    {maxTables : Nat} {plan : List Artifact} :
    make project selector tables maxTables = .ok plan ↔
      tables ≠ [] ∧ tables.length ≤ maxTables ∧ project.appName ≠ "" ∧
        ((all project selector tables).map (·.fileName)).Nodup ∧
        plan = all project selector tables := by
  rw [← checkNames_eq_ok_iff, make]
  by_cases hempty : tables = []
  · simp [hempty, throw, throwThe, MonadExceptOf.throw]
  by_cases hmany : maxTables < tables.length
  · have hmany' : ¬tables.length ≤ maxTables := by omega
    simp [hempty, hmany, hmany', throw, throwThe, MonadExceptOf.throw, pure, Except.pure]
  by_cases happ : project.appName = ""
  · simp [hempty, hmany, happ, Validation.require, Result.invalid, pure, Except.pure]
  have hready : tables.isEmpty = false ∧ project.appName.isEmpty = false := by
    simp [hempty, happ]
  simp only [hready, hmany, hempty, happ, Validation.require, Bool.not_false, if_true, if_false,
    Bool.false_eq_true, pure, Except.pure, Traversal.ok_bind, ne_eq, not_false_eq_true, true_and]
  cases checkNames (all project selector tables) with
  | error e => simp
  | ok _ =>
      have hfew : tables.length ≤ maxTables := by omega
      simp [eq_comm, hfew]

theorem mem_artifacts_iff {project : Project} {selector : Selector} {table : Option Table}
    {roles : List Role} {artifact : Artifact} :
    artifact ∈ artifacts project selector table roles ↔
      artifact.role ∈ roles ∧ artifact.table = table ∧
        selector.resolve artifact.role project.stack = some artifact.template ∧
        artifact.fileName = artifact.role.fileName ((table.map (·.className)).getD "")
          project.appName project.stack := by
  simp only [artifacts, List.mem_filterMap, Option.map_eq_some_iff]
  constructor
  · rintro ⟨role, hrole, template, htemplate, rfl⟩
    exact ⟨hrole, rfl, htemplate, rfl⟩
  · rintro ⟨hrole, htable, htemplate, hname⟩
    refine ⟨artifact.role, hrole, artifact.template, htemplate, ?_⟩
    rw [← hname, ← htable]

/-- Every file of a plan is one of the project or one of a table. -/
theorem mem_all_iff {project : Project} {selector : Selector} {tables : List Table}
    {artifact : Artifact} :
    artifact ∈ all project selector tables ↔
      artifact ∈ artifacts project selector none Role.ofProject ∨
        ∃ table ∈ tables, artifact ∈ artifacts project selector (some table) Role.ofTable := by
  simp [all]

end SchemaScaffold.Plan
