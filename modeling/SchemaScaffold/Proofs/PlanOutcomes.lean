import Mathlib.Data.List.Nodup
import SchemaScaffold.Proofs.Plans

namespace SchemaScaffold.Plan

def parts (tables : List Table) : List (Option Table × Role) :=
  Role.ofProject.map (none, ·) ++ tables.flatMap fun table => Role.ofTable.map (some table, ·)

structure Plays (project : Project) (selector : Selector) (part : Option Table × Role)
    (artifact : Artifact) : Prop where
  table : artifact.table = part.1
  role : artifact.role = part.2
  template : selector.resolve part.2 project.stack = some artifact.template
  fileName : artifact.fileName =
    part.2.fileName ((part.1.map (·.className)).getD "") project.appName project.stack

/-- A plan with one file for each part that there is a template for, in the order of the parts. -/
def IsComplete (project : Project) (selector : Selector) (tables : List Table)
    (plan : List Artifact) : Prop :=
  List.Forall₂ (Plays project selector)
    ((parts tables).filter fun part => (selector.resolve part.2 project.stack).isSome) plan

/-- The reasons to refuse a plan. Each of them requires that those before it do not apply. -/
inductive Refused (project : Project) (tables : List Table) (maxTables : Nat)
    (plan : List Artifact) : Error → Prop where
  | noTables (hempty : tables = []) : Refused project tables maxTables plan .noTables
  | tooMany (hsome : tables ≠ []) (hmany : maxTables < tables.length) :
      Refused project tables maxTables plan (.tooManyTables tables.length maxTables)
  | noClass (hsome : tables ≠ []) (hfew : tables.length ≤ maxTables)
      (happ : project.appName = "") :
      Refused project tables maxTables plan (.invalid (.noApplicationClass project.name))
  /-- No two of the files before the second one share a name. -/
  | sameName (hsome : tables ≠ []) (hfew : tables.length ≤ maxTables) (happ : project.appName ≠ "")
      {before after : List Artifact} {first second : Artifact}
      (hplan : plan = before ++ second :: after) (hdistinct : (before.map (·.fileName)).Nodup)
      (hfirst : first ∈ before) (hname : first.fileName = second.fileName) :
      Refused project tables maxTables plan
        (.invalid (.duplicateArtifact second.fileName first.origin second.origin))

variable {project : Project} {selector : Selector} {tables : List Table} {maxTables : Nat}

theorem forall₂_plays_artifacts (project : Project) (selector : Selector) (table : Option Table)
    (roles : List Role) :
    List.Forall₂ (Plays project selector)
      ((roles.map fun role => (table, role)).filter fun part =>
        (selector.resolve part.2 project.stack).isSome)
      (artifacts project selector table roles) := by
  induction roles with
  | nil => exact .nil
  | cons role rest ih =>
      cases htemplate : selector.resolve role project.stack with
      | none => simpa [artifacts, htemplate] using ih
      | some template =>
          have hplays : Plays project selector (table, role)
              { role, template, table, fileName := role.fileName ((table.map (·.className)).getD "")
                  project.appName project.stack } := ⟨rfl, rfl, htemplate, rfl⟩
          simpa [artifacts, htemplate] using List.Forall₂.cons hplays ih

theorem isComplete_all (project : Project) (selector : Selector) (tables : List Table) :
    IsComplete project selector tables (all project selector tables) := by
  have htables : List.Forall₂ (Plays project selector)
      ((tables.flatMap fun table => Role.ofTable.map fun role => (some table, role)).filter
        fun part => (selector.resolve part.2 project.stack).isSome)
      (tables.flatMap fun table => artifacts project selector (some table) Role.ofTable) := by
    induction tables with
    | nil => exact .nil
    | cons table rest ih =>
        rw [List.flatMap_cons, List.flatMap_cons, List.filter_append]
        exact List.rel_append (forall₂_plays_artifacts project selector (some table) _) ih
  rw [IsComplete, parts, List.filter_append]
  exact List.rel_append (forall₂_plays_artifacts project selector none _) htables

/-- The search for a clash ends at the first file whose name one of the files before it has. -/
theorem firstClash_eq_some_iff (seen plan : List Artifact) (first second : Artifact)
    (hseen : (seen.map (·.fileName)).Nodup) :
    firstClash seen plan = some (first, second) ↔ ∃ before after, plan = before ++ second :: after ∧
      ((seen ++ before).map (·.fileName)).Nodup ∧ first ∈ seen ++ before ∧
        first.fileName = second.fileName := by
  induction plan generalizing seen with
  | nil => simp [firstClash]
  | cons artifact rest ih =>
      unfold firstClash
      cases hfind : seen.find? (·.fileName == artifact.fileName) with
      | some clash =>
          have hclash : clash ∈ seen := List.mem_of_find?_eq_some hfind
          have hname : clash.fileName = artifact.fileName := by simpa using List.find?_some hfind
          constructor
          · intro h
            cases h
            exact ⟨[], rest, rfl, by simpa using hseen, by simpa using hclash, hname⟩
          · rintro ⟨before, after, hsplit, hdistinct, hfirst, hsame⟩
            cases before with
            | nil =>
                cases hsplit
                rw [List.append_nil] at hfirst
                have hunique := List.inj_on_of_nodup_map hseen
                rw [hunique hclash hfirst (hname.trans hsame.symm)]
            | cons other before =>
                -- The file that clashes would be among those with different names.
                cases hsplit
                rw [List.map_append, List.nodup_append] at hdistinct
                exact absurd hname (hdistinct.2.2 _ (List.mem_map_of_mem hclash) _ (by simp))
      | none =>
          have hfresh : ∀ earlier ∈ seen, earlier.fileName ≠ artifact.fileName := by
            simpa using hfind
          have hseen' : ((seen ++ [artifact]).map (·.fileName)).Nodup := by
            rw [List.map_append, List.nodup_append]
            exact ⟨hseen, by simp, by simpa using hfresh⟩
          dsimp only
          rw [ih _ hseen']
          constructor
          · rintro ⟨before, after, rfl, hdistinct, hfirst, hsame⟩
            rw [List.append_assoc] at hdistinct hfirst
            exact ⟨artifact :: before, after, rfl, hdistinct, hfirst, hsame⟩
          · rintro ⟨before, after, hsplit, hdistinct, hfirst, hsame⟩
            cases before with
            | nil =>
                cases hsplit
                rw [List.append_nil] at hfirst
                exact absurd hsame (hfresh first hfirst)
            | cons other before =>
                cases hsplit
                rw [List.append_cons] at hdistinct hfirst
                exact ⟨before, after, rfl, hdistinct, hfirst, hsame⟩

/-! ### The four reasons to refuse -/

theorem make_of_eq_nil (htables : tables = []) :
    make project selector tables maxTables = .error .noTables := by
  subst htables
  rfl

theorem make_of_lt_length (htables : tables ≠ []) (hmany : maxTables < tables.length) :
    make project selector tables maxTables = .error (.tooManyTables tables.length maxTables) := by
  have hempty : tables.isEmpty = false := List.isEmpty_eq_false_iff.mpr htables
  rw [make, hempty, if_neg Bool.false_ne_true, if_pos hmany]
  rfl

theorem make_of_appName_eq (htables : tables ≠ []) (hfew : tables.length ≤ maxTables)
    (happ : project.appName = "") :
    make project selector tables maxTables =
      .error (.invalid (.noApplicationClass project.name)) := by
  have hempty : tables.isEmpty = false := List.isEmpty_eq_false_iff.mpr htables
  rw [make, hempty, if_neg Bool.false_ne_true, if_neg (Nat.not_lt.mpr hfew), happ]
  rfl

/-- What is left to check when there are tables enough and the project has a class name. -/
theorem make_of_ready (htables : tables ≠ []) (hfew : tables.length ≤ maxTables)
    (happ : project.appName ≠ "") :
    make project selector tables maxTables =
      (checkNames (all project selector tables) >>= fun _ => .ok (all project selector tables)) := by
  have hempty : tables.isEmpty = false := List.isEmpty_eq_false_iff.mpr htables
  have hname : project.appName.isEmpty = false := by simpa using happ
  rw [make, hempty, if_neg Bool.false_ne_true, if_neg (Nat.not_lt.mpr hfew), hname]
  rfl

theorem checkNames_eq_error_iff {plan : List Artifact} {error : Error} :
    checkNames plan = .error error ↔ ∃ before first second after, plan = before ++ second :: after ∧
      (before.map (·.fileName)).Nodup ∧ first ∈ before ∧ first.fileName = second.fileName ∧
        error = .invalid (.duplicateArtifact second.fileName first.origin second.origin) := by
  have hclash := fun first second =>
    firstClash_eq_some_iff [] plan first second (by simp)
  simp only [List.nil_append] at hclash
  rw [checkNames]
  cases hfound : firstClash [] plan with
  | none =>
      simp only [hfound, reduceCtorEq, false_iff] at hclash ⊢
      rintro ⟨before, first, second, after, hplan, hdistinct, hfirst, hname, -⟩
      exact hclash first second ⟨before, after, hplan, hdistinct, hfirst, hname⟩
  | some clash =>
      obtain ⟨first, second⟩ := clash
      rw [hfound] at hclash
      constructor
      · intro h
        obtain ⟨before, after, hplan, hdistinct, hfirst, hname⟩ := (hclash first second).mp rfl
        exact ⟨before, first, second, after, hplan, hdistinct, hfirst, hname,
          (Except.error.inj h).symm⟩
      · rintro ⟨before, first', second', after, hplan, hdistinct, hfirst, hname, rfl⟩
        cases (hclash first' second').mpr ⟨before, after, hplan, hdistinct, hfirst, hname⟩
        rfl

theorem make_eq_error_iff {error : Error} :
    make project selector tables maxTables = .error error ↔
      Refused project tables maxTables (all project selector tables) error := by
  constructor
  · intro h
    by_cases htables : tables = []
    · rw [make_of_eq_nil htables] at h
      cases h
      exact .noTables htables
    by_cases hmany : maxTables < tables.length
    · rw [make_of_lt_length htables hmany] at h
      cases h
      exact .tooMany htables hmany
    have hfew : tables.length ≤ maxTables := Nat.not_lt.mp hmany
    by_cases happ : project.appName = ""
    · rw [make_of_appName_eq htables hfew happ] at h
      cases h
      exact .noClass htables hfew happ
    · rw [make_of_ready htables hfew happ, Traversal.bind_eq_error_iff] at h
      rcases h with hclash | ⟨-, -, h⟩
      · obtain ⟨before, first, second, after, hplan, hdistinct, hfirst, hname, rfl⟩ :=
          checkNames_eq_error_iff.mp hclash
        exact .sameName htables hfew happ hplan hdistinct hfirst hname
      · cases h
  · intro h
    cases h with
    | noTables hempty => exact make_of_eq_nil hempty
    | tooMany hsome hmany => exact make_of_lt_length hsome hmany
    | noClass hsome hfew happ => exact make_of_appName_eq hsome hfew happ
    | sameName hsome hfew happ hplan hdistinct hfirst hname =>
        have hclash := checkNames_eq_error_iff.mpr
          ⟨_, _, _, _, hplan, hdistinct, hfirst, hname, rfl⟩
        rw [make_of_ready hsome hfew happ, hclash, Traversal.error_bind]

/-- A plan is accepted exactly when there is a table, there are not too many, the project has a class
name and no two of its files share a name; it is then the complete one. Otherwise the first reason to
refuse it counts, and of the files whose name was given before it names the first. -/
theorem make_accepts_or_refuses (project : Project) (selector : Selector) (tables : List Table)
    (maxTables : Nat) :
    ∃ plan, IsComplete project selector tables plan ∧
      (∀ accepted, make project selector tables maxTables = .ok accepted ↔
        tables ≠ [] ∧ tables.length ≤ maxTables ∧ project.appName ≠ "" ∧
          (plan.map (·.fileName)).Nodup ∧ accepted = plan) ∧
      ∀ error, make project selector tables maxTables = .error error ↔
        Refused project tables maxTables plan error :=
  ⟨all project selector tables, isComplete_all project selector tables,
    fun _ => make_eq_ok_iff, fun _ => make_eq_error_iff⟩

end SchemaScaffold.Plan
