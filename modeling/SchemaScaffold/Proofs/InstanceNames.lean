import SchemaScaffold.Proofs.CamelCase
import SchemaScaffold.Proofs.Form.TableTemplates
import SchemaScaffold.Proofs.Generation

namespace SchemaScaffold

open Form

namespace Naming

/-! ### Classes with one instance name -/

def camelName (className : String) : String := String.ofList (lowerCamelCase className.toList)

/-- Whether the suffix that a reserved word takes makes the name of another class of it. -/
def TakesName (className other : String) : Prop :=
  isJavaKeyword (camelName className) ∧ camelName other = camelName className ++ "Value"

def SharesInstance (className other : String) : Prop :=
  camelName className = camelName other ∨ TakesName className other ∨ TakesName other className

def wordsOf (className : String) : List (List Char) := smallWords className.toList

/-- Whether some words are a reserved word alone, and others the same with the suffix of reserved
words. -/
def TakesWords (words others : List (List Char)) : Prop :=
  ∃ keyword ∈ javaKeywords, words = [keyword.toList] ∧
    others = [keyword.toList, "value".toList]

instance (className other : String) : Decidable (TakesName className other) :=
  inferInstanceAs (Decidable (_ ∧ _))

instance (className other : String) : Decidable (SharesInstance className other) :=
  inferInstanceAs (Decidable (_ ∨ _))

theorem isJavaKeyword_iff {name : String} : isJavaKeyword name ↔ name ∈ javaKeywords := by
  rw [isJavaKeyword, List.contains_iff_mem]

theorem not_isJavaKeyword_append_value (name : String) :
    isJavaKeyword (name ++ "Value") = false := by
  have hkeywords : ∀ keyword ∈ javaKeywords, ¬"Value".toList <:+ keyword.toList := by decide
  rw [← Bool.not_eq_true, isJavaKeyword_iff]
  intro hmem
  apply hkeywords _ hmem
  rw [String.toList_append]
  exact List.suffix_append _ _

theorem avoidKeyword_inj {name other : String} :
    avoidKeyword name = avoidKeyword other ↔ name = other ∨
      (isJavaKeyword name ∧ other = name ++ "Value") ∨
        (isJavaKeyword other ∧ name = other ++ "Value") := by
  have happend : ∀ s t : String, s ++ "Value" = t ++ "Value" ↔ s = t := by
    intro s t
    rw [← String.toList_inj, String.toList_append, String.toList_append,
      List.append_cancel_right_eq, String.toList_inj]
  have hapart : ∀ s t : String, isJavaKeyword t = true → t ≠ s ++ "Value" := by
    rintro s _ hkeyword rfl
    rw [not_isJavaKeyword_append_value] at hkeyword
    cases hkeyword
  unfold avoidKeyword
  cases hname : isJavaKeyword name <;> cases hother : isJavaKeyword other
  · simp
  · have hne := hapart name other hother
    simp only [Bool.false_eq_true, if_false, if_true, false_and, true_and, false_or]
    constructor
    · exact .inr
    · rintro (rfl | h)
      · simp [hname] at hother
      · exact h
  · simp only [Bool.false_eq_true, if_false, if_true, false_and, true_and, or_false]
    constructor
    · exact fun h => .inr h.symm
    · rintro (rfl | h)
      · simp [hname] at hother
      · exact h.symm
  · have hne := hapart name other hother
    have hne' := hapart other name hname
    simp [happend, hne, hne']

theorem instanceName_eq_iff (className other : String) :
    instanceName className = instanceName other ↔ SharesInstance className other := avoidKeyword_inj

/-! ### Classes with plain names -/

theorem isWritten_camelName {className : String} (hplain : IsPlain className.toList) :
    IsWritten (camelName className) (wordsOf className) := isWritten_lowerCamelCase hplain

/-- Reserved words and the names that their suffix makes of them are written as they are meant. -/
theorem isWritten_keyword {keyword : String} (h : keyword ∈ javaKeywords) :
    IsWritten keyword [keyword.toList] ∧
      IsWritten (keyword ++ "Value") [keyword.toList, "value".toList] := by
  have hread : ∀ keyword ∈ javaKeywords,
      readWords (joinWords [keyword.toList]) = [keyword.toList] ∧
        readWords (joinWords [keyword.toList, "value".toList]) =
          [keyword.toList, "value".toList] := by
    decide
  obtain ⟨hword, hvalue⟩ := hread keyword h
  have hsuffix : withCapital ['v', 'a', 'l', 'u', 'e'] = "Value".toList := by decide
  exact ⟨⟨by simp [joinWords], hword⟩, ⟨by simp [joinWords, hsuffix], hvalue⟩⟩

theorem takesWords_iff {name other : String} {words others : List (List Char)}
    (hname : IsWritten name words) (hother : IsWritten other others) :
    isJavaKeyword name ∧ other = name ++ "Value" ↔ TakesWords words others := by
  constructor
  · rintro ⟨hkeyword, hvalue⟩
    rw [isJavaKeyword_iff] at hkeyword
    obtain ⟨hword, hsuffix⟩ := isWritten_keyword hkeyword
    exact ⟨name, hkeyword, (hname.inj hword).mp rfl, (hother.inj hsuffix).mp hvalue⟩
  · rintro ⟨keyword, hkeyword, hwords, hothers⟩
    obtain ⟨hword, hsuffix⟩ := isWritten_keyword hkeyword
    obtain rfl := (hname.inj hword).mpr hwords
    exact ⟨isJavaKeyword_iff.mpr hkeyword, (hother.inj hsuffix).mpr hothers⟩

theorem sharesInstance_iff {className other : String} (hplain : IsPlain className.toList)
    (hother : IsPlain other.toList) :
    SharesInstance className other ↔ wordsOf className = wordsOf other ∨
      TakesWords (wordsOf className) (wordsOf other) ∨
        TakesWords (wordsOf other) (wordsOf className) := by
  have hname := isWritten_camelName hplain
  have hname' := isWritten_camelName hother
  rw [SharesInstance, TakesName, TakesName, takesWords_iff hname hname',
    takesWords_iff hname' hname, hname.inj hname']

end Naming

open Naming

/-! ### Uses of instance names -/

/-- A file that is to use the instance name of its table is made from a form that does. -/
theorem exists_form_of_aliasUse {role : Role} {use : AliasUse} (huse : aliasUse role = some use)
    (project : Project) (table : Table) :
    ∃ form : List Piece, form.tails.any use.opens ∧
      Renders project table role (textOf form { project, table }) := by
  have hrole : role ∈ classRoles := by
    cases role <;> first | decide | cases huse
  obtain ⟨template, hmem, htemplate, -, hused⟩ := exists_tableTemplate hrole project.stack
  obtain ⟨form, hform⟩ := exists_fits hmem
  exact ⟨form, hform.use use (hused.symm.trans huse), renders_textOf htemplate hform.isForm table⟩

theorem exists_controller (project : Project) (table : Table) :
    ∃ content, Renders project table .controller content ∧
      HasBasePath content ("/api/" ++ instanceName table.className) := by
  have huse : aliasUse .controller = some .basePath := rfl
  obtain ⟨form, hopens, hcontent⟩ := exists_form_of_aliasUse huse project table
  exact ⟨_, hcontent, hasBasePath_of_opens hopens _⟩

theorem exists_serviceImpl (project : Project) (table : Table) :
    ∃ content, Renders project table .serviceImpl content ∧
      (project.stack.cache → CachesUnder content (instanceName table.className)) := by
  have huse : aliasUse .serviceImpl = some .cacheName := rfl
  obtain ⟨form, hopens, hcontent⟩ := exists_form_of_aliasUse huse project table
  refine ⟨_, hcontent, ?_⟩
  intro hcache
  exact cachesUnder_of_opens hopens hcache

/-! ### The tables of a plan -/

section

variable {project : Project} {selector : Selector} {tables : List Table} {maxTables : Nat}
  {plan : List Artifact} (hplan : Plan.make project selector tables maxTables = .ok plan)

include hplan

theorem nodup_className {role : Role} (hrole : role ∈ Role.ofTable)
    (hresolve : (selector.resolve role project.stack).isSome) :
    (tables.map (·.className)).Nodup := by
  obtain ⟨template, htemplate⟩ := Option.isSome_iff_exists.mp hresolve
  obtain ⟨-, -, -, hnodup, rfl⟩ := Plan.make_eq_ok_iff.mp hplan
  rw [Plan.all, List.map_append, List.nodup_append] at hnodup
  have htables := hnodup.2.1
  rw [List.Nodup, List.pairwise_map, List.pairwise_flatMap] at htables
  have hartifact : ∀ table : Table,
      { role, template, table := some table,
        fileName := role.fileName table.className project.appName project.stack } ∈
          Plan.artifacts project selector (some table) Role.ofTable :=
    fun table => Plan.mem_artifacts_iff.mpr ⟨hrole, rfl, htemplate, rfl⟩
  rw [List.Nodup, List.pairwise_map]
  refine htables.2.imp fun {first second} hfiles hsame => ?_
  apply hfiles _ (hartifact first) _ (hartifact second)
  simp only [hsame]

/-- The classes of a plan all differ, and so do their instance names, and with them the paths of
controllers and the names of caches, unless two classes have the same words, or one is a reserved word
and the other one the same word with `Value` behind it. -/
theorem instance_names_differ_iff :
    (∀ role ∈ Role.ofTable, (selector.resolve role project.stack).isSome →
        (tables.map (·.className)).Nodup) ∧
      (∀ table ∈ tables, ∃ controller service,
        Renders project table .controller controller ∧
          HasBasePath controller ("/api/" ++ instanceName table.className) ∧
          Renders project table .serviceImpl service ∧
          (project.stack.cache → CachesUnder service (instanceName table.className))) ∧
      ((tables.map fun table => instanceName table.className).Nodup ↔
        tables.Pairwise fun first second =>
          ¬SharesInstance first.className second.className) ∧
      ∀ first ∈ tables, ∀ second ∈ tables, IsPlain first.className.toList →
        IsPlain second.className.toList →
          (SharesInstance first.className second.className ↔
            wordsOf first.className = wordsOf second.className ∨
              TakesWords (wordsOf first.className) (wordsOf second.className) ∨
              TakesWords (wordsOf second.className) (wordsOf first.className)) := by
  refine ⟨fun role => nodup_className hplan, ?_, ?_, ?_⟩
  · intro table _
    obtain ⟨controller, hcontroller, hpath⟩ := exists_controller project table
    obtain ⟨service, hservice, hcache⟩ := exists_serviceImpl project table
    exact ⟨controller, service, hcontroller, hpath, hservice, hcache⟩
  · rw [List.Nodup, List.pairwise_map]
    simp only [ne_eq, instanceName_eq_iff]
  · intro first _ second _
    exact sharesInstance_iff

end

/-- Users and orders have their own instance names. -/
theorem instance_names_differ_users_and_orders :
    let tables := [Table.of "sys_user" none [keyColumn], Table.of "order_item" none [keyColumn]]
    Plan.make shop .standard tables 100 = .ok (Plan.all shop .standard tables) ∧
      (tables.map fun table => instanceName table.className).Nodup := by
  intro tables
  have hplan : Plan.make shop .standard tables 100 = .ok (Plan.all shop .standard tables) :=
    Plan.make_eq_ok_iff.mpr ⟨by simp [tables], by simp [tables], by decide,
      by decide, rfl⟩
  obtain ⟨-, -, hnodup, -⟩ := instance_names_differ_iff hplan
  exact ⟨hplan, hnodup.mpr (by decide)⟩

/-- A table of records and one of their values have controllers with one path. -/
theorem records_share_path :
    let records := Table.of "record" none [keyColumn]
    let values := Table.of "record_value" none [keyColumn]
    let tables := [records, values]
    Plan.make shop .standard tables 100 = .ok (Plan.all shop .standard tables) ∧
      records.className ≠ values.className ∧
      instanceName records.className = instanceName values.className ∧
      ∃ content other, Renders shop records .controller content ∧
        Renders shop values .controller other ∧ HasBasePath content "/api/recordValue" ∧
        HasBasePath other "/api/recordValue" := by
  intro records values tables
  have hplan : Plan.make shop .standard tables 100 = .ok (Plan.all shop .standard tables) :=
    Plan.make_eq_ok_iff.mpr ⟨by simp [tables], by simp [tables], by decide,
      by decide, rfl⟩
  have hrecords : instanceName records.className = "recordValue" := by decide
  have hvalues : instanceName values.className = "recordValue" := by decide
  obtain ⟨content, hcontent, hpath⟩ := exists_controller shop records
  obtain ⟨other, hother, hotherPath⟩ := exists_controller shop values
  rw [hrecords] at hpath
  rw [hvalues] at hotherPath
  exact ⟨hplan, by decide, hrecords.trans hvalues.symm, content, other, hcontent, hother,
    hpath, hotherPath⟩

end SchemaScaffold
