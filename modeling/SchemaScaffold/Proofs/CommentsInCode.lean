import Mathlib.Data.List.ReduceOption
import SchemaScaffold.Proofs.Form.CommentMarks
import SchemaScaffold.Proofs.Form.TableTemplates

namespace SchemaScaffold

open Form Java

/-- The files of a role for two tables are the same code. -/
def SameCode (project : Project) (t u : Table) (role : Role) : Prop :=
  ∃ content other, Renders project t role content ∧ Renders project u role other ∧
    stripped content = stripped other

structure Table.CommentsIn (comments : Set String) (table : Table) : Prop where
  own : table.comment ∈ comments
  columns : ∀ column ∈ table.columns, column.comment ∈ comments

def Table.IsMade (table : Table) : Prop :=
  ∃ rawName comment columns, Table.make rawName comment columns = .ok table

def commentRoles : List Role := [.entity, .controller]

/-! ## Harmless comments -/

def commentTemplates : List (List String) := [
  Template.Shipped.Mybatis.entity,
  Template.Shipped.MybatisPlus.entity,
  Template.Shipped.Jpa.entity,
  Template.Shipped.Common.controller]

theorem commentTemplates_eq : commentTemplates =
    (tableTemplates.filter (·.hasComments)).map (·.lines) := rfl

theorem hasForm_keepsComments : ∀ lines ∈ commentTemplates, HasForm .ofTable lines keepsComments := by
  rw [commentTemplates_eq, List.forall_mem_map]
  intro template hmem
  rw [List.mem_filter] at hmem
  exact hasForm_comments hmem.1 hmem.2

theorem exists_commentTemplate {role : Role} (hrole : role ∈ commentRoles) (stack : Stack) :
    ∃ template, shippedFor stack role = some template ∧ template.2 ∈ commentTemplates := by
  simp only [commentRoles, List.mem_cons, List.not_mem_nil, or_false] at hrole
  rcases hrole with rfl | rfl <;> cases horm : stack.orm <;>
    simp [shippedFor, commentTemplates, horm]

/-- Tables that differ in harmless comments lead to the same code. -/
theorem sameCode_of_matches {t u : Table} (h : t.Matches Alike u) {role : Role}
    (hrole : role ∈ commentRoles) (project : Project) : SameCode project t u role := by
  obtain ⟨template, htemplate, hmem⟩ := exists_commentTemplate hrole project.stack
  obtain ⟨form, hform, hkeeps⟩ := hasForm_keepsComments _ hmem
  refine ⟨_, _, renders_textOf htemplate hform t, renders_textOf htemplate hform u, ?_⟩
  refine stripped_eq hkeeps {
    project := rfl
    table := h
    column := ⟨rfl, Iff.rfl, .inl rfl⟩
    imported := rfl
    index := rfl
    count := rfl }

section

variable {comments : Set String}

theorem alike_of_harmless (hharmless : ∀ c ∈ comments, c ≠ "" → Harmless c.toList) {s t : String}
    (hs : s ∈ comments) (ht : t ∈ comments) (hempty : EmptyTogether s t) : Alike s t := by
  refine ⟨hempty, ?_⟩
  by_cases h : s = ""
  · exact .inl (h.trans (hempty.mp h).symm)
  · exact .inr ⟨hharmless s hs h, hharmless t ht (mt hempty.mpr h)⟩

theorem forall₂_of_mem {α β : Type} {R S : α → β → Prop} {as : List α} {bs : List β}
    (h : List.Forall₂ R as bs) (hR : ∀ a ∈ as, ∀ b ∈ bs, R a b → S a b) : List.Forall₂ S as bs := by
  induction h with
  | nil => exact .nil
  | cons hab _ ih =>
      refine .cons (hR _ List.mem_cons_self _ List.mem_cons_self hab) (ih ?_)
      intro a ha b hb
      exact hR a (List.mem_cons_of_mem _ ha) b (List.mem_cons_of_mem _ hb)

theorem matches_alike (hharmless : ∀ c ∈ comments, c ≠ "" → Harmless c.toList) {t u : Table}
    (ht : t.CommentsIn comments) (hu : u.CommentsIn comments) (h : t.Matches EmptyTogether u) :
    t.Matches Alike u := by
  refine ⟨h.rest, alike_of_harmless hharmless ht.own hu.own h.comment, ?_⟩
  refine forall₂_of_mem h.columns fun c hc d hd hcolumn => ⟨hcolumn.rest, ?_⟩
  exact alike_of_harmless hharmless (ht.columns c hc) (hu.columns d hd) hcolumn.comment

end

/-! ## Other comments -/

def disk (comment : String) : Table := Table.of "disk" (some comment) []

theorem make_disk (comment : String) : Table.make "disk" (some comment) [] = .ok (disk comment) :=
  (Table.make_eq_ok_iff _ _ _ _).mpr ⟨by decide +kernel, rfl⟩

theorem disk_comment {comment : String} (h : '\'' ∉ comment.toList) :
    (disk comment).comment = comment := Table.of_comment h _ _

theorem disk_matches {R : String → String → Prop} {s t : String} (hs : '\'' ∉ s.toList)
    (ht : '\'' ∉ t.toList) (h : R s t) : (disk s).Matches R (disk t) := by
  refine ⟨by simp only [disk, Table.of], ?_, by simp only [disk, Table.of_columns, List.Forall₂.nil]⟩
  rw [disk_comment hs, disk_comment ht]
  exact h

theorem disk_commentsIn {comments : Set String} (hquote : ∀ c ∈ comments, '\'' ∉ c.toList)
    {comment : String} (hcomment : comment ∈ comments) : (disk comment).CommentsIn comments := by
  refine ⟨by rwa [disk_comment (hquote comment hcomment)], ?_⟩
  intro column hcolumn
  rw [disk, Table.of_columns] at hcolumn
  cases hcolumn

/-- Marks are the characters around one comment, which these close. -/
def marksAround (closer : List Char) (accepts : List Char → List Char → Bool)
    (marks : List (Option Char)) : Bool :=
  let front := (marks.takeWhile (·.isSome)).reduceOption
  let back := (marks.drop (front.length + 1 + closer.length)).reduceOption
  marks == front.map some ++ none :: (closer ++ back).map some && accepts front back

theorem exists_of_marksAround {closer : List Char} {accepts : List Char → List Char → Bool}
    {marks : List (Option Char)} (h : marksAround closer accepts marks) :
    ∃ front back, marks = front.map some ++ none :: (closer ++ back).map some ∧
      accepts front back := by
  rw [marksAround, Bool.and_eq_true, beq_iff_eq] at h
  exact ⟨_, _, h.1, h.2⟩

section

variable {project : Project} {role : Role} {closer : List Char}
  {accepts : List Char → List Char → Bool} {template : TemplateId} {lines : List String}

/-- The files for two comments are not the same code when the comments make a difference between the
characters around them. -/
theorem not_sameCode_of_marks (htemplate : shippedFor project.stack role = some (template, lines))
    (hform : HasForm .ofTable lines fun form =>
      (markedOf { project, table := disk "x" } form).any (marksAround closer accepts))
    {s t : String} (hs : s ≠ "") (ht : t ≠ "") (hs' : '\'' ∉ s.toList) (ht' : '\'' ∉ t.toList)
    (hne : ∀ front back, accepts front back →
      State.start.run (front ++ (s.toList ++ closer) ++ back) ≠
        State.start.run (front ++ (t.toList ++ closer) ++ back)) :
    ¬SameCode project (disk s) (disk t) role := by
  obtain ⟨form, hform, hmarks⟩ := hform
  obtain ⟨marks, hmarked, haround⟩ := (Option.any_eq_true _ _).mp hmarks
  obtain ⟨front, back, rfl, haccepts⟩ := exists_of_marksAround haround
  have hchars : ∀ c : String, c ≠ "" → '\'' ∉ c.toList →
      charsOf form { project, table := disk c } = front ++ (c.toList ++ closer) ++ back := by
    intro c hc hc'
    have hempty : EmptyTogether "x" c := by simp [EmptyTogether, hc]
    have hmatches : Focus.Matches EmptyTogether { project, table := disk "x" }
        { project, table := disk c } := {
      project := rfl
      table := disk_matches (by decide) hc' hempty
      column := ⟨rfl, Iff.rfl⟩
      imported := rfl
      index := rfl
      count := rfl }
    have hx : (disk "x").comment ≠ "" := by
      rw [disk_comment (by decide)]
      decide
    rw [charsOf_of_markedOf hmatches hx hmarked, unmarked_append, unmarked_map_some, unmarked_none,
      unmarked_map_some, disk_comment hc']
    simp
  rintro ⟨content, other, hcontent, hother, heq⟩
  rw [hcontent.unique (renders_textOf htemplate hform _),
    hother.unique (renders_textOf htemplate hform _), stripped, stripped, toList_textOf,
    toList_textOf, hchars s hs hs', hchars t ht ht'] at heq
  exact hne front back haccepts heq

end

/-- A comment that goes wrong in a block comment shows in the code of the entity. -/
theorem not_sameCode_entity {s t : String} (hs : s ≠ "") (ht : t ≠ "") (hs' : '\'' ∉ s.toList)
    (ht' : '\'' ∉ t.toList) (hother : Harmless t.toList)
    (hwrong : State.inBlock.run (s.toList ++ ['\n']) ≠ (.inBlock, [])) :
    ¬SameCode shop (disk s) (disk t) .entity := by
  have hform : HasForm .ofTable Template.Shipped.Mybatis.entity fun form =>
      (markedOf { project := shop, table := disk "x" } form).any
        (marksAround ['\n'] fun front back =>
          (State.start.run front).1 == .inBlock && (State.inBlock.run back).1 == .start &&
            (State.inBlock.run back).2.length < (State.start.run back).2.length) := by
    apply Spelled.hasForm
    · simp only [Template.Shipped.Mybatis.entity]
      repeat first | exact .last _ | apply Spelled.line
    · decide +kernel
  have htemplate : shippedFor shop.stack .entity =
      some ("mybatis/Entity.java.ftl", Template.Shipped.Mybatis.entity) := rfl
  refine not_sameCode_of_marks htemplate hform hs ht hs' ht' fun front back haccepts => ?_
  simp only [Bool.and_eq_true, beq_iff_eq, decide_eq_true_eq] at haccepts
  exact run_ne_of_comment haccepts.1.1 haccepts.1.2 haccepts.2 hother hwrong

def documentedShop : Project := { shop with stack := { apiDocs := true } }

/-- A comment that goes wrong in a string shows in the code of the controller. -/
theorem not_sameCode_controller {s t : String} (hs : s ≠ "") (ht : t ≠ "") (hs' : '\'' ∉ s.toList)
    (ht' : '\'' ∉ t.toList) (hother : Harmless t.toList)
    (hwrong : State.inString.run (s.toList ++ "\")\n".toList) ≠ (.start, "\")\n".toList)) :
    ¬SameCode documentedShop (disk s) (disk t) .controller := by
  have hform : HasForm .ofTable Template.Shipped.Common.controller fun form =>
      (markedOf { project := documentedShop, table := disk "x" } form).any
        (marksAround "\")\n".toList fun front back =>
          (State.start.run front).1 == .inString && (State.start.run back).1 == .start &&
            (State.inBlock.run back).1 != .start) := by
    apply Spelled.hasForm
    · simp only [Template.Shipped.Common.controller]
      repeat first | exact .last _ | apply Spelled.line
    · decide +kernel
  have htemplate : shippedFor documentedShop.stack .controller =
      some ("common/Controller.java.ftl", Template.Shipped.Common.controller) := rfl
  refine not_sameCode_of_marks htemplate hform hs ht hs' ht' fun front back haccepts => ?_
  simp only [Bool.and_eq_true, beq_iff_eq, bne_iff_ne] at haccepts
  exact run_ne_of_string haccepts.1.1 haccepts.1.2 haccepts.2 hother hwrong

/-- Entities and controllers keep comments of certain texts out of the code exactly when all of the
texts are harmless, given one harmless text to compare the others with. -/
theorem comments_stay_out_of_code_iff {comments : Set String}
    (hquote : ∀ c ∈ comments, '\'' ∉ c.toList)
    (hplain : ∃ c ∈ comments, c ≠ "" ∧ Harmless c.toList) :
    (∀ project t u, t.IsMade → u.IsMade → t.CommentsIn comments → u.CommentsIn comments →
      t.Matches EmptyTogether u → ∀ role ∈ commentRoles, SameCode project t u role) ↔
        ∀ c ∈ comments, c ≠ "" → Harmless c.toList := by
  constructor
  · intro hsame c hc hempty
    obtain ⟨plain, hmem, hplain, hharmless⟩ := hplain
    have htogether : EmptyTogether c plain := by simp [EmptyTogether, hempty, hplain]
    have hboth : ∀ project, ∀ role ∈ commentRoles, SameCode project (disk c) (disk plain) role :=
      fun project => hsame project _ _ ⟨_, _, _, make_disk c⟩ ⟨_, _, _, make_disk plain⟩
        (disk_commentsIn hquote hc) (disk_commentsIn hquote hmem) (disk_matches (hquote c hc) (hquote plain hmem) htogether)
    constructor
    · by_contra hwrong
      exact not_sameCode_entity hempty hplain (hquote c hc) (hquote plain hmem) hharmless hwrong
        (hboth shop .entity (by decide))
    · by_contra hwrong
      exact not_sameCode_controller hempty hplain (hquote c hc) (hquote plain hmem) hharmless hwrong
        (hboth documentedShop .controller (by decide))
  · intro hharmless project t u _ _ ht hu hmatches role hrole
    exact sameCode_of_matches (matches_alike hharmless ht hu hmatches) hrole project

theorem comments_stay_out_of_code_disk :
    SameCode documentedShop (disk "All disks") (disk "Disks, 5 inch") .entity ∧
      SameCode documentedShop (disk "All disks") (disk "Disks, 5 inch") .controller := by
  let comments : Set String := {"All disks", "Disks, 5 inch"}
  have hquote : ∀ c ∈ comments, '\'' ∉ c.toList := by
    rintro c (rfl | rfl) <;> decide
  have hharmless : ∀ c ∈ comments, c ≠ "" → Harmless c.toList := by
    rintro c (rfl | rfl) - <;> exact Harmless.of_ordinary (by decide)
  have hplain : ∃ c ∈ comments, c ≠ "" ∧ Harmless c.toList :=
    ⟨"All disks", .inl rfl, by decide, hharmless _ (.inl rfl) (by decide)⟩
  have hsame := (comments_stay_out_of_code_iff hquote hplain).mpr hharmless documentedShop
    (disk "All disks") (disk "Disks, 5 inch") ⟨_, _, _, make_disk _⟩ ⟨_, _, _, make_disk _⟩
    (disk_commentsIn hquote (.inl rfl)) (disk_commentsIn hquote (.inr rfl))
    (disk_matches (by decide) (by decide) (by decide))
  exact ⟨hsame .entity (by decide), hsame .controller (by decide)⟩

/-- A quote in a comment ends the string that the comment stands in, and the end of a block comment
ends the comment. -/
theorem disk_comments_show_in_code :
    Table.make "disk" (some "5\" disk") [] = .ok (disk "5\" disk") ∧
      Table.make "disk" (some "*/ int i; /*") [] = .ok (disk "*/ int i; /*") ∧
      Table.make "disk" (some "5 disk") [] = .ok (disk "5 disk") ∧
      (disk "5\" disk").Matches EmptyTogether (disk "5 disk") ∧
      (disk "*/ int i; /*").Matches EmptyTogether (disk "5 disk") ∧
      ¬SameCode documentedShop (disk "5\" disk") (disk "5 disk") .controller ∧
      ¬SameCode shop (disk "*/ int i; /*") (disk "5 disk") .entity := by
  have hharmless : Harmless "5 disk".toList := Harmless.of_ordinary (by decide)
  refine ⟨make_disk _, make_disk _, make_disk _, disk_matches (by decide) (by decide) (by decide),
    disk_matches (by decide) (by decide) (by decide), ?_, ?_⟩
  · exact not_sameCode_controller (by decide) (by decide) (by decide) (by decide) hharmless
      (by decide)
  · exact not_sameCode_entity (by decide) (by decide) (by decide) (by decide) hharmless (by decide)

end SchemaScaffold
