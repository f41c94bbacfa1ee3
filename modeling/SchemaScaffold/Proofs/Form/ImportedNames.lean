import Mathlib.Data.List.Nodup
import SchemaScaffold.Proofs.Form.Openings
import SchemaScaffold.Proofs.Tables

/-!
# Clashes of imported names

A file names its types without ambiguity when no two of its imports bring the same simple name from
different packages, and none brings the name of the type that the file declares. The imports of the
shipped templates are fixed but for those that are made from the class name of the table, so a clash
is one of the class name with a name that the template imports from elsewhere.
-/

namespace SchemaScaffold

open Form

def simpleName (path : String) : String :=
  String.ofList (path.toList.reverse.takeWhile (· != '.')).reverse

def packageOf (path : String) : String :=
  String.ofList (path.toList.reverse.dropWhile (· != '.')).tail.reverse

section

variable {type : String × String}

theorem toList_qualified (type : String × String) :
    (qualified type).toList.reverse = type.2.toList.reverse ++ '.' :: type.1.toList.reverse := by
  simp [qualified]

theorem simpleName_qualified (h : '.' ∉ type.2.toList) : simpleName (qualified type) = type.2 := by
  have hname : ∀ c ∈ type.2.toList.reverse, (c != '.') = true := by
    intro c hc
    rw [bne_iff_ne]
    rintro rfl
    exact h (List.mem_reverse.mp hc)
  rw [simpleName, toList_qualified, List.takeWhile_append_of_pos hname]
  simp

theorem packageOf_qualified (h : '.' ∉ type.2.toList) : packageOf (qualified type) = type.1 := by
  have hname : ∀ c ∈ type.2.toList.reverse, (c != '.') = true := by
    intro c hc
    rw [bne_iff_ne]
    rintro rfl
    exact h (List.mem_reverse.mp hc)
  rw [packageOf, toList_qualified, List.dropWhile_append_of_pos hname]
  simp

end

/-- A file imports a single type. With an asterisk for the name it would import all types of a
package. -/
def ImportsType (content path : String) : Prop := Imports content path ∧ simpleName path ≠ "*"

/-- A file of a package names its types without ambiguity: its imports of single types do not bring
one name from two packages, nor the name of the type that it declares from another package. -/
structure NamesApart (content package name : String) : Prop where
  imports : ∀ path other, ImportsType content path → ImportsType content other →
    simpleName path = simpleName other → packageOf path = packageOf other
  own : ∀ path, ImportsType content path → simpleName path = name → packageOf path = package

namespace Form

def recordable : List (String × String) := [
  ("java.math", "BigDecimal"), ("java.time", "LocalDate"), ("java.time", "LocalDateTime"),
  ("java.time", "LocalTime"), ("io.swagger.v3.oas.annotations.media", "Schema"),
  ("jakarta.validation.constraints", "NotNull"), ("jakarta.validation.constraints", "Size")]

theorem exists_recordable {rawName : String} {comment : Option String} {columns : List Column}
    {stack : Stack} {path : String}
    (h : path ∈ Model.imports stack (Table.of rawName comment columns)) :
    ∃ type ∈ recordable, path = qualified type := by
  have hrecordable : ∀ path ∈ JavaType.all.filterMap JavaType.importPath
      ++ [Model.apiDocImport, Model.notNullImport, Model.sizeImport],
      ∃ type ∈ recordable, path = qualified type := by
    decide
  apply hrecordable
  rw [Model.imports, mem_sortedSet, List.mem_append] at h
  rw [List.mem_append]
  rcases h with h | h
  · obtain ⟨column, -, hpath⟩ := (Table.mem_of_imports rawName comment columns).mp h
    exact .inl (List.mem_filterMap.mpr ⟨_, JavaType.mem_all _, hpath⟩)
  · unfold Model.featureImports at h
    grind

namespace HeaderItem

def names : HeaderItem → List String
  | gap | own .. => []
  | library _ name | shared _ name => [name]
  | optional _ types => types.map Prod.snd
  | recorded => recordable.map Prod.snd

def possibleTypes (focus : Focus) : HeaderItem → List (String × String)
  | gap | own .. => []
  | library package name => [(package, name)]
  | optional _ types => types
  | shared folder name => [(focus.package folder, name)]
  | recorded => recordable

def fixedTypes (focus : Focus) : HeaderItem → List (String × String)
  | optional feature types => if focus.project.stack.has feature then types else []
  | recorded => recordable.filter fun type => focus.imports.contains (qualified type)
  | item => item.possibleTypes focus

def own? : HeaderItem → Option (String × String × String)
  | own folder front back => some (folder, front, back)
  | _ => none

theorem map_snd_possibleTypes (item : HeaderItem) (focus : Focus) :
    (item.possibleTypes focus).map Prod.snd = item.names := by
  cases item <;> rfl

theorem mem_possibleTypes {item : HeaderItem} {focus : Focus} {type : String × String}
    (h : type ∈ item.fixedTypes focus) : type ∈ item.possibleTypes focus := by
  cases item with
  | optional feature types =>
      rw [fixedTypes] at h
      split at h
      · exact h
      · cases h
  | recorded => exact (List.mem_filter.mp h).1
  | gap | library | shared | own => exact h

end HeaderItem

def Focus.ownType (focus : Focus) (own : String × String × String) : String × String :=
  (focus.package own.1, own.2.1 ++ focus.table.className ++ own.2.2)

theorem HeaderItem.mem_paths_iff {item : HeaderItem} {focus : Focus}
    (himports : ∀ path ∈ focus.imports, ∃ type ∈ recordable, path = qualified type)
    {path : String} : path ∈ item.paths focus ↔
      ∃ type ∈ item.fixedTypes focus ++ (item.own?.map focus.ownType).toList,
        path = qualified type := by
  cases item with
  | gap => simp [paths, fixedTypes, possibleTypes, own?]
  | library | shared | own =>
      simp [paths, fixedTypes, possibleTypes, own?, Focus.ownType]
  | optional feature types =>
      cases hfeature : focus.project.stack.has feature <;>
        simp [paths, fixedTypes, own?, hfeature, eq_comm]
  | recorded =>
      simp only [paths, fixedTypes, own?, Option.map_none, Option.toList_none, List.append_nil,
        List.mem_filter, List.contains_iff_mem]
      constructor
      · intro hpath
        obtain ⟨type, htype, rfl⟩ := himports path hpath
        exact ⟨type, ⟨htype, hpath⟩, rfl⟩
      · rintro ⟨type, ⟨-, hmem⟩, rfl⟩
        exact hmem

namespace Header

def names (header : Header) : List String := header.items.flatMap HeaderItem.names

def fixedTypes (header : Header) (focus : Focus) : List (String × String) :=
  header.items.flatMap (HeaderItem.fixedTypes focus)

def owns (header : Header) : List (String × String × String) :=
  header.items.filterMap HeaderItem.own?

def types (header : Header) (focus : Focus) : List (String × String) :=
  header.fixedTypes focus ++ header.owns.map focus.ownType

theorem mem_paths_iff {header : Header} {focus : Focus}
    (himports : ∀ path ∈ focus.imports, ∃ type ∈ recordable, path = qualified type)
    {path : String} : path ∈ header.paths focus ↔
      ∃ type ∈ header.types focus, path = qualified type := by
  simp only [paths, types, fixedTypes, owns, List.mem_flatMap, HeaderItem.mem_paths_iff himports,
    List.mem_append, List.mem_map, List.mem_filterMap, Option.mem_toList, Option.map_eq_some_iff]
  constructor
  · rintro ⟨item, hitem, type, hfixed | ⟨own, hown, rfl⟩, hpath⟩
    · exact ⟨type, .inl ⟨item, hitem, hfixed⟩, hpath⟩
    · exact ⟨_, .inr ⟨own, ⟨item, hitem, hown⟩, rfl⟩, hpath⟩
  · rintro ⟨type, ⟨item, hitem, hfixed⟩ | ⟨own, ⟨item, hitem, hown⟩, rfl⟩, hpath⟩
    · exact ⟨item, hitem, type, .inl hfixed, hpath⟩
    · exact ⟨item, hitem, _, .inr ⟨own, hown, rfl⟩, hpath⟩

end Header

/-! ### Headers in which only the class name can clash -/

def isInLine (text : String) : Bool := !text.toList.contains '\n'

def isWord (text : String) : Bool := isInLine text && !text.toList.contains '.'

def isForeign (package : String) : Bool := !".entity".toList.isSuffixOf package.toList

def HeaderItem.isSpelled : HeaderItem → Bool
  | gap | recorded => true
  | library package name => isInLine package && isWord name && isForeign package
  | optional _ types =>
    types.all fun type => isInLine type.1 && isWord type.2 && isForeign type.1
  | shared folder name => isInLine folder && isWord name && folder != "entity"
  | own folder front back => isInLine folder && isWord front && isWord back

def entityOwn : String × String × String := ("entity", "", "")

/-- Two types of a regular header have different names unless one is the entity, or one is declared
in the file and extends the other. -/
structure Header.Regular (header : Header) : Prop where
  folder : isInLine header.folder
  spelled : ∀ item ∈ header.items, item.isSpelled
  nodup : header.names.Nodup
  lengths : (((header.front, header.back) :: header.owns.map Prod.snd).map fun around =>
    around.1.length + around.2.length).Nodup
  entity : (header.folder, header.front, header.back) = entityOwn ∨ entityOwn ∈ header.owns
  others : ∀ own ∈ header.owns, own = entityOwn ∨ ∀ name ∈ header.names,
    ¬(own.2.1.toList <+: name.toList ∧ own.2.2.toList <:+ name.toList)

instance (header : Header) : Decidable header.Regular :=
  decidable_of_iff (isInLine header.folder ∧ (∀ item ∈ header.items, item.isSpelled) ∧
      header.names.Nodup ∧
      (((header.front, header.back) :: header.owns.map Prod.snd).map fun around =>
        around.1.length + around.2.length).Nodup ∧
      ((header.folder, header.front, header.back) = entityOwn ∨ entityOwn ∈ header.owns) ∧
      ∀ own ∈ header.owns, own = entityOwn ∨ ∀ name ∈ header.names,
        ¬(own.2.1.toList <+: name.toList ∧ own.2.2.toList <:+ name.toList))
    ⟨fun ⟨folder, spelled, nodup, lengths, entity, others⟩ =>
      { folder, spelled, nodup, lengths, entity, others },
    fun h => ⟨h.folder, h.spelled, h.nodup, h.lengths, h.entity, h.others⟩⟩

structure Focus.Named (focus : Focus) : Prop extends focus.InLine where
  dot : '.' ∉ focus.table.className.toList
  asterisk : '*' ∉ focus.table.className.toList
  ne : focus.table.className ≠ ""

section

variable {header : Header} {focus : Focus}

theorem isInLine_package (hfocus : focus.InLine) {folder : String} (h : isInLine folder) :
    isInLine (focus.package folder) := by
  simp_all [isInLine, Focus.package, hfocus.packageName]

theorem HeaderItem.spelled_of_mem {item : HeaderItem} (hitem : item.isSpelled)
    (hfocus : focus.InLine) {type : String × String} (h : type ∈ item.possibleTypes focus) :
    isInLine type.1 ∧ isWord type.2 ∧ type.1 ≠ focus.package "entity" := by
  have hforeign : ∀ package, isForeign package → package ≠ focus.package "entity" := by
    rintro package hpackage rfl
    have hends : ".entity".toList <:+ (focus.package "entity").toList :=
      ⟨focus.project.packageName.toList, by simp [Focus.package]⟩
    rw [isForeign, List.isSuffixOf_iff_suffix.mpr hends] at hpackage
    cases hpackage
  cases item with
  | gap | own => cases h
  | library package name =>
      obtain rfl := List.mem_singleton.mp h
      simp only [isSpelled, Bool.and_eq_true] at hitem
      exact ⟨hitem.1.1, hitem.1.2, hforeign _ hitem.2⟩
  | optional feature types =>
      have htype := List.all_eq_true.mp hitem type h
      simp only [Bool.and_eq_true] at htype
      exact ⟨htype.1.1, htype.1.2, hforeign _ htype.2⟩
  | shared folder name =>
      obtain rfl := List.mem_singleton.mp h
      simp only [isSpelled, Bool.and_eq_true, bne_iff_ne] at hitem
      refine ⟨isInLine_package hfocus hitem.1.1, hitem.1.2, ?_⟩
      simpa [Focus.package] using hitem.2
  | recorded =>
      have hrecordable : ∀ type ∈ recordable,
          isInLine type.1 ∧ isWord type.2 ∧ isForeign type.1 := by decide
      obtain ⟨hpackage, hname, hrecorded⟩ := hrecordable type h
      exact ⟨hpackage, hname, hforeign _ hrecorded⟩

theorem Header.name_mem_of_fixed {type : String × String} (h : type ∈ header.fixedTypes focus) :
    type.2 ∈ header.names := by
  obtain ⟨item, hitem, hfixed⟩ := List.mem_flatMap.mp h
  refine List.mem_flatMap.mpr ⟨item, hitem, ?_⟩
  rw [← HeaderItem.map_snd_possibleTypes item focus]
  exact List.mem_map_of_mem (HeaderItem.mem_possibleTypes hfixed)

theorem ownType_entityOwn :
    focus.ownType entityOwn = (focus.package "entity", focus.table.className) := by
  simp [Focus.ownType, entityOwn]

theorem length_ownType (own : String × String × String) :
    (focus.ownType own).2.length =
      focus.table.className.length + (own.2.1.length + own.2.2.length) := by
  simp only [Focus.ownType, String.length_append]
  omega

theorem Header.length_typeName : (header.typeName focus).length =
    focus.table.className.length + (header.front.length + header.back.length) := by
  simp only [typeName, String.length_append]
  omega

namespace Header.Regular

variable (hregular : header.Regular)

include hregular

theorem spelled_of_fixed (hfocus : focus.InLine) {type : String × String}
    (h : type ∈ header.fixedTypes focus) :
    isInLine type.1 ∧ isWord type.2 ∧ type.1 ≠ focus.package "entity" := by
  obtain ⟨item, hitem, htype⟩ := List.mem_flatMap.mp h
  exact HeaderItem.spelled_of_mem (hregular.spelled item hitem) hfocus
    (HeaderItem.mem_possibleTypes htype)

theorem spelled_of_own (hfocus : focus.Named) {own : String × String × String}
    (h : own ∈ header.owns) :
    isInLine (focus.ownType own).1 ∧ isWord (focus.ownType own).2 := by
  obtain ⟨item, hitem, hown⟩ := List.mem_filterMap.mp h
  have hspelled := hregular.spelled item hitem
  cases item with
  | own folder front back =>
      obtain rfl := Option.some.inj hown
      simp only [HeaderItem.isSpelled, Bool.and_eq_true] at hspelled
      refine ⟨isInLine_package hfocus.toInLine hspelled.1.1, ?_⟩
      simp_all [isWord, isInLine, Focus.ownType, hfocus.className, hfocus.dot]
  | gap | library | optional | shared | recorded => cases hown

theorem spelled_of_mem (hfocus : focus.Named) {type : String × String}
    (h : type ∈ header.types focus) : isInLine type.1 ∧ isWord type.2 := by
  rcases List.mem_append.mp h with hfixed | hown
  · obtain ⟨hpackage, hname, -⟩ := hregular.spelled_of_fixed hfocus.toInLine hfixed
    exact ⟨hpackage, hname⟩
  · obtain ⟨own, hmem, rfl⟩ := List.mem_map.mp hown
    exact hregular.spelled_of_own hfocus hmem

/-- Types that are not named after the table have one name only if they are the same. -/
theorem eq_of_fixed {type other : String × String} (htype : type ∈ header.fixedTypes focus)
    (hother : other ∈ header.fixedTypes focus) (hname : type.2 = other.2) : type = other := by
  have hnodup : ((header.items.flatMap (HeaderItem.possibleTypes focus)).map Prod.snd).Nodup := by
    rw [List.map_flatMap]
    simp only [HeaderItem.map_snd_possibleTypes]
    exact hregular.nodup
  have hmem : ∀ type ∈ header.fixedTypes focus,
      type ∈ header.items.flatMap (HeaderItem.possibleTypes focus) := by
    intro type htype
    obtain ⟨item, hitem, hfixed⟩ := List.mem_flatMap.mp htype
    exact List.mem_flatMap.mpr ⟨item, hitem, HeaderItem.mem_possibleTypes hfixed⟩
  exact List.inj_on_of_nodup_map hnodup (hmem type htype) (hmem other hother) hname

/-- Only the entity can have a name that is not made from that of the table. -/
theorem eq_entityOwn_of_fixed {type : String × String} {own : String × String × String}
    (htype : type ∈ header.fixedTypes focus) (hown : own ∈ header.owns)
    (hname : type.2 = (focus.ownType own).2) : own = entityOwn := by
  rcases hregular.others own hown with hentity | hothers
  · exact hentity
  · refine absurd ?_ (hothers _ (name_mem_of_fixed htype))
    rw [hname]
    simp only [Focus.ownType, String.toList_append]
    refine ⟨?_, List.suffix_append _ _⟩
    rw [List.append_assoc]
    exact List.prefix_append _ _

theorem eq_of_own {own other : String × String × String} (hown : own ∈ header.owns)
    (hother : other ∈ header.owns)
    (hname : (focus.ownType own).2 = (focus.ownType other).2) : own = other := by
  have hlengths := hregular.lengths
  rw [List.map_cons, List.nodup_cons, List.map_map] at hlengths
  refine List.inj_on_of_nodup_map hlengths.2 hown hother ?_
  have hlength := congrArg String.length hname
  rw [length_ownType, length_ownType] at hlength
  simp only [Function.comp_apply]
  omega

theorem typeName_ne_own {own : String × String × String} (hown : own ∈ header.owns) :
    (focus.ownType own).2 ≠ header.typeName focus := by
  intro hname
  have hlengths := hregular.lengths
  rw [List.map_cons, List.nodup_cons, List.map_map] at hlengths
  refine hlengths.1 (List.mem_map.mpr ⟨own, hown, ?_⟩)
  have hlength := congrArg String.length hname
  rw [length_ownType, length_typeName] at hlength
  simp only [Function.comp_apply]
  omega

/-- If no two types share a name, none but the entity is called like the table. -/
theorem className_not_mem (hfocus : focus.Named)
    (htypes : ∀ type ∈ header.types focus, ∀ other ∈ header.types focus, type.2 = other.2 →
      type.1 = other.1)
    (hown : ∀ type ∈ header.types focus, type.2 = header.typeName focus →
      type.1 = focus.package header.folder) :
    focus.table.className ∉ (header.fixedTypes focus).map Prod.snd := by
  intro hmem
  obtain ⟨type, hfixed, hname⟩ := List.mem_map.mp hmem
  have htype := List.mem_append_left (header.owns.map focus.ownType) hfixed
  apply (hregular.spelled_of_fixed hfocus.toInLine hfixed).2.2
  rcases hregular.entity with hdeclared | himported
  · obtain ⟨hfolder, hfront, hback⟩ :
        header.folder = "entity" ∧ header.front = "" ∧ header.back = "" := by
      simpa [entityOwn] using hdeclared
    rw [← hfolder]
    apply hown type htype
    simp [typeName, hfront, hback, hname]
  · have hentity := List.mem_append_right (header.fixedTypes focus)
      (List.mem_map_of_mem (f := focus.ownType) himported)
    rw [ownType_entityOwn] at hentity
    exact htypes type htype _ hentity hname

/-- A type that is called like none of the others is the only reason for two types of one name. -/
theorem types_apart (hclass : focus.table.className ∉ (header.fixedTypes focus).map Prod.snd)
    {type other : String × String} (htype : type ∈ header.types focus)
    (hother : other ∈ header.types focus) (hname : type.2 = other.2) : type.1 = other.1 := by
  have hmixed : ∀ type ∈ header.fixedTypes focus, ∀ own ∈ header.owns,
      type.2 ≠ (focus.ownType own).2 := by
    intro type htype own hown hname
    obtain rfl := hregular.eq_entityOwn_of_fixed htype hown hname
    rw [ownType_entityOwn] at hname
    exact hclass (List.mem_map.mpr ⟨type, htype, hname⟩)
  rcases List.mem_append.mp htype with htype | htype <;>
    rcases List.mem_append.mp hother with hother | hother
  · rw [hregular.eq_of_fixed htype hother hname]
  · obtain ⟨own, hown, rfl⟩ := List.mem_map.mp hother
    exact absurd hname (hmixed type htype own hown)
  · obtain ⟨own, hown, rfl⟩ := List.mem_map.mp htype
    exact absurd hname.symm (hmixed other hother own hown)
  · obtain ⟨own, hown, rfl⟩ := List.mem_map.mp htype
    obtain ⟨own', hown', rfl⟩ := List.mem_map.mp hother
    rw [hregular.eq_of_own hown hown' hname]

/-- The types of a regular header do not share names, and none has the name of the declared type,
exactly when no fixed one is called like the table, nor like the declared type. -/
theorem apart_iff (hfocus : focus.Named) :
    ((∀ type ∈ header.types focus, ∀ other ∈ header.types focus, type.2 = other.2 →
          type.1 = other.1) ∧
        ∀ type ∈ header.types focus, type.2 = header.typeName focus →
          type.1 = focus.package header.folder) ↔
      focus.table.className ∉ (header.fixedTypes focus).map Prod.snd ∧
        ∀ type ∈ header.fixedTypes focus, type.2 = header.typeName focus →
          type.1 = focus.package header.folder := by
  constructor
  · rintro ⟨htypes, hown⟩
    exact ⟨hregular.className_not_mem hfocus htypes hown,
      fun type htype => hown type (List.mem_append_left _ htype)⟩
  · rintro ⟨hclass, hdeclared⟩
    refine ⟨fun type htype other hother => hregular.types_apart hclass htype hother, ?_⟩
    intro type htype hname
    rcases List.mem_append.mp htype with htype | htype
    · exact hdeclared type htype hname
    · obtain ⟨own, hown, rfl⟩ := List.mem_map.mp htype
      exact absurd hname (hregular.typeName_ne_own hown)

end Header.Regular

/-! ### The imports of a file with a regular header -/

theorem HeaderItem.exists_path_of_mem_lines {item : HeaderItem} {line : List Char}
    (h : line ∈ item.lines focus) : line = [] ∨ ∃ path ∈ item.paths focus, line = importLine path := by
  cases item with
  | gap => exact .inl (List.mem_singleton.mp h)
  | library | optional | shared | own | recorded =>
      obtain ⟨path, hpath, rfl⟩ := List.mem_map.mp h
      exact .inr ⟨path, hpath, rfl⟩

theorem HeaderItem.importLine_mem_lines {item : HeaderItem} {path : String}
    (h : path ∈ item.paths focus) : importLine path ∈ item.lines focus := by
  cases item with
  | gap => cases h
  | library | optional | shared | own | recorded => exact List.mem_map_of_mem h

theorem importLine_inj {path other : String} (h : importLine path = importLine other) :
    path = other := by
  rw [importLine, importLine] at h
  simp only [String.toList_append, List.append_assoc, List.append_cancel_left_eq,
    List.append_cancel_right_eq] at h
  exact String.toList_inj.mp h

theorem Header.importLine_mem_iff {path : String} :
    importLine path ∈ header.packageLine focus :: header.lines focus ↔
      path ∈ header.paths focus := by
  constructor
  · intro h
    rcases List.mem_cons.mp h with hpackage | hlines
    · have hfirst := congrArg List.head? hpackage
      simp [importLine, packageLine] at hfirst
    · obtain ⟨item, hitem, hline⟩ := List.mem_flatMap.mp hlines
      rcases HeaderItem.exists_path_of_mem_lines hline with hempty | ⟨other, hother, heq⟩
      · exact absurd hempty (importLine_ne_nil path)
      · obtain rfl := importLine_inj heq
        exact List.mem_flatMap.mpr ⟨item, hitem, hother⟩
  · intro h
    obtain ⟨item, hitem, hpath⟩ := List.mem_flatMap.mp h
    exact List.mem_cons_of_mem _
      (List.mem_flatMap.mpr ⟨item, hitem, HeaderItem.importLine_mem_lines hpath⟩)

theorem name_ne_asterisk (hfocus : focus.Named) (front back : String) :
    front ++ focus.table.className ++ back ≠ "*" := by
  intro h
  obtain ⟨c, hc⟩ := List.exists_mem_of_ne_nil _
    (fun hempty => hfocus.ne (String.toList_eq_nil_iff.mp hempty))
  have hmem : c ∈ (front ++ focus.table.className ++ back).toList := by simp [hc]
  rw [h] at hmem
  obtain rfl := List.mem_singleton.mp hmem
  exact hfocus.asterisk hc

theorem Header.mem_fixedTypes_of_asterisk (hfocus : focus.Named) {type : String × String} (h : type ∈ header.types focus)
    (hname : type.2 = "*") : type ∈ header.fixedTypes focus := by
  rcases List.mem_append.mp h with hfixed | hown
  · exact hfixed
  · obtain ⟨own, -, rfl⟩ := List.mem_map.mp hown
    exact absurd hname (name_ne_asterisk hfocus _ _)

namespace Header.Regular

variable (hregular : header.Regular) (hfocus : focus.Named)
  (himports : ∀ path ∈ focus.imports, ∃ type ∈ recordable, path = qualified type)

include hregular hfocus

theorem not_mem_packageLine : '\n' ∉ header.packageLine focus := by
  have hpackage := isInLine_package hfocus.toInLine hregular.folder
  simpa [packageLine, isInLine] using hpackage

theorem dot_not_mem {type : String × String} (h : type ∈ header.types focus) :
    '.' ∉ type.2.toList := by
  have hname := (hregular.spelled_of_mem hfocus h).2
  rw [isWord, Bool.and_eq_true] at hname
  simpa using hname.2

include himports

theorem isHeaderLine_of_mem {line : List Char}
    (h : line ∈ header.packageLine focus :: header.lines focus) :
    isHeaderLine line ∧ '\n' ∉ line := by
  rcases List.mem_cons.mp h with rfl | hlines
  · refine ⟨?_, hregular.not_mem_packageLine hfocus⟩
    have hstarts : "package ".toList <+: header.packageLine focus := by
      rw [packageLine, String.toList_append, String.toList_append, List.append_assoc]
      exact List.prefix_append _ _
    simp only [isHeaderLine, List.isPrefixOf_iff_prefix.mpr hstarts, Bool.or_true, Bool.true_or]
  · obtain ⟨item, hitem, hline⟩ := List.mem_flatMap.mp hlines
    rcases HeaderItem.exists_path_of_mem_lines hline with rfl | ⟨path, hpath, rfl⟩
    · exact ⟨rfl, List.not_mem_nil⟩
    · obtain ⟨type, htype, rfl⟩ :=
        (mem_paths_iff himports).mp (List.mem_flatMap.mpr ⟨item, hitem, hpath⟩)
      obtain ⟨hpackage, hname⟩ := hregular.spelled_of_mem hfocus htype
      refine ⟨isHeaderLine_importLine _, not_mem_importLine ?_⟩
      rw [isWord, Bool.and_eq_true] at hname
      simp_all [isInLine, qualified]

theorem imports_iff {form : List Piece} (hcheck : header.check form) {path : String} :
    Imports (textOf form focus) path ↔ ∃ type ∈ header.types focus, path = qualified type := by
  have hlines := headerLines_eq hcheck fun line =>
    hregular.isHeaderLine_of_mem hfocus himports
  rw [Imports, hlines, importLine_mem_iff, mem_paths_iff himports]

theorem importsType_iff {form : List Piece} (hcheck : header.check form) {path : String} :
    ImportsType (textOf form focus) path ↔
      ∃ type ∈ header.types focus, path = qualified type ∧ type.2 ≠ "*" := by
  rw [ImportsType, hregular.imports_iff hfocus himports hcheck]
  constructor
  · rintro ⟨⟨type, htype, rfl⟩, hname⟩
    rw [simpleName_qualified (hregular.dot_not_mem hfocus htype)] at hname
    exact ⟨type, htype, rfl, hname⟩
  · rintro ⟨type, htype, rfl, hname⟩
    refine ⟨⟨type, htype, rfl⟩, ?_⟩
    rwa [simpleName_qualified (hregular.dot_not_mem hfocus htype)]

/-- A file with a regular header names its types without ambiguity exactly when no import is called
like the table, nor like the declared type. -/
theorem namesApart_iff {form : List Piece} (hcheck : header.check form) :
    NamesApart (textOf form focus) (focus.package header.folder) (header.typeName focus) ↔
      focus.table.className ∉ (header.fixedTypes focus).map Prod.snd ∧
        ∀ type ∈ header.fixedTypes focus, type.2 = header.typeName focus →
          type.1 = focus.package header.folder := by
  have hpaths : ∀ path, ImportsType (textOf form focus) path ↔
      ∃ type ∈ header.types focus, path = qualified type ∧ type.2 ≠ "*" :=
    fun path => hregular.importsType_iff hfocus himports hcheck
  have hsimple : ∀ type ∈ header.types focus, simpleName (qualified type) = type.2 :=
    fun type htype => simpleName_qualified (hregular.dot_not_mem hfocus htype)
  have hpackage : ∀ type ∈ header.types focus, packageOf (qualified type) = type.1 :=
    fun type htype => packageOf_qualified (hregular.dot_not_mem hfocus htype)
  rw [← hregular.apart_iff hfocus]
  constructor
  · rintro ⟨hapart, hown⟩
    constructor
    · intro type htype other hother hname
      by_cases hasterisk : type.2 = "*"
      · have hfixed := mem_fixedTypes_of_asterisk hfocus htype hasterisk
        have hfixed' := mem_fixedTypes_of_asterisk hfocus hother (hname ▸ hasterisk)
        rw [hregular.eq_of_fixed hfixed hfixed' hname]
      · have hsame := hapart _ _ ((hpaths _).mpr ⟨type, htype, rfl, hasterisk⟩)
          ((hpaths _).mpr ⟨other, hother, rfl, hname ▸ hasterisk⟩)
        rw [hsimple type htype, hsimple other hother, hpackage type htype,
          hpackage other hother] at hsame
        exact hsame hname
    · intro type htype hname
      have hasterisk : type.2 ≠ "*" := hname ▸ name_ne_asterisk hfocus header.front header.back
      have hsame := hown _ ((hpaths _).mpr ⟨type, htype, rfl, hasterisk⟩)
      rw [hsimple type htype, hpackage type htype] at hsame
      exact hsame hname
  · rintro ⟨hapart, hown⟩
    constructor
    · intro path other hpath hother hname
      obtain ⟨type, htype, rfl, -⟩ := (hpaths path).mp hpath
      obtain ⟨type', htype', rfl, -⟩ := (hpaths other).mp hother
      rw [hsimple type htype, hsimple type' htype'] at hname
      rw [hpackage type htype, hpackage type' htype']
      exact hapart type htype type' htype' hname
    · intro path hpath hname
      obtain ⟨type, htype, rfl, -⟩ := (hpaths path).mp hpath
      rw [hsimple type htype] at hname
      rw [hpackage type htype]
      exact hown type htype hname

end Header.Regular

end

end Form

end SchemaScaffold
