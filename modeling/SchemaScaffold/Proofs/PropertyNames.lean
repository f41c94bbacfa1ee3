import SchemaScaffold.Proofs.ColumnWords
import SchemaScaffold.Proofs.EntityBlocks
import SchemaScaffold.Proofs.InstanceNames

namespace SchemaScaffold

open Form Naming

namespace Naming

/-- Whether the suffix that a reserved word takes makes the property of another column of it. -/
def TakesProperty (name other : String) : Prop :=
  isJavaKeyword (smallName name) ∧ smallName other = smallName name ++ "Value"

/-- Whether two columns come to one property name. -/
def SharesProperty (name other : String) : Prop :=
  smallName name = smallName other ∨ TakesProperty name other ∨ TakesProperty other name

instance (name other : String) : Decidable (TakesProperty name other) :=
  inferInstanceAs (Decidable (_ ∧ _))

instance (name other : String) : Decidable (SharesProperty name other) :=
  inferInstanceAs (Decidable (_ ∨ _))

theorem propertyName_eq_iff (name other : String) :
    propertyName name = propertyName other ↔ SharesProperty name other := avoidKeyword_inj

theorem sharesProperty_iff {name other : String} (hname : IsAscii name) (hother : IsAscii other) :
    SharesProperty name other ↔ columnWords name = columnWords other ∨
      TakesWords (columnWords name) (columnWords other) ∨
        TakesWords (columnWords other) (columnWords name) := by
  have hname := isWritten_smallName hname
  have hother := isWritten_smallName hother
  rw [SharesProperty, TakesProperty, TakesProperty, takesWords_iff hname hother,
    takesWords_iff hother hname, hname.inj hother]

/-! ### Names of accessors -/

theorem exists_propertyName_eq_cons {name : String} (hname : IsAscii name)
    (hne : propertyName name ≠ "") :
    ∃ c rest, (propertyName name).toList = c :: rest ∧ c.isLower := by
  have hempty : smallName name ≠ "" := by
    intro hempty
    rw [propertyName_eq, hempty] at hne
    exact hne (by decide)
  obtain ⟨c, rest, hchars, hlower⟩ := exists_smallName_eq_cons hname hempty
  rw [propertyName_eq, avoidKeyword]
  split
  · exact ⟨c, rest ++ "Value".toList, by rw [String.toList_append, hchars, List.cons_append], hlower⟩
  · exact ⟨c, rest, hchars, hlower⟩

theorem accessorName_inj {name other : String} (hname : IsAscii name) (hother : IsAscii other)
    (hne : propertyName name ≠ "") (hne' : propertyName other ≠ "") :
    accessorName (propertyName name) = accessorName (propertyName other) ↔
      propertyName name = propertyName other := by
  constructor
  · intro h
    obtain ⟨c, rest, hchars, hlower⟩ := exists_propertyName_eq_cons hname hne
    obtain ⟨d, rest', hchars', hlower'⟩ := exists_propertyName_eq_cons hother hne'
    obtain ⟨hupper, -, hback⟩ := upperChar_of_isLower hlower
    obtain ⟨hupper', -, hback'⟩ := upperChar_of_isLower hlower'
    rw [accessorName, accessorName, String.ofList_inj, hchars, hchars', withCapital, withCapital,
      hupper, hupper', List.singleton_append, List.singleton_append, List.cons.injEq] at h
    obtain ⟨hfirst, rfl⟩ := h
    rw [hfirst, hback'] at hback
    obtain rfl := List.singleton_inj.mp hback
    rw [← String.toList_inj, hchars, hchars']
  · rintro h
    rw [h]

end Naming

/-! ### Columns of a table -/

def Column.IsBuilt (column : Column) : Prop := ∃ draft : ColumnDraft, draft.build = .ok column

theorem Column.IsBuilt.propertyName_eq {column : Column} (h : column.IsBuilt) :
    column.propertyName = Naming.propertyName column.name ∧ column.propertyName ≠ "" := by
  obtain ⟨draft, hbuild⟩ := h
  obtain ⟨hname, rfl⟩ := (draft.build_eq_ok_iff column).mp hbuild
  rw [draft.column_propertyName, draft.column_name, Naming.propertyName_stripQuotes]
  exact ⟨rfl, hname⟩

theorem nodup_map_iff {α β γ : Type} {f : α → β} {g : α → γ} {items : List α}
    (h : ∀ a ∈ items, ∀ b ∈ items, f a = f b ↔ g a = g b) :
    (items.map f).Nodup ↔ (items.map g).Nodup := by
  rw [List.Nodup, List.Nodup, List.pairwise_map, List.pairwise_map]
  exact List.Pairwise.iff_of_mem fun ha hb => not_congr (h _ ha _ hb)

/-- The entity of a table declares one field for each column, and two methods with its name unless a
library does. The names differ exactly when no two columns share a property, that is, have the same
words or are a reserved word and the same word with `value` behind it. -/
theorem property_names_differ_iff {rawName : String} {comment : Option String}
    {columns : List Column} {table : Table}
    (hbuilt : ∀ column ∈ columns, column.IsBuilt)
    (htable : Table.make rawName comment columns = .ok table) :
    (∀ project : Project, ∃ content, Renders project table .entity content ∧
        DeclaresMembers project.stack table.columns content) ∧
      ((table.columns.map (·.propertyName)).Nodup ↔ table.columns.Pairwise fun first second =>
        ¬SharesProperty first.name second.name) ∧
      ((∀ column ∈ table.columns, IsAscii column.name) →
        ((table.columns.map fun column => accessorName column.propertyName).Nodup ↔
          (table.columns.map (·.propertyName)).Nodup)) ∧
      ∀ first ∈ table.columns, ∀ second ∈ table.columns, IsAscii first.name → IsAscii second.name →
        (SharesProperty first.name second.name ↔
          columnWords first.name = columnWords second.name ∨
            TakesWords (columnWords first.name) (columnWords second.name) ∨
            TakesWords (columnWords second.name) (columnWords first.name)) := by
  obtain ⟨-, rfl⟩ := (Table.make_eq_ok_iff _ _ _ _).mp htable
  rw [Table.of_columns]
  refine ⟨?_, ?_, ?_, fun first _ second _ => sharesProperty_iff⟩
  · intro project
    obtain ⟨content, hcontent, hmembers⟩ :=
      exists_entity_members project (Table.of rawName comment columns)
    rw [Table.of_columns] at hmembers
    exact ⟨content, hcontent, hmembers⟩
  · rw [List.Nodup, List.pairwise_map]
    refine List.Pairwise.iff_of_mem fun {first second} hfirst hsecond => ?_
    rw [ne_eq, (hbuilt first hfirst).propertyName_eq.1, (hbuilt second hsecond).propertyName_eq.1,
      propertyName_eq_iff]
  · intro hascii
    refine nodup_map_iff fun first hfirst second hsecond => ?_
    obtain ⟨hname, hne⟩ := (hbuilt first hfirst).propertyName_eq
    obtain ⟨hname', hne'⟩ := (hbuilt second hsecond).propertyName_eq
    rw [hname] at hne ⊢
    rw [hname'] at hne' ⊢
    exact accessorName_inj (hascii first hfirst) (hascii second hsecond) hne hne'

def textColumns (names : List String) : List Column :=
  names.map fun name => ColumnDraft.column { name, baseType := "varchar(50)" }

theorem isBuilt_textColumns {names : List String}
    (hnames : ∀ name ∈ names, Naming.propertyName name ≠ "") :
    ∀ column ∈ textColumns names, column.IsBuilt := by
  rw [textColumns, List.forall_mem_map]
  intro name hname
  refine ⟨{ name, baseType := "varchar(50)" }, ?_⟩
  rw [ColumnDraft.build_eq_ok_iff]
  exact ⟨hnames name hname, rfl⟩

theorem property_names_differ_customer :
    let columns := textColumns ["line_1", "line_2", "class", "zip_code"]
    let customer := Table.of "customer" none columns
    (∀ column ∈ columns, column.IsBuilt) ∧ Table.make "customer" none columns = .ok customer ∧
      (customer.columns.map (·.propertyName)).Nodup := by
  intro columns customer
  have hbuilt : ∀ column ∈ columns, column.IsBuilt :=
    isBuilt_textColumns (by decide)
  have htable : Table.make "customer" none columns = .ok customer :=
    (Table.make_eq_ok_iff _ _ _ _).mpr ⟨by decide, rfl⟩
  obtain ⟨-, hnodup, -, -⟩ := property_names_differ_iff hbuilt htable
  exact ⟨hbuilt, htable, hnodup.mpr (by decide)⟩

def HoldsTwice (content : String) (chars : List Char) : Prop :=
  ∃ front middle back, content.toList = front ++ chars ++ middle ++ chars ++ back

theorem DeclaresMembers.holdsTwice {stack : Stack} {first second : Column} {others : List Column}
    {content : String} (h : DeclaresMembers stack (first :: second :: others) content)
    (hline : fieldLine first = fieldLine second) : HoldsTwice content (fieldLine first) := by
  obtain ⟨front, fields, hcontent, hfields⟩ := h
  rw [List.forall₂_cons_left_iff] at hfields
  obtain ⟨field, others, ⟨lead, rfl⟩, hothers, rfl⟩ := hfields
  rw [List.forall₂_cons_left_iff] at hothers
  obtain ⟨field', others', ⟨lead', rfl⟩, -, rfl⟩ := hothers
  rw [← hline, List.flatten_cons, List.flatten_cons, List.append_assoc (front ++ _)] at hcontent
  generalize _ ++ "\x7d\n".toList = methods at hcontent
  refine ⟨front ++ lead, lead', others'.flatten ++ methods, ?_⟩
  rw [hcontent]
  simp only [List.append_assoc]

/-- The first line of an address may be two columns, which are one field of the entity. -/
theorem address_lines_share_field :
    let columns := textColumns ["address1", "address_1"]
    let customer := Table.of "customer" none columns
    (∀ column ∈ columns, column.IsBuilt) ∧ Table.make "customer" none columns = .ok customer ∧
      (customer.columns.map fun column => Text.lower column.name).Nodup ∧
      customer.columns.map (·.propertyName) = ["address1", "address1"] ∧
      ∃ content, Renders shop customer .entity content ∧
        HoldsTwice content "\n    private String address1;\n".toList := by
  intro columns customer
  have hbuilt : ∀ column ∈ columns, column.IsBuilt := isBuilt_textColumns (by decide)
  have htable : Table.make "customer" none columns = .ok customer :=
    (Table.make_eq_ok_iff _ _ _ _).mpr ⟨by decide, rfl⟩
  obtain ⟨content, hcontent, hmembers⟩ := exists_entity_members shop customer
  have htwice := hmembers.holdsTwice (by decide)
  refine ⟨hbuilt, htable, by decide, by decide, content, hcontent, ?_⟩
  convert htwice using 1
  decide

end SchemaScaffold
