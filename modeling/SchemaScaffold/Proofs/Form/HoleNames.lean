import SchemaScaffold.Proofs.CamelCase
import SchemaScaffold.Proofs.Form.Elements
import SchemaScaffold.Proofs.Java.Tokens
import SchemaScaffold.Proofs.PrintableNames
import SchemaScaffold.Proofs.Tables

namespace SchemaScaffold

def isIdentifierChar (c : Char) : Bool := Text.isAlphanumeric c || c == '_' || c == '$'

def IsIdentifier (name : String) : Prop := name.toList.all isIdentifierChar

instance (name : String) : Decidable (IsIdentifier name) :=
  inferInstanceAs (Decidable (name.toList.all isIdentifierChar = true))

namespace Form

open Java (State kind)

def isGapChar (c : Char) : Bool := Text.isNameChar c || ['_', '$', '.', '[', ']'].contains c

structure NamesPlainly (column : Column) : Prop where
  name : column.name.toList.all isGapChar
  property : column.propertyName.toList.all isGapChar

structure HasPlainNames (focus : Focus) : Prop where
  packageName : Validation.packageName focus.project.packageName = .ok ()
  tableName : IsIdentifier focus.table.name
  className : ∃ raw, focus.table.className = Naming.typeName raw
  className_ne : focus.table.className ≠ ""
  columns : ∀ column ∈ focus.column :: focus.table.columns, NamesPlainly column

theorem isGapChar_of_isNameChar {c : Char} (h : Text.isNameChar c) : isGapChar c := by
  rw [isGapChar, h, Bool.true_or]

theorem all_isGapChar_of_isIdentifier {name : String} (h : IsIdentifier name) :
    name.toList.all isGapChar := by
  rw [List.all_eq_true]
  intro c hc
  have hletter := List.all_eq_true.mp h c hc
  simp only [isIdentifierChar, Bool.or_eq_true, beq_iff_eq] at hletter
  rcases hletter with (hletter | rfl) | rfl
  · exact isGapChar_of_isNameChar (Text.isNameChar_of_isAlphanumeric hletter)
  · decide
  · decide

theorem namesPlainly_of_isBuilt {column : Column} (hname : IsIdentifier column.name)
    (hproperty : column.propertyName = Naming.propertyName column.name) : NamesPlainly column := by
  refine ⟨all_isGapChar_of_isIdentifier hname, ?_⟩
  rw [hproperty, List.all_eq_true]
  exact fun c hc => isGapChar_of_isNameChar (Naming.isNameChar_of_mem_propertyName hc)

/-- A text that is printed when it is there, and another one if not. -/
theorem all_isGapChar_choice {focus : Focus} {datum : Datum} {name? : Option String}
    (hdatum : datum.value focus = .optText name?) (h : ∀ name ∈ name?, name.toList.all isGapChar)
    {other : Term} (hother : (other.text focus).toList.all isGapChar) :
    ((Term.choice (.data datum) (.data datum) other).text focus).toList.all isGapChar := by
  rw [Term.text_choice, Term.holds, Term.value, hdatum]
  cases name? with
  | none => exact hother
  | some name =>
      split
      · rw [Term.text, Term.value, hdatum]
        exact h name rfl
      · exact hother

theorem all_isGapChar_id {focus : Focus} :
    ((Term.constant (.text "id")).text focus).toList.all isGapChar := by
  show "id".toList.all isGapChar
  decide

section

variable {focus : Focus} (hplain : HasPlainNames focus)
include hplain

theorem isNameChar_className {c : Char} (hc : c ∈ focus.table.className.toList) :
    Text.isNameChar c := by
  obtain ⟨raw, hraw⟩ := hplain.className
  rw [hraw, Naming.typeName, String.toList_ofList] at hc
  exact Naming.isNameChar_of_mem_typeNameList hc

theorem exists_className_eq_cons :
    ∃ c rest, focus.table.className.toList = c :: rest ∧ c.isLower = false := by
  obtain ⟨raw, hraw⟩ := hplain.className
  have hne := hplain.className_ne
  rw [hraw, Naming.typeName] at hne ⊢
  rw [String.toList_ofList]
  refine Naming.exists_typeNameList_eq_cons ?_
  intro hnil
  rw [hnil] at hne
  exact hne rfl

theorem namesPlainly_primaryKey {column : Column} (h : focus.table.primaryKey = some column) :
    NamesPlainly column := by
  obtain ⟨name, -, hfind⟩ := Option.bind_eq_some_iff.mp h
  exact hplain.columns column (List.mem_cons_of_mem _ (List.mem_of_find?_eq_some hfind))

theorem hasPlainNames_atColumns {keep : Term} {place : Focus} (h : place ∈ focus.atColumns keep) :
    HasPlainNames place := by
  obtain ⟨column, hkept, index, rfl⟩ := mem_places h
  have hcolumn : column ∈ focus.table.columns := List.mem_of_mem_filter hkept
  refine { hplain with columns := ?_ }
  intro other hother
  rcases List.mem_cons.mp hother with rfl | hother
  · exact hplain.columns _ (List.mem_cons_of_mem _ hcolumn)
  · exact hplain.columns _ (List.mem_cons_of_mem _ hother)

/-- What fills a gap other than that of a comment is made of the characters of names. -/
theorem all_isGapChar_fill {hole : Hole} (hhole : hole ≠ .comment) :
    (hole.fill focus).all isGapChar := by
  cases hole with
  | comment => exact absurd rfl hhole
  | packageName =>
      rw [List.all_eq_true]
      intro c hc
      rcases Validation.isNameChar_of_packageName hplain.packageName hc with hname | rfl | rfl
      · exact isGapChar_of_isNameChar hname
      · decide
      · decide
  | className =>
      rw [List.all_eq_true]
      exact fun c hc => isGapChar_of_isNameChar (isNameChar_className hplain hc)
  | instanceName =>
      rw [List.all_eq_true]
      exact fun c hc => isGapChar_of_isNameChar (Naming.isNameChar_of_mem_instanceName hc)
  | keyType =>
      show focus.table.primaryKeyType.source.toList.all isGapChar
      cases focus.table.primaryKeyType <;> decide
  | tableName => exact all_isGapChar_of_isIdentifier hplain.tableName
  | columnName => exact (hplain.columns _ List.mem_cons_self).name
  | propertyName => exact (hplain.columns _ List.mem_cons_self).property
  | keyColumn =>
      refine all_isGapChar_choice rfl (fun name hname => ?_) all_isGapChar_id
      obtain ⟨column, hcolumn, rfl⟩ := Option.map_eq_some_iff.mp hname
      exact (namesPlainly_primaryKey hplain hcolumn).name
  | keyProperty =>
      refine all_isGapChar_choice rfl (fun name hname => ?_) all_isGapChar_id
      obtain ⟨column, hcolumn, rfl⟩ := Option.map_eq_some_iff.mp hname
      exact (namesPlainly_primaryKey hplain hcolumn).property

end

/-! ### Markup -/

theorem ne_of_isGapChar {c d : Char} (hc : isGapChar c) (hd : isGapChar d = false) : c ≠ d := by
  rintro rfl
  rw [hc] at hd
  cases hd

theorem fillsInertly {focus : Focus} (hplain : HasPlainNames focus) : FillsInertly focus := by
  intro hole hstand
  rw [mayStandInMarkup, bne_iff_ne] at hstand
  have hchars := all_isGapChar_fill hplain hstand
  rw [List.all_eq_true] at hchars ⊢
  intro c hc
  have hbracket := ne_of_isGapChar (hchars c hc) (d := '<') (by decide)
  have hquote := ne_of_isGapChar (hchars c hc) (d := '"') (by decide)
  simp [Markup.isInert, hbracket, hquote]

/-! ### Java sources -/

/-- Names stand in code, in block comments and in strings. Where there are comments of tables at all,
these stand in strings. -/
def mayStandInJava (commented : Bool) (hole : Hole) (state : State) : Bool :=
  if hole = .comment then commented && state = .inString
  else [State.start, .inBlock, .inString].contains state

def isOneWord (hole : Hole) : Bool := [Hole.className, .instanceName, .keyType].contains hole

/-- Words that are no modifiers, whatever the names in them. -/
def isClear (word : List (Letter Hole)) : Bool :=
  word = [.gap .className] || word = [.gap .keyType] || word.any Letter.isUpper

def javaRules (commented : Bool) : Java.GapRules Hole where
  mayStand := mayStandInJava commented
  isName := isOneWord
  isClear := isClear

theorem run_start {chars : List Char} (h : chars.all isGapChar) :
    State.start.run chars = (.start, chars) := by
  induction chars with
  | nil => rfl
  | cons c rest ih =>
      rw [List.all_cons, Bool.and_eq_true] at h
      have hread : State.start.read c = (.start, [c]) := by
        have hescape := ne_of_isGapChar h.1 (d := '\\') (by decide)
        have hslash := ne_of_isGapChar h.1 (d := '/') (by decide)
        have hquote := ne_of_isGapChar h.1 (d := '"') (by decide)
        have happ := ne_of_isGapChar h.1 (d := '\'') (by decide)
        simp [State.read, State.start, State.readNext, State.plain, Java.Mode.read,
          Java.Mode.readCode, hescape, hslash, hquote, happ]
      rw [State.run_cons, hread, ih h.2]
      rfl

theorem all_isOrdinary {chars : List Char} (h : chars.all isGapChar) :
    chars.all Java.Harmless.isOrdinary := by
  rw [List.all_eq_true] at h ⊢
  intro c hc
  have hothers : ['"', '\\', '\n', '\r', '*'].all fun d => !isGapChar d := by decide
  rw [Java.Harmless.isOrdinary, Bool.not_eq_true', List.contains_eq_mem, decide_eq_false_iff_not]
  intro hmem
  have hother := List.all_eq_true.mp hothers c hmem
  rw [h c hc] at hother
  cases hother

theorem kind_of_isGapChar {c : Char} (h : isGapChar c) (hdot : c ≠ '.') : kind c = .letter := by
  by_cases hascii : c.toNat < 0x80
  · exact Text.forall_ascii (p := fun c => isGapChar c → c ≠ '.' → kind c = .letter)
      (by decide) hascii h hdot
  · have hblank : [' ', '\t', '\n', '\r', '\x0c'].contains c = false := by
      rw [List.contains_eq_mem, decide_eq_false_iff_not]
      intro hmem
      have hall : [' ', '\t', '\n', '\r', '\x0c'].all (·.toNat < 0x80) := by decide
      exact hascii (of_decide_eq_true (List.all_eq_true.mp hall c hmem))
    have hlarge : 0x80 ≤ c.toNat := by omega
    rw [kind, hblank]
    simp [hlarge]

section

variable {focus : Focus} (hplain : HasPlainNames focus)
include hplain

theorem kind_of_isOneWord {hole : Hole} (h : isOneWord hole) {c : Char} (hc : c ∈ hole.fill focus) :
    kind c = .letter := by
  have hcomment : hole ≠ .comment := by
    rintro rfl
    cases h
  have hgap := List.all_eq_true.mp (all_isGapChar_fill hplain hcomment) c hc
  refine kind_of_isGapChar hgap ?_
  rintro rfl
  cases hole with
  | className => exact absurd (isNameChar_className hplain hc) (by decide)
  | instanceName => exact absurd (Naming.isNameChar_of_mem_instanceName hc) (by decide)
  | keyType =>
      have hdot : ∀ type : JavaType, '.' ∉ type.source.toList := by
        intro type
        cases type <;> decide
      exact hdot _ hc
  | _ => cases h

theorem isClear_className : Hole.fill focus .className ≠ [] ∧
    Java.modifiers.contains (Hole.fill focus .className) = false := by
  obtain ⟨c, rest, hname, hlower⟩ := exists_className_eq_cons hplain
  have hfill : Hole.fill focus .className = c :: rest := hname
  have hmodifiers : ∀ modifier ∈ Java.modifiers, modifier.head?.any Char.isLower := by decide
  rw [hfill]
  refine ⟨List.cons_ne_nil _ _, ?_⟩
  rw [List.contains_eq_mem, decide_eq_false_iff_not]
  intro hmem
  have hfirst := hmodifiers _ hmem
  rw [List.head?_cons, Option.any_some, hlower] at hfirst
  cases hfirst

omit hplain in
theorem isClear_keyType : Hole.fill focus .keyType ≠ [] ∧
    Java.modifiers.contains (Hole.fill focus .keyType) = false := by
  show focus.table.primaryKeyType.source.toList ≠ [] ∧
    Java.modifiers.contains focus.table.primaryKeyType.source.toList = false
  cases focus.table.primaryKeyType <;> decide

/-- The names in the gaps obey the rules, so long as the comment of the table stays in its string. -/
theorem obeys {commented : Bool}
    (hcomment : commented → State.inString.run (Hole.fill focus .comment) = (.inString, [])) :
    (javaRules commented).Obeys (Hole.fill focus) := by
  constructor
  · intro hole state hstand
    by_cases hhole : hole = .comment
    · subst hhole
      obtain ⟨hcommented, hstring⟩ := Bool.and_eq_true_iff.mp hstand
      obtain rfl := of_decide_eq_true hstring
      exact hcomment hcommented
    · have hgap := all_isGapChar_fill hplain hhole
      have hstates : state ∈ [State.start, .inBlock, .inString] := by
        simpa [javaRules, mayStandInJava, hhole] using hstand
      simp only [List.mem_cons, List.not_mem_nil, or_false] at hstates
      rcases hstates with rfl | rfl | rfl
      · exact run_start hgap
      · exact Java.Harmless.run_inBlock_ordinary (all_isOrdinary hgap)
      · exact Java.Harmless.run_inString_ordinary (all_isOrdinary hgap)
  · intro hole hstand hbrace
    have hhole : hole ≠ .comment := by
      rintro rfl
      exact absurd (Bool.and_eq_true_iff.mp hstand).2 (by decide)
    have hgap := List.all_eq_true.mp (all_isGapChar_fill hplain hhole) _ hbrace
    exact absurd hgap (by decide)
  · intro hole hword c hc
    exact kind_of_isOneWord hplain hword hc
  · intro word hclear
    simp only [javaRules, isClear, Bool.or_eq_true, decide_eq_true_eq] at hclear
    rcases hclear with (rfl | rfl) | hupper
    · simpa [Letter.chars] using isClear_className hplain
    · simpa [Letter.chars] using isClear_keyType
    · obtain ⟨letter, hletter, hupper⟩ := List.any_eq_true.mp hupper
      cases letter with
      | gap => cases hupper
      | char c =>
          have hmem : c ∈ Letter.filled (Hole.fill focus) word :=
            List.mem_flatMap.mpr ⟨_, hletter, List.mem_singleton_self c⟩
          refine ⟨List.ne_nil_of_mem hmem, ?_⟩
          have hmodifiers : Java.modifiers.all fun modifier => modifier.all (!·.isUpper) := by
            decide
          rw [List.contains_eq_mem, decide_eq_false_iff_not]
          intro hmodifier
          have hlower := List.all_eq_true.mp (List.all_eq_true.mp hmodifiers _ hmodifier) c hmem
          rw [Letter.isUpper] at hupper
          rw [hupper] at hlower
          cases hlower

end

end Form

end SchemaScaffold
