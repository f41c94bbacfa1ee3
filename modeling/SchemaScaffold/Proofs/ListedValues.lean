import SchemaScaffold.Proofs.DeclaredColumns
import SchemaScaffold.Proofs.TypeArguments

/-!
# Types with listed values

The values of an `ENUM` or a `SET` are the arguments of the type, and blanks are dropped from
arguments without regard to what is quoted. So a value with a blank in it is not kept as it was
printed, and two lists are told apart only by what is left of their values. That much does tell them
apart. An apostrophe behind a backslash may close a value or stand in it; whoever takes it wrongly is
outside of a value wherever a right reading is inside of one, from there on to the end of the list,
so no list can be read in two ways.
-/

namespace SchemaScaffold

open SchemaScaffold.Text

namespace Sql

/-! ### What stands between apostrophes -/

/-- A text that may stand between the apostrophes of a literal that is printed. The apostrophes in it
come in pairs, except for those behind a backslash, which is where the text begins if it is
`escaped`. -/
inductive Enclosed : Bool → List Char → Prop where
  | nil {escaped : Bool} : Enclosed escaped []
  | char {escaped : Bool} {c : Char} {rest : List Char} (hc : c ≠ '\'')
      (hrest : Enclosed (c == '\\') rest) : Enclosed escaped (c :: rest)
  | pair {rest : List Char} (hrest : Enclosed false rest) : Enclosed false ('\'' :: '\'' :: rest)
  | single {rest : List Char} (hrest : Enclosed true rest) : Enclosed true ('\'' :: rest)

theorem Enclosed.of_false {text : List Char} (h : Enclosed false text) : Enclosed true text := by
  generalize hescaped : false = escaped at h
  induction h with
  | nil => exact .nil
  | char hc hrest _ => exact .char hc hrest
  | pair _ ih => exact .single (.single (ih rfl))
  | single => cases hescaped

theorem Enclosed.escaped {escaped : Bool} {text : List Char} (h : Enclosed false text) :
    Enclosed escaped text := by
  cases escaped with
  | false => exact h
  | true => exact h.of_false

theorem enclosed_escapeQuotes (before : Char) (text : List Char) :
    Enclosed (before == '\\') (Literal.escapeQuotes '\'' before text) := by
  fun_induction Literal.escapeQuotes '\'' before text with
  | case1 => exact .nil
  | case2 before c hc =>
      obtain ⟨rfl, hbefore⟩ : c = '\'' ∧ before ≠ '\\' := by simpa using hc
      rw [beq_eq_false_iff_ne.mpr hbefore]
      exact .pair .nil
  | case3 before c hc =>
      by_cases hquote : c = '\''
      · obtain rfl : before = '\\' := by simpa [hquote] using hc
        rw [hquote]
        exact .single .nil
      · exact .char hquote .nil
  | case4 before c d rest hc hbefore ih =>
      obtain rfl := beq_iff_eq.mp hc
      rw [hbefore] at ih ⊢
      exact .single ih
  | case5 before c d rest hc hbefore hd ih =>
      obtain rfl := beq_iff_eq.mp hc
      obtain rfl := beq_iff_eq.mp hd
      rw [eq_false_of_ne_true hbefore]
      exact .pair ih
  | case6 before c d rest hc hbefore hd ih =>
      obtain rfl := beq_iff_eq.mp hc
      rw [eq_false_of_ne_true hbefore]
      exact .pair ih
  | case7 before c d rest hc ih => exact .char (by simpa using hc) ih

/-- Leaving characters out keeps the apostrophes in pairs, if it keeps backslashes. -/
theorem Enclosed.filter {p : Char → Bool} (hquote : p '\'' = true) (hslash : p '\\' = true)
    {escaped : Bool} {text : List Char} (h : Enclosed escaped text) :
    Enclosed escaped (text.filter p) := by
  induction h with
  | nil => exact .nil
  | @char escaped c rest hc _ ih =>
      cases hkept : p c with
      | true =>
          rw [List.filter_cons_of_pos hkept]
          exact .char hc ih
      | false =>
          have hne : c ≠ '\\' := by
            rintro rfl
            simp [hslash] at hkept
          rw [List.filter_cons_of_neg (by simp [hkept])]
          rw [beq_eq_false_iff_ne.mpr hne] at ih
          exact ih.escaped
  | pair _ ih =>
      rw [List.filter_cons_of_pos hquote, List.filter_cons_of_pos hquote]
      exact .pair ih
  | single _ ih =>
      rw [List.filter_cons_of_pos hquote]
      exact .single ih

/-! ### Lists of values -/

def moreValues : List (List Char) → List Char
  | [] => []
  | value :: rest => ',' :: '\'' :: (value ++ '\'' :: moreValues rest)

/-- A text that begins where a value may be closed. -/
def Outside (text : List Char) : Prop :=
  ∃ values, (∀ value ∈ values, Enclosed false value) ∧ text = moreValues values

/-- A text that begins in a value, which goes on as one that is `escaped` or is not. -/
def Inside (escaped : Bool) (text : List Char) : Prop :=
  ∃ value after, Enclosed escaped value ∧ Outside after ∧ text = value ++ '\'' :: after

theorem Outside.eq_nil_or {text : List Char} (h : Outside text) :
    text = [] ∨ ∃ rest, text = ',' :: '\'' :: rest ∧ Inside false rest := by
  obtain ⟨values, hvalues, rfl⟩ := h
  cases values with
  | nil => exact .inl rfl
  | cons value others =>
      obtain ⟨hvalue, hothers⟩ := List.forall_mem_cons.mp hvalues
      exact .inr ⟨_, rfl, value, _, hvalue, ⟨others, hothers, rfl⟩, rfl⟩

theorem Outside.head_ne {rest : List Char} (h : Outside ('\'' :: rest)) : False := by
  obtain h | ⟨_, h, -⟩ := h.eq_nil_or <;> simp at h

theorem not_inside_nil {escaped : Bool} : ¬Inside escaped [] := by
  rintro ⟨value, after, -, -, h⟩
  simp at h

theorem Inside.of_cons {escaped : Bool} {c : Char} {rest : List Char} (hc : c ≠ '\'')
    (h : Inside escaped (c :: rest)) : Inside (c == '\\') rest := by
  obtain ⟨value, after, hvalue, hafter, htext⟩ := h
  cases hvalue with
  | nil => exact absurd (List.cons.inj htext).1 hc
  | char _ hothers =>
      obtain ⟨rfl, rfl⟩ := List.cons.inj htext
      exact ⟨_, after, hothers, hafter, rfl⟩
  | pair => exact absurd (List.cons.inj htext).1 hc
  | single => exact absurd (List.cons.inj htext).1 hc

/-- Where nothing is escaped, an apostrophe closes the value or begins a pair. -/
theorem Inside.of_quote {rest : List Char} (h : Inside false ('\'' :: rest)) :
    Outside rest ∨ ∃ others, rest = '\'' :: others ∧ Inside false others := by
  obtain ⟨value, after, hvalue, hafter, htext⟩ := h
  cases hvalue with
  | nil =>
      obtain ⟨-, rfl⟩ := List.cons.inj htext
      exact .inl hafter
  | char hc _ => exact absurd (List.cons.inj htext).1.symm hc
  | pair hothers =>
      obtain ⟨-, rfl⟩ := List.cons.inj htext
      exact .inr ⟨_, rfl, _, after, hothers, hafter, rfl⟩

/-- Two readings of a text that once disagree on whether they are in a value go on to disagree. -/
theorem readings_apart (text : List Char) :
    (∀ escaped, Outside text → ¬Inside escaped text) ∧
      (Inside false text → ¬Inside false ('\'' :: text)) := by
  induction hlength : text.length using Nat.strongRecOn generalizing text with
  | ind length ih =>
    subst hlength
    have houter : ∀ escaped, Outside text → ¬Inside escaped text := by
      intro escaped houtside hinside
      obtain rfl | ⟨rest, rfl, hrest⟩ := houtside.eq_nil_or
      · exact not_inside_nil hinside
      obtain hclosed | ⟨others, rfl, hothers⟩ := (hinside.of_cons (by decide)).of_quote
      · exact (ih rest.length (by simp only [List.length_cons]; omega) rest rfl).1 false hclosed hrest
      · exact (ih others.length (by simp only [List.length_cons]; omega) others rfl).2 hothers hrest
    refine ⟨houter, fun hinside hquoted => ?_⟩
    obtain hclosed | ⟨others, rfl, hothers⟩ := hquoted.of_quote
    · exact houter false hclosed hinside
    · exact (ih others.length (by simp) others rfl).2 hothers hinside

theorem Enclosed.unique {escaped : Bool} {value other after rest : List Char}
    (hvalue : Enclosed escaped value) (hother : Enclosed escaped other) (hafter : Outside after)
    (hrest : Outside rest) (h : value ++ '\'' :: after = other ++ '\'' :: rest) :
    value = other ∧ after = rest := by
  induction hvalue generalizing other with
  | nil =>
      cases hother with
      | nil => exact ⟨rfl, (List.cons.inj h).2⟩
      | char hc _ => exact absurd (List.cons.inj h).1.symm hc
      | pair _ =>
          obtain ⟨-, rfl⟩ := List.cons.inj h
          exact hafter.head_ne.elim
      -- The apostrophe closes one value and goes on in the other, and such readings never meet.
      | single hothers =>
          obtain ⟨-, rfl⟩ := List.cons.inj h
          exact absurd ⟨_, rest, hothers, hrest, rfl⟩ ((readings_apart _).1 true hafter)
  | char hc _ ih =>
      cases hother with
      | nil => exact absurd (List.cons.inj h).1 hc
      | char _ hothers =>
          obtain ⟨rfl, htail⟩ := List.cons.inj h
          exact (ih hothers htail).imp_left (congrArg _)
      | pair _ => exact absurd (List.cons.inj h).1 hc
      | single _ => exact absurd (List.cons.inj h).1 hc
  | pair _ ih =>
      cases hother with
      | nil =>
          obtain ⟨-, rfl⟩ := List.cons.inj h
          exact hrest.head_ne.elim
      | char hc _ => exact absurd (List.cons.inj h).1.symm hc
      | pair hothers =>
          obtain ⟨-, htail⟩ := List.cons.inj h
          exact (ih hothers (List.cons.inj htail).2).imp_left (congrArg fun text => _ :: _ :: text)
  | single hvalues ih =>
      cases hother with
      | nil =>
          obtain ⟨-, rfl⟩ := List.cons.inj h
          exact absurd ⟨_, after, hvalues, hafter, rfl⟩ ((readings_apart _).1 true hrest)
      | char hc _ => exact absurd (List.cons.inj h).1.symm hc
      | single hothers =>
          obtain ⟨-, htail⟩ := List.cons.inj h
          exact (ih hothers htail).imp_left (congrArg _)

theorem moreValues_inj {values others : List (List Char)}
    (hvalues : ∀ value ∈ values, Enclosed false value)
    (hothers : ∀ value ∈ others, Enclosed false value)
    (h : moreValues values = moreValues others) : values = others := by
  induction values generalizing others with
  | nil => cases others with
    | nil => rfl
    | cons => simp [moreValues] at h
  | cons value rest ih => cases others with
    | nil => simp [moreValues] at h
    | cons other more =>
        obtain ⟨hvalue, hrest⟩ := List.forall_mem_cons.mp hvalues
        obtain ⟨hother, hmore⟩ := List.forall_mem_cons.mp hothers
        simp only [moreValues, List.cons.injEq, true_and] at h
        obtain ⟨rfl, htail⟩ := hvalue.unique hother ⟨rest, hrest, rfl⟩ ⟨more, hmore, rfl⟩ h
        rw [ih hrest hmore htail]

def quoted (text : List Char) : List Char := '\'' :: (text ++ ['\''])

theorem cons_intercalate_quoted (value : List Char) (rest : List (List Char)) :
    ',' :: [','].intercalate ((value :: rest).map quoted) = moreValues (value :: rest) := by
  induction rest generalizing value with
  | nil => simp [moreValues, quoted]
  | cons other more ih =>
      rw [List.map_cons, List.map_cons, List.intercalate_cons_cons, ← List.map_cons,
        List.append_assoc, List.singleton_append, ih]
      simp [moreValues, quoted]

theorem intercalate_quoted_inj {values others : List (List Char)}
    (hvalues : ∀ value ∈ values, Enclosed false value)
    (hothers : ∀ value ∈ others, Enclosed false value)
    (h : [','].intercalate (values.map quoted) = [','].intercalate (others.map quoted)) :
    values = others := by
  have hnil : ∀ (value : List Char) (rest : List (List Char)),
      [','].intercalate ((value :: rest).map quoted) ≠ [] := fun value rest hempty => by
    have hmore := cons_intercalate_quoted value rest
    rw [hempty] at hmore
    simp [moreValues] at hmore
  cases values with
  | nil => cases others with
    | nil => rfl
    | cons other more => exact absurd h.symm (hnil other more)
  | cons value rest => cases others with
    | nil => exact absurd h (hnil value rest)
    | cons other more =>
        refine moreValues_inj hvalues hothers ?_
        rw [← cons_intercalate_quoted, ← cons_intercalate_quoted, h]

def listType (word : String) (values : List String) : String :=
  word ++ "(" ++ commaList (values.map (Literal.write '\'')) ++ ")"

def valueList (values : List String) : String := ",".intercalate (values.map (Literal.write '\''))

/-- What is left between its apostrophes of a value that is printed, without blanks. -/
def blankless (value : String) : List Char :=
  (Literal.escapeQuotes '\'' (Char.ofNat 0) value.toList).filter fun c => !isBlank c

theorem enclosed_blankless (value : String) : Enclosed false (blankless value) :=
  (enclosed_escapeQuotes (Char.ofNat 0) value.toList).filter (by decide) (by decide)

theorem filter_intercalate (p : Char → Bool) (separator : List Char) (texts : List (List Char)) :
    (separator.intercalate texts).filter p =
      (separator.filter p).intercalate (texts.map (List.filter p)) := by
  induction texts with
  | nil => rfl
  | cons text rest ih =>
      cases rest with
      | nil => simp
      | cons other more =>
          rw [List.map_cons, List.map_cons, List.intercalate_cons_cons,
            List.intercalate_cons_cons, List.filter_append, List.filter_append, ih, List.map_cons]

theorem mem_intercalate {c : Char} {separator : List Char} (hc : c ∉ separator)
    (texts : List (List Char)) : c ∈ separator.intercalate texts ↔ ∃ text ∈ texts, c ∈ text := by
  induction texts with
  | nil => simp
  | cons text rest ih =>
      cases rest with
      | nil => simp
      | cons other more =>
          rw [List.intercalate_cons_cons, List.mem_append, List.mem_append, ih]
          simp [hc]

theorem mem_escapeQuotes {quote c : Char} (hc : c ≠ quote) (before : Char) (text : List Char) :
    c ∈ Literal.escapeQuotes quote before text ↔ c ∈ text := by
  fun_induction Literal.escapeQuotes quote before text <;> simp_all

theorem forall_mem_valueList {values : List String} :
    (∀ c ∈ (valueList values).toList, isBlank c = false) ↔
      ∀ value ∈ values, ∀ c ∈ value.toList, isBlank c = false := by
  have hmem : ∀ c, isBlank c = true →
      (c ∈ (valueList values).toList ↔ ∃ value ∈ values, c ∈ value.toList) := by
    intro c hc
    have hcomma : c ∉ ",".toList := by
      rintro hmem
      obtain rfl : c = ',' := by simpa using hmem
      exact absurd hc (by decide)
    have hquote : c ≠ '\'' := by
      rintro rfl
      exact absurd hc (by decide)
    rw [valueList, String.toList_intercalate, mem_intercalate hcomma]
    simp [Literal.write, mem_escapeQuotes hquote, hquote]
  constructor
  · intro h value hvalue c hc
    by_contra hblank
    have hin := (hmem c (by simpa using hblank)).mpr ⟨value, hvalue, hc⟩
    exact hblank (h c hin)
  · intro h c hc
    by_contra hblank
    obtain ⟨value, hvalue, hin⟩ := (hmem c (by simpa using hblank)).mp hc
    exact hblank (h value hvalue c hin)

theorem valueList_ne_empty {values : List String} (hne : values ≠ []) : valueList values ≠ "" := by
  cases values with
  | nil => exact absurd rfl hne
  | cons value rest =>
      intro hempty
      have hquote : '\'' ∈ (valueList (value :: rest)).toList := by
        rw [valueList, String.toList_intercalate, mem_intercalate (by decide)]
        exact ⟨_, List.mem_map_of_mem (List.mem_map_of_mem List.mem_cons_self), by
          simp [Literal.write]⟩
      rw [hempty] at hquote
      simp at hquote

theorem toList_without_write (value : String) :
    (without isBlank (Literal.write '\'' value)).toList = quoted (blankless value) := by
  have hquote : isBlank '\'' = false := by decide
  simp [without, Literal.write, quoted, blankless, hquote]

/-- Whatever blanks stand between values, dropping all blanks leaves the same of a list. -/
theorem filter_intercalate_write {separator : String}
    (hseparator : separator.toList.filter (fun c => !isBlank c) = [',']) (values : List String) :
    (separator.intercalate (values.map (Literal.write '\''))).toList.filter (fun c => !isBlank c) =
      [','].intercalate ((values.map blankless).map quoted) := by
  rw [String.toList_intercalate, filter_intercalate, hseparator]
  congr 1
  simp only [List.map_map, List.map_inj_left]
  exact fun value _ => (String.toList_ofList ..).symm.trans (toList_without_write value)

/-- Lists of values are told apart by what is left of them without blanks. -/
theorem without_valueList_inj {values others : List String} :
    without isBlank (valueList values) = without isBlank (valueList others) ↔
      values.map (without isBlank ∘ Literal.write '\'') =
        others.map (without isBlank ∘ Literal.write '\'') := by
  have hlist : ∀ values : List String, (without isBlank (valueList values)).toList =
      [','].intercalate ((values.map blankless).map quoted) := fun values => by
    rw [without, String.toList_ofList, valueList, filter_intercalate_write (by decide)]
  have hvalues : ∀ values : List String,
      (values.map (without isBlank ∘ Literal.write '\'')).map String.toList =
        (values.map blankless).map quoted := fun values => by
    simp only [List.map_map, List.map_inj_left]
    exact fun value _ => toList_without_write value
  have hclosed : ∀ values : List String, ∀ value ∈ values.map blankless, Enclosed false value := by
    intro values value hvalue
    obtain ⟨text, -, rfl⟩ := List.mem_map.mp hvalue
    exact enclosed_blankless text
  constructor
  · intro h
    have hleft : values.map blankless = others.map blankless := by
      refine intercalate_quoted_inj (hclosed values) (hclosed others) ?_
      rw [← hlist, ← hlist, h]
    refine (List.map_inj_right fun _ _ => String.toList_inj.mp).mp ?_
    rw [hvalues, hvalues, hleft]
  · intro h
    rw [← String.toList_inj, hlist, hlist, ← hvalues, ← hvalues, h]

end Sql

namespace Schema

open Sql (ColumnDef listType valueList)

theorem filter_trimList (text : List Char) :
    (trimList text).filter (fun c => !isBlank c) = text.filter fun c => !isBlank c := by
  obtain ⟨before, after, htext, hbefore, hafter⟩ := exists_blanks_around text
  have hdropped : ∀ blanks : List Char, (∀ c ∈ blanks, isBlank c) →
      blanks.filter (fun c => !isBlank c) = [] := by
    intro blanks hblanks
    simpa [List.filter_eq_nil_iff] using hblanks
  conv_rhs => rw [htext, List.filter_append, List.filter_append, hdropped before hbefore,
    hdropped after hafter, List.nil_append, List.append_nil]

def listWords : List String := ["ENUM", "SET"]

theorem splitType_listType {word : String} (hword : word ∈ listWords) (values : List String) :
    splitType (listType word values).toList = (word.toList,
      some (trimList (Sql.commaList (values.map (Sql.Literal.write '\''))).toList)) := by
  have hopen : ∀ word ∈ listWords, '(' ∉ word.toList ∧ trimList word.toList = word.toList := by
    decide
  obtain ⟨hfree, htrim⟩ := hopen word hword
  have hchars : (listType word values).toList = word.toList ++ '(' ::
      ((Sql.commaList (values.map (Sql.Literal.write '\''))).toList ++ ')' :: []) := by
    simp [listType, String.toList_append]
  rw [hchars, splitType_arguments hfree (by simp), htrim]

/-- What is recorded of a list of values is the list without blanks. -/
theorem arguments?_declaredArguments {declaration : ColumnDef} {word : String}
    {values : List String} (hword : word ∈ listWords)
    (htype : declaration.dataType = listType word values) :
    (declaredArguments declaration).bind ColumnDraft.arguments? =
      ColumnDraft.arguments? (valueList values) := by
  have hkept : without isBlank (String.ofList (trimList
      (Sql.commaList (values.map (Sql.Literal.write '\''))).toList)) =
        without isBlank (valueList values) := by
    rw [without, without, String.toList_ofList, filter_trimList, Sql.commaList, valueList,
      Sql.filter_intercalate_write (by decide), Sql.filter_intercalate_write (by decide)]
  rw [declaredArguments, htype, splitType_listType hword, Option.map_some, Option.bind_some,
    ColumnDraft.arguments?, hkept, ColumnDraft.arguments?]

theorem isRecordOf_of_build {declaration : ColumnDef} {late : Option String} {column : Column}
    (hbuild : (columnDraft declaration late).build = .ok column) :
    column.IsRecordOf (String.ofList (splitType declaration.dataType.toList).1) := by
  obtain ⟨-, rfl⟩ := (ColumnDraft.build_eq_ok_iff _ _).mp hbuild
  rw [columnDraft_eq_setAll, ColumnDraft.setAll_start]
  exact (ColumnDraft.isClean_ofLast _ _ _).isRecordOf

theorem length_of_listType {declaration : ColumnDef} {late : Option String} {column : Column}
    {word : String} {values : List String} (hword : word ∈ listWords)
    (htype : declaration.dataType = listType word values)
    (hbuild : (columnDraft declaration late).build = .ok column) :
    column.length = ColumnDraft.arguments? (valueList values) := by
  obtain ⟨-, rfl⟩ := (ColumnDraft.build_eq_ok_iff _ _).mp hbuild
  rw [ColumnDraft.column, length_columnDraft, arguments?_declaredArguments hword htype]

theorem arguments?_inj {arguments others : String} :
    ColumnDraft.arguments? arguments = ColumnDraft.arguments? others ↔
      without isBlank arguments = without isBlank others := by
  simp only [ColumnDraft.arguments?]
  split <;> rename_i hleft <;> split <;> rename_i hright
  · rw [String.isEmpty_iff] at hleft hright
    simp only [hleft, hright]
  · rw [String.isEmpty_iff] at hleft hright
    exact iff_of_false (by simp) fun h => hright (h.symm.trans hleft)
  · rw [String.isEmpty_iff] at hleft hright
    exact iff_of_false (by simp) fun h => hleft (h.trans hright)
  · rw [Option.some.injEq]

theorem arguments?_eq_some_self_iff {arguments : String} :
    ColumnDraft.arguments? arguments = some arguments ↔
      arguments ≠ "" ∧ ∀ c ∈ arguments.toList, isBlank c = false := by
  rw [← without_eq_self_iff]
  constructor
  · intro h
    have hself : without isBlank arguments = arguments := by
      rw [without_eq_self_iff]
      exact (ColumnDraft.of_arguments?_eq_some h).2
    exact ⟨(ColumnDraft.of_arguments?_eq_some h).1, hself⟩
  · rintro ⟨hne, hself⟩
    simp [ColumnDraft.arguments?, hself, hne]

def bracketed : Option String → String
  | some length => "(" ++ length ++ ")"
  | none => ""

theorem bracketed_inj {length other : Option String} :
    bracketed length = bracketed other ↔ length = other := by
  have hchars : ∀ length, (bracketed (some length)).toList = '(' :: (length.toList ++ [')']) :=
    fun length => by simp [bracketed]
  have hnone : (bracketed none).toList = [] := rfl
  rw [← String.toList_inj]
  cases length <;> cases other <;> simp only [hchars, hnone] <;> simp [String.toList_inj]

/-- The words for types of listed values are told apart by their first letters. -/
theorem lower_append_inj {word other : String} (hword : word ∈ listWords)
    (hother : other ∈ listWords) (suffix rest : String) :
    lower (trim word) ++ suffix = lower (trim other) ++ rest ↔ word = other ∧ suffix = rest := by
  have hlower : lower (trim "ENUM") = "enum" ∧ lower (trim "SET") = "set" := by decide +kernel
  simp only [listWords, List.mem_cons, List.not_mem_nil, or_false] at hword hother
  obtain rfl | rfl := hword <;> obtain rfl | rfl := hother <;>
    simp [hlower, ← String.toList_inj]

theorem rawType_of_listType {declaration : ColumnDef} {late : Option String} {column : Column}
    {word : String} {values : List String} (hword : word ∈ listWords)
    (htype : declaration.dataType = listType word values)
    (hbuild : (columnDraft declaration late).build = .ok column) :
    column.rawType =
      lower (trim word) ++ bracketed (ColumnDraft.arguments? (valueList values)) := by
  have hrecord := (isRecordOf_of_build hbuild).rawType
  rw [htype, splitType_listType hword, String.ofList_toList,
    length_of_listType hword htype hbuild] at hrecord
  rw [hrecord]
  cases ColumnDraft.arguments? (valueList values) <;> rfl

/-- The list that is recorded of a type with listed values is the printed list without blanks, those
in its values among them. It is the printed list, but for the blanks behind its commas, exactly when
there are none in its values, and columns with the same word for the type have different types
exactly when their values are printed differently even without blanks. -/
theorem listed_values_recorded_iff {declaration other : ColumnDef} {late late' : Option String}
    {column column' : Column} {word word' : String} {values values' : List String}
    (hword : word ∈ listWords) (hword' : word' ∈ listWords)
    (htype : declaration.dataType = listType word values)
    (htype' : other.dataType = listType word' values')
    (hbuild : (columnDraft declaration late).build = .ok column)
    (hbuild' : (columnDraft other late').build = .ok column') :
    column.length = ColumnDraft.arguments? (valueList values) ∧
      (values ≠ [] → (column.length = some (valueList values) ↔
        ∀ value ∈ values, ∀ c ∈ value.toList, isBlank c = false)) ∧
      (column.rawType = column'.rawType ↔ word = word' ∧
        values.map (without isBlank ∘ Sql.Literal.write '\'') =
          values'.map (without isBlank ∘ Sql.Literal.write '\'')) := by
  have hlength := length_of_listType hword htype hbuild
  refine ⟨hlength, fun hne => ?_, ?_⟩
  · rw [hlength, arguments?_eq_some_self_iff, Sql.forall_mem_valueList]
    exact and_iff_right (Sql.valueList_ne_empty hne)
  · rw [rawType_of_listType hword htype hbuild, rawType_of_listType hword' htype' hbuild',
      lower_append_inj hword hword', bracketed_inj, arguments?_inj, Sql.without_valueList_inj]

/-- One value that reads like two once it is printed, and two values. -/
theorem listed_values_recorded_commas :
    let declaration := plainDeclaration (listType "ENUM" ["(a','b)"])
    let other := plainDeclaration (listType "ENUM" ["(a", "b)"])
    ∃ column column', (columnDraft declaration none).build = .ok column ∧
      (columnDraft other none).build = .ok column' ∧
      column.length = some (valueList ["(a','b)"]) ∧
      column'.length = some (valueList ["(a", "b)"]) ∧ column.rawType ≠ column'.rawType := by
  intro declaration other
  have hbuild := build_plainDeclaration (listType "ENUM" ["(a','b)"])
  have hbuild' := build_plainDeclaration (listType "ENUM" ["(a", "b)"])
  have hword : "ENUM" ∈ listWords := by decide
  obtain ⟨-, hkept, hraw⟩ := listed_values_recorded_iff hword hword rfl rfl hbuild hbuild'
  obtain ⟨-, hkept', -⟩ := listed_values_recorded_iff hword hword rfl rfl hbuild' hbuild
  have hfree : (∀ value ∈ ["(a','b)"], ∀ c ∈ value.toList, isBlank c = false) ∧
      ∀ value ∈ ["(a", "b)"], ∀ c ∈ value.toList, isBlank c = false := by
    simp only [← without_eq_self_iff]
    decide
  refine ⟨_, _, hbuild, hbuild', (hkept (by simp)).mpr hfree.1, (hkept' (by simp)).mpr hfree.2,
    fun h => ?_⟩
  simpa using (hraw.mp h).2

def spacedScript : String := "CREATE TABLE t (a ENUM('a b'), b ENUM('ab'))"

/-- A blank in a value is dropped, and columns with different values have one type. -/
theorem spaced_values_share_type :
    (definitions (reader .mysql) spacedScript).map (fun definition =>
        definition.1.columns.map (·.dataType)) =
      [[listType "ENUM" ["a b"], listType "ENUM" ["ab"]]] ∧
      ∃ table, parse .mysql spacedScript = .ok [table] ∧
        table.columns.map (fun column => (column.length, column.rawType)) =
          [(some "'ab'", "enum('ab')"), (some "'ab'", "enum('ab')")] := by
  have hstatements : Script.statements spacedScript = [spacedScript] := by decide +kernel
  have hparse : (parse .mysql spacedScript).toOption.map
      (·.map fun table => table.columns.map fun column => (column.length, column.rawType)) =
        some [[(some "'ab'", "enum('ab')"), (some "'ab'", "enum('ab')")]] := by
    simp only [parse, parseWith, isBlankText_eq, readScript, hstatements]
    decide +kernel
  refine ⟨?_, exists_parse_of_map hparse⟩
  simp only [definitions, parsed, hstatements]
  decide +kernel

end Schema

end SchemaScaffold
