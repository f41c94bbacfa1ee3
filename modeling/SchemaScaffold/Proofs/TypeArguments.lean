import SchemaScaffold.Proofs.ColumnDrafts
import SchemaScaffold.Proofs.FirstWords
import SchemaScaffold.Proofs.SchemaReading

namespace SchemaScaffold

/-! ### Types by their first word -/

namespace JavaType

open Text

theorem joinWords_take (ws : List (List Char)) :
    joinWords (ws.take 1) = String.ofList (ws.take 1).flatten := by
  cases ws <;> simp [joinWords]

theorem joinWords_take_eq_takeWhile {ws : List (List Char)} (hws : ∀ w ∈ ws, ' ' ∉ w) :
    joinWords (ws.take 1) = String.ofList ((joinWords ws).toList.takeWhile (· != ' ')) := by
  have hfirst : ∀ w ∈ ws, w.takeWhile (· != ' ') = w := fun w hw =>
    List.takeWhile_eq_self_iff.mpr (bne_of_not_mem (hws w hw))
  rw [joinWords, joinWords, String.toList_ofList]
  match ws, hfirst with
  | [], _ => rfl
  | [w], hfirst => simp [hfirst w (by simp)]
  | w :: v :: others, hfirst =>
      rw [List.intercalate_cons_cons, List.append_assoc, List.singleton_append,
        ColumnDraft.takeWhile_append_cons (by decide), hfirst w (by simp)]
      simp

theorem lookup_takeWhile_of_mem : ∀ entry ∈ columnTypes, columnTypes.lookup
    (String.ofList (entry.1.toList.takeWhile (· != ' '))) = some entry.2 := by decide +kernel

/-- The first of the words that make up a listed name is listed with the same type. -/
theorem lookup_take_of_lookup {ws : List (List Char)} (hws : ∀ w ∈ ws, ' ' ∉ w) {type : JavaType}
    (h : columnTypes.lookup (joinWords ws) = some type) :
    columnTypes.lookup (joinWords (ws.take 1)) = some type := by
  obtain ⟨before, after, hsplit, -⟩ := List.lookup_eq_some_iff.mp h
  have hentry : (joinWords ws, type) ∈ columnTypes := by
    rw [hsplit]
    exact List.mem_append_right _ List.mem_cons_self
  rw [joinWords_take_eq_takeWhile hws]
  exact lookup_takeWhile_of_mem (joinWords ws, type) hentry

def ofWord (word : List Char) : JavaType := (columnTypes.lookup (String.ofList word)).getD object

theorem ofColumnType_eq_ofWord (columnType : String) :
    ofColumnType columnType = ofWord ((baseWords columnType).take 1).flatten := by
  have hwords : ∀ w ∈ baseWords columnType, ' ' ∉ w := by
    intro w hw hmem
    have hkeep := Text.keep_of_mem_runs hw hmem
    revert hkeep
    decide
  rw [ofColumnType, ofWord, ← joinWords_take]
  cases hlookup : columnTypes.lookup (joinWords (baseWords columnType)) with
  | none => simp
  | some type => simp [lookup_take_of_lookup hwords hlookup]

theorem ofWord_eq_object_iff (word : List Char) :
    ofWord word = object ↔ String.ofList word ∉ columnTypes.map Prod.fst := by
  have hlisted : ∀ entry ∈ columnTypes, entry.2 ≠ object := by decide
  rw [ofWord, List.mem_map]
  cases hlookup : columnTypes.lookup (String.ofList word) with
  | none =>
      simp only [Option.getD_none, true_iff]
      rintro ⟨entry, hentry, hname⟩
      exact absurd hname.symm (bne_iff_ne.mp (List.lookup_eq_none_iff.mp hlookup entry hentry))
  | some type =>
      obtain ⟨before, after, hsplit, -⟩ := List.lookup_eq_some_iff.mp hlookup
      have hentry : (String.ofList word, type) ∈ columnTypes := by
        rw [hsplit]
        exact List.mem_append_right _ List.mem_cons_self
      exact iff_of_false (hlisted _ hentry) (not_not.mpr ⟨_, hentry, rfl⟩)

theorem ofWord_eq_object_of_mem {word : List Char} (h : '[' ∈ word) : ofWord word = object := by
  have hnames : ∀ name ∈ columnTypes.map Prod.fst, '[' ∉ name.toList := by decide
  rw [ofWord_eq_object_iff]
  intro hlisted
  exact hnames _ hlisted (by rwa [String.toList_ofList])

end JavaType

namespace Schema

open Text

/-! ### Cutting off the arguments -/

theorem splitType_arguments {head rest : List Char} (hhead : '(' ∉ head) (hrest : ')' ∉ rest)
    (arguments : List Char) : splitType (head ++ '(' :: (arguments ++ ')' :: rest)) =
      (trimList head, some (trimList arguments)) := by
  have hbase : head.takeWhile (· != '(') = head :=
    List.takeWhile_eq_self_iff.mpr (bne_of_not_mem hhead)
  have hdrop : (head ++ '(' :: (arguments ++ ')' :: rest)).dropWhile (· != '(') =
      '(' :: (arguments ++ ')' :: rest) := by
    rw [List.dropWhile_append, List.dropWhile_eq_nil_iff.mpr (bne_of_not_mem hhead)]
    simp
  have hback : (arguments ++ ')' :: rest).reverse.dropWhile (· != ')') =
      ')' :: arguments.reverse := by
    rw [List.reverse_append, List.reverse_cons, List.append_assoc, List.dropWhile_append,
      List.dropWhile_eq_nil_iff.mpr (bne_of_not_mem (List.mem_reverse.not.mpr hrest))]
    simp
  rw [splitType, hdrop, ColumnDraft.takeWhile_append_cons (by decide), hbase]
  simp only [hback, List.reverse_reverse]

theorem splitType_of_not_mem {type : List Char} (h : '(' ∉ type) :
    splitType type = (trimList type, none) := by
  have hdrop : type.dropWhile (· != '(') = [] :=
    List.dropWhile_eq_nil_iff.mpr (bne_of_not_mem h)
  rw [splitType, hdrop]

theorem javaType_of_splitType {declaration : Sql.ColumnDef} {late : Option String} {column : Column}
    (hbuild : (columnDraft declaration late).build = .ok column) {name : List Char}
    (hname : '(' ∉ name) (hsplit : (splitType declaration.dataType.toList).1 = trimList name) :
    column.javaType = JavaType.ofWord (lowerList (firstWord name)) := by
  obtain ⟨-, rfl⟩ := (ColumnDraft.build_eq_ok_iff _ _).mp hbuild
  have hkept : '(' ∉ lowerList (trimList name) :=
    bracket_not_mem_lowerList fun hmem => hname ((trimList_sublist name).mem hmem)
  have hwords : JavaType.baseWords (lower (trim (String.ofList (trimList name)))) =
      words (lowerList (trimList name)) := by
    have htrim := trimList_trimList name
    rw [JavaType.baseWords, lower, trim, String.toList_ofList, String.toList_ofList,
      String.toList_ofList, htrim, trimList_lowerList htrim, lowerList_lowerList,
      List.takeWhile_eq_self_iff.mpr (bne_of_not_mem hkept)]
  rw [(declares_columnDraft declaration late).javaType, hsplit, JavaType.ofColumnType_eq_ofWord,
    hwords, flatten_take_words, firstWord_lowerList]

def IsListedWord (name : String) : Prop :=
  (∀ c ∈ trimStart name.toList, isBlank c = false) ∧
    String.ofList (lowerList (firstWord name.toList)) ∈ JavaType.columnTypes.map Prod.fst

/-- The suffix of an array hides the word that it stands behind from the table. -/
theorem ofWord_array_iff (head : String) (rest : List Char) :
    JavaType.ofWord (lowerList (firstWord head.toList)) =
        JavaType.ofWord (lowerList (firstWord (head.toList ++ '[' :: rest))) ↔
      ¬IsListedWord head := by
  rw [IsListedWord, not_and, ← JavaType.ofWord_eq_object_iff, firstWord_append_cons (by decide)]
  split <;> rename_i hword
  · have hmem : '[' ∈ lowerList
        (trimStart head.toList ++ '[' :: rest.takeWhile fun d => !isBlank d) :=
      mem_lowerList_of_isCaseless (by decide +kernel) (by simp)
    rw [JavaType.ofWord_eq_object_of_mem hmem]
    exact ⟨fun h _ => h, fun h => h hword⟩
  · exact iff_of_true rfl fun h => absurd h hword

/-- What stands behind the arguments of a type is dropped with them. The type of the column is the
same as without arguments exactly when the table lists the same for the first word either way. That
is so when more words follow, and it is not when the suffix of an array follows a listed word. -/
theorem javaType_eq_without_arguments_iff {declaration other : Sql.ColumnDef}
    {late late' : Option String} {column column' : Column} {head arguments rest : String}
    (hhead : '(' ∉ head.toList ∧ ')' ∉ head.toList) (hrest : '(' ∉ rest.toList ∧ ')' ∉ rest.toList)
    (htype : declaration.dataType = head ++ "(" ++ arguments ++ ")" ++ rest)
    (hother : other.dataType = head ++ rest)
    (hcolumn : (columnDraft declaration late).build = .ok column)
    (hcolumn' : (columnDraft other late').build = .ok column') :
    (column.javaType = column'.javaType ↔
      JavaType.ofWord (lowerList (firstWord head.toList)) =
        JavaType.ofWord (lowerList (firstWord (head ++ rest).toList))) ∧
      (¬isBlankText head → (∀ c ∈ rest.toList.head?, isBlank c) →
        column.javaType = column'.javaType) ∧
      (rest.toList.head? = some '[' →
        (column.javaType = column'.javaType ↔ ¬IsListedWord head)) := by
  have hwith : column.javaType = JavaType.ofWord (lowerList (firstWord head.toList)) := by
    refine javaType_of_splitType hcolumn hhead.1 ?_
    have hchars : declaration.dataType.toList =
        head.toList ++ '(' :: (arguments.toList ++ ')' :: rest.toList) := by simp [htype]
    rw [hchars, splitType_arguments hhead.1 hrest.2]
  have hwithout : column'.javaType =
      JavaType.ofWord (lowerList (firstWord (head.toList ++ rest.toList))) := by
    have hbracket : '(' ∉ head.toList ++ rest.toList := by simp [hhead.1, hrest.1]
    refine javaType_of_splitType hcolumn' hbracket ?_
    rw [hother, String.toList_append, splitType_of_not_mem hbracket]
  rw [hwith, hwithout, String.toList_append]
  refine ⟨Iff.rfl, ?_, ?_⟩
  · intro hblank hstart
    rw [isBlankText_eq, List.all_eq_true] at hblank
    rw [firstWord_append_of_blank hblank hstart]
  · intro hstart
    obtain ⟨others, hothers⟩ : ∃ others, rest.toList = '[' :: others := by
      rwa [← List.head?_eq_some_iff]
    rw [hothers]
    exact ofWord_array_iff head others

def plainDeclaration (dataType : String) : Sql.ColumnDef :=
  { name := { text := "amount" }, dataType, options := [] }

theorem build_plainDeclaration (dataType : String) :
    (columnDraft (plainDeclaration dataType) none).build =
      .ok (columnDraft (plainDeclaration dataType) none).column := by
  have hname : Naming.propertyName "amount" ≠ "" := by decide
  rw [build_columnDraft_eq]
  exact if_neg hname

theorem javaType_eq_without_arguments_int :
    ∃ column column',
      (columnDraft (plainDeclaration "INT(11) UNSIGNED") none).build = .ok column ∧
      (columnDraft (plainDeclaration "INT UNSIGNED") none).build = .ok column' ∧
      column.javaType = column'.javaType := by
  have hbuild := build_plainDeclaration "INT(11) UNSIGNED"
  have hbuild' := build_plainDeclaration "INT UNSIGNED"
  obtain ⟨-, hsame, -⟩ := javaType_eq_without_arguments_iff (by decide : '(' ∉ "INT".toList ∧ _)
    (by decide : '(' ∉ " UNSIGNED".toList ∧ _) (by decide : _ = _ ++ "(" ++ "11" ++ ")" ++ _)
    (by decide) hbuild hbuild'
  refine ⟨_, _, hbuild, hbuild', hsame (by rw [isBlankText_eq]; decide) ?_⟩
  rintro c ⟨⟩
  decide

def arraysScript : String := "CREATE TABLE t (a varchar(10)[], b varchar[])"

/-- A column of arrays gets the type of its elements if these have arguments. -/
theorem arrays_with_arguments :
    (definitions (reader .postgresql) arraysScript).map (fun definition =>
        definition.1.columns.map (·.dataType)) = [["VARCHAR(10)[]", "VARCHAR[]"]] ∧
      ∃ table, parse .postgresql arraysScript = .ok [table] ∧
        table.columns.map (·.javaType) = [.string, .object] := by
  have hstatements : Script.statements arraysScript = [arraysScript] := by decide +kernel
  have hparse : (parse .postgresql arraysScript).toOption.map
      (·.map fun table => table.columns.map (·.javaType)) = some [[.string, .object]] := by
    simp only [parse, parseWith, isBlankText_eq, readScript, hstatements]
    decide +kernel
  constructor
  · simp only [definitions, parsed, hstatements]
    decide +kernel
  · exact exists_parse_of_map hparse

end Schema

end SchemaScaffold
