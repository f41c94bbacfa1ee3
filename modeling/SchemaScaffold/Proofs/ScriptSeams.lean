import SchemaScaffold.Proofs.Names
import SchemaScaffold.Proofs.ScriptCuts

/-!
# Scripts end to end

Where a script leaves nothing open, a semicolon behind it separates it from whatever follows. And a
statement of a script has no semicolon of its own left, so it is the only statement of the script
that it makes up by itself: what is taken off a part when it is trimmed are blanks before it, which
open nothing, and characters behind it, which no earlier semicolon depends on.
-/

namespace SchemaScaffold.Script

/-! ### Seams -/

theorem ScanState.step_semicolon {state : ScanState} (h : state.isNormal) :
    state.step ';' = normal := by
  cases state with
  | normal | dash | slash | dollar => rfl
  | unquoted quote => cases quote <;> rfl
  | quoted | escaped | line | block | blockStar | body | bodyDollar => cases h

theorem segmentsFrom_append (state : ScanState) {text : List Char}
    (hnormal : (text.foldl ScanState.step state).isNormal) (passed rest : List Char) :
    segmentsFrom state passed (text ++ ';' :: rest) =
      segmentsFrom state passed text ++ segmentsFrom .normal [] rest := by
  induction text generalizing state passed with
  | nil =>
      have hstate : state.isNormal := hnormal
      simp [segmentsFrom, hstate, ScanState.step_semicolon hstate]
  | cons c more ih =>
      have hmore := ih (state.step c) hnormal
      rw [List.cons_append, segmentsFrom, segmentsFrom]
      split
      · rw [hmore, List.cons_append]
      · exact hmore _

theorem pieces_append {text : List Char} (hnormal : (ScanState.after text).isNormal)
    (rest : List Char) : pieces (text ++ ';' :: rest) = pieces text ++ pieces rest := by
  simp only [pieces, piecesFrom_eq]
  exact segmentsFrom_append .normal hnormal [] rest

/-! ### Texts without cuts -/

theorem cuts_eq_nil_iff {text : List Char} :
    cuts text = [] ↔
      ∀ before rest, text = before ++ ';' :: rest → (ScanState.after before).isNormal = false := by
  rw [cuts, List.filter_eq_nil_iff]
  constructor
  · rintro h before rest rfl
    have hposition := h before.length (by simp)
    simpa [isCut, List.getElem?_append_right] using hposition
  · intro h position hmem hcut
    rw [isCut, Bool.and_eq_true, beq_iff_eq] at hcut
    obtain ⟨hsemicolon, hnormal⟩ := hcut
    obtain ⟨hlt, hget⟩ := List.getElem?_eq_some_iff.mp hsemicolon
    have htext : text = text.take position ++ ';' :: text.drop (position + 1) := by
      rw [← hget, List.getElem_cons_drop, List.take_append_drop]
    rw [h _ _ htext] at hnormal
    cases hnormal

theorem cuts_eq_nil_of_append {text more : List Char} (h : cuts (text ++ more) = []) :
    cuts text = [] := by
  rw [cuts_eq_nil_iff] at h ⊢
  rintro before rest rfl
  exact h before (rest ++ more) (by simp)

theorem ScanState.step_of_isBlank {c : Char} (h : Text.isBlank c) : normal.step c = normal := by
  have hplain := isPlain_of_isBlank h
  simp only [isPlain, Bool.and_eq_true, Bool.not_eq_true'] at hplain
  rw [step_normal hplain.1, opening.eq_def]
  split
  case h_5 => rfl
  all_goals exact absurd hplain.2 (by decide)

theorem after_blanks_append {blanks : List Char} (hblanks : ∀ c ∈ blanks, Text.isBlank c)
    (text : List Char) : ScanState.after (blanks ++ text) = ScanState.after text := by
  induction blanks with
  | nil => rfl
  | cons c more ih =>
      rw [List.forall_mem_cons] at hblanks
      rw [ScanState.after, List.cons_append, List.foldl_cons, ScanState.step_of_isBlank hblanks.1]
      exact ih hblanks.2

theorem cuts_trimList {text : List Char} (h : cuts text = []) : cuts (Text.trimList text) = [] := by
  have hkept : cuts (text.dropWhile Text.isBlank) = [] := by
    rw [cuts_eq_nil_iff] at h ⊢
    intro before rest htext
    have hblanks : ∀ c ∈ text.takeWhile Text.isBlank, Text.isBlank c :=
      fun c hc => List.mem_takeWhile_imp hc
    rw [← after_blanks_append hblanks]
    apply h _ rest
    rw [List.append_assoc, ← htext, List.takeWhile_append_dropWhile]
  obtain ⟨tail, htail⟩ := List.rdropWhile_prefix Text.isBlank (text.dropWhile Text.isBlank)
  rw [← htail] at hkept
  exact cuts_eq_nil_of_append hkept

theorem cuts_of_mem_segmentsFrom (passed : List Char) {text part : List Char}
    (hpassed : cuts passed.reverse = [])
    (hmem : part ∈ segmentsFrom (ScanState.after passed.reverse) passed text) : cuts part = [] := by
  induction text generalizing passed with
  | nil =>
      rw [segmentsFrom, List.mem_singleton] at hmem
      rwa [hmem]
  | cons c rest ih =>
      rw [segmentsFrom] at hmem
      split at hmem
      · rename_i hcut
        rw [Bool.and_eq_true, beq_iff_eq] at hcut
        obtain ⟨rfl, hnormal⟩ := hcut
        rw [List.mem_cons, ScanState.step_semicolon hnormal] at hmem
        obtain rfl | hmem := hmem
        · exact hpassed
        · exact ih [] rfl hmem
      · rename_i hcut
        have hstep : (ScanState.after passed.reverse).step c =
            ScanState.after (c :: passed).reverse := by
          simp [ScanState.after]
        rw [hstep] at hmem
        refine ih (c :: passed) ?_ hmem
        rw [cuts_eq_nil_iff] at hpassed ⊢
        intro before more htext
        rw [List.reverse_cons] at htext
        obtain rfl | ⟨inner, last, rfl⟩ := List.eq_nil_or_concat more
        · obtain ⟨rfl, hc⟩ := List.append_inj' htext rfl
          rw [List.singleton_inj] at hc
          simpa [hc] using hcut
        · rw [List.concat_eq_append, ← List.cons_append, ← List.append_assoc] at htext
          exact hpassed before inner (List.append_inj' htext rfl).1

theorem pieces_of_cuts_eq_nil {text : List Char} (h : cuts text = []) : pieces text = [text] := by
  rw [pieces_eq, h]
  rfl

theorem cuts_of_mem_pieces {text piece : List Char} (h : piece ∈ pieces text) : cuts piece = [] := by
  rw [pieces, piecesFrom_eq] at h
  exact cuts_of_mem_segmentsFrom [] rfl h

/-- Scripts are read one behind the other, and statements are read as themselves. -/
theorem statements_compose :
    (∀ first second : String, (ScanState.after first.toList).isNormal →
      statements (first ++ ";" ++ second) = statements first ++ statements second) ∧
    ∀ script : String, ∀ statement ∈ statements script,
      statement ≠ "" ∧
      (∀ c ∈ statement.toList.head?, Text.isBlank c = false) ∧
      (∀ c ∈ statement.toList.getLast?, Text.isBlank c = false) ∧
      statements statement = [statement] := by
  constructor
  · intro first second hnormal
    have htext : (first ++ ";" ++ second).toList = first.toList ++ ';' :: second.toList := by simp
    rw [statements_eq, htext, pieces_append hnormal]
    simp [statements_eq]
  · intro script statement hmem
    rw [statements_eq, List.mem_filter, List.mem_map] at hmem
    obtain ⟨⟨piece, hpiece, rfl⟩, hne⟩ := hmem
    have htrimmed : (Text.trim (String.ofList piece)).toList = Text.trimList piece := by
      simp [Text.trim]
    have htwice := Text.trimList_trimList piece
    have hcuts := cuts_trimList (cuts_of_mem_pieces hpiece)
    obtain ⟨hhead, hlast⟩ := Text.trimList_eq_self_iff.mp htwice
    rw [htrimmed]
    refine ⟨?_, hhead, hlast, ?_⟩
    · simpa using hne
    · have hstatement : Text.trim (String.ofList (Text.trimList piece)) =
          Text.trim (String.ofList piece) := by
        simp [Text.trim, htwice]
      rw [statements_eq, htrimmed, pieces_of_cuts_eq_nil hcuts, List.map_singleton, hstatement,
        List.filter_singleton, hne, cond_true]

theorem statements_compose_notes :
    (ScanState.after "-- note;\nSELECT ';'".toList).isNormal ∧
      statements ("-- note;\nSELECT ';'" ++ ";" ++ "/* open; ") =
        statements "-- note;\nSELECT ';'" ++ statements "/* open; " ∧
      "/* open;" ∈ statements ";/* open; " ∧ statements "/* open;" = ["/* open;"] := by
  have hnormal : (ScanState.after "-- note;\nSELECT ';'".toList).isNormal := by decide
  have hmem : "/* open;" ∈ statements ";/* open; " := by
    rw [statements_eq, pieces_eq]
    decide
  exact ⟨hnormal, statements_compose.1 _ _ hnormal, hmem, (statements_compose.2 _ _ hmem).2.2.2⟩

end SchemaScaffold.Script
