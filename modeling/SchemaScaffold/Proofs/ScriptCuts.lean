import SchemaScaffold.Proofs.ClosedTexts

/-!
# Where a script is cut

The scan for the statements of a script jumps over quoted runs, comments and bodies between dollar
signs. Here the script is read one character after the other instead, by a reader that remembers
what is open and nothing else. The script is cut exactly at the semicolons that the reader meets
where nothing is open.

What opens and closes a construct has up to two characters, and the scan looks one character ahead
for the second one. The reader waits for it: behind a dash nothing is open yet, and behind a quote
within a run nothing is open any more, unless the next character says otherwise. A semicolon never
does, so it is met in the same state either way.
-/

namespace SchemaScaffold.Script

inductive Quote where
  | single
  | double
  | back
  deriving DecidableEq, Repr

namespace Quote

def mark : Quote → Char
  | single => '\''
  | double => '"'
  | back => backtick

def hasEscapes : Quote → Bool
  | single | double => true
  | back => false

def ofChar? (c : Char) : Option Quote := [single, double, back].find? (·.mark == c)

end Quote

/-- What is open behind the characters that were read. -/
inductive ScanState where
  | normal
  | dash
  | slash
  | dollar
  | quoted (quote : Quote)
  | escaped (quote : Quote)
  | unquoted (quote : Quote)
  | line
  | block
  /-- In a block comment, behind an asterisk. -/
  | blockStar
  | body
  | bodyDollar
  deriving DecidableEq, Repr

namespace ScanState

def isNormal : ScanState → Bool
  | normal | dash | slash | dollar | unquoted _ => true
  | quoted _ | escaped _ | line | block | blockStar | body | bodyDollar => false

def opening : Char → ScanState
  | '#' => line
  | '-' => dash
  | '/' => slash
  | '$' => dollar
  | _ => normal

def start (c : Char) : ScanState :=
  match Quote.ofChar? c with
  | some quote => quoted quote
  | none => opening c

def step (state : ScanState) (c : Char) : ScanState :=
  match state with
  | normal => start c
  | dash => if c == '-' then line else start c
  | slash => if c == '*' then block else start c
  | dollar => if c == '$' then body else start c
  | quoted quote =>
    if c == '\\' && quote.hasEscapes then escaped quote
    else if c == quote.mark then unquoted quote
    else quoted quote
  | escaped quote => quoted quote
  | unquoted quote => if c == quote.mark then quoted quote else start c
  | line => if c == '\n' then normal else line
  | block => if c == '*' then blockStar else block
  | blockStar => if c == '/' then normal else if c == '*' then blockStar else block
  | body => if c == '$' then bodyDollar else body
  | bodyDollar => if c == '$' then normal else body

def after (text : List Char) : ScanState := text.foldl step normal

end ScanState

/-! ### Positions and parts -/

/-- Whether a script is cut at a position: a semicolon stands there, and nothing is open before it. -/
def isCut (text : List Char) (position : Nat) : Bool :=
  text[position]? == some ';' && (ScanState.after (text.take position)).isNormal

def cuts (text : List Char) : List Nat := (List.range text.length).filter (isCut text)

def partsFrom (text : List Char) (place : Nat) : List Nat → List (List Char)
  | [] => [text.drop place]
  | position :: rest => (text.take position).drop place :: partsFrom text (position + 1) rest

/-! ### Reading part by part -/

/-- The parts that a reader with a state finds. `passed` is what was read of the first one, last
character first. -/
def segmentsFrom (state : ScanState) (passed : List Char) : List Char → List (List Char)
  | [] => [passed.reverse]
  | c :: rest =>
    if c == ';' && state.isNormal then passed.reverse :: segmentsFrom (state.step c) [] rest
    else segmentsFrom (state.step c) (c :: passed) rest

/-- The reader ends its parts at the cuts. What was read before the part at hand is `before`. -/
theorem segmentsFrom_eq {whole text : List Char} (before passed : List Char)
    (hwhole : whole = before ++ passed.reverse ++ text) :
    segmentsFrom (ScanState.after (before ++ passed.reverse)) passed text =
      partsFrom whole before.length
        ((List.range' (before.length + passed.length) text.length).filter (isCut whole)) := by
  induction text generalizing before passed with
  | nil => simp [segmentsFrom, partsFrom, hwhole]
  | cons c rest ih =>
      have hlength : before.length + passed.length = (before ++ passed.reverse).length := by simp
      have hread : whole.take (before.length + passed.length) = before ++ passed.reverse := by
        rw [hwhole, hlength, List.take_left' rfl]
      have hcut : isCut whole (before.length + passed.length) =
          (c == ';' && (ScanState.after (before ++ passed.reverse)).isNormal) := by
        rw [isCut, hread, hlength, hwhole, List.getElem?_append_right (Nat.le_refl _)]
        simp
      have hstep : (ScanState.after (before ++ passed.reverse)).step c =
          ScanState.after (before ++ passed.reverse ++ [c]) := by
        simp [ScanState.after]
      rw [List.length_cons, List.range'_succ, List.filter_cons, hcut, segmentsFrom, hstep]
      split
      · have hrest := ih (before ++ passed.reverse ++ [c]) [] (by simp [hwhole])
        rw [List.reverse_nil, List.append_nil] at hrest
        rw [partsFrom, hread, hrest]
        simp [Nat.add_assoc]
      · have hrest := ih before (c :: passed) (by simp [hwhole])
        rw [List.reverse_cons, ← List.append_assoc] at hrest
        exact hrest

theorem segmentsFrom_ne_nil (state : ScanState) (passed text : List Char) :
    segmentsFrom state passed text ≠ [] := by
  fun_induction segmentsFrom state passed text <;> simp_all

theorem intercalate_segmentsFrom (state : ScanState) (passed text : List Char) :
    [';'].intercalate (segmentsFrom state passed text) = passed.reverse ++ text := by
  fun_induction segmentsFrom state passed text with
  | case1 => simp
  | case2 state passed c rest hcut ih =>
      rw [Bool.and_eq_true, beq_iff_eq] at hcut
      rw [List.intercalate_cons_of_ne_nil (segmentsFrom_ne_nil _ _ _), ih, hcut.1]
      simp
  | case3 state passed c rest _ ih => simp [ih]

/-! ### Jumping over what is open -/

variable {state other : ScanState} {passed text : List Char}

/-- States that answer the next character alike find the same parts. -/
theorem segmentsFrom_congr (hnormal : state.isNormal = other.isNormal)
    (hstep : ∀ c ∈ text.head?, state.step c = other.step c) :
    segmentsFrom state passed text = segmentsFrom other passed text := by
  cases text with
  | nil => rfl
  | cons c rest => rw [segmentsFrom, segmentsFrom, hnormal, hstep c rfl]

theorem segmentsFrom_of_open (hopen : state.isNormal = false) (c : Char) (rest : List Char) :
    segmentsFrom state passed (c :: rest) = segmentsFrom (state.step c) (c :: passed) rest := by
  rw [segmentsFrom, hopen, Bool.and_false, if_neg (by decide)]

theorem segmentsFrom_of_ne {c : Char} (hc : c ≠ ';') (rest : List Char) :
    segmentsFrom state passed (c :: rest) = segmentsFrom (state.step c) (c :: passed) rest := by
  rw [segmentsFrom, if_neg (by simp [hc])]

theorem Quote.mark_bne_backtick (quote : Quote) :
    (quote.mark != backtick) = quote.hasEscapes := by
  cases quote <;> decide

theorem Quote.mark_ne_semicolon (quote : Quote) : quote.mark ≠ ';' := by
  cases quote <;> decide

theorem segmentsFrom_skipQuoted (quote : Quote) (passed text : List Char) :
    segmentsFrom (.quoted quote) passed text =
      segmentsFrom .normal (skipQuoted quote.mark passed text).passed
        (skipQuoted quote.mark passed text).ahead := by
  fun_induction skipQuoted quote.mark passed text with
  | case1 => rfl
  | case2 passed c =>
      rw [segmentsFrom_of_open rfl]
      rfl
  | case3 passed c d rest hescape ih =>
      rw [Quote.mark_bne_backtick] at hescape
      have hstep : (ScanState.quoted quote).step c = .escaped quote := by
        simp [ScanState.step, hescape]
      rw [segmentsFrom_of_open rfl, hstep, segmentsFrom_of_open rfl]
      exact ih
  | case4 passed c d rest hescape hquote hd ih =>
      rw [Quote.mark_bne_backtick] at hescape
      have hstep : (ScanState.quoted quote).step c = .unquoted quote := by
        simp [ScanState.step, hescape, hquote]
      -- The first quote closes the run, and the second one opens it again.
      have hdoubled : (ScanState.unquoted quote).step d = .quoted quote := by
        simp [ScanState.step, hd]
      have hne : d ≠ ';' := by
        rw [eq_of_beq hd]
        exact quote.mark_ne_semicolon
      rw [segmentsFrom_of_open rfl, hstep, segmentsFrom_of_ne hne, hdoubled]
      exact ih
  | case5 passed c d rest hescape hquote hd =>
      rw [Quote.mark_bne_backtick] at hescape
      have hstep : (ScanState.quoted quote).step c = .unquoted quote := by
        simp [ScanState.step, hescape, hquote]
      have hne : d ≠ quote.mark := by simpa using hd
      rw [segmentsFrom_of_open rfl, hstep]
      refine segmentsFrom_congr rfl ?_
      simp [ScanState.step, hne]
  | case6 passed c d rest hescape hquote ih =>
      rw [Quote.mark_bne_backtick] at hescape
      have hstep : (ScanState.quoted quote).step c = .quoted quote := by
        simp [ScanState.step, hescape, hquote]
      rw [segmentsFrom_of_open rfl, hstep]
      exact ih

theorem segmentsFrom_skipLine (passed text : List Char) :
    segmentsFrom .line passed text =
      segmentsFrom .normal (skipLine passed text).passed (skipLine passed text).ahead := by
  fun_induction skipLine passed text with
  | case1 => rfl
  | case2 passed c rest hc =>
      rw [segmentsFrom_of_open rfl, ScanState.step, if_pos hc]
  | case3 passed c rest hc ih =>
      rw [segmentsFrom_of_open rfl, ScanState.step, if_neg hc]
      exact ih

/-- A state in which something is open up to the next characters `a`, `b`, and the state behind `a`
in it. -/
structure ScanState.EndsWith (state behind : ScanState) (a b : Char) : Prop where
  isOpen : state.isNormal = false
  isOpen_behind : behind.isNormal = false
  step_first : state.step a = behind
  step_other : ∀ c, c ≠ a → state.step c = state
  step_behind : ∀ c, behind.step c = if c == b then normal else state.step c

theorem ScanState.EndsWith.segmentsFrom_skipPast {behind : ScanState} {a b : Char}
    (hends : state.EndsWith behind a b) (passed text : List Char) :
    segmentsFrom state passed text =
      segmentsFrom .normal (skipPast a b passed text).passed (skipPast a b passed text).ahead := by
  fun_induction skipPast a b passed text with
  | case1 => rfl
  | case2 passed c =>
      rw [segmentsFrom_of_open hends.isOpen]
      rfl
  | case3 passed c d rest hpair =>
      rw [Bool.and_eq_true, beq_iff_eq, beq_iff_eq] at hpair
      obtain ⟨rfl, rfl⟩ := hpair
      rw [segmentsFrom_of_open hends.isOpen, hends.step_first,
        segmentsFrom_of_open hends.isOpen_behind, hends.step_behind]
      simp
  | case4 passed c d rest hpair ih =>
      rw [segmentsFrom_of_open hends.isOpen, ← ih]
      by_cases hc : c = a
      · have hd : d ≠ b := by simpa [hc] using hpair
        rw [hc, hends.step_first]
        refine segmentsFrom_congr (hends.isOpen_behind.trans hends.isOpen.symm) ?_
        simp [hends.step_behind, hd]
      · rw [hends.step_other c hc]

theorem ScanState.endsWith_block : block.EndsWith blockStar '*' '/' where
  isOpen := rfl
  isOpen_behind := rfl
  step_first := rfl
  step_other c hc := by simp [step, hc]
  step_behind _ := rfl

theorem ScanState.endsWith_body : body.EndsWith bodyDollar '$' '$' where
  isOpen := rfl
  isOpen_behind := rfl
  step_first := rfl
  step_other c hc := by simp [step, hc]
  step_behind c := by by_cases hc : c = '$' <;> simp [step, hc]

/-! ### The parts of a script -/

theorem Quote.exists_mark {c : Char} (h : isQuote c) : ∃ quote : Quote, quote.mark = c := by
  simp only [isQuote, Bool.or_eq_true, beq_iff_eq] at h
  obtain (rfl | rfl) | rfl := h
  · exact ⟨single, rfl⟩
  · exact ⟨double, rfl⟩
  · exact ⟨back, rfl⟩

theorem Quote.ofChar?_mark (quote : Quote) : ofChar? quote.mark = some quote := by
  cases quote <;> rfl

theorem Quote.ofChar?_eq_none {c : Char} (h : isQuote c = false) : ofChar? c = none := by
  simp only [isQuote, Bool.or_eq_false_iff, beq_eq_false_iff_ne] at h
  simp [ofChar?, mark, Ne.symm h.1.1, Ne.symm h.1.2, Ne.symm h.2]

theorem ScanState.step_normal {c : Char} (hquote : isQuote c = false) :
    normal.step c = opening c := by
  rw [step, start, Quote.ofChar?_eq_none hquote]

/-- A character that opens nothing together with the next one leaves the state as it was. -/
theorem segmentsFrom_char {c : Char} {rest : List Char} (hquote : isQuote c = false)
    (hc : c ≠ ';' ∧ c ≠ '#') (hpair : ∀ d ∈ rest.head?, opensGap c d = false) :
    segmentsFrom .normal passed (c :: rest) = segmentsFrom .normal (c :: passed) rest := by
  have hne : ∀ mark, opensGap c mark → ∀ d ∈ rest.head?, d ≠ mark := by
    rintro mark hmark d hd rfl
    exact absurd hmark (by simp [hpair d hd])
  rw [segmentsFrom_of_ne hc.1, ScanState.step_normal hquote, ScanState.opening.eq_def]
  split
  · exact absurd rfl hc.2
  · exact segmentsFrom_congr rfl fun d hd => by simp [ScanState.step, hne '-' rfl d hd]
  · exact segmentsFrom_congr rfl fun d hd => by simp [ScanState.step, hne '*' rfl d hd]
  · exact segmentsFrom_congr rfl fun d hd => by simp [ScanState.step, hne '$' rfl d hd]
  · rfl

theorem exists_gap {c : Char} {rest : List Char}
    (h : ¬∀ d ∈ rest.head?, opensGap c d = false) :
    ∃ more, c = '-' ∧ rest = '-' :: more ∨ c = '/' ∧ rest = '*' :: more ∨
      c = '$' ∧ rest = '$' :: more := by
  cases rest with
  | nil => simp at h
  | cons d more =>
      simp only [List.head?_cons, Option.mem_def, Option.some.injEq, forall_eq', opensGap,
        Bool.not_eq_false, Bool.or_eq_true, Bool.and_eq_true, beq_iff_eq] at h
      obtain ⟨rfl, rfl | rfl⟩ | ⟨rfl, rfl⟩ := h <;> simp

theorem segmentsFrom_skipItem {c : Char} (hc : c ≠ ';') (passed rest : List Char) :
    segmentsFrom .normal passed (c :: rest) =
      segmentsFrom .normal (skipItem passed c rest).passed (skipItem passed c rest).ahead := by
  cases hquote : isQuote c with
  | true =>
      obtain ⟨quote, rfl⟩ := Quote.exists_mark hquote
      rw [skipItem_quote hquote, ← segmentsFrom_skipQuoted, segmentsFrom_of_ne hc]
      simp [ScanState.step, ScanState.start, Quote.ofChar?_mark]
  | false =>
      by_cases hhash : c = '#'
      · rw [hhash]
        exact segmentsFrom_skipLine ('#' :: passed) rest
      by_cases hpair : ∀ d ∈ rest.head?, opensGap c d = false
      · rw [skipItem_char hquote hhash hpair]
        exact segmentsFrom_char hquote ⟨hc, hhash⟩ hpair
      · obtain ⟨more, ⟨rfl, rfl⟩ | ⟨rfl, rfl⟩ | ⟨rfl, rfl⟩⟩ := exists_gap hpair
        · exact segmentsFrom_skipLine ('-' :: '-' :: passed) more
        · exact ScanState.endsWith_block.segmentsFrom_skipPast ('*' :: '/' :: passed) more
        · exact ScanState.endsWith_body.segmentsFrom_skipPast ('$' :: '$' :: passed) more

theorem piecesFrom_eq (passed text : List Char) :
    piecesFrom passed text = segmentsFrom .normal passed text := by
  fun_induction piecesFrom passed text with
  | case1 => rfl
  | case2 passed c rest hc ih =>
      rw [ih, segmentsFrom, if_pos (by simpa [ScanState.isNormal] using hc), eq_of_beq hc]
      rfl
  | case3 passed c rest hc next _ ih =>
      have hne : c ≠ ';' := by simpa using hc
      rw [ih, segmentsFrom_skipItem hne]

theorem pieces_eq (text : List Char) : pieces text = partsFrom text 0 (cuts text) := by
  have hparts := segmentsFrom_eq [] [] (List.nil_append text).symm
  rw [pieces, piecesFrom_eq, cuts, List.range_eq_range']
  exact hparts

theorem statements_eq (script : String) :
    statements script =
      ((pieces script.toList).map fun piece => Text.trim (String.ofList piece)).filter
        (!·.isEmpty) := by
  have hempty : ∀ chars : List Char, (String.ofList chars).isEmpty = chars.isEmpty := by
    intro chars
    cases chars <;> simp
  simp [statements, statementLists, Text.trim, List.filter_map, Function.comp_def, hempty]

/-- A script is cut exactly at the semicolons that the reader meets where nothing is open. The parts
between them make up the script, and its statements are those that are not blank, without the blanks
around them. -/
theorem script_cut_where_nothing_is_open (script : String) :
    let text := script.toList
    let parts := partsFrom text 0 (cuts text)
    pieces text = parts ∧ [';'].intercalate parts = text ∧
      statements script =
        (parts.map fun part => Text.trim (String.ofList part)).filter (!·.isEmpty) := by
  intro text parts
  have hparts : pieces text = parts := pieces_eq text
  have hsegments : segmentsFrom .normal [] text = parts := by
    rw [← piecesFrom_eq, ← pieces, hparts]
  refine ⟨hparts, ?_, ?_⟩
  · rw [← hsegments, intercalate_segmentsFrom, List.reverse_nil, List.nil_append]
  · rw [statements_eq, hparts]

example : cuts "/*/;*/;$$$;$$;'\\\\';".toList = [6, 13, 18] := by decide

end SchemaScaffold.Script
