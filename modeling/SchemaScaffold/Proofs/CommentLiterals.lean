import SchemaScaffold.Proofs.Balanced
import SchemaScaffold.Proofs.CommentClauses
import SchemaScaffold.Sql.Literal

/-!
# Literals that are read twice

A comment stands between apostrophes. For a column the dialect reads it, which knows doubled
apostrophes and escaped characters. For a table it is looked for in the text of the options, where a
doubled apostrophe stands for one and a backslash is a character like any other. Both drop the
apostrophes of what they have read, so they differ by the backslashes that escape something: the
second reader keeps them, and it takes an escaped apostrophe for the end of the literal.
-/

namespace SchemaScaffold.Sql

open Script (IsRun exists_quotedText_of_mem quotedText quotedText_closed quotedText_cons_of_ne)

/-- What a literal between apostrophes is made of. -/
inductive LiteralPart where
  | plain (c : Char) (hquote : c ≠ '\'') (hslash : c ≠ '\\')
  | doubled
  | escaped (c : Char)
  deriving DecidableEq

namespace LiteralPart

def chars : LiteralPart → List Char
  | plain c _ _ => [c]
  | doubled => ['\'', '\'']
  | escaped c => ['\\', c]

def text : LiteralPart → List Char
  | plain c _ _ => [c]
  | doubled => ['\'']
  | escaped c => Literal.escapeSequence c

/-- Whether a part shows as it is spelled, apostrophes aside: all do but the escaped characters,
and of these the wildcards of patterns do. -/
def isKept : LiteralPart → Bool
  | plain .. | doubled => true
  | escaped c => c == '%' || c == '_'

def spelled (parts : List LiteralPart) : List Char := parts.flatMap chars

def denoted (parts : List LiteralPart) : List Char := parts.flatMap text

def bare (text : List Char) : List Char := text.filter fun c => !(c == '\'')

/-- Literals that show the same text in both readings. Either everything in them is kept, or the
second reader stops at an escaped apostrophe, and the backslashes that it has kept until there make
up for what it misses. These are one for each escaped backslash and the one of the apostrophe, so
there must be as many escaped backslashes behind. The shortest such literal is `'\'\\'`, which
shows one backslash either way. -/
inductive ReadAlike : List LiteralPart → Prop where
  | kept {parts : List LiteralPart} (hparts : ∀ part ∈ parts, part.isKept) : ReadAlike parts
  | cut {front before behind : List LiteralPart} (hfront : ∀ part ∈ front, part.isKept)
      (hbefore : ∀ part ∈ before, part ∈ [doubled, escaped '\\'])
      (hbehind : ∀ part ∈ behind, part ∈ [doubled, escaped '\\', escaped '\''])
      (hcount : behind.count (escaped '\\') = before.count (escaped '\\') + 1) :
      ReadAlike (front ++ before ++ escaped '\'' :: behind)

@[simp]
theorem spelled_nil : spelled [] = [] := rfl

@[simp]
theorem spelled_cons (part : LiteralPart) (parts : List LiteralPart) :
    spelled (part :: parts) = part.chars ++ spelled parts := rfl

@[simp]
theorem spelled_append (before after : List LiteralPart) :
    spelled (before ++ after) = spelled before ++ spelled after := List.flatMap_append

@[simp]
theorem denoted_nil : denoted [] = [] := rfl

@[simp]
theorem denoted_cons (part : LiteralPart) (parts : List LiteralPart) :
    denoted (part :: parts) = part.text ++ denoted parts := rfl

@[simp]
theorem denoted_append (before after : List LiteralPart) :
    denoted (before ++ after) = denoted before ++ denoted after := List.flatMap_append

@[simp]
theorem bare_nil : bare [] = [] := rfl

@[simp]
theorem bare_append (before after : List Char) :
    bare (before ++ after) = bare before ++ bare after := List.filter_append ..

theorem bare_quote (text : List Char) : bare ('\'' :: text) = bare text := by simp [bare]

theorem bare_cons {c : Char} (hc : c ≠ '\'') (text : List Char) :
    bare (c :: text) = c :: bare text := by simp [bare, hc]

theorem isRun_spelled (parts : List LiteralPart) : IsRun '\'' (spelled parts) := by
  induction parts with
  | nil => exact .nil
  | cons part rest ih =>
      cases part with
      | plain c hquote hslash => exact .char hquote (fun h => absurd h hslash) ih
      | doubled => exact .doubled ih
      | escaped c => exact .escaped c (by decide) ih

end LiteralPart

open LiteralPart

/-! ### The reading of the dialect -/

theorem Literal.read_cons_of_ne {quote c : Char} {escapes : Bool} (hc : c ≠ quote)
    (hslash : (escapes && c == '\\') = false) (rest : List Char) :
    read quote escapes (c :: rest) =
      (read quote escapes rest).map fun (text, after) => (c :: text, after) := by
  cases rest with
  | nil => simp [read, hc]
  | cons d more =>
      rw [read, if_neg (by simpa using hc), hslash]
      rfl

theorem Literal.read_spelled (parts : List LiteralPart) {after : List Char}
    (hafter : after.head? ≠ some '\'') :
    read '\'' true (spelled parts ++ '\'' :: after) = some (denoted parts, after) := by
  induction parts with
  | nil =>
      cases after with
      | nil => rfl
      | cons d more =>
          have hd : d ≠ '\'' := by simpa using hafter
          simp [read, hd]
  | cons part rest ih =>
      cases part with
      | plain c hquote hslash =>
          change read '\'' true (c :: (spelled rest ++ '\'' :: after)) = _
          rw [read_cons_of_ne hquote (by simp [hslash]), ih]
          rfl
      | doubled =>
          change read '\'' true ('\'' :: '\'' :: (spelled rest ++ '\'' :: after)) = _
          rw [read, if_pos (by decide), if_pos (by decide), ih]
          rfl
      | escaped c =>
          change read '\'' true ('\\' :: c :: (spelled rest ++ '\'' :: after)) = _
          rw [read, if_neg (by decide), if_pos (by decide), ih]
          rfl

theorem Literal.read_eq_some_iff (source text after : List Char) :
    read '\'' true source = some (text, after) ↔
      ∃ parts, source = spelled parts ++ '\'' :: after ∧ after.head? ≠ some '\'' ∧
        text = denoted parts := by
  constructor
  · intro h
    fun_induction read '\'' true source generalizing text with
    | case1 => cases h
    | case2 c hc =>
        obtain rfl := beq_iff_eq.mp hc
        cases h
        exact ⟨[], rfl, by simp, rfl⟩
    | case3 => cases h
    | case4 c d rest hc hd ih =>
        obtain rfl := beq_iff_eq.mp hc
        obtain rfl := beq_iff_eq.mp hd
        obtain ⟨⟨inner, tail⟩, hread, hpair⟩ := Option.map_eq_some_iff.mp h
        cases hpair
        obtain ⟨parts, rfl, hafter, rfl⟩ := ih _ hread
        exact ⟨doubled :: parts, rfl, hafter, rfl⟩
    | case5 c d rest hc hd =>
        obtain rfl := beq_iff_eq.mp hc
        cases h
        exact ⟨[], rfl, by simpa using hd, rfl⟩
    | case6 c d rest hc hescape ih =>
        obtain rfl : c = '\\' := by simpa using hescape
        obtain ⟨⟨inner, tail⟩, hread, hpair⟩ := Option.map_eq_some_iff.mp h
        cases hpair
        obtain ⟨parts, rfl, hafter, rfl⟩ := ih _ hread
        exact ⟨escaped d :: parts, rfl, hafter, rfl⟩
    | case7 c d rest hc hescape ih =>
        obtain ⟨⟨inner, tail⟩, hread, hpair⟩ := Option.map_eq_some_iff.mp h
        cases hpair
        obtain ⟨parts, hrest, hafter, rfl⟩ := ih _ hread
        refine ⟨plain c (by simpa using hc) (by simpa using hescape) :: parts, ?_, hafter, rfl⟩
        rw [hrest]
        rfl
  · rintro ⟨parts, rfl, hafter, rfl⟩
    exact read_spelled parts hafter

/-! ### The reading of the options -/

/-- Up to the first escaped apostrophe the characters of a literal are read as they stand. -/
theorem exists_quotedText_append {parts : List LiteralPart} (hparts : escaped '\'' ∉ parts)
    {rest text : List Char} (hrest : quotedText '\'' rest = some text) :
    ∃ whole, quotedText '\'' (spelled parts ++ rest) = some whole ∧
      bare whole = bare (spelled parts) ++ bare text := by
  induction parts with
  | nil => exact ⟨text, hrest, rfl⟩
  | cons part others ih =>
      rw [List.mem_cons, not_or] at hparts
      obtain ⟨whole, hwhole, hbare⟩ := ih hparts.2
      cases part with
      | plain c hquote _ =>
          refine ⟨c :: whole, ?_, ?_⟩
          · change quotedText '\'' (c :: (spelled others ++ rest)) = _
            rw [quotedText_cons_of_ne hquote, hwhole]
            rfl
          · simp [chars, bare_cons hquote, hbare]
      | doubled =>
          refine ⟨'\'' :: whole, ?_, ?_⟩
          · change quotedText '\'' ('\'' :: '\'' :: (spelled others ++ rest)) = _
            simp [quotedText, hwhole]
          · simp [chars, bare_quote, hbare]
      | escaped c =>
          have hc : c ≠ '\'' := fun h => hparts.1 (h ▸ rfl)
          refine ⟨'\\' :: c :: whole, ?_, ?_⟩
          · change quotedText '\'' ('\\' :: c :: (spelled others ++ rest)) = _
            rw [quotedText_cons_of_ne (by decide), quotedText_cons_of_ne hc, hwhole]
            rfl
          · simp [chars, bare_cons, hc, hbare]

/-- Behind an escaped apostrophe nothing but apostrophes is read, unless there is nothing else. -/
theorem exists_quotedText_quote (parts : List LiteralPart) (after : List Char) :
    ∃ text, quotedText '\'' ('\'' :: (spelled parts ++ '\'' :: after)) = some text ∧
      (bare text = [] ∨ ∀ part ∈ parts, part = doubled) := by
  induction parts with
  | nil =>
      cases hafter : quotedText '\'' after with
      | none => exact ⟨[], by simp [quotedText, hafter], .inl rfl⟩
      | some text => exact ⟨'\'' :: text, by simp [quotedText, hafter], .inr (by simp)⟩
  | cons part others ih =>
      cases part with
      | plain c hquote _ => exact ⟨[], quotedText_closed (by simpa [chars] using hquote), .inl rfl⟩
      | doubled =>
          obtain ⟨text, htext, hbare⟩ := ih
          refine ⟨'\'' :: text, ?_, ?_⟩
          · change quotedText '\'' ('\'' :: '\'' :: '\'' :: (spelled others ++ '\'' :: after)) = _
            rw [quotedText, if_pos (by decide), if_pos (by decide), htext]
            rfl
          · simpa [bare_quote] using hbare
      | escaped c => exact ⟨[], quotedText_closed (by simp [chars]), .inl rfl⟩

/-! ### Where the readings agree -/

theorem Literal.unescape_eq_iff {c d : Char} (hd : d ∈ ['\'', '\\']) :
    unescape c = d ↔ c = d := by
  simp only [List.mem_cons, List.not_mem_nil, or_false] at hd
  unfold unescape
  rcases hd with rfl | rfl <;> split <;> simp

namespace LiteralPart

theorem bare_text_of_isKept {part : LiteralPart} (h : part.isKept) :
    bare part.text = bare part.chars := by
  cases part with
  | plain => rfl
  | doubled => rfl
  | escaped c =>
      have hwildcard : (c == '%' || c == '_') = true := h
      simp only [text, chars, Literal.escapeSequence, hwildcard, if_true]

theorem text_of_not_isKept {c : Char} (h : (escaped c).isKept = false) :
    (escaped c).text = [Literal.unescape c] := by
  have hwildcard : (c == '%' || c == '_') = false := h
  simp [text, Literal.escapeSequence, hwildcard]

/-- What an escaped character shows: itself with its backslash, nothing or one character. -/
theorem bare_text_escaped (c : Char) :
    (escaped c).isKept ∧ c ≠ '\\' ∧ bare (escaped c).text = ['\\', c] ∨
      (escaped c).isKept = false ∧ c = '\'' ∧ bare (escaped c).text = [] ∨
      (escaped c).isKept = false ∧ c ≠ '\'' ∧
        bare (escaped c).text = [Literal.unescape c] := by
  cases hkept : (escaped c).isKept with
  | true =>
      have hmarks : c ≠ '\\' ∧ c ≠ '\'' := by
        constructor <;> rintro rfl <;> cases hkept
      rw [bare_text_of_isKept hkept]
      exact .inl ⟨rfl, hmarks.1, by simp [chars, bare, hmarks.2]⟩
  | false =>
      rw [text_of_not_isKept hkept]
      by_cases hc : c = '\''
      · exact .inr (.inl ⟨rfl, hc, by rw [hc]; rfl⟩)
      · have hunescaped : Literal.unescape c ≠ '\'' := by
          rwa [ne_eq, Literal.unescape_eq_iff (by decide)]
        exact .inr (.inr ⟨rfl, hc, by rw [bare_cons hunescaped, bare_nil]⟩)

theorem bare_denoted_of_forall_isKept {parts : List LiteralPart} (h : ∀ part ∈ parts, part.isKept) :
    bare (denoted parts) = bare (spelled parts) := by
  induction parts with
  | nil => rfl
  | cons part rest ih =>
      rw [List.forall_mem_cons] at h
      simp [bare_text_of_isKept h.1, ih h.2]

/-- Every part that is not kept shows one character less than it is spelled with. -/
theorem length_bare_chars (part : LiteralPart) :
    (bare part.chars).length = (bare part.text).length + if part.isKept then 0 else 1 := by
  cases part with
  | plain | doubled => rfl
  | escaped c =>
      obtain ⟨hkept, -, -⟩ | ⟨hkept, rfl, htext⟩ | ⟨hkept, hc, htext⟩ := bare_text_escaped c
      · simp [bare_text_of_isKept hkept, hkept]
      · simp [htext, hkept, chars, bare_cons, bare_quote]
      · simp [htext, hkept, chars, bare_cons, hc]

theorem length_bare_spelled (parts : List LiteralPart) :
    (bare (spelled parts)).length =
      (bare (denoted parts)).length + parts.countP fun part => !part.isKept := by
  induction parts with
  | nil => rfl
  | cons part rest ih =>
      have hpart := length_bare_chars part
      simp only [spelled_cons, denoted_cons, bare_append, List.length_append, List.countP_cons]
      cases hkept : part.isKept <;> simp [hkept] at hpart ⊢ <;> omega

theorem forall_isKept_of_bare_eq {parts : List LiteralPart}
    (h : bare (spelled parts) = bare (denoted parts)) : ∀ part ∈ parts, part.isKept := by
  have hlength := length_bare_spelled parts
  rw [h, Nat.left_eq_add, List.countP_eq_zero] at hlength
  simpa using hlength

/-! #### Backslashes -/

theorem bare_spelled_of_forall_mem {parts : List LiteralPart}
    (h : ∀ part ∈ parts, part ∈ [doubled, escaped '\\']) :
    bare (spelled parts) = List.replicate (2 * parts.count (escaped '\\')) '\\' := by
  induction parts with
  | nil => rfl
  | cons part rest ih =>
      rw [List.forall_mem_cons] at h
      rw [spelled_cons, bare_append, ih h.2]
      obtain rfl | rfl : part = doubled ∨ part = escaped '\\' := by simpa using h.1
      · simp [chars, bare]
      · simp [chars, bare, Nat.mul_add, List.replicate_succ]

theorem bare_denoted_of_forall_mem {parts : List LiteralPart}
    (h : ∀ part ∈ parts, part ∈ [doubled, escaped '\\', escaped '\'']) :
    bare (denoted parts) = List.replicate (parts.count (escaped '\\')) '\\' := by
  induction parts with
  | nil => rfl
  | cons part rest ih =>
      rw [List.forall_mem_cons] at h
      rw [denoted_cons, bare_append, ih h.2]
      obtain rfl | rfl | rfl : part = doubled ∨ part = escaped '\\' ∨ part = escaped '\'' := by
        simpa using h.1
      · simp [text, bare]
      · rw [List.count_cons_self, List.replicate_succ]
        rfl
      · rfl

/-- Only doubled apostrophes and escapes of both marks show nothing but backslashes. -/
theorem forall_mem_of_bare_denoted {parts : List LiteralPart} {count : Nat}
    (h : bare (denoted parts) = List.replicate count '\\') :
    ∀ part ∈ parts, part ∈ [doubled, escaped '\\', escaped '\''] := by
  induction parts generalizing count with
  | nil => simp
  | cons part rest ih =>
      rw [denoted_cons, bare_append] at h
      rw [List.forall_mem_cons]
      have hall : ∀ c ∈ bare part.text ++ bare (denoted rest), c = '\\' := by
        rw [h]
        exact fun c hc => List.eq_of_mem_replicate hc
      rw [List.forall_mem_append] at hall
      have hrest := List.eq_replicate_of_mem hall.2
      refine ⟨?_, ih hrest⟩
      cases part with
      | plain c hquote hslash => exact absurd (hall.1 c (by simp [text, bare_cons hquote])) hslash
      | doubled => simp
      | escaped c =>
          obtain ⟨-, hslash, htext⟩ | ⟨-, rfl, -⟩ | ⟨-, -, htext⟩ := bare_text_escaped c
          · exact absurd (hall.1 c (by simp [htext])) hslash
          · simp
          · have hc := hall.1 _ (by rw [htext]; exact List.mem_singleton_self _)
            rw [Literal.unescape_eq_iff (by decide)] at hc
            simp [hc]

/-- Once the second reader is ahead by backslashes, it stays ahead only by more of them. -/
theorem forall_mem_of_replicate_append {parts : List LiteralPart} (hparts : escaped '\'' ∉ parts)
    (ahead : Nat) {tail : List Char}
    (h : List.replicate (ahead + 1) '\\' ++ (bare (spelled parts) ++ ['\\']) =
      bare (denoted parts) ++ tail) :
    ∀ part ∈ parts, part ∈ [doubled, escaped '\\'] := by
  induction parts generalizing ahead with
  | nil => simp
  | cons part rest ih =>
      rw [List.mem_cons, not_or] at hparts
      rw [List.replicate_succ] at h
      rw [List.forall_mem_cons]
      cases part with
      | plain c hquote hslash =>
          simp [text, bare_cons hquote, Ne.symm hslash] at h
      | doubled =>
          refine ⟨by simp, ih hparts.2 ahead ?_⟩
          simpa [text, chars, bare_quote, List.replicate_succ] using h
      | escaped c =>
          obtain ⟨-, hslash, htext⟩ | ⟨-, rfl, -⟩ | ⟨-, -, htext⟩ := bare_text_escaped c
          · -- The character behind the first backslash is another one.
            cases ahead <;> simp [htext, chars, bare_cons, List.replicate_succ] at h
            all_goals exact absurd h.1.symm hslash
          · exact absurd rfl hparts.1
          · rw [denoted_cons, bare_append, htext, List.append_assoc, List.singleton_append,
              List.cons_append, List.cons.injEq] at h
            obtain ⟨hc, h⟩ := h
            obtain rfl := (Literal.unescape_eq_iff (by decide)).mp hc.symm
            refine ⟨by simp, ih hparts.2 (ahead + 1) ?_⟩
            have hspelled : bare (spelled (escaped '\\' :: rest)) =
                List.replicate 2 '\\' ++ bare (spelled rest) := rfl
            rw [← h, hspelled, List.append_assoc, ← List.append_assoc (List.replicate ahead _),
              ← List.replicate_add]

/-- Behind the escaped backslashes the second reader is ahead by as many backslashes, and by one
more at the apostrophe. -/
theorem bare_spelled_append {front before : List LiteralPart}
    (hfront : ∀ part ∈ front, part.isKept)
    (hbefore : ∀ part ∈ before, part ∈ [doubled, escaped '\\']) :
    bare (spelled (front ++ before)) ++ ['\\'] =
      bare (denoted (front ++ before)) ++
        List.replicate (before.count (escaped '\\') + 1) '\\' := by
  have hmarks : ∀ part ∈ before, part ∈ [doubled, escaped '\\', escaped '\''] := by
    intro part hpart
    have hmem := hbefore part hpart
    simp only [List.mem_cons, List.not_mem_nil, or_false] at hmem ⊢
    exact hmem.imp_right .inl
  rw [spelled_append, denoted_append, bare_append, bare_append, bare_spelled_of_forall_mem hbefore,
    bare_denoted_of_forall_mem hmarks, bare_denoted_of_forall_isKept hfront, List.append_assoc,
    List.append_assoc, ← List.replicate_succ', ← List.replicate_add]
  congr 2
  omega

/-- The readers part at an escaped backslash, if they come together again. -/
theorem exists_front_of_bare_eq {parts : List LiteralPart} (hparts : escaped '\'' ∉ parts)
    {tail : List Char}
    (h : bare (spelled parts) ++ ['\\'] = bare (denoted parts) ++ tail) :
    ∃ front before, parts = front ++ before ∧ (∀ part ∈ front, part.isKept) ∧
      (∀ part ∈ before, part ∈ [doubled, escaped '\\']) := by
  induction parts with
  | nil => exact ⟨[], [], rfl, by simp, by simp⟩
  | cons part rest ih =>
      have hrest : escaped '\'' ∉ rest := fun hmem => hparts (List.mem_cons_of_mem _ hmem)
      cases hkept : part.isKept with
      | true =>
          have hsame : bare (spelled rest) ++ ['\\'] = bare (denoted rest) ++ tail := by
            simpa [bare_text_of_isKept hkept] using h
          obtain ⟨front, before, rfl, hfront, hbefore⟩ := ih hrest hsame
          exact ⟨part :: front, before, rfl, by simpa [hkept] using hfront, hbefore⟩
      | false =>
          refine ⟨[], part :: rest, rfl, by simp, ?_⟩
          cases part with
          | plain => cases hkept
          | doubled => cases hkept
          | escaped c =>
              obtain ⟨hwildcard, -⟩ | ⟨-, rfl, -⟩ | ⟨-, -, htext⟩ := bare_text_escaped c
              · cases hkept.symm.trans hwildcard
              · exact absurd List.mem_cons_self hparts
              · rw [denoted_cons, bare_append, htext, List.append_assoc, List.singleton_append,
                  spelled_cons, bare_append, chars, bare_cons (by decide), List.cons_append,
                  List.cons_append, List.cons.injEq] at h
                obtain ⟨hc, h⟩ := h
                obtain rfl := (Literal.unescape_eq_iff (by decide)).mp hc.symm
                rw [List.forall_mem_cons]
                exact ⟨by simp, forall_mem_of_replicate_append hrest 0 h⟩

theorem bare_denoted_cut (before behind : List LiteralPart) :
    bare (denoted (before ++ escaped '\'' :: behind)) =
      bare (denoted before) ++ bare (denoted behind) := by
  have hquote : bare (escaped '\'').text = [] := rfl
  rw [denoted_append, denoted_cons, bare_append, bare_append, hquote, List.nil_append]

end LiteralPart

/-! ### The two readings of a literal -/

section

variable {parts before behind : List LiteralPart} {after text : List Char}

/-- A literal without an escaped apostrophe is read as it is spelled. -/
theorem bare_quotedText_of_not_mem (hafter : after.head? ≠ some '\'')
    (hparts : escaped '\'' ∉ parts)
    (htext : quotedText '\'' (spelled parts ++ '\'' :: after) = some text) :
    bare text = bare (spelled parts) := by
  obtain ⟨whole, hwhole, hbare⟩ := exists_quotedText_append hparts (quotedText_closed hafter)
  obtain rfl := Option.some.inj (htext.symm.trans hwhole)
  rw [hbare, bare_nil, List.append_nil]

/-- A literal with an escaped apostrophe is read up to it, with its backslash. -/
theorem exists_bare_quotedText_of_cut (hbefore : escaped '\'' ∉ before)
    (htext : quotedText '\''
      (spelled (before ++ escaped '\'' :: behind) ++ '\'' :: after) = some text) :
    ∃ more, bare text = bare (spelled before) ++ '\\' :: more ∧
      (more = [] ∨ ∀ part ∈ behind, part = doubled) := by
  obtain ⟨more, hmore, hbehind⟩ := exists_quotedText_quote behind after
  have hquote : quotedText '\'' ('\\' :: '\'' :: (spelled behind ++ '\'' :: after)) =
      some ('\\' :: more) := by
    rw [quotedText_cons_of_ne (by decide), hmore]
    rfl
  obtain ⟨whole, hwhole, hbare⟩ := exists_quotedText_append hbefore hquote
  have hspelled : spelled (before ++ escaped '\'' :: behind) ++ '\'' :: after =
      spelled before ++ '\\' :: '\'' :: (spelled behind ++ '\'' :: after) := by
    simp [chars]
  rw [hspelled] at htext
  obtain rfl := Option.some.inj (htext.symm.trans hwhole)
  exact ⟨bare more, by rw [hbare, bare_cons (by decide)], hbehind⟩

theorem count_escaped_of_forall_doubled {c : Char} (h : ∀ part ∈ parts, part = doubled) :
    parts.count (escaped c) = 0 :=
  List.count_eq_zero.mpr fun hmem => by cases h _ hmem

theorem bare_quotedText_of_readAlike (hafter : after.head? ≠ some '\'') (h : ReadAlike parts)
    (htext : quotedText '\'' (spelled parts ++ '\'' :: after) = some text) :
    bare text = bare (denoted parts) := by
  cases h with
  | kept hparts =>
      have hescaped : escaped '\'' ∉ parts := fun hmem => absurd (hparts _ hmem) (by decide)
      rw [bare_quotedText_of_not_mem hafter hescaped htext, bare_denoted_of_forall_isKept hparts]
  | @cut front before behind hfront hbefore hbehind hcount =>
      have hescaped : escaped '\'' ∉ front ++ before := by
        rw [List.mem_append, not_or]
        exact ⟨fun hmem => absurd (hfront _ hmem) (by decide),
          fun hmem => absurd (hbefore _ hmem) (by decide)⟩
      obtain ⟨more, hbare, hmore⟩ := exists_bare_quotedText_of_cut hescaped htext
      have hnil : more = [] := by
        refine hmore.resolve_right fun hdoubled => ?_
        have hnone := count_escaped_of_forall_doubled (c := '\\') hdoubled
        omega
      rw [hbare, hnil, bare_spelled_append hfront hbefore, bare_denoted_cut,
        bare_denoted_of_forall_mem hbehind, hcount]

theorem readAlike_of_bare_quotedText (hafter : after.head? ≠ some '\'')
    (htext : quotedText '\'' (spelled parts ++ '\'' :: after) = some text)
    (h : bare text = bare (denoted parts)) : ReadAlike parts := by
  by_cases hescaped : escaped '\'' ∈ parts
  · obtain ⟨first, behind, rfl, hfirst⟩ := List.eq_append_cons_of_mem hescaped
    obtain ⟨more, hbare, hmore⟩ := exists_bare_quotedText_of_cut hfirst htext
    rw [hbare, bare_denoted_cut] at h
    have hnil : more = [] := by
      refine hmore.resolve_right fun hdoubled => ?_
      have hnothing : bare (denoted behind) = [] := by
        rw [bare_denoted_of_forall_mem fun part hpart => by simp [hdoubled part hpart],
          count_escaped_of_forall_doubled hdoubled, List.replicate_zero]
      have hlength := congrArg List.length h
      have hlonger := length_bare_spelled first
      rw [hnothing, List.append_nil, List.length_append, List.length_cons] at hlength
      omega
    rw [hnil] at h
    obtain ⟨front, before, rfl, hfront, hbefore⟩ := exists_front_of_bare_eq hfirst h
    rw [bare_spelled_append hfront hbefore, List.append_cancel_left_eq] at h
    have hbehind := forall_mem_of_bare_denoted h.symm
    rw [bare_denoted_of_forall_mem hbehind, List.replicate_inj] at h
    exact .cut hfront hbefore hbehind h.1.symm
  · refine .kept (forall_isKept_of_bare_eq ?_)
    rw [← bare_quotedText_of_not_mem hafter hescaped htext, h]

/-- What the options of a table show of a literal is what the dialect shows of it exactly when the
literal is read alike. -/
theorem exists_quotedText_spelled (parts : List LiteralPart) (hafter : after.head? ≠ some '\'') :
    ∃ text, quotedText '\'' (spelled parts ++ '\'' :: after) = some text ∧
      (bare text = bare (denoted parts) ↔ ReadAlike parts) := by
  have hquote : '\'' ∈ spelled parts ++ '\'' :: after := by simp
  obtain ⟨text, htext⟩ := exists_quotedText_of_mem hquote
  exact ⟨text, htext, readAlike_of_bare_quotedText hafter htext,
    fun h => bare_quotedText_of_readAlike hafter h htext⟩

end

end SchemaScaffold.Sql
