import SchemaScaffold.Proofs.GappedTexts
import SchemaScaffold.Proofs.Java.Reading

namespace SchemaScaffold.Java

inductive Kind where
  | blank
  | letter
  | mark (c : Char)
  deriving DecidableEq

/-- Square brackets count as letters, so the type of an array is one word. -/
def kind (c : Char) : Kind :=
  if [' ', '\t', '\n', '\r', '\x0c'].contains c then .blank
  else if c.isAlphanum || 0x80 ≤ c.toNat || ['_', '$', '[', ']'].contains c then .letter
  else .mark c

def modifiers : List (List Char) :=
  ["public", "protected", "private", "abstract", "static", "final", "default", "synchronized",
    "native", "strictfp", "transient", "volatile"].map String.toList

inductive Token (α : Type) where
  | modifier
  | word (word : α)
  | mark (c : Char)
  deriving DecidableEq

namespace Token

variable {α β : Type}

def map (f : α → β) : Token α → Token β
  | modifier => modifier
  | word w => word (f w)
  | mark c => mark c

def isModifier : Token α → Bool
  | modifier => true
  | _ => false

def isMark (c : Char) : Token α → Bool
  | mark d => c == d
  | _ => false

@[simp]
theorem isModifier_map (f : α → β) (token : Token α) :
    (token.map f).isModifier = token.isModifier := by cases token <;> rfl

@[simp]
theorem isMark_map (f : α → β) (c : Char) (token : Token α) :
    (token.map f).isMark c = token.isMark c := by cases token <;> rfl

end Token

section

variable {α : Type} (kind : α → Kind) (isModifier : List α → Bool)

def ofWord (word : List α) : List (Token (List α)) :=
  if word.isEmpty then [] else [if isModifier word then .modifier else .word word]

def cut (word : List α) : List α → List (Token (List α))
  | [] => ofWord isModifier word
  | c :: rest =>
    match kind c with
    | .blank => ofWord isModifier word ++ cut [] rest
    | .letter => cut (word ++ [c]) rest
    | .mark m => ofWord isModifier word ++ .mark m :: cut [] rest

end

def behindBrace (code : List Char) : List Char := (code.dropWhile (· != '\x7b')).tail

def bodyTokens (source : String) : List (Token (List Char)) :=
  cut kind modifiers.contains [] (behindBrace (stripped source).2)

/-! ### Sources with gaps -/

section

variable {γ : Type} [DecidableEq γ]

def gappedKind : Letter γ → Kind
  | .char c => kind c
  | .gap _ => .letter

def isGappedModifier (word : List (Letter γ)) : Bool :=
  modifiers.any fun modifier => word = Letter.ofChars modifier

/-- Reads on in a source with gaps, each of which may stand in some states only. -/
def State.runGapped (mayStand : γ → State → Bool) (state : State) :
    List (Letter γ) → Option (State × List (Letter γ))
  | [] => some (state, [])
  | .char c :: rest => do
    let (final, kept) ← runGapped mayStand (state.read c).1 rest
    return (final, Letter.ofChars (state.read c).2 ++ kept)
  | .gap name :: rest =>
    if mayStand name state then do
      let (final, kept) ← runGapped mayStand state rest
      return (final, if state = .start then .gap name :: kept else kept)
    else none

def gappedBehindBrace (code : List (Letter γ)) : List (Letter γ) :=
  (code.dropWhile (· != .char '\x7b')).tail

/-- What is known of the names that stand in gaps: in which states of the reading a gap may be, which
gaps are filled with letters, and which words are modifiers for no names. -/
structure GapRules (γ : Type) where
  mayStand : γ → State → Bool
  isName : γ → Bool
  isClear : List (Letter γ) → Bool

variable (rules : GapRules γ)

def GapRules.allows : Token (List (Letter γ)) → Bool
  | .word word => word.all Letter.isChar || rules.isClear word
  | _ => true

def gappedBodyTokens? (source : List (Letter γ)) : Option (List (Token (List (Letter γ)))) := do
  let (_, code) ← State.runGapped rules.mayStand .start source
  let body := gappedBehindBrace code
  let tokens := cut gappedKind isGappedModifier [] body
  if (body.all fun
      | .char _ => true
      | .gap name => rules.isName name) && tokens.all rules.allows
  then some tokens else none

end

/-! ### Reading by modes -/

section

variable {γ : Type}

/-- Reads on in a source with gaps and without backslashes, where the mode is all of the state. Every
mode is found before the reading goes on, which spares an evaluation to find it again. -/
def Mode.runGapped (mayStand : γ → State → Bool) (mode : Mode) :
    List (Letter γ) → Option (Mode × List (Letter γ))
  | [] => some (mode, [])
  | .char c :: rest =>
    if c == '\\' then none
    else
      match mode.read c with
      | (next, []) => runGapped mayStand next rest
      | (next, out) => do
        let (final, kept) ← runGapped mayStand next rest
        return (final, Letter.ofChars out ++ kept)
  | .gap name :: rest =>
    if mayStand name { mode } then do
      let (final, kept) ← runGapped mayStand mode rest
      return (final, if mode = .code then .gap name :: kept else kept)
    else none

theorem State.read_plain {c : Char} (h : c ≠ '\\') (mode : Mode) :
    State.read c { mode } = plain mode c := by
  have hread : readNext c mode .none = plain mode c := if_neg (by simpa using h)
  rw [read, hread]
  cases mode <;> rfl

theorem State.runGapped_of_modes {mayStand : γ → State → Bool} {mode final : Mode}
    {source kept : List (Letter γ)} (h : mode.runGapped mayStand source = some (final, kept)) :
    State.runGapped mayStand { mode } source = some ({ mode := final }, kept) := by
  induction source generalizing mode final kept with
  | nil =>
      cases h
      rfl
  | cons letter rest ih =>
      cases letter with
      | char c =>
          rw [Mode.runGapped] at h
          split at h
          · cases h
          · rename_i hc
            rw [runGapped, read_plain (by simpa using hc), plain]
            split at h
            · rename_i next hread
              rw [hread, ih h]
              rfl
            · rename_i next out hread
              obtain ⟨⟨last, others⟩, hrest, hpair⟩ := Option.bind_eq_some_iff.mp h
              cases hpair
              rw [hread, ih hrest]
              rfl
      | gap name =>
          rw [Mode.runGapped] at h
          rw [runGapped]
          split at h
          · rename_i hstand
            obtain ⟨⟨last, others⟩, hrest, hpair⟩ := Option.bind_eq_some_iff.mp h
            cases hpair
            rw [if_pos hstand, ih hrest]
            simp [start]
          · cases h

theorem Mode.runGapped_append {mayStand : γ → State → Bool} {mode middle final : Mode}
    {front back kept others : List (Letter γ)}
    (hfront : mode.runGapped mayStand front = some (middle, kept))
    (hback : middle.runGapped mayStand back = some (final, others)) :
    mode.runGapped mayStand (front ++ back) = some (final, kept ++ others) := by
  induction front generalizing mode kept with
  | nil =>
      cases hfront
      exact hback
  | cons letter rest ih =>
      cases letter with
      | char c =>
          rw [runGapped] at hfront
          rw [List.cons_append, runGapped]
          split at hfront
          · cases hfront
          · rename_i hc
            rw [if_neg hc]
            split at hfront
            · exact ih hfront
            · obtain ⟨⟨last, more⟩, hrest, hpair⟩ := Option.bind_eq_some_iff.mp hfront
              cases hpair
              simp [ih hrest]
      | gap name =>
          rw [runGapped] at hfront
          rw [List.cons_append, runGapped]
          split at hfront
          · rename_i hstand
            obtain ⟨⟨last, more⟩, hrest, hpair⟩ := Option.bind_eq_some_iff.mp hfront
            cases hpair
            rw [if_pos hstand, ih hrest]
            by_cases hcode : mode = .code <;> simp [hcode]
          · cases hfront

variable [DecidableEq γ]

def codeTokens? (rules : GapRules γ) (code : List (Letter γ)) :
    Option (List (Token (List (Letter γ)))) :=
  let body := gappedBehindBrace code
  let tokens := cut gappedKind isGappedModifier [] body
  if (body.all fun
      | .char _ => true
      | .gap name => rules.isName name) && tokens.all rules.allows
  then some tokens else none

theorem gappedBodyTokens?_of_modes {rules : GapRules γ} {final : Mode}
    {source code : List (Letter γ)}
    (h : Mode.runGapped rules.mayStand .code source = some (final, code)) :
    gappedBodyTokens? rules source = codeTokens? rules code := by
  have hstart : State.runGapped rules.mayStand .start source = some ({ mode := final }, code) :=
    State.runGapped_of_modes h
  rw [gappedBodyTokens?, hstart]
  rfl

end

structure GapRules.Obeys {γ : Type} (rules : GapRules γ) (fill : γ → List Char) : Prop where
  run : ∀ name state, rules.mayStand name state →
    state.run (fill name) = (state, if state = .start then fill name else [])
  brace : ∀ name, rules.mayStand name .start → '\x7b' ∉ fill name
  letters : ∀ name, rules.isName name → ∀ c ∈ fill name, kind c = .letter
  clear : ∀ word, rules.isClear word →
    Letter.filled fill word ≠ [] ∧ modifiers.contains (Letter.filled fill word) = false

section

open Letter

variable {γ : Type} {rules : GapRules γ} {fill : γ → List Char}

theorem State.run_filled (hrun : ∀ name state, rules.mayStand name state →
      state.run (fill name) = (state, if state = .start then fill name else []))
    {state final : State} {source kept : List (Letter γ)}
    (h : state.runGapped rules.mayStand source = some (final, kept)) :
    state.run (filled fill source) = (final, filled fill kept) ∧
      ∀ name, .gap name ∈ kept → rules.mayStand name .start := by
  induction source generalizing state final kept with
  | nil =>
      cases h
      exact ⟨rfl, by simp⟩
  | cons letter rest ih =>
      cases letter with
      | char c =>
          rw [runGapped] at h
          obtain ⟨⟨final', kept'⟩, hrest, hpair⟩ := Option.bind_eq_some_iff.mp h
          cases hpair
          obtain ⟨hread, hgaps⟩ := ih hrest
          constructor
          · rw [filled_cons, Letter.chars, List.singleton_append, run_cons, hread, filled_append,
              filled_ofChars]
          · intro name hname
            rw [List.mem_append] at hname
            refine hgaps name (hname.resolve_left ?_)
            simp [ofChars]
      | gap name =>
          rw [runGapped] at h
          split at h
          case isFalse => cases h
          case isTrue hstand =>
            obtain ⟨⟨final', kept'⟩, hrest, hpair⟩ := Option.bind_eq_some_iff.mp h
            cases hpair
            obtain ⟨hread, hgaps⟩ := ih hrest
            rw [filled_cons, Letter.chars, run_append, hrun name state hstand, hread]
            -- What fills a gap is kept in the code and nowhere else.
            by_cases hstart : state = .start
            · subst hstart
              refine ⟨by simp [Letter.chars], ?_⟩
              intro other hother
              simp only [if_true, List.mem_cons, Letter.gap.injEq] at hother
              rcases hother with rfl | hother
              · exact hstand
              · exact hgaps other hother
            · simp only [if_neg hstart]
              exact ⟨by simp, hgaps⟩

variable [DecidableEq γ]

theorem behindBrace_filled {code : List (Letter γ)}
    (hbrace : ∀ name, .gap name ∈ code → '\x7b' ∉ fill name) :
    behindBrace (filled fill code) = filled fill (gappedBehindBrace code) := by
  induction code with
  | nil => rfl
  | cons letter rest ih =>
      have hrest : behindBrace (filled fill rest) = filled fill (gappedBehindBrace rest) :=
        ih fun name hname => hbrace name (List.mem_cons_of_mem _ hname)
      cases letter with
      | char c =>
          by_cases hc : c = '\x7b'
          · subst hc
            rfl
          · simpa [behindBrace, gappedBehindBrace, Letter.chars, hc] using hrest
      | gap name =>
          have hname := hbrace name List.mem_cons_self
          have hall : ∀ c ∈ fill name, c != '\x7b' := by
            rintro c hc
            rw [bne_iff_ne]
            rintro rfl
            exact hname hc
          rw [filled_cons, Letter.chars, behindBrace, List.dropWhile_append_of_pos hall, ← behindBrace,
            hrest]
          simp [gappedBehindBrace]

theorem cut_letters {chars : List Char} (h : ∀ c ∈ chars, kind c = .letter) (word rest : List Char) :
    cut kind modifiers.contains word (chars ++ rest) =
      cut kind modifiers.contains (word ++ chars) rest := by
  induction chars generalizing word with
  | nil => simp
  | cons c more ih =>
      rw [List.forall_mem_cons] at h
      rw [List.cons_append, cut, h.1]
      simp only [ih h.2, List.append_assoc, List.singleton_append]

theorem contains_ofChars (chars : List Char) :
    isGappedModifier (ofChars (γ := γ) chars) = modifiers.contains chars := by
  have hinj : ∀ other : List Char, ofChars (γ := γ) chars = ofChars other ↔ chars = other := by
    intro other
    exact List.map_inj_right fun _ _ => Letter.char.inj
  rw [isGappedModifier, List.contains_eq_any_beq]
  simp only [hinj, Bool.beq_eq_decide_eq]

theorem ofWord_filled (hclear : ∀ word, rules.isClear word →
      filled fill word ≠ [] ∧ modifiers.contains (filled fill word) = false)
    {word : List (Letter γ)} (hallows : (ofWord isGappedModifier word).all rules.allows) :
    ofWord modifiers.contains (filled fill word) =
      (ofWord isGappedModifier word).map (Token.map (filled fill)) := by
  cases word with
  | nil => rfl
  | cons letter rest =>
      generalize hword : letter :: rest = word at hallows ⊢
      have hgapped : ofWord isGappedModifier word =
          [if isGappedModifier word then .modifier else .word word] := by
        rw [← hword]
        rfl
      have hplain : ∀ chars, word = ofChars chars → chars ≠ [] ∧
          isGappedModifier word = modifiers.contains chars := by
        rintro chars rfl
        refine ⟨?_, contains_ofChars chars⟩
        rintro rfl
        cases hword
      rw [hgapped] at hallows ⊢
      cases hmodifier : isGappedModifier word with
      | true =>
          obtain ⟨modifier, -, heq⟩ := List.any_eq_true.mp hmodifier
          obtain ⟨hne, hcontains⟩ := hplain modifier (of_decide_eq_true heq)
          rw [hmodifier] at hcontains
          rw [of_decide_eq_true heq, filled_ofChars, ofWord, ← hcontains]
          simp [hne, Token.map]
      | false =>
          simp only [hmodifier, Bool.false_eq_true, if_false, List.all_cons, List.all_nil,
            Bool.and_true, GapRules.allows, Bool.or_eq_true] at hallows
          have hfilled : filled fill word ≠ [] ∧
              modifiers.contains (filled fill word) = false := by
            rcases hallows with hchars | hnamed
            · obtain ⟨chars, rfl⟩ := exists_ofChars hchars
              obtain ⟨hne, hcontains⟩ := hplain chars rfl
              rw [filled_ofChars, ← hcontains]
              exact ⟨hne, hmodifier⟩
            · exact hclear word hnamed
          have hword : filled fill word ∉ modifiers := by simpa using hfilled.2
          simp [ofWord, hfilled.1, hword, Token.map]

theorem cut_filled (hrules : rules.Obeys fill) {word source : List (Letter γ)}
    (hnames : source.all fun
      | .char _ => true
      | .gap name => rules.isName name)
    (hallows : (cut gappedKind isGappedModifier word source).all rules.allows) :
    cut kind modifiers.contains (filled fill word) (filled fill source) =
      (cut gappedKind isGappedModifier word source).map (Token.map (filled fill)) := by
  induction source generalizing word with
  | nil => exact ofWord_filled hrules.clear hallows
  | cons letter rest ih =>
      rw [List.all_cons, Bool.and_eq_true] at hnames
      cases letter with
      | gap name =>
          rw [filled_cons, Letter.chars, cut_letters (hrules.letters name hnames.1)]
          have hrest := @ih (word ++ [.gap name]) hnames.2 hallows
          simpa [Letter.chars, cut, gappedKind] using hrest
      | char c =>
          rw [filled_cons, Letter.chars, List.singleton_append]
          unfold cut at hallows ⊢
          simp only [gappedKind] at hallows ⊢
          cases hkind : kind c with
          | letter =>
              rw [hkind] at hallows
              have hrest := @ih (word ++ [.char c]) hnames.2 hallows
              simpa [Letter.chars] using hrest
          | blank =>
              rw [hkind] at hallows
              rw [List.all_append, Bool.and_eq_true] at hallows
              have hrest := @ih [] hnames.2 hallows.2
              rw [List.map_append, ← hrest, ofWord_filled hrules.clear hallows.1]
              rfl
          | mark m =>
              rw [hkind] at hallows
              rw [List.all_append, List.all_cons, Bool.and_eq_true, Bool.and_eq_true] at hallows
              have hrest := @ih [] hnames.2 hallows.2.2
              rw [List.map_append, List.map_cons, ← hrest, ofWord_filled hrules.clear hallows.1]
              rfl

/-- A source with gaps has the tokens of the sources that come from it. -/
theorem bodyTokens_filled (hrules : rules.Obeys fill) {source : List (Letter γ)}
    {tokens : List (Token (List (Letter γ)))} (h : gappedBodyTokens? rules source = some tokens)
    {text : String} (htext : text.toList = filled fill source) :
    bodyTokens text = tokens.map (Token.map (filled fill)) := by
  rw [gappedBodyTokens?] at h
  obtain ⟨⟨final, code⟩, hrun, htokens⟩ := Option.bind_eq_some_iff.mp h
  dsimp only at htokens
  split at htokens
  case isFalse => cases htokens
  case isTrue hcheck =>
    obtain rfl := Option.some.inj htokens
    rw [Bool.and_eq_true] at hcheck
    obtain ⟨hread, hgaps⟩ := State.run_filled hrules.run hrun
    rw [bodyTokens, stripped, htext, hread,
      behindBrace_filled fun name hname => hrules.brace name (hgaps name hname)]
    exact cut_filled hrules hcheck.1 hcheck.2

end

end SchemaScaffold.Java
