import SchemaScaffold.Proofs.GappedTexts

namespace SchemaScaffold.Markup

inductive Token (α : Type) where
  | word (word : List Char)
  | value (value : List α)
  deriving DecidableEq

abbrev Tag (α : Type) := List (Token α)

inductive State (α : Type) where
  | text
  | tag (tokens : Tag α) (word : List Char)
  | value (tokens : Tag α) (quote : Char) (value : List α)
  /-- In a comment, behind some hyphens. -/
  | comment (hyphens : Nat)
  deriving DecidableEq

def endsWord (c : Char) : Bool := [' ', '\t', '\n', '\r', '=', '/'].contains c

def withWord {α : Type} (tokens : Tag α) (word : List Char) : Tag α :=
  if word.isEmpty then tokens else tokens ++ [.word word]

namespace State

section

variable {α : Type} (letter : Char → α)

def readTag (c : Char) (tokens : Tag α) (word : List Char) : State α × List (Tag α) :=
  if c = '>' then (text, [withWord tokens word])
  else if c = '"' || c = '\'' then (value (withWord tokens word) c [], [])
  else if endsWord c then (tag (withWord tokens word) [], [])
  else if tokens.isEmpty && word ++ [c] = ['!', '-', '-'] then (comment 0, [])
  else (tag tokens (word ++ [c]), [])

def read (c : Char) : State α → State α × List (Tag α)
  | text => (if c = '<' then tag [] [] else text, [])
  | tag tokens word => readTag c tokens word
  | value tokens quote v =>
    (if c = quote then tag (tokens ++ [.value v]) [] else value tokens quote (v ++ [letter c]), [])
  | comment hyphens =>
    (if c = '-' then comment (hyphens + 1)
      else if c = '>' && 2 ≤ hyphens then text else comment 0, [])

def run (state : State α) : List Char → State α × List (Tag α)
  | [] => (state, [])
  | c :: rest =>
    let (final, tags) := run (state.read letter c).1 rest
    (final, (state.read letter c).2 ++ tags)

theorem run_cons (state : State α) (c : Char) (rest : List Char) :
    state.run letter (c :: rest) =
      (((state.read letter c).1.run letter rest).1,
        (state.read letter c).2 ++ ((state.read letter c).1.run letter rest).2) := rfl

theorem run_append (state : State α) (front back : List Char) :
    state.run letter (front ++ back) =
      (((state.run letter front).1.run letter back).1,
        (state.run letter front).2 ++ ((state.run letter front).1.run letter back).2) := by
  induction front generalizing state with
  | nil => rfl
  | cons c rest ih => simp [run_cons, ih]

end

end State

def idFrom? {α : Type} : Token α × Token α → Option (List α)
  | (.word key, .value v) => if key = ['i', 'd'] then some v else none
  | _ => none

def idIn? {α : Type} (attributes : Tag α) : Option (List α) :=
  (attributes.zip attributes.tail).findSome? idFrom?

structure Element (α : Type) where
  name : List Char
  id : List α
  deriving DecidableEq

def Element.ofTag? {α : Type} : Tag α → Option (Element α)
  | .word name :: attributes => (idIn? attributes).map fun id => { name, id }
  | _ => none

def elements (source : String) : List (String × String) :=
  ((State.text.run id source.toList).2.filterMap Element.ofTag?).map fun element =>
    (String.ofList element.name, String.ofList element.id)

/-! ### Files with gaps -/

open Letter

variable {γ : Type}

def Token.filled (fill : γ → List Char) : Token (Letter γ) → Token Char
  | word w => word w
  | value v => value (Letter.filled fill v)

def State.filled (fill : γ → List Char) : State (Letter γ) → State Char
  | text => text
  | tag tokens word => tag (tokens.map (Token.filled fill)) word
  | value tokens quote v =>
    value (tokens.map (Token.filled fill)) quote (Letter.filled fill v)
  | comment hyphens => comment hyphens

def Element.filled (fill : γ → List Char) (element : Element (Letter γ)) : Element Char where
  name := element.name
  id := Letter.filled fill element.id

/-- The state behind a gap, which may stand in the text and in a value. -/
def State.behindGap? (name : γ) : State (Letter γ) → Option (State (Letter γ))
  | text => some text
  | value tokens quote v =>
    if quote = '"' then some (value tokens quote (v ++ [.gap name])) else none
  | _ => none

def State.runGapped (mayStand : γ → Bool) (state : State (Letter γ)) :
    List (Letter γ) → Option (State (Letter γ) × List (Tag (Letter γ)))
  | [] => some (state, [])
  | .char c :: rest => do
    let (final, tags) ← runGapped mayStand (state.read .char c).1 rest
    return (final, (state.read .char c).2 ++ tags)
  | .gap name :: rest =>
    if mayStand name then do runGapped mayStand (← state.behindGap? name) rest else none

/-- Whether a character may stand in the text and in a value. -/
def isInert (c : Char) : Bool := ! ['<', '"'].contains c

section

variable {fill : γ → List Char}

theorem withWord_filled (tokens : Tag (Letter γ)) (word : List Char) :
    (withWord tokens word).map (Token.filled fill) =
      withWord (tokens.map (Token.filled fill)) word := by
  cases word with
  | nil => rfl
  | cons c rest => simp [withWord, Token.filled]

namespace State

theorem read_filled (state : State (Letter γ)) (c : Char) :
    (state.filled fill).read id c =
      ((state.read .char c).1.filled fill,
        (state.read .char c).2.map (List.map (Token.filled fill))) := by
  cases state with
  | text =>
      by_cases hc : c = '<' <;> simp [read, filled, hc]
  | tag tokens word =>
      simp only [filled, read, readTag, List.isEmpty_map]
      split
      · simp [withWord_filled]
      · split
        · simp [withWord_filled]
        · split
          · simp [withWord_filled]
          · split <;> simp
  | value tokens quote v =>
      by_cases hc : c = quote <;> simp [read, filled, hc, Token.filled, Letter.chars]
  | comment hyphens =>
      simp only [read, filled]
      split
      · rfl
      · split <;> rfl

theorem run_text {chars : List Char} (h : chars.all isInert) :
    (text : State Char).run id chars = (text, []) := by
  induction chars with
  | nil => rfl
  | cons c rest ih =>
      rw [List.all_cons, Bool.and_eq_true] at h
      have hread : (text : State Char).read id c = (text, []) := by
        have hc : c ≠ '<' := by
          rintro rfl
          exact absurd h.1 (by decide)
        simp [read, hc]
      rw [run_cons, hread, ih h.2]
      rfl

theorem run_value {chars : List Char} (h : chars.all isInert) (tokens : Tag Char)
    (v : List Char) :
    (value tokens '"' v).run id chars = (value tokens '"' (v ++ chars), []) := by
  induction chars generalizing v with
  | nil => simp [run]
  | cons c rest ih =>
      rw [List.all_cons, Bool.and_eq_true] at h
      have hread : (value tokens '"' v).read id c = (value tokens '"' (v ++ [c]), []) := by
        have hc : c ≠ '"' := by
          rintro rfl
          exact absurd h.1 (by decide)
        simp [read, hc]
      rw [run_cons, hread, ih h.2]
      simp

theorem run_gap {name : γ} (hfill : (fill name).all isInert) {state next : State (Letter γ)}
    (h : state.behindGap? name = some next) :
    (state.filled fill).run id (fill name) = (next.filled fill, []) := by
  cases state with
  | text =>
      cases h
      exact run_text hfill
  | value tokens quote v =>
      rw [behindGap?] at h
      split at h
      case isFalse => cases h
      case isTrue hquote =>
        cases h
        rw [filled, hquote, run_value hfill, filled, filled_append, filled_cons, filled_nil,
          List.append_nil, Letter.chars]
  | tag | comment => cases h

theorem run_filled {mayStand : γ → Bool} (hfill : ∀ name, mayStand name → (fill name).all isInert)
    {state final : State (Letter γ)} {source : List (Letter γ)} {tags : List (Tag (Letter γ))}
    (h : state.runGapped mayStand source = some (final, tags)) :
    (state.filled fill).run id (Letter.filled fill source) =
      (final.filled fill, tags.map (List.map (Token.filled fill))) := by
  induction source generalizing state final tags with
  | nil =>
      cases h
      rfl
  | cons letter rest ih =>
      cases letter with
      | char c =>
          obtain ⟨⟨final', tags'⟩, hrest, hpair⟩ := Option.bind_eq_some_iff.mp h
          cases hpair
          rw [filled_cons, Letter.chars, List.singleton_append, run_cons, read_filled, ih hrest,
            List.map_append]
      | gap name =>
          rw [runGapped] at h
          split at h
          case isFalse => cases h
          case isTrue hstand =>
            obtain ⟨next, hnext, hrest⟩ := Option.bind_eq_some_iff.mp h
            rw [filled_cons, Letter.chars, run_append, run_gap (hfill name hstand) hnext, ih hrest]
            rfl

end State

theorem idFrom?_filled (tokens : Token (Letter γ) × Token (Letter γ)) :
    idFrom? (tokens.map (Token.filled fill) (Token.filled fill)) =
      (idFrom? tokens).map (Letter.filled fill) := by
  obtain ⟨key | v, word | w⟩ := tokens
  case word.value =>
    by_cases hkey : key = ['i', 'd'] <;> simp [Token.filled, idFrom?, hkey]
  all_goals rfl

theorem idIn?_filled (attributes : Tag (Letter γ)) :
    idIn? (attributes.map (Token.filled fill)) =
      (idIn? attributes).map (Letter.filled fill) := by
  rw [idIn?, idIn?, ← List.map_tail, List.zip_map, List.findSome?_map, List.map_findSome?]
  exact congrArg (List.findSome? · _) (funext idFrom?_filled)

theorem Element.ofTag?_filled (tag : Tag (Letter γ)) :
    ofTag? (tag.map (Token.filled fill)) = (ofTag? tag).map (Element.filled fill) := by
  rcases tag with _ | ⟨name | v, attributes⟩
  · rfl
  · simp only [List.map_cons, Token.filled, ofTag?, idIn?_filled, Option.map_map]
    rfl
  · rfl

structure Reads (fill : γ → List Char) (state : State (Letter γ)) (chars : List Char)
    (final : State (Letter γ)) (found : List (Element (Letter γ))) : Prop where
  final : ((state.filled fill).run id chars).1 = final.filled fill
  found : ((state.filled fill).run id chars).2.filterMap Element.ofTag? =
    found.map (Element.filled fill)

namespace Reads

variable {state next final : State (Letter γ)} {found others : List (Element (Letter γ))}

theorem nil (state : State (Letter γ)) : Reads fill state [] state [] := ⟨rfl, rfl⟩

theorem append {front back : List Char} (hfront : Reads fill state front next found)
    (hback : Reads fill next back final others) :
    Reads fill state (front ++ back) final (found ++ others) := by
  constructor
  · rw [State.run_append, hfront.final]
    exact hback.final
  · rw [State.run_append, hfront.final, List.filterMap_append, hfront.found, hback.found,
      List.map_append]

theorem ofRun {mayStand : γ → Bool} (hfill : ∀ name, mayStand name → (fill name).all isInert)
    {source : List (Letter γ)} {tags : List (Tag (Letter γ))}
    (h : state.runGapped mayStand source = some (final, tags)) :
    Reads fill state (Letter.filled fill source) final (tags.filterMap Element.ofTag?) := by
  have hrun := State.run_filled hfill h
  constructor
  · rw [hrun]
  · rw [hrun, List.filterMap_map, List.map_filterMap]
    exact congrArg (List.filterMap · _) (funext Element.ofTag?_filled)

end Reads

end

end SchemaScaffold.Markup
