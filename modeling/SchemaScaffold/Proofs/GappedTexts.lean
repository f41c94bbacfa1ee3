import Mathlib.Data.List.Basic

/-!
# Texts with gaps

A text that is known up to the names in it is a text with gaps. It is read like the texts that come
from it, so long as what fills the gaps is read like one letter.
-/

namespace SchemaScaffold

inductive Letter (γ : Type) where
  | char (c : Char)
  | gap (name : γ)
  deriving DecidableEq

namespace Letter

variable {γ : Type}

def chars (fill : γ → List Char) : Letter γ → List Char
  | char c => [c]
  | gap name => fill name

def isChar : Letter γ → Bool
  | char _ => true
  | gap _ => false

def isUpper : Letter γ → Bool
  | char c => c.isUpper
  | gap _ => false

def ofChars (chars : List Char) : List (Letter γ) := chars.map char

def filled (fill : γ → List Char) (letters : List (Letter γ)) : List Char :=
  letters.flatMap (chars fill)

variable {fill : γ → List Char}

@[simp]
theorem filled_nil : filled fill [] = [] := rfl

@[simp]
theorem filled_cons (letter : Letter γ) (rest : List (Letter γ)) :
    filled fill (letter :: rest) = letter.chars fill ++ filled fill rest := List.flatMap_cons

@[simp]
theorem filled_append (letters others : List (Letter γ)) :
    filled fill (letters ++ others) = filled fill letters ++ filled fill others :=
  List.flatMap_append

@[simp]
theorem filled_ofChars (chars : List Char) : filled fill (ofChars chars) = chars := by
  induction chars with
  | nil => rfl
  | cons c rest ih => rw [ofChars, List.map_cons, filled_cons, ← ofChars, ih]; rfl

theorem exists_ofChars {letters : List (Letter γ)} (h : letters.all isChar) :
    ∃ chars, letters = ofChars chars := by
  induction letters with
  | nil => exact ⟨[], rfl⟩
  | cons letter rest ih =>
      rw [List.all_cons, Bool.and_eq_true] at h
      obtain ⟨chars, rfl⟩ := ih h.2
      cases letter with
      | char c => exact ⟨c :: chars, rfl⟩
      | gap name => cases h.1

end Letter

end SchemaScaffold
