import Mathlib.Data.List.TakeWhile
import Mathlib.Logic.Relation
import SchemaScaffold.Proofs.Balanced

/-!
# How deep the scan is in brackets

The scan for the options of a table counts the brackets that are open. It is followed here step by
step with a counter that is an integer: nothing keeps it from going below zero, and a bracket that
closes is counted before it is asked whether the first one is closed. That the counter stays a
number of brackets all the same is what the steps preserve, since the scan begins at a bracket that
opens.
-/

namespace SchemaScaffold.Script

/-- The options of a statement are what stands behind its first bracketed list. -/
def HasOptions (statement options : List Char) : Prop :=
  ∃ head list, '(' ∉ head ∧ Balanced list ∧ statement = head ++ '(' :: list ++ ')' :: options

structure ScanPlace where
  depth : Int
  ahead : List Char

namespace ScanPlace

def start (statement : List Char) : ScanPlace := ⟨0, statement.dropWhile (· != '(')⟩

/-- The scan goes on from a place to the next one. -/
inductive Step : ScanPlace → ScanPlace → Prop where
  | quoted {depth : Int} {quote : Char} {rest : List Char} (hquote : isQuote quote) :
      Step ⟨depth, quote :: rest⟩ ⟨depth, (skipQuoted quote [] rest).ahead⟩
  | opening {depth : Int} {rest : List Char} : Step ⟨depth, '(' :: rest⟩ ⟨depth + 1, rest⟩
  | closing {depth : Int} {rest : List Char} (hdepth : depth - 1 ≠ 0) :
      Step ⟨depth, ')' :: rest⟩ ⟨depth - 1, rest⟩
  | other {depth : Int} {c : Char} {rest : List Char} (hc : isMark c = false) :
      Step ⟨depth, c :: rest⟩ ⟨depth, rest⟩

def StopsBefore (options : List Char) (place : ScanPlace) : Prop :=
  place.depth - 1 = 0 ∧ place.ahead = ')' :: options

def Reached (statement : List Char) (place : ScanPlace) : Prop :=
  Relation.ReflTransGen Step (start statement) place

/-- A bracket is open, or the scan is in front of the first one. -/
def IsCounted (place : ScanPlace) : Prop :=
  0 < place.depth ∨ place.depth = 0 ∧ ∀ c ∈ place.ahead.head?, c = '('

def found (place : ScanPlace) : Option (List Char) := afterClosing place.depth.toNat place.ahead

theorem isCounted_start (statement : List Char) : (start statement).IsCounted := by
  refine .inr ⟨rfl, fun c hc => ?_⟩
  have hstop := List.head?_dropWhile_not (· != '(') statement
  have hhead : (statement.dropWhile (· != '(')).head? = some c := hc
  rw [hhead] at hstop
  simpa using hstop

namespace IsCounted

variable {depth : Int} {c : Char} {rest : List Char}

theorem nonneg {place : ScanPlace} (h : place.IsCounted) : 0 ≤ place.depth := by
  rcases h with hopen | ⟨hzero, -⟩ <;> omega

/-- At every other character than the first bracket some bracket is open. -/
theorem pos (h : IsCounted ⟨depth, c :: rest⟩) (hc : c ≠ '(') : 0 < depth :=
  h.resolve_right fun hfirst => hc (hfirst.2 c rfl)

theorem step {place next : ScanPlace} (h : place.IsCounted) (hstep : Step place next) :
    next.IsCounted := by
  cases hstep with
  | quoted hquote =>
      refine .inl (h.pos ?_)
      rintro rfl
      cases hquote
  | opening => exact .inl (Int.lt_add_one_of_le h.nonneg)
  | @closing depth _ hdepth =>
      have hpos := h.pos (by decide)
      exact .inl (show 0 < depth - 1 by omega)
  | other hc =>
      refine .inl (h.pos ?_)
      rintro rfl
      cases hc

end IsCounted

theorem found_eq_of_step {place next : ScanPlace} (h : place.IsCounted) (hstep : Step place next) :
    place.found = next.found := by
  cases hstep with
  | quoted hquote => exact afterClosing_quote _ _ hquote
  | @opening depth rest =>
      have hdepth : (depth + 1).toNat = depth.toNat + 1 := Int.toNat_add h.nonneg (by decide)
      rw [found, found, hdepth]
      exact afterClosing_open _ _
  | @closing depth rest hdepth =>
      have hpos := h.pos (by decide)
      obtain ⟨above, rfl⟩ : ∃ above : Nat, depth = above + 2 := ⟨(depth - 2).toNat, by omega⟩
      have hnext : ((above : Int) + 2 - 1).toNat = above + 1 := by omega
      rw [found, found, hnext]
      exact afterClosing_close _ _
  | other hc => exact afterClosing_other _ _ hc

theorem found_of_stopsBefore {place : ScanPlace} {options : List Char}
    (h : place.StopsBefore options) : place.found = some options := by
  have hdepth : place.depth.toNat = 1 := by
    have hone := h.1
    omega
  rw [found, hdepth, h.2, afterClosing_close_one]

/-- Where the scan does not stop, it goes on, until nothing is ahead. -/
theorem stops_or_steps (place : ScanPlace) : place.ahead = [] ∨
    (∃ options, place.StopsBefore options) ∨
      ∃ next, Step place next ∧ next.ahead.length < place.ahead.length := by
  obtain ⟨depth, ahead⟩ := place
  cases ahead with
  | nil => exact .inl rfl
  | cons c rest =>
      have hshorter : rest.length < (c :: rest).length := Nat.lt_succ_self _
      by_cases hquote : isQuote c
      · exact .inr (.inr ⟨_, .quoted hquote,
          Nat.lt_of_le_of_lt (length_ahead_skipQuoted ..) hshorter⟩)
      by_cases hopen : c = '('
      · obtain rfl := hopen
        exact .inr (.inr ⟨_, .opening, hshorter⟩)
      by_cases hclose : c = ')'
      · obtain rfl := hclose
        by_cases hdepth : depth - 1 = 0
        · exact .inr (.inl ⟨rest, hdepth, rfl⟩)
        · exact .inr (.inr ⟨_, .closing hdepth, hshorter⟩)
      have hc : isMark c = false := by simp [isMark, hquote, hopen, hclose]
      exact .inr (.inr ⟨_, .other hc, hshorter⟩)

theorem exists_end (place : ScanPlace) : ∃ last, Relation.ReflTransGen Step place last ∧
    (last.ahead = [] ∨ ∃ options, last.StopsBefore options) := by
  induction hlength : place.ahead.length using Nat.strongRecOn generalizing place with
  | ind length ih =>
      rcases place.stops_or_steps with hend | hstop | ⟨next, hstep, hshorter⟩
      · exact ⟨place, .refl, .inl hend⟩
      · exact ⟨place, .refl, .inr hstop⟩
      · obtain ⟨last, hreached, hlast⟩ := ih _ (hlength ▸ hshorter) next rfl
        exact ⟨last, .head hstep hreached, hlast⟩

section

variable {statement : List Char} {place : ScanPlace}

theorem Reached.isCounted (h : Reached statement place) : place.IsCounted := by
  induction h with
  | refl => exact isCounted_start statement
  | tail _ hstep ih => exact ih.step hstep

/-- What is found from a place on are the options of the statement. -/
theorem Reached.found_eq (h : Reached statement place) : place.found = tableOptions statement := by
  induction h with
  | refl => rfl
  | tail hbefore hstep ih =>
      rw [← ih]
      exact (found_eq_of_step (Reached.isCounted hbefore) hstep).symm

theorem tableOptions_eq_some_iff_stops {options : List Char} :
    tableOptions statement = some options ↔
      ∃ place, Reached statement place ∧ place.StopsBefore options := by
  constructor
  · intro h
    obtain ⟨last, hreached, hend | ⟨others, hstop⟩⟩ := exists_end (start statement)
    · have hnone := Reached.found_eq hreached
      rw [ScanPlace.found, hend, h, afterClosing.eq_def] at hnone
      cases hnone
    · have hfound := Reached.found_eq hreached
      rw [found_of_stopsBefore hstop, h] at hfound
      cases hfound
      exact ⟨last, hreached, hstop⟩
  · rintro ⟨place, hreached, hstop⟩
    rw [← hreached.found_eq, found_of_stopsBefore hstop]

end

end ScanPlace

theorem tableOptions_of_not_mem {statement : List Char} (h : '(' ∉ statement) :
    tableOptions statement = none := by
  have hpassed : statement.dropWhile (· != '(') = [] := by
    rw [List.dropWhile_eq_nil_iff]
    intro c hc
    rw [bne_iff_ne]
    rintro rfl
    exact h hc
  rw [tableOptions, hpassed, afterClosing.eq_def]

/-- The scan finds options exactly where there are some: its first bracket is closed by the one that
balances it. -/
theorem tableOptions_eq_some_iff {statement options : List Char} :
    tableOptions statement = some options ↔ HasOptions statement options := by
  constructor
  · intro h
    have hopen : '(' ∈ statement := by
      by_contra hnone
      rw [tableOptions_of_not_mem hnone] at h
      cases h
    obtain ⟨head, rest, rfl, hhead⟩ := List.eq_append_cons_of_mem hopen
    rw [tableOptions_append hhead] at h
    obtain ⟨list, after, hlist, rfl, ⟨-, rfl⟩ | ⟨above, ⟨⟩, -⟩⟩ :=
      exists_balanced_of_afterClosing h
    exact ⟨head, list, hhead, hlist, by rw [List.append_assoc, List.cons_append]⟩
  · rintro ⟨head, list, hhead, hlist, rfl⟩
    exact (tableOptions_eq_iff hhead).mpr hlist

/-- The options of a table stand behind the first bracketed list of its statement. They are found
exactly when the list is closed, and then there is one way to cut the statement only. The scan finds
them where its counter falls back to zero, and the counter is never below zero on the way. -/
theorem options_behind_first_list (statement : List Char) :
    (∀ options, tableOptions statement = some options ↔ HasOptions statement options) ∧
    (tableOptions statement = none ↔ ∀ options, ¬HasOptions statement options) ∧
    (∀ options others, HasOptions statement options → HasOptions statement others →
      options = others) ∧
    (∀ options, tableOptions statement = some options ↔
      ∃ place, ScanPlace.Reached statement place ∧ place.StopsBefore options) ∧
    ∀ place, ScanPlace.Reached statement place →
      0 ≤ place.depth ∧ (place.ahead.head? = some ')' → 0 ≤ place.depth - 1) := by
  refine ⟨fun _ => tableOptions_eq_some_iff, ?_, ?_,
    fun _ => ScanPlace.tableOptions_eq_some_iff_stops, ?_⟩
  · simp only [← tableOptions_eq_some_iff, Option.eq_none_iff_forall_ne_some]
  · intro options others hoptions hothers
    rw [← tableOptions_eq_some_iff] at hoptions hothers
    exact Option.some.inj (hoptions.symm.trans hothers)
  · rintro ⟨depth, ahead⟩ hreached
    have hcounted := hreached.isCounted
    refine ⟨hcounted.nonneg, fun hclose => ?_⟩
    obtain ⟨rest, rfl⟩ := List.head?_eq_some_iff.mp hclose
    have hpos := hcounted.pos (by decide)
    exact Int.sub_nonneg_of_le hpos

end SchemaScaffold.Script
