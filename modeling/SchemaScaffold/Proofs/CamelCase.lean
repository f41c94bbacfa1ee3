import Mathlib.Data.List.SplitBy
import SchemaScaffold.Proofs.Names

/-!
# Words of a name in camel case

The words of a name decide how it is written in lower camel case, and they can be read off the result
again, since a capital stands wherever a word starts. What is lost is which letters of a word were
capitals: `TVShow` has the same words as `TvShow`.
-/

namespace SchemaScaffold

theorem Text.runs_eq_singleton {keep : Char → Bool} {chars : List Char} (hne : chars ≠ [])
    (h : ∀ c ∈ chars, keep c) : runs keep chars = [chars] := by
  induction chars with
  | nil => exact absurd rfl hne
  | cons c rest ih =>
      rw [List.forall_mem_cons] at h
      unfold runs
      rw [if_pos h.1]
      cases rest with
      | nil => rfl
      | cons d others =>
          rw [ih (by simp) h.2]
          simp [h.2 d]

namespace Naming

open SchemaScaffold.Text

/-! ### Words -/

/-- The words of a name, as they stand in it. -/
def camelSplit (name : List Char) : List (List Char) :=
  (runs isAlphanumeric name).flatMap (camelWords .start [])

def smallWords (name : List Char) : List (List Char) := (camelSplit name).map lowerWord

def withCapital : List Char → List Char
  | [] => []
  | c :: rest => upperChar c ++ rest

def joinWords : List (List Char) → List Char
  | [] => []
  | first :: others => first ++ others.flatMap withCapital

def readWords (name : List Char) : List (List Char) :=
  match name.splitBy fun _ c => !isUppercase c with
  | [] => []
  | first :: others => first :: others.map uncapitalize

theorem camelWords_eq_cons {mode : WordMode} {word chars : List Char} (hchars : chars ≠ [])
    (hmode : word = [] → mode = .start) :
    ∃ first others, camelWords mode word chars = first :: others ∧
      first.head? = (word.reverse ++ chars).head? ∧
        ∀ other ∈ others, other.head?.any isUppercase := by
  fun_induction camelWords mode word chars with
  | case1 => exact absurd rfl hchars
  | case2 mode word c => exact ⟨_, _, rfl, by simp, by simp⟩
  | case3 mode word c d rest hbreak ih =>
      obtain ⟨first, others, hwords, hfirst, hothers⟩ := ih (by simp) fun _ => rfl
      refine ⟨_, _, rfl, by simp, ?_⟩
      rw [hwords, List.forall_mem_cons]
      refine ⟨?_, hothers⟩
      rw [hfirst]
      exact (Bool.and_eq_true_iff.mp hbreak).2
  | case4 mode word c d rest _ hbreak ih =>
      simp only [Bool.and_eq_true, beq_iff_eq] at hbreak
      obtain ⟨⟨hupper, hc⟩, -⟩ := hbreak
      obtain ⟨first, others, hwords, hfirst, hothers⟩ := ih (by simp) (by simp)
      have hword : word ≠ [] := by
        rintro rfl
        rw [hmode rfl] at hupper
        cases hupper
      refine ⟨_, _, rfl, ?_, ?_⟩
      · rw [List.head?_append_of_ne_nil _ (by simpa using hword)]
      · rw [hwords, List.forall_mem_cons]
        refine ⟨?_, hothers⟩
        rw [hfirst]
        exact hc
  | case5 mode word c d rest _ _ ih =>
      obtain ⟨first, others, hwords, hfirst, hothers⟩ := ih (by simp) (by simp)
      refine ⟨first, others, hwords, ?_, hothers⟩
      rw [hfirst, List.reverse_cons, List.append_assoc]
      rfl

theorem mem_of_mem_camelWords {mode : WordMode} {word chars : List Char} {other : List Char}
    (hother : other ∈ camelWords mode word chars) {c : Char} (hc : c ∈ other) :
    c ∈ word ∨ c ∈ chars := by
  fun_induction camelWords mode word chars with
  | case1 => cases hother
  | case2 mode word d =>
      obtain rfl := List.mem_singleton.mp hother
      simpa [or_comm] using hc
  | case3 mode word d e rest _ ih =>
      rcases List.mem_cons.mp hother with rfl | hother
      · rw [List.mem_reverse, List.mem_cons] at hc
        rcases hc with rfl | hc
        · exact .inr List.mem_cons_self
        · exact .inl hc
      · rcases ih hother with hc | hc
        · cases hc
        · exact .inr (List.mem_cons_of_mem _ hc)
  | case4 mode word d e rest _ _ ih =>
      rcases List.mem_cons.mp hother with rfl | hother
      · exact .inl (List.mem_reverse.mp hc)
      · rcases ih hother with hc | hc
        · obtain rfl := List.mem_singleton.mp hc
          exact .inr List.mem_cons_self
        · exact .inr (List.mem_cons_of_mem _ hc)
  | case5 mode word d e rest _ _ ih =>
      rcases ih hother with hc | hc
      · rcases List.mem_cons.mp hc with rfl | hc
        · exact .inr List.mem_cons_self
        · exact .inl hc
      · exact .inr (List.mem_cons_of_mem _ hc)

theorem isNameChar_of_mem_lowerWord {word : List Char} (hword : ∀ c ∈ word, isNameChar c) {c : Char}
    (hc : c ∈ lowerWord word) : isNameChar c := by
  induction word with
  | nil => cases hc
  | cons first rest ih =>
      rw [List.forall_mem_cons] at hword
      unfold lowerWord at hc
      split at hc
      · obtain rfl := List.mem_singleton.mp hc
        decide
      · rcases List.mem_append.mp hc with hc | hc
        · exact isNameChar_of_mem_lowerChar hword.1 hc
        · exact ih hword.2 hc

theorem isNameChar_of_mem_capitalizeWord {word : List Char} (hword : ∀ c ∈ word, isNameChar c)
    {c : Char} (hc : c ∈ capitalizeWord word) : isNameChar c := by
  cases word with
  | nil => cases hc
  | cons first rest =>
      rw [List.forall_mem_cons] at hword
      rcases List.mem_append.mp hc with hc | hc
      · exact isNameChar_of_mem_upperChar hword.1 hc
      · exact isNameChar_of_mem_lowerWord hword.2 hc

/-- An instance name holds no ASCII characters other than letters and digits. -/
theorem isNameChar_of_mem_instanceName {className : String} {c : Char}
    (hc : c ∈ (instanceName className).toList) : isNameChar c := by
  have hwords : ∀ word ∈ camelSplit className.toList, ∀ d ∈ word, isNameChar d := by
    intro word hword d hd
    obtain ⟨run, hrun, hword⟩ := List.mem_flatMap.mp hword
    rcases mem_of_mem_camelWords hword hd with hd | hd
    · cases hd
    · exact isNameChar_of_isAlphanumeric (keep_of_mem_runs hrun hd)
  refine isNameChar_of_mem_avoidKeyword (fun d hd => ?_) hc
  rw [String.toList_ofList, lowerCamelCase, ← camelSplit] at hd
  cases hsplit : camelSplit className.toList with
  | nil =>
      rw [hsplit] at hd
      cases hd
  | cons first others =>
      rw [hsplit, List.forall_mem_cons] at hwords
      rw [hsplit] at hd
      rcases List.mem_append.mp hd with hd | hd
      · exact isNameChar_of_mem_lowerWord hwords.1 hd
      · obtain ⟨word, hword, hd⟩ := List.mem_flatMap.mp hd
        exact isNameChar_of_mem_capitalizeWord (hwords.2 word hword) hd

/-! ### Plain letters -/

/-- A letter or number with one small letter at most, which has no other capital. -/
def isPlainLetter (c : Char) : Bool :=
  isAlphanumeric c && c != capitalSigma &&
    match lowerChar c with
    | [d] => if isUppercase c then !isUppercase d && upperChar d == [c] && upperChar c == [c]
      else d == c
    | _ => false

def IsPlain (name : List Char) : Prop := name ≠ [] ∧ ∀ c ∈ name, isPlainLetter c

instance (name : List Char) : Decidable (IsPlain name) := inferInstanceAs (Decidable (_ ∧ _))

theorem isPlainLetter_of_isAlphanum {c : Char} (hascii : c.toNat < 0x80) (hc : c.isAlphanum) :
    isPlainLetter c :=
  forall_ascii (p := fun c => c.isAlphanum → isPlainLetter c) (by decide) hascii hc

section

variable {c : Char}

theorem isAlphanumeric_of_isPlainLetter (h : isPlainLetter c) : isAlphanumeric c := by
  rw [isPlainLetter, Bool.and_eq_true, Bool.and_eq_true] at h
  exact h.1.1

theorem exists_lowerChar (h : isPlainLetter c) :
    ∃ d, lowerChar c = [d] ∧ isUppercase d = false ∧
      (isUppercase c → upperChar d = [c] ∧ upperChar c = [c]) := by
  rw [isPlainLetter, Bool.and_eq_true] at h
  obtain ⟨-, hcase⟩ := h
  split at hcase
  case h_1 d hlower =>
    cases hupper : isUppercase c with
    | true => simp_all
    | false =>
        obtain rfl : d = c := by simpa [hupper] using hcase
        exact ⟨d, hlower, hupper, by simp⟩
  case h_2 => cases hcase

theorem lowerWord_cons (h : isPlainLetter c) (rest : List Char) :
    lowerWord (c :: rest) = lowerChar c ++ lowerWord rest := by
  rw [isPlainLetter, Bool.and_eq_true, Bool.and_eq_true, bne_iff_ne] at h
  simp [lowerWord, h.1.2]

theorem not_isUppercase_of_mem_lowerWord {word : List Char} (hword : ∀ c ∈ word, isPlainLetter c)
    (hc : c ∈ lowerWord word) : isUppercase c = false := by
  induction word with
  | nil => cases hc
  | cons first rest ih =>
      rw [List.forall_mem_cons] at hword
      obtain ⟨d, hlower, hsmall, -⟩ := exists_lowerChar hword.1
      rw [lowerWord_cons hword.1, hlower, List.singleton_append] at hc
      rcases List.mem_cons.mp hc with rfl | hc
      · exact hsmall
      · exact ih hword.2 hc

end

structure IsCapital (word : List Char) : Prop where
  starts : word.head?.any isUppercase
  plain : ∀ c ∈ word, isPlainLetter c

theorem IsCapital.exists_cases {word : List Char} (h : IsCapital word) :
    ∃ c d small, isUppercase c ∧ (∀ e ∈ small, isUppercase e = false) ∧
      lowerWord word = d :: small ∧ capitalizeWord word = c :: small ∧
      uncapitalize (c :: small) = d :: small ∧ withCapital (d :: small) = c :: small := by
  obtain ⟨hstarts, hplain⟩ := h
  cases word with
  | nil => cases hstarts
  | cons c rest =>
      rw [List.forall_mem_cons] at hplain
      obtain ⟨d, hlower, -, hupper⟩ := exists_lowerChar hplain.1
      obtain ⟨hd, hc⟩ := hupper hstarts
      refine ⟨c, d, lowerWord rest, hstarts, fun e => not_isUppercase_of_mem_lowerWord hplain.2,
        ?_, ?_, ?_, ?_⟩
      · rw [lowerWord_cons hplain.1, hlower, List.singleton_append]
      · rw [capitalizeWord, hc, List.singleton_append]
      · rw [uncapitalize, hlower, List.singleton_append]
      · rw [withCapital, hd, List.singleton_append]

/-- Every word of a plain name after the first one starts with a capital. -/
theorem camelSplit_eq_cons {name : List Char} (hname : IsPlain name) :
    ∃ first others, camelSplit name = first :: others ∧ first ≠ [] ∧
      (∀ c ∈ first, isPlainLetter c) ∧ ∀ other ∈ others, IsCapital other := by
  obtain ⟨hne, hplain⟩ := hname
  have hruns : runs isAlphanumeric name = [name] :=
    runs_eq_singleton hne fun c hc => isAlphanumeric_of_isPlainLetter (hplain c hc)
  have hsplit : camelSplit name = camelWords .start [] name := by simp [camelSplit, hruns]
  have hmode : ([] : List Char) = [] → WordMode.start = .start := fun _ => rfl
  obtain ⟨first, others, hwords, hfirst, hothers⟩ := camelWords_eq_cons hne hmode
  have hletters : ∀ word ∈ first :: others, ∀ c ∈ word, isPlainLetter c := by
    intro word hword c hc
    rw [← hwords] at hword
    rcases mem_of_mem_camelWords hword hc with hc | hc
    · cases hc
    · exact hplain c hc
  rw [List.forall_mem_cons] at hletters
  refine ⟨first, others, hsplit.trans hwords, ?_, hletters.1, ?_⟩
  · rintro rfl
    cases name with
    | nil => exact hne rfl
    | cons c rest => cases hfirst
  · intro other hother
    exact ⟨hothers other hother, hletters.2 other hother⟩

/-! ### The words of a name in lower camel case -/

theorem lowerCamelCase_eq {name first : List Char} {others : List (List Char)}
    (h : camelSplit name = first :: others) :
    lowerCamelCase name = lowerWord first ++ others.flatMap capitalizeWord := by
  rw [lowerCamelCase, ← camelSplit, h]

theorem joinWords_smallWords {name : List Char} (hname : IsPlain name) :
    joinWords (smallWords name) = lowerCamelCase name := by
  obtain ⟨first, others, hsplit, -, -, hothers⟩ := camelSplit_eq_cons hname
  have hcapital : ∀ other ∈ others, withCapital (lowerWord other) = capitalizeWord other := by
    intro other hother
    obtain ⟨c, d, small, -, -, hlower, hcapitalize, -, hwith⟩ :=
      (hothers other hother).exists_cases
    rw [hlower, hwith, hcapitalize]
  rw [lowerCamelCase_eq hsplit, smallWords, hsplit, List.map_cons, joinWords, List.flatMap_map]
  congr 1
  exact List.flatMap_congr hcapital

theorem isChain_cons_of_forall {α : Type} {r : α → α → Prop} {x : α} {l : List α}
    (h : ∀ a ∈ x :: l, ∀ b ∈ l, r a b) : (x :: l).IsChain r := by
  induction l generalizing x with
  | nil => exact .singleton x
  | cons y rest ih =>
      refine .cons_cons (h x List.mem_cons_self y List.mem_cons_self) (ih ?_)
      intro a ha b hb
      exact h a (List.mem_cons_of_mem _ ha) b (List.mem_cons_of_mem _ hb)

theorem splitBy_capitals {first : List Char} {others : List (List Char)} (hne : first ≠ [])
    (hfirst : ∀ c ∈ first, isUppercase c = false)
    (hothers : ∀ other ∈ others,
      ∃ c small, other = c :: small ∧ isUppercase c ∧ ∀ d ∈ small, isUppercase d = false) :
    (first ++ others.flatten).splitBy (fun _ c => !isUppercase c) = first :: others := by
  have hnil : [] ∉ first :: others := by
    rintro hmem
    rcases List.mem_cons.mp hmem with rfl | hmem
    · exact hne rfl
    · obtain ⟨c, small, heq, -⟩ := hothers _ hmem
      cases heq
  rw [← List.flatten_cons]
  apply List.splitBy_flatten hnil
  · intro word hword
    obtain ⟨c, small, rfl, hsmall⟩ :
        ∃ c small, word = c :: small ∧ ∀ d ∈ small, isUppercase d = false := by
      rcases List.mem_cons.mp hword with rfl | hword
      · obtain ⟨c, small, rfl⟩ := List.exists_cons_of_ne_nil hne
        exact ⟨c, small, rfl, (List.forall_mem_cons.mp hfirst).2⟩
      · obtain ⟨c, small, rfl, -, hsmall⟩ := hothers word hword
        exact ⟨c, small, rfl, hsmall⟩
    apply isChain_cons_of_forall
    intro _ _ d hd
    simp [hsmall d hd]
  · apply isChain_cons_of_forall
    intro before hbefore other hother
    have hbefore' : before ≠ [] := fun h => hnil (h ▸ hbefore)
    obtain ⟨c, small, rfl, hc, -⟩ := hothers other hother
    exact ⟨hbefore', by simp, by simp [hc]⟩

theorem readWords_lowerCamelCase {name : List Char} (hname : IsPlain name) :
    readWords (lowerCamelCase name) = smallWords name := by
  obtain ⟨first, others, hsplit, hne, hfirst, hothers⟩ := camelSplit_eq_cons hname
  have hwords : (lowerCamelCase name).splitBy (fun _ c => !isUppercase c) =
      lowerWord first :: others.map capitalizeWord := by
    rw [lowerCamelCase_eq hsplit, List.flatMap_def]
    apply splitBy_capitals
    · obtain ⟨c, rest, rfl⟩ := List.exists_cons_of_ne_nil hne
      rw [List.forall_mem_cons] at hfirst
      obtain ⟨d, hlower, -⟩ := exists_lowerChar hfirst.1
      simp [lowerWord_cons hfirst.1, hlower]
    · exact fun c => not_isUppercase_of_mem_lowerWord hfirst
    · rw [List.forall_mem_map]
      intro other hother
      obtain ⟨c, d, small, hc, hsmall, -, hcapitalize, -⟩ := (hothers other hother).exists_cases
      exact ⟨c, small, hcapitalize, hc, hsmall⟩
  have hsmall : ∀ other ∈ others, uncapitalize (capitalizeWord other) = lowerWord other := by
    intro other hother
    obtain ⟨c, d, small, -, -, hlower, hcapitalize, huncap, -⟩ :=
      (hothers other hother).exists_cases
    rw [hcapitalize, huncap, hlower]
  rw [readWords, hwords, smallWords, hsplit, List.map_cons]
  simpa using hsmall

/-- A name that is written as some words, which can be read off it. -/
structure IsWritten (name : String) (words : List (List Char)) : Prop where
  name_eq : name = String.ofList (joinWords words)
  words_eq : readWords (joinWords words) = words

/-- Two names that are written as words are the same exactly when their words are. -/
theorem IsWritten.inj {name other : String} {words others : List (List Char)}
    (h : IsWritten name words) (hother : IsWritten other others) :
    name = other ↔ words = others := by
  rw [h.name_eq, hother.name_eq, String.ofList_inj]
  constructor
  · intro hjoin
    rw [← h.words_eq, hjoin, hother.words_eq]
  · rintro rfl
    rfl

theorem isWritten_lowerCamelCase {name : List Char} (hname : IsPlain name) :
    IsWritten (String.ofList (lowerCamelCase name)) (smallWords name) := by
  rw [← joinWords_smallWords hname]
  refine ⟨rfl, ?_⟩
  rw [joinWords_smallWords hname, readWords_lowerCamelCase hname]

example : smallWords "TVShow".toList = smallWords "TvShow".toList := by decide

end Naming

end SchemaScaffold
