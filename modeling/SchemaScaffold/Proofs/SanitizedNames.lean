import SchemaScaffold.Proofs.Layout
import SchemaScaffold.Proofs.PrintableNames
import SchemaScaffold.Proofs.SafeNames

/-!
# What sanitizing leaves of a name

A name is cleaned, kept apart from the names of devices and then cut, and no step spoils what an
earlier one has done, but for one thing: the cut can leave a blank at the end, because blanks are
taken off before it. So a sanitized name can be sanitized to another one. Nothing is cut off a second
time, and the third name is the second.
-/

namespace SchemaScaffold.FileName

open Text (isBlank isControl upperList)

/-! ### Names of devices -/

theorem isDevice_eq_false_iff {name : List Char} : isDevice name = false ↔
    ∀ device ∈ deviceNames, upperList name ≠ device.toList ∧
      ¬(device.toList ++ ['.']) <+: upperList name := by
  simp [isDevice, Text.upper, List.any_eq_false, not_or]

theorem not_isDevice_of_upperList {name rest : List Char} {c : Char}
    (hupper : upperList name = c :: rest)
    (hc : ∀ device ∈ deviceNames, (device.toList ++ ['.']).head? ≠ some c) :
    isDevice name = false := by
  rw [isDevice_eq_false_iff, hupper]
  intro device hdevice
  have hfirst := hc device hdevice
  constructor
  · intro hsame
    rw [← hsame] at hfirst
    exact hfirst rfl
  · rintro ⟨more, hmore⟩
    apply hfirst
    rw [← List.head?_append_of_ne_nil _ (by simp), hmore]
    rfl

theorem not_isDevice_avoidDevice (name : List Char) : isDevice (avoidDevice name) = false := by
  by_cases h : isDevice name
  · have hupper : upperList ('_' :: name) = '_' :: upperList name := rfl
    rw [avoidDevice, if_pos h]
    exact not_isDevice_of_upperList hupper (by decide)
  · rw [avoidDevice, if_neg h]
    exact eq_false_of_ne_true h

theorem not_isDevice_take {name : List Char} (h : isDevice name = false) {n : Nat} (hn : 4 < n) :
    isDevice (name.take n) = false := by
  rw [isDevice_eq_false_iff] at h ⊢
  intro device hdevice
  have hshort : ∀ device ∈ deviceNames, device.toList.length ≤ 4 := by decide
  have hsplit : upperList name = upperList (name.take n) ++ upperList (name.drop n) := by
    rw [upperList, upperList, upperList, ← List.flatMap_append, List.take_append_drop]
  by_cases hlength : name.length ≤ n
  · rw [List.take_of_length_le hlength]
    exact h device hdevice
  · constructor
    · intro hsame
      have hlong := Text.length_le_upperList (name.take n)
      have hdevice := hshort device hdevice
      rw [hsame, List.length_take] at hlong
      omega
    · intro hstarts
      apply (h device hdevice).2
      rw [hsplit]
      exact hstarts.trans (List.prefix_append _ _)

/-! ### Names of blanks -/

theorem isBlank_underscore : isBlank '_' = false := by decide

theorem isBlank_dot : isBlank '.' = false := by decide

theorem isLegal_of_isBlank {c : Char} (h : isBlank c ∧ isControl c = false) : IsLegal c := by
  have hmarks : illegalChars.all (!isBlank ·) := by decide
  refine ⟨fun hmem => ?_, h.2⟩
  have hnot := List.all_eq_true.mp hmarks c hmem
  rw [h.1] at hnot
  cases hnot

theorem isBlank_replaceIllegal_iff {c : Char} :
    isBlank (replaceIllegal c) ↔ isBlank c ∧ isControl c = false := by
  by_cases hlegal : IsLegal c
  · rw [replaceIllegal_eq_self hlegal]
    simp [hlegal.2]
  · rw [replaceIllegal_of_not_isLegal hlegal, isBlank_underscore]
    exact ⟨fun h => absurd h Bool.false_ne_true, fun h => absurd (isLegal_of_isBlank h) hlegal⟩

theorem forall_isBlank_collapseDots_iff {chars : List Char} :
    (∀ c ∈ collapseDots chars, isBlank c) ↔ ∀ c ∈ chars, isBlank c := by
  induction chars using collapseDots.induct with
  | case1 rest ih => simp [collapseDots, isBlank_dot, isBlank_underscore]
  | case2 c rest hdots ih =>
      rw [collapseDots, List.forall_mem_cons, List.forall_mem_cons]
      · exact and_congr_right fun _ => ih
      · exact hdots
  | case3 => rfl

/-- Nothing is left of a name exactly when it holds blanks only, control characters not among
them. -/
theorem clean_eq_nil_iff {name : List Char} :
    clean name = [] ↔ ∀ c ∈ name, isBlank c ∧ isControl c = false := by
  rw [clean, Text.trimList_eq_nil_iff, forall_isBlank_collapseDots_iff, List.forall_mem_map]
  exact forall₂_congr fun c _ => isBlank_replaceIllegal_iff

/-! ### Names before the cut -/

def uncut (name : String) : List Char := avoidDevice (clean name.toList)

section

variable {name : String}

theorem avoidDevice_cases (chars : List Char) :
    avoidDevice chars = chars ∨ avoidDevice chars = '_' :: chars := by
  unfold avoidDevice
  split
  · exact .inr rfl
  · exact .inl rfl

theorem isLegal_of_mem_uncut {c : Char} (hc : c ∈ uncut name) : IsLegal c := by
  rcases avoidDevice_cases (clean name.toList) with h | h
  · rw [uncut, h] at hc
    exact isLegal_of_mem_clean hc
  · rw [uncut, h, List.mem_cons] at hc
    rcases hc with rfl | hc
    · exact isLegal_underscore
    · exact isLegal_of_mem_clean hc

theorem trimList_uncut (name : String) : Text.trimList (uncut name) = uncut name := by
  have hclean : Text.trimList (clean name.toList) = clean name.toList := Text.trimList_trimList _
  rcases avoidDevice_cases (clean name.toList) with h | h
  · rw [uncut, h, hclean]
  · rw [Text.trimList_eq_self_iff] at hclean
    rw [uncut, h, Text.trimList_eq_self_iff]
    refine ⟨by simp [isBlank_underscore], fun c hc => ?_⟩
    rw [List.getLast?_cons] at hc
    cases hlast : (clean name.toList).getLast? with
    | none =>
        obtain rfl : '_' = c := by simpa [hlast] using hc
        exact isBlank_underscore
    | some last =>
        obtain rfl : last = c := by simpa [hlast] using hc
        exact hclean.2 last hlast

theorem sanitize_eq_ok_iff_uncut {safe : String} : sanitize name = .ok safe ↔
    clean name.toList ≠ [] ∧ safe.toList = (uncut name).take 200 := by
  rw [sanitize_eq_ok_iff, ← String.toList_inj, String.toList_ofList]
  rfl

end

/-- A name that every platform takes for a file, whatever blanks there are around it. -/
structure IsPortable (name : String) : Prop where
  ne : name ≠ ""
  short : name.length ≤ 200
  legal : ∀ c ∈ name.toList, c ∉ ['\\', '/', ':', '*', '?', '"', '<', '>', '|'] ∧ isControl c = false
  dots : ¬['.', '.'] <:+: name.toList
  device : ∀ device ∈ deviceNames, Text.upper name ≠ device ∧
    ¬(device ++ ".").toList <+: (Text.upper name).toList

section

variable {name safe : String}

theorem IsPortable.isDevice_eq_false (h : IsPortable name) : isDevice name.toList = false := by
  rw [isDevice_eq_false_iff]
  intro device hdevice
  simpa [Text.upper, ← String.toList_inj] using h.device device hdevice

theorem IsPortable.clean_eq (h : IsPortable name) :
    clean name.toList = Text.trimList name.toList := clean_eq_trimList h.legal h.dots

theorem isPortable_of_sanitize (h : sanitize name = .ok safe) : IsPortable safe := by
  obtain ⟨hclean, hsafe⟩ := sanitize_eq_ok_iff_uncut.mp h
  have hdevice : isDevice safe.toList = false := by
    rw [hsafe]
    exact not_isDevice_take (not_isDevice_avoidDevice _) (by decide)
  refine ⟨?_, ?_, fun c hc => ?_, ?_, fun device hmem => ?_⟩
  · exact (isSafe_of_sanitize h).empty
  · rw [← String.length_toList, hsafe]
    exact List.length_take_le _ _
  · rw [hsafe] at hc
    exact isLegal_of_mem_uncut ((List.take_sublist _ _).subset hc)
  · rw [hsafe]
    intro hdots
    exact not_dots_infix_avoidDevice (not_dots_infix_clean name.toList)
      (hdots.trans (List.take_prefix _ _).isInfix)
  · rw [isDevice_eq_false_iff] at hdevice
    simpa [Text.upper, ← String.toList_inj] using hdevice device hmem

end

/-- Sanitizing fails for names of blanks only, control characters not among them, and gives a
portable name for all others. -/
theorem sanitize_fails_iff_blank (name : String) :
    ((∃ error, sanitize name = .error error) ↔
      ∀ c ∈ name.toList, isBlank c ∧ isControl c = false) ∧
    ∀ safe, sanitize name = .ok safe → IsPortable safe := by
  refine ⟨?_, fun safe => isPortable_of_sanitize⟩
  rw [← clean_eq_nil_iff]
  constructor
  · rintro ⟨error, herror⟩
    by_contra hclean
    have hok := sanitize_eq_ok_iff.mpr ⟨hclean, rfl⟩
    rw [herror] at hok
    cases hok
  · intro hclean
    cases hsanitize : sanitize name with
    | error error => exact ⟨error, rfl⟩
    | ok safe => exact absurd hclean (sanitize_eq_ok_iff.mp hsanitize).1

/-! ### Sanitizing again -/

section

variable {name safe : String}

theorem IsPortable.length_uncut_le (h : IsPortable name) : (uncut name).length ≤ 200 := by
  have hlength : name.toList.length ≤ 200 := by
    rw [String.length_toList]
    exact h.short
  have htrim := Text.trimList_sublist name.toList
  rw [uncut, h.clean_eq]
  by_cases hsame : Text.trimList name.toList = name.toList
  · rw [hsame, avoidDevice, if_neg (by simp [h.isDevice_eq_false])]
    exact hlength
  · have hshorter : (Text.trimList name.toList).length < name.toList.length :=
      lt_of_le_of_ne htrim.length_le fun heq => hsame (htrim.eq_of_length heq)
    rcases avoidDevice_cases (Text.trimList name.toList) with heq | heq
    · rw [heq]
      omega
    · rw [heq, List.length_cons]
      omega

theorem sanitize_eq_self_iff :
    sanitize name = .ok name ↔ IsPortable name ∧ Text.trimList name.toList = name.toList := by
  constructor
  · intro h
    have hportable := isPortable_of_sanitize h
    obtain ⟨-, hname⟩ := sanitize_eq_ok_iff_uncut.mp h
    rw [List.take_of_length_le hportable.length_uncut_le] at hname
    refine ⟨hportable, ?_⟩
    rw [hname, trimList_uncut]
  · rintro ⟨hportable, htrim⟩
    have hclean : clean name.toList = name.toList := hportable.clean_eq.trans htrim
    rw [sanitize_eq_ok_iff_uncut, uncut, hclean, avoidDevice,
      if_neg (by simp [hportable.isDevice_eq_false]), List.take_of_length_le]
    · exact ⟨by simpa using hportable.ne, rfl⟩
    · rw [String.length_toList]
      exact hportable.short

/-- The last character that the cut keeps is a blank. -/
def IsCutAtBlank (name : String) : Prop := ∃ c, (uncut name)[199]? = some c ∧ isBlank c

theorem head?_of_sanitize (h : sanitize name = .ok safe) :
    ∀ c ∈ safe.toList.head?, isBlank c = false := by
  obtain ⟨-, hsafe⟩ := sanitize_eq_ok_iff_uncut.mp h
  rw [hsafe, List.head?_take, if_neg (by decide)]
  exact (Text.trimList_eq_self_iff.mp (trimList_uncut name)).1

theorem getLast?_of_sanitize_iff (h : sanitize name = .ok safe) :
    (∀ c ∈ safe.toList.getLast?, isBlank c = false) ↔ ¬IsCutAtBlank name := by
  obtain ⟨-, hsafe⟩ := sanitize_eq_ok_iff_uncut.mp h
  have hlast := (Text.trimList_eq_self_iff.mp (trimList_uncut name)).2
  rw [hsafe, List.getLast?_take, if_neg (by decide), IsCutAtBlank]
  cases hcut : (uncut name)[200 - 1]? with
  | none => simpa [hcut] using hlast
  | some c => simp

theorem sanitize_of_sanitize_iff (h : sanitize name = .ok safe) :
    sanitize safe = .ok safe ↔ ¬IsCutAtBlank name := by
  rw [sanitize_eq_self_iff, Text.trimList_eq_self_iff, getLast?_of_sanitize_iff h]
  exact ⟨fun hself => hself.2.2, fun hcut => ⟨isPortable_of_sanitize h, head?_of_sanitize h, hcut⟩⟩

/-- Nothing is cut off a portable name, so no blank is left at its end. -/
theorem IsPortable.not_isCutAtBlank (h : IsPortable name) : ¬IsCutAtBlank name := by
  rintro ⟨c, hcut, hblank⟩
  have hlast := (Text.trimList_eq_self_iff.mp (trimList_uncut name)).2
  have hlength := h.length_uncut_le
  obtain ⟨hin, -⟩ := List.getElem?_eq_some_iff.mp hcut
  have hend : (uncut name).length - 1 = 199 := by omega
  rw [List.getLast?_eq_getElem?, hend, hcut] at hlast
  rw [hlast c rfl] at hblank
  cases hblank

theorem exists_sanitize_of_sanitize (h : sanitize name = .ok safe) :
    ∃ again, sanitize safe = .ok again ∧ sanitize again = .ok again := by
  have hportable := isPortable_of_sanitize h
  have hclean : clean safe.toList ≠ [] := by
    rw [hportable.clean_eq, ne_eq, Text.trimList_eq_nil_iff]
    intro hblank
    have hne : safe.toList ≠ [] := by simpa using hportable.ne
    obtain ⟨c, rest, hchars⟩ := List.exists_cons_of_ne_nil hne
    have hhead := head?_of_sanitize h c (by rw [hchars]; rfl)
    rw [hblank c (by rw [hchars]; exact List.mem_cons_self)] at hhead
    cases hhead
  have hagain := sanitize_eq_ok_iff.mpr ⟨hclean, rfl⟩
  exact ⟨_, hagain, (sanitize_of_sanitize_iff hagain).mpr hportable.not_isCutAtBlank⟩

end

/-! ### Names that are a single dot -/

/-- A dot with blanks around it, control characters not among them. -/
def IsLoneDot (name : String) : Prop := ∃ before after, name.toList = before ++ '.' :: after ∧
  ∀ c ∈ before ++ after, isBlank c ∧ isControl c = false

theorem collapseDots_of_not_mem {chars : List Char} (h : '_' ∉ collapseDots chars) :
    collapseDots chars = chars := by
  induction chars using collapseDots.induct with
  | case1 rest ih => simp [collapseDots] at h
  | case2 c rest hdots ih =>
      rw [collapseDots] at h ⊢
      · rw [ih fun hmem => h (List.mem_cons_of_mem _ hmem)]
      all_goals exact hdots
  | case3 => rfl

theorem isLegal_of_not_mem {chars : List Char} (h : '_' ∉ chars.map replaceIllegal) :
    ∀ c ∈ chars, IsLegal c := by
  intro c hc
  by_contra hlegal
  apply h
  rw [← replaceIllegal_of_not_isLegal hlegal]
  exact List.mem_map_of_mem hc

theorem not_mem_of_forall_isBlank {mark : Char} {chars : List Char} (hmark : isBlank mark = false)
    (hchars : ∀ c ∈ chars, isBlank c) : mark ∉ chars := by
  intro hmem
  rw [hchars mark hmem] at hmark
  cases hmark

theorem isLoneDot_of_clean {name : String} (h : clean name.toList = ['.']) : IsLoneDot name := by
  obtain ⟨before, after, hchars, hbefore, hafter⟩ :=
    Text.exists_blanks_around (collapseDots (name.toList.map replaceIllegal))
  rw [← clean, h, List.append_assoc, List.singleton_append] at hchars
  -- No underscore has been put in, so nothing has been changed.
  have hnone : '_' ∉ collapseDots (name.toList.map replaceIllegal) := by
    rw [hchars]
    simp [not_mem_of_forall_isBlank isBlank_underscore hbefore,
      not_mem_of_forall_isBlank isBlank_underscore hafter]
  have hsame := collapseDots_of_not_mem hnone
  rw [hsame] at hnone hchars
  have hlegal := isLegal_of_not_mem hnone
  have hmap : name.toList.map replaceIllegal = name.toList :=
    (List.map_congr_left fun c hc => replaceIllegal_eq_self (hlegal c hc)).trans (List.map_id _)
  rw [hmap] at hchars
  refine ⟨before, after, hchars, fun c hc => ⟨?_, (hlegal c ?_).2⟩⟩
  · exact (List.mem_append.mp hc).elim (hbefore c) (hafter c)
  · rw [hchars]
    simp only [List.mem_append, List.mem_cons] at hc ⊢
    exact hc.imp_right .inr

theorem clean_of_isLoneDot {name : String} (h : IsLoneDot name) : clean name.toList = ['.'] := by
  obtain ⟨before, after, hname, hblanks⟩ := h
  rw [List.forall_mem_append] at hblanks
  have hbefore : ∀ c ∈ before, isBlank c := fun c hc => (hblanks.1 c hc).1
  have hafter : ∀ c ∈ after, isBlank c := fun c hc => (hblanks.2 c hc).1
  have hlegal : ∀ c ∈ name.toList, IsLegal c := by
    intro c hc
    rw [hname, List.mem_append, List.mem_cons] at hc
    rcases hc with hc | rfl | hc
    · exact isLegal_of_isBlank (hblanks.1 c hc)
    · exact ⟨by decide, by decide⟩
    · exact isLegal_of_isBlank (hblanks.2 c hc)
  have hcount : name.toList.count '.' ≤ 1 := by
    rw [hname, List.count_append, List.count_cons_self,
      List.count_eq_zero_of_not_mem (not_mem_of_forall_isBlank isBlank_dot hbefore),
      List.count_eq_zero_of_not_mem (not_mem_of_forall_isBlank isBlank_dot hafter)]
  have hsplit : name.toList = before ++ ['.'] ++ after := by simp [hname]
  rw [clean_eq_trimList hlegal (not_dots_infix_of_count hcount), hsplit,
    Text.trimList_blanks_around hbefore hafter]
  decide

theorem sanitize_eq_dot_iff {name safe : String} (h : sanitize name = .ok safe) :
    safe = "." ↔ IsLoneDot name := by
  obtain ⟨-, hsafe⟩ := sanitize_eq_ok_iff_uncut.mp h
  have htext : ".".toList = ['.'] := by decide
  rw [← String.toList_inj, hsafe, htext]
  constructor
  · intro hdot
    have hlength := congrArg List.length hdot
    rw [List.length_take, List.length_singleton] at hlength
    rw [List.take_of_length_le (by omega)] at hdot
    rcases avoidDevice_cases (clean name.toList) with heq | heq
    · exact isLoneDot_of_clean (heq.symm.trans hdot)
    · rw [uncut, heq] at hdot
      cases hdot
  · intro hdot
    rw [uncut, clean_of_isLoneDot hdot]
    decide

/-- A sanitized name is one component of a path unless it is a dot, it does not begin with a blank,
and it does not end with one unless it is cut there. It is sanitized to itself unless it is cut at a
blank, and then to a name that is sanitized to itself. -/
theorem sanitized_name_settles_iff {name safe : String} (h : sanitize name = .ok safe) :
    ((safe ≠ "." ∧ safe ≠ ".." ∧ ∀ directory : Path, (directory.join ⟨safe⟩).components =
        (directory.components.1, directory.components.2 ++ [safe])) ↔ ¬IsLoneDot name) ∧
      (∀ c ∈ safe.toList.head?, isBlank c = false) ∧
      ((∀ c ∈ safe.toList.getLast?, isBlank c = false) ↔ ¬IsCutAtBlank name) ∧
      (sanitize safe = .ok safe ↔ ¬IsCutAtBlank name) ∧
      ∃ again, sanitize safe = .ok again ∧ sanitize again = .ok again := by
  refine ⟨?_, head?_of_sanitize h, getLast?_of_sanitize_iff h, sanitize_of_sanitize_iff h,
    exists_sanitize_of_sanitize h⟩
  rw [← sanitize_eq_dot_iff h]
  constructor
  · exact fun hcomponent => hcomponent.1
  · intro hdot
    obtain ⟨hslash, hempty, hup⟩ := isSafe_of_sanitize h
    have hname : Layout.IsFileName safe := ⟨hslash, hempty, hdot⟩
    exact ⟨hdot, hup, hname.components_join⟩

theorem sanitized_name_settles_iff_con :
    sanitize " CON.java" = .ok "_CON.java" ∧
      (∀ directory : Path, (directory.join ⟨"_CON.java"⟩).components =
        (directory.components.1, directory.components.2 ++ ["_CON.java"])) ∧
      sanitize "_CON.java" = .ok "_CON.java" := by
  have hsanitize : sanitize " CON.java" = .ok "_CON.java" :=
    sanitize_eq_ok_iff.mpr ⟨by decide, by decide⟩
  have hdot : ¬IsLoneDot " CON.java" := by
    rw [← sanitize_eq_dot_iff hsanitize]
    decide
  have hcut : ¬IsCutAtBlank " CON.java" := by
    rintro ⟨c, hc, -⟩
    have hnone : (uncut " CON.java")[199]? = none := by decide
    rw [hnone] at hc
    cases hc
  obtain ⟨hcomponent, -, -, hagain, -⟩ := sanitized_name_settles_iff hsanitize
  exact ⟨hsanitize, (hcomponent.mpr hdot).2.2, hagain.mpr hcut⟩

theorem clean_replicate_append (n : Nat) : clean (List.replicate (n + 1) 'x' ++ [' ', 'y']) =
    List.replicate (n + 1) 'x' ++ [' ', 'y'] := by
  have hmarks : ∀ c ∈ ['x', ' ', 'y'], IsLegal c ∧ c ≠ '.' := by
    simp only [List.forall_mem_cons, List.not_mem_nil, false_implies, implies_true, and_true,
      IsLegal]
    decide
  have hchars : ∀ c ∈ List.replicate (n + 1) 'x' ++ [' ', 'y'], c ∈ ['x', ' ', 'y'] := by
    intro c hc
    rw [List.mem_append, List.mem_replicate] at hc
    rcases hc with ⟨-, rfl⟩ | hc
    · exact List.mem_cons_self
    · exact List.mem_cons_of_mem _ hc
  have hdots : (List.replicate (n + 1) 'x' ++ [' ', 'y']).count '.' ≤ 1 := by
    rw [List.count_eq_zero_of_not_mem fun hdot => (hmarks '.' (hchars '.' hdot)).2 rfl]
    exact Nat.zero_le 1
  rw [clean_eq_trimList (fun c hc => (hmarks c (hchars c hc)).1) (not_dots_infix_of_count hdots),
    Text.trimList_eq_self_iff, List.getLast?_append]
  exact ⟨by rintro c ⟨⟩; decide, by rintro c ⟨⟩; decide⟩

theorem sanitize_replicate_append {n : Nat} (hn : n + 2 = 200) :
    sanitize (String.ofList (List.replicate (n + 1) 'x' ++ [' ', 'y'])) =
      .ok (String.ofList (List.replicate (n + 1) 'x' ++ [' '])) := by
  have hdevice : isDevice (List.replicate (n + 1) 'x' ++ [' ', 'y']) = false :=
    not_isDevice_of_upperList (c := 'X') rfl (by decide)
  have hcut : List.replicate (n + 1) 'x' ++ [' ', 'y'] =
      (List.replicate (n + 1) 'x' ++ [' ']) ++ ['y'] := by
    rw [List.append_assoc]
    rfl
  rw [sanitize_eq_ok_iff_uncut, uncut, String.toList_ofList, String.toList_ofList,
    clean_replicate_append, avoidDevice, if_neg (by simp [hdevice])]
  refine ⟨by simp, ?_⟩
  rw [hcut, List.take_left']
  rw [List.length_append, List.length_replicate]
  exact hn

/-- A dot adds no component, and a name that is cut behind a blank keeps it until it is sanitized
again. -/
theorem sanitized_names_unsettled :
    (sanitize "." = .ok "." ∧
      ((Path.mk "/srv/out").join ⟨"."⟩).components = (Path.mk "/srv/out").components) ∧
    let letters := List.replicate 199 'x'
    sanitize (String.ofList (letters ++ [' ', 'y'])) = .ok (String.ofList (letters ++ [' '])) ∧
      sanitize (String.ofList (letters ++ [' '])) ≠ .ok (String.ofList (letters ++ [' '])) := by
  refine ⟨⟨sanitize_eq_ok_iff.mpr ⟨by decide, by decide⟩, by decide⟩, ?_, ?_⟩
  · exact sanitize_replicate_append (n := 198) rfl
  · rw [ne_eq, sanitize_eq_self_iff, String.toList_ofList, Text.trimList_eq_self_iff]
    rintro ⟨-, -, hlast⟩
    have hblank := hlast ' ' (by rw [List.getLast?_concat]; rfl)
    cases hblank

end SchemaScaffold.FileName
