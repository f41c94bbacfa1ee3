import Mathlib
import SchemaScaffold.Command.Execution
import SchemaScaffold.Proofs.Config.SettingReading
import SchemaScaffold.Proofs.DiskPlaces

/-!
# Which source a setting comes from

A setting has the value of its option, or else of its variable, or else of the file, or else its
default. Options are applied to settings that are complete, and the other two sources are put into
one tree of data before anything is read off it. There a variable finds what the file says under the
same name only: a setting of the stack that the two give under different names is given twice, and
the settings are refused.
-/

namespace SchemaScaffold

open Traversal

namespace Config

/-! ### What sources say -/

/-- A single setting: one of a run, or one of its stack. -/
inductive Key where
  | run (name : SettingsKey) (hname : name ≠ .stack)
  | stack (name : StackKey)

def sourceTree (source : List (String × Datum)) : Datum := addAll (.table []) source

def stackIn? (source : List (String × Datum)) : Option Datum :=
  (sourceTree source).fields.lookup SettingsKey.stack.name

def stackSettings (source : List (String × Datum)) : List (String × Datum) :=
  ((stackIn? source).map Datum.settings).getD []

namespace Key

/-- What a source gives a setting, under whichever of its names. -/
def given? (source : List (String × Datum)) : Key → Option Datum
  | run name _ => (sourceTree source).fields.lookup name.name
  | stack name => name.names.findSome? fun spelling => (stackSettings source).lookup spelling

def datum? (file : List (String × Datum)) (environment : List (String × String)) (key : Key) :
    Option Datum :=
  (key.given? (variableData environment)).or (key.given? file)

def value? : Key → Datum → Option Value
  | run name _, datum => name.value? .lenient datum
  | stack name, datum => name.value? .lenient datum

end Key

end Config

open Config

def Settings.valueOf (settings : Settings) : Key → Value
  | .run name _ => settings.settingValue name
  | .stack name => settings.stack.settingValue name

namespace Config

variable {file : List (String × Datum)} {environment : List (String × String)}

/-! ### One tree -/

/-- The tree that settings are read off. -/
def wholeTree (file : List (String × Datum)) (environment : List (String × String)) : Datum :=
  addAll (sourceTree file) (variableData environment)

theorem sourceTree_eq (source : List (String × Datum)) :
    sourceTree source = mergeAll (.table []) (entriesOf source) :=
  addAll_eq (.table []) source

theorem wholeTree_eq (file : List (String × Datum)) (environment : List (String × String)) :
    wholeTree file environment =
      mergeAll (sourceTree file) (entriesOf (variableData environment)) :=
  addAll_eq (sourceTree file) (variableData environment)

theorem distinct_sourceTree (source : List (String × Datum)) : (sourceTree source).Distinct := by
  rw [sourceTree_eq]
  exact (Datum.Distinct.plain rfl).mergeAll _

theorem distinct_wholeTree (file : List (String × Datum)) (environment : List (String × String)) :
    (wholeTree file environment).Distinct := by
  rw [wholeTree_eq]
  exact (distinct_sourceTree file).mergeAll _

theorem entries_variableData :
    ∀ entry ∈ entriesOf (variableData environment), entry.way ≠ [] ∧ entry.datum.IsPlain := by
  intro entry h
  obtain ⟨⟨name, datum⟩, hfield, rfl⟩ := List.mem_map.mp h
  obtain ⟨⟨_, value⟩, _, hvalue⟩ := List.mem_filterMap.mp hfield
  obtain ⟨_, _, hvalue⟩ := Option.map_eq_some_iff.mp hvalue
  obtain ⟨rfl, rfl⟩ := Prod.mk.inj hvalue
  exact ⟨keysOf_ne_nil _, fun _ h => nomatch h⟩

theorem Datum.Alike.isSome_eq {found other : Option Datum}
    (h : Option.Rel Datum.Alike found other) : found.isSome = other.isSome := by
  cases h <;> rfl

theorem Datum.Alike.rel_refl (found : Option Datum) : Option.Rel Datum.Alike found found := by
  cases found with
  | none => exact .none
  | some datum => exact .some (.refl datum)

/-- Under every key there is what the environment says there, or else the file. -/
theorem alike_lookup_wholeTree (file : List (String × Datum))
    (environment : List (String × String)) (name : String) :
    Option.Rel Datum.Alike ((wholeTree file environment).fields.lookup name)
      (((sourceTree (variableData environment)).fields.lookup name).or
        ((sourceTree file).fields.lookup name)) := by
  rw [wholeTree_eq, sourceTree_eq (variableData environment)]
  exact alike_lookup_mergeAll entries_variableData (Datum.Alike.rel_refl _)

/-- No setting but the stack takes a table, so data that are alike are read alike. -/
theorem Key.map_value?_of_alike {found other : Option Datum} (h : Option.Rel Datum.Alike found other)
    (key : Key) : found.map key.value? = other.map key.value? := by
  cases h with
  | none => rfl
  | some halike =>
      cases halike with
      | refl => rfl
      | tables fields others =>
          cases key with
          | run name hname => cases name <;> first | rfl | exact absurd rfl hname
          | stack name => cases name <;> rfl

/-! ### The stack in the tree -/

/-- Both sources give the settings of the stack one by one, if both give any: no variable is about
the stack as a whole, and variables about it do not meet a list. -/
structure KeepsStack (file : List (String × Datum)) (environment : List (String × String)) :
    Prop where
  byName : ∀ field ∈ variableData environment, field.1 ≠ SettingsKey.stack.name
  noList : (stackIn? (variableData environment)).isSome →
    ∀ items, stackIn? file ≠ some (.list items)

def wholeStack? (file : List (String × Datum)) (environment : List (String × String)) :
    Option Datum :=
  (wholeTree file environment).fields.lookup SettingsKey.stack.name

def wholeSettings (file : List (String × Datum)) (environment : List (String × String)) :
    List (String × Datum) :=
  ((wholeStack? file environment).map Datum.settings).getD []

def stackDatum? (file : List (String × Datum)) (environment : List (String × String))
    (name : String) : Option Datum :=
  ((stackSettings (variableData environment)).lookup name).or ((stackSettings file).lookup name)

theorem isTable_mergeAll {entries : List Entry} (hways : ∀ entry ∈ entries, entry.way ≠ [])
    (fields : List (String × Datum)) : ∃ others, mergeAll (.table fields) entries = .table others := by
  induction entries generalizing fields with
  | nil => exact ⟨fields, rfl⟩
  | cons entry rest ih =>
      rw [List.forall_mem_cons] at hways
      obtain ⟨way, datum⟩ := entry
      obtain ⟨key, others, rfl⟩ := List.exists_cons_of_ne_nil hways.1
      exact ih hways.2 _

section Stack

variable (hstack : KeepsStack file environment)

include hstack

theorem KeepsStack.ways : ∀ entry ∈ entriesOf (variableData environment),
    entry.way ≠ [] ∧ entry.way ≠ [SettingsKey.stack.name] := by
  intro entry h
  refine ⟨(entries_variableData entry h).1, fun hway => ?_⟩
  obtain ⟨field, hfield, rfl⟩ := List.mem_map.mp h
  exact hstack.byName field hfield (keysOf_eq_singleton hway)

/-- Either no variable is about the stack, or variables give a table, and put it onto what the file
has there. -/
theorem KeepsStack.stack_cases :
    (stackIn? (variableData environment) = none ∧
      wholeStack? file environment = stackIn? file) ∨
    ∃ own whole, stackIn? (variableData environment) = some (.table own) ∧
      wholeStack? file environment = some (.table whole) ∧
      ∀ name, Option.Rel Datum.Alike (whole.lookup name)
        ((own.lookup name).or ((stackSettings file).lookup name)) := by
  have hown := lookup_mergeAll hstack.ways (.table [])
  have hwhole := lookup_mergeAll hstack.ways (sourceTree file)
  rw [← sourceTree_eq] at hown
  rw [← wholeTree_eq] at hwhole
  split at hown
  · rename_i hbelow
    rw [if_pos hbelow] at hwhole
    exact .inl ⟨hown, hwhole⟩
  · rename_i hbelow
    rw [if_neg hbelow] at hwhole
    -- what is left of the names below the stack leads somewhere, and the data are still plain
    have hentries : ∀ entry ∈ below SettingsKey.stack.name (entriesOf (variableData environment)),
        entry.way ≠ [] ∧ entry.datum.IsPlain := by
      intro entry h
      have hentry := mem_below h
      refine ⟨fun hway => (hstack.ways _ hentry).2 ?_, (entries_variableData _ hentry).2⟩
      rw [hway]
    have hfile : (((sourceTree file).fields.lookup SettingsKey.stack.name).getD .null).fields =
        stackSettings file := by
      have hlist := hstack.noList (Option.isSome_iff_exists.mpr ⟨_, hown⟩)
      rw [stackIn?] at hlist
      rw [stackSettings, stackIn?]
      cases hfound : (sourceTree file).fields.lookup SettingsKey.stack.name with
      | none => rfl
      | some datum =>
          cases datum with
          | list items => exact absurd hfound (hlist items)
          | _ => rfl
    have halike : ∀ name, Option.Rel Datum.Alike
        ((mergeAll (.table (stackSettings file))
          (below SettingsKey.stack.name (entriesOf (variableData environment)))).fields.lookup name)
        (((mergeAll (.table [])
          (below SettingsKey.stack.name (entriesOf (variableData environment)))).fields.lookup
            name).or ((stackSettings file).lookup name)) :=
      fun name => alike_lookup_mergeAll hentries (Datum.Alike.rel_refl _)
    obtain ⟨own, hownTable⟩ := isTable_mergeAll (fun entry h => (hentries entry h).1) []
    obtain ⟨whole, hwholeTable⟩ :=
      isTable_mergeAll (fun entry h => (hentries entry h).1) (stackSettings file)
    refine .inr ⟨own, whole, hown.trans (congrArg some hownTable), ?_, ?_⟩
    · rw [wholeStack?, hwhole, hfile, hwholeTable]
    · rw [hownTable, hwholeTable] at halike
      exact halike

/-- Under every name the stack has what the environment says there, or else the file. -/
theorem KeepsStack.alike_lookup (name : String) :
    Option.Rel Datum.Alike ((wholeSettings file environment).lookup name)
      (stackDatum? file environment name) := by
  obtain ⟨hown, hwhole⟩ | ⟨own, whole, hown, hwhole, halike⟩ := hstack.stack_cases
  · rw [wholeSettings, hwhole, stackDatum?, stackSettings, hown]
    exact Datum.Alike.rel_refl _
  · rw [wholeSettings, hwhole, stackDatum?, stackSettings, hown]
    exact halike name

/-- The stack can be read off as long as the file, where no variable is about the stack, gives its
settings in one of the ways there are. -/
theorem KeepsStack.holdsSettings_iff :
    (∀ datum ∈ wholeStack? file environment, datum.HoldsSettings) ↔
      (stackIn? (variableData environment) = none →
        ∀ datum ∈ stackIn? file, datum.HoldsSettings) := by
  obtain ⟨hown, hwhole⟩ | ⟨own, whole, hown, hwhole, -⟩ := hstack.stack_cases
  · simp [hown, hwhole]
  · simp [hown, hwhole, Datum.HoldsSettings]

end Stack

/-! ### Reading the tree -/

theorem nodup_settings {datum : Datum} (h : datum.Distinct) :
    (datum.settings.map Prod.fst).Nodup := by
  cases datum with
  | table fields => exact h.nodup
  | list items =>
      have hnames : (StackKey.all.map StackKey.name).Nodup := by decide
      rw [Datum.settings, List.zip_eq_zip_take_min, List.map_fst_zip (by simp)]
      exact hnames.sublist (List.take_sublist _ _)
  | _ => exact List.nodup_nil

theorem nodup_wholeSettings (file : List (String × Datum)) (environment : List (String × String)) :
    ((wholeSettings file environment).map Prod.fst).Nodup := by
  rw [wholeSettings]
  cases h : wholeStack? file environment with
  | none => exact List.nodup_nil
  | some datum =>
      have hdatum := (distinct_wholeTree file environment).lookup SettingsKey.stack.name
      rw [wholeStack?] at h
      rw [h] at hdatum
      exact nodup_settings hdatum

theorem mem_wholeSettings_iff {field : String × Datum} :
    field ∈ wholeSettings file environment ↔
      (wholeSettings file environment).lookup field.1 = some field.2 :=
  (lookup_eq_some_iff_mem (nodup_wholeSettings file environment)).symm

def GivenOnce (file : List (String × Datum)) (environment : List (String × String))
    (key : StackKey) : Prop :=
  ∀ first ∈ key.names, ∀ second ∈ key.names, (stackDatum? file environment first).isSome →
    (stackDatum? file environment second).isSome → first = second

/-- What the sources give can be used: they give no setting of the stack under two names, what has
precedence is of the kind of its setting, and a stack that only the file is about holds settings. -/
structure Usable (file : List (String × Datum)) (environment : List (String × String)) : Prop where
  once : ∀ key : StackKey, GivenOnce file environment key
  values : ∀ key : Key, ∀ datum ∈ key.datum? file environment, (key.value? datum).isSome
  stack : stackIn? (variableData environment) = none →
    ∀ datum ∈ stackIn? file, datum.HoldsSettings

/-- What is given under some name is what is given, if it is given under no other name. -/
theorem Key.datum?_stack_eq_some_iff {key : StackKey} {datum : Datum}
    (honce : GivenOnce file environment key) :
    (stack key).datum? file environment = some datum ↔
      ∃ name ∈ key.names, stackDatum? file environment name = some datum := by
  have hsome : ∀ found, (stack key).datum? file environment = some found →
      ∃ name ∈ key.names, stackDatum? file environment name = some found := by
    intro found h
    rcases Option.or_eq_some_iff.mp h with h | ⟨hnone, h⟩
    · obtain ⟨name, hname, hlookup⟩ := List.exists_of_findSome?_eq_some h
      exact ⟨name, hname, by rw [stackDatum?, hlookup, Option.some_or]⟩
    · obtain ⟨name, hname, hlookup⟩ := List.exists_of_findSome?_eq_some h
      refine ⟨name, hname, ?_⟩
      rw [stackDatum?, List.findSome?_eq_none_iff.mp hnone name hname, Option.none_or, hlookup]
  refine ⟨hsome datum, ?_⟩
  rintro ⟨name, hname, hdatum⟩
  cases hfound : (stack key).datum? file environment with
  | some found =>
      obtain ⟨other, hother, hlookup⟩ := hsome found hfound
      obtain rfl := honce name hname other hother (by simp [hdatum]) (by simp [hlookup])
      exact hlookup.symm.trans hdatum
  | none =>
      obtain ⟨hown, hfile⟩ := Option.or_eq_none_iff.mp hfound
      rw [stackDatum?, List.findSome?_eq_none_iff.mp hown name hname,
        List.findSome?_eq_none_iff.mp hfile name hname] at hdatum
      cases hdatum

theorem Key.usable_iff_of_alike {found other : Option Datum}
    (h : Option.Rel Datum.Alike found other) (key : Key) :
    (∀ datum ∈ found, (key.value? datum).isSome) ↔
      ∀ datum ∈ other, (key.value? datum).isSome := by
  have hmap := map_value?_of_alike h key
  cases h with
  | none => rfl
  | some halike => simpa using congrArg Option.isSome (Option.some.inj hmap)

theorem stack_value?_isSome_iff :
    (∀ datum ∈ wholeStack? file environment,
        (SettingsKey.value? .lenient .stack datum).isSome) ↔
      (∀ datum ∈ wholeStack? file environment, datum.HoldsSettings) ∧
        (wholeSettings file environment).Pairwise Apart ∧
        ∀ field ∈ wholeSettings file environment, ∀ key : StackKey, field.1 ∈ key.names →
          (key.value? .lenient field.2).isSome := by
  rw [wholeSettings]
  cases wholeStack? file environment with
  | none => simp
  | some datum =>
      simp only [Option.mem_def, Option.some.injEq, forall_eq', Option.map_some, Option.getD_some]
      rw [← Stack.exists_ofDatum_iff, SettingsKey.value?, Option.isSome_map]
      simp only [Option.isSome_iff_exists, toOption_eq_some_iff]

/-- The stack in the settings has what the tree holds for its settings, and otherwise defaults. -/
theorem settingValue_of_settingsOf {settings : Settings}
    (h : settingsOf file environment = .ok settings) (key : StackKey) :
    (∀ field ∈ wholeSettings file environment, field.1 ∈ key.names →
        key.value? .lenient field.2 = some (settings.stack.settingValue key)) ∧
      ((∀ field ∈ wholeSettings file environment, field.1 ∉ key.names) →
        settings.stack.settingValue key = Stack.settingValue {} key) := by
  have hvalue := Settings.value_of_ofFields (distinct_wholeTree file environment).nodup h .stack
  change ((wholeStack? file environment).map _).getD _ = _ at hvalue
  rw [wholeSettings]
  cases hwhole : wholeStack? file environment with
  | none =>
      rw [hwhole] at hvalue
      refine ⟨by simp, fun _ => ?_⟩
      exact (Stack.settingValue_eq_of_toValue_eq (Option.some.inj hvalue) key).symm
  | some datum =>
      rw [hwhole, Option.map_some, Option.getD_some, SettingsKey.value?] at hvalue
      obtain ⟨stack, hread, hsame⟩ := Option.map_eq_some_iff.mp hvalue
      rw [← Stack.settingValue_eq_of_toValue_eq hsame key]
      exact Stack.value_of_ofDatum (toOption_eq_some_iff.mp hread) key

section Settings

variable (hstack : KeepsStack file environment)

include hstack

theorem KeepsStack.pairwise_apart_iff :
    (wholeSettings file environment).Pairwise Apart ↔
      ∀ key : StackKey, GivenOnce file environment key := by
  have hgiven : ∀ name, (stackDatum? file environment name).isSome ↔
      ∃ datum, (name, datum) ∈ wholeSettings file environment := by
    intro name
    simp only [mem_wholeSettings_iff, ← Option.isSome_iff_exists]
    rw [Datum.Alike.isSome_eq (hstack.alike_lookup name)]
  constructor
  · intro hapart key first hfirst second hsecond hfirstGiven hsecondGiven
    obtain ⟨datum, hdatum⟩ := (hgiven first).mp hfirstGiven
    obtain ⟨other, hother⟩ := (hgiven second).mp hsecondGiven
    by_contra hne
    have hfields : (first, datum) ≠ (second, other) := fun h => hne (congrArg Prod.fst h)
    exact hapart.forall hdatum hother hfields key hfirst hsecond
  · intro honce
    refine (List.Nodup.of_map _ (nodup_wholeSettings file environment)).pairwise_of_forall_ne ?_
    intro field hfield other hother hne key hname hotherName
    refine hne ?_
    have hnames := honce key _ hname _ hotherName ((hgiven _).mpr ⟨_, hfield⟩)
      ((hgiven _).mpr ⟨_, hother⟩)
    rw [mem_wholeSettings_iff, hnames] at hfield
    rw [mem_wholeSettings_iff, hfield] at hother
    exact Prod.ext hnames (Option.some.inj hother)

/-- What the tree holds for a setting under one of its names is what its sources give it. -/
theorem KeepsStack.map_lookup (key : StackKey) (name : String) :
    ((wholeSettings file environment).lookup name).map (key.value? .lenient) =
      (stackDatum? file environment name).map (key.value? .lenient) :=
  Key.map_value?_of_alike (hstack.alike_lookup name) (.stack key)

theorem KeepsStack.values_iff {key : StackKey} (honce : GivenOnce file environment key) :
    (∀ field ∈ wholeSettings file environment, field.1 ∈ key.names →
        (key.value? .lenient field.2).isSome) ↔
      ∀ datum ∈ (Key.stack key).datum? file environment,
        ((Key.stack key).value? datum).isSome := by
  have hname := fun name => Key.usable_iff_of_alike (hstack.alike_lookup name) (.stack key)
  simp only [Option.mem_def, Key.datum?_stack_eq_some_iff honce, mem_wholeSettings_iff,
    Prod.forall] at hname ⊢
  constructor
  · rintro h datum ⟨name, hmem, hdatum⟩
    exact (hname name).mp (fun found hfound => h name found hfound hmem) datum hdatum
  · intro h name datum hlookup hmem
    exact (hname name).mpr (fun found hfound => h found ⟨name, hmem, hfound⟩) datum hlookup

/-- Settings come out exactly when what the sources give can be used. -/
theorem KeepsStack.exists_settingsOf_iff :
    (∃ settings, settingsOf file environment = .ok settings) ↔ Usable file environment := by
  refine (Settings.exists_ofFields_iff (distinct_wholeTree file environment).nodup).trans ?_
  have hrun := fun (name : SettingsKey) (hname : name ≠ .stack) =>
    Key.usable_iff_of_alike (alike_lookup_wholeTree file environment name.name) (.run name hname)
  constructor
  · intro h
    obtain ⟨hholds, hapart, hvalues⟩ := stack_value?_isSome_iff.mp (h .stack)
    have honce := hstack.pairwise_apart_iff.mp hapart
    refine ⟨honce, fun key => ?_, hstack.holdsSettings_iff.mp hholds⟩
    cases key with
    | run name hname => exact (hrun name hname).mp (h name)
    | stack key =>
        exact (hstack.values_iff (honce key)).mp fun field hfield => hvalues field hfield key
  · intro h name
    by_cases hname : name = .stack
    · subst hname
      refine stack_value?_isSome_iff.mpr ⟨hstack.holdsSettings_iff.mpr h.stack,
        hstack.pairwise_apart_iff.mpr h.once, fun field hfield key => ?_⟩
      exact (hstack.values_iff (h.once key)).mpr (h.values (.stack key)) field hfield
    · exact (hrun name hname).mpr (h.values (.run name hname))

/-- Every setting has the value that has precedence, or else its default. -/
theorem KeepsStack.valueOf_settingsOf {settings : Settings}
    (h : settingsOf file environment = .ok settings) (key : Key) :
    settings.valueOf key =
      ((key.datum? file environment).bind key.value?).getD (Settings.valueOf {} key) := by
  cases key with
  | run name hname =>
      have hvalue := Settings.value_of_ofFields (distinct_wholeTree file environment).nodup h name
      have hmap := Key.map_value?_of_alike
        (alike_lookup_wholeTree file environment name.name) (.run name hname)
      change ((wholeTree file environment).fields.lookup name.name).map
        (name.value? .lenient) = ((Key.run name hname).datum? file environment).map _ at hmap
      rw [hmap] at hvalue
      cases hdatum : (Key.run name hname).datum? file environment with
      | none =>
          rw [hdatum] at hvalue
          exact (Option.some.inj hvalue).symm
      | some datum =>
          rw [hdatum] at hvalue
          exact (congrArg (Option.getD · _) hvalue).symm
  | stack key =>
      have honce := (hstack.exists_settingsOf_iff.mp ⟨settings, h⟩).once key
      obtain ⟨hgiven, hmissing⟩ := settingValue_of_settingsOf h key
      cases hdatum : (Key.stack key).datum? file environment with
      | none =>
          refine hmissing fun field hfield hname => ?_
          have hsome : (stackDatum? file environment field.1).isSome := by
            rw [← Datum.Alike.isSome_eq (hstack.alike_lookup field.1),
              mem_wholeSettings_iff.mp hfield, Option.isSome_some]
          obtain ⟨datum, hgivenHere⟩ := Option.isSome_iff_exists.mp hsome
          rw [(Key.datum?_stack_eq_some_iff honce).mpr ⟨field.1, hname, hgivenHere⟩] at hdatum
          cases hdatum
      | some datum =>
          obtain ⟨name, hname, hgivenHere⟩ := (Key.datum?_stack_eq_some_iff honce).mp hdatum
          have hmap := hstack.map_lookup key name
          rw [hgivenHere] at hmap
          obtain ⟨found, hfound, hsame⟩ := Option.map_eq_some_iff.mp hmap
          have hvalue := hgiven (name, found) (mem_wholeSettings_iff.mpr hfound) hname
          rw [hsame] at hvalue
          exact (congrArg (Option.getD · _) hvalue).symm

end Settings

/-! ### The file of a run -/

/-- The data of the file that is named, or of the usual one, or nothing if that is not there. -/
def fileData (disk : Disk) (start : AbsPath) (file : Option Path) :
    Result (List (String × Datum)) :=
  match locate? disk start (file.getD defaultFile), file with
  | some path, _ => toResult (dataOf disk start path)
  | none, some path => throw (.config (.noFile path.text))
  | none, none => pure []

theorem load_of_fileData {disk : Disk} {start : AbsPath} {named : Option Path}
    (hfile : fileData disk start named = .ok file) (environment : List (String × String)) :
    load disk start named environment = toResult (settingsOf file environment) := by
  unfold load
  unfold fileData at hfile
  cases hlocate : locate? disk start (named.getD defaultFile) with
  | some path =>
      rw [hlocate] at hfile
      change toResult (dataOf disk start path) = .ok file at hfile
      simp only [hfile, ok_bind]
  | none =>
      rw [hlocate] at hfile
      cases named with
      | some path => cases hfile
      | none =>
          obtain rfl : [] = file := Except.ok.inj hfile
          rfl

theorem fileData_of_node? {disk : Disk} {place : AbsPath} {text : String}
    (hnode : disk.node? place = some (.file text.toUTF8))
    (hnames : ∀ name ∈ place.names, Disk.IsEntryName name) (hne : place.names ≠ [])
    (hextension : hasExtension place.toPath) (hparse : Toml.parse? text = some file) :
    fileData disk .root (some place.toPath) = .ok file := by
  have hfound : disk.follow true .root place.toPath = .ok (.found place (.file text.toUTF8)) :=
    Disk.follow_of_node? hnode (fun _ h => by cases h) hnames hne
  have hfile : isFile disk .root place.toPath := by rw [isFile, Disk.find, hfound]
  have hlocate : locate? disk .root place.toPath = some place.toPath := by
    rw [locate?, if_pos hfile, if_pos hextension]
  have hdata : dataOf disk .root place.toPath = .ok file := by
    unfold dataOf
    simp only [Disk.readText_of_node? hnode hnames hne, hparse]
  unfold fileData
  simp only [Option.getD_some, hlocate, hdata]
  rfl

end Config

namespace Command

def Options.value? (options : Options) : Key → Option Value
  | .run .sqlFile _ => options.sql.map Settings.pathValue
  | .run .dialect _ => options.dialect.map .text
  | .run .projectName _ => options.projectName.map .text
  | .run .packageName _ => options.packageName.map .text
  | .run .outputDir _ => options.output.map Settings.pathValue
  | .run .templatesDir _ => options.templates.map Settings.pathValue
  | .run .dryRun _ => if options.dryRun then some (.bool true) else none
  | .stack .orm => options.orm.map fun orm => .text orm.label
  | .stack .buildTool => options.buildTool.map fun tool => .text tool.label
  | .run .. | .stack _ => none

theorem valueOf_override (options : Options) (settings : Settings) (key : Key) :
    (options.override settings).valueOf key = (options.value? key).getD (settings.valueOf key) := by
  obtain ⟨-, sql, output, dialect, templates, projectName, packageName, orm, buildTool, dryRun⟩ :=
    options
  cases key with
  | run name hname =>
      cases name with
      | sqlFile => cases sql <;> rfl
      | dialect => cases dialect <;> rfl
      | projectName => cases projectName <;> rfl
      | packageName => cases packageName <;> rfl
      | outputDir => cases output <;> rfl
      | templatesDir => cases templates <;> rfl
      | dryRun => cases dryRun <;> rfl
      | stack => exact absurd rfl hname
      | allowedBaseDir | maxTables | logLevel => rfl
  | stack name =>
      cases name with
      | orm => cases orm <;> rfl
      | buildTool => cases buildTool <;> rfl
      | _ => rfl

theorem run_settings {disk : Disk} {start : AbsPath} {options : Options}
    {file : List (String × Datum)} (hfile : fileData disk start options.config = .ok file)
    (environment : List (String × String)) :
    (Command.settings start environment options).run disk =
      (((toResult (settingsOf file environment)).mapError Failure.plain).map options.override,
        disk) := by
  change (options.override <$> ofResult (load disk start options.config environment)).run disk = _
  rw [load_of_fileData hfile]
  cases settingsOf file environment <;> rfl

theorem run_settings_eq_ok_iff {disk : Disk} {start : AbsPath} {options : Options}
    {file : List (String × Datum)} (hfile : fileData disk start options.config = .ok file)
    {environment : List (String × String)} {settings : Settings} :
    (Command.settings start environment options).run disk = (.ok settings, disk) ↔
      ∃ given, settingsOf file environment = .ok given ∧ options.override given = settings := by
  rw [run_settings hfile]
  cases settingsOf file environment with
  | error fault =>
      constructor
      · rintro ⟨⟩
      · rintro ⟨_, ⟨⟩, _⟩
  | ok given =>
      constructor
      · rintro ⟨⟩
        exact ⟨given, rfl, rfl⟩
      · rintro ⟨_, ⟨⟩, rfl⟩
        rfl

namespace Sources

def text : String := "project_name = \"shop\"\n[tech_stack]\nuse_swagger = true\n"

def disk : Disk := ⟨[("shop.toml", .file text.toUTF8)]⟩

def path : Path := ⟨"/shop.toml"⟩

def file : List (String × Datum) :=
  [("project_name", .text "shop"), ("tech_stack", .table [("use_swagger", .bool true)])]

def beside : List (String × String) :=
  [("S2S_CODEGEN_PROJECT_NAME", "depot"), ("S2S_CODEGEN_TECH_STACK__USE_REDIS", "on")]

def across : List (String × String) := [("S2S_CODEGEN_TECH_STACK__USE_API_DOCS", "false")]

theorem fileData_disk : fileData disk .root (some path) = .ok file := by
  have hname : ∀ name ∈ ["shop.toml"], Disk.IsEntryName name := by
    intro name hmem
    obtain rfl := List.mem_singleton.mp hmem
    exact ⟨⟨by decide, by decide, by decide⟩, by decide, by cbv⟩
  have hpath : AbsPath.toPath ⟨["shop.toml"]⟩ = path := by cbv
  have hextension : hasExtension path := by cbv
  rw [← hpath] at hextension ⊢
  have hnode : disk.node? ⟨["shop.toml"]⟩ = some (.file text.toUTF8) := rfl
  have hparse : Toml.parse? text = some file := by cbv
  exact fileData_of_node? hnode hname (by simp) hextension hparse

theorem sourceTree_file : sourceTree file = .table file := by cbv

theorem variableData_beside : variableData beside =
    [("project_name", .text "depot"), ("tech_stack.use_redis", .text "on")] := by cbv

theorem sourceTree_beside : sourceTree (variableData beside) =
    .table [("project_name", .text "depot"), ("tech_stack", .table [("use_redis", .text "on")])] := by
  rw [variableData_beside]
  cbv

theorem variableData_across :
    variableData across = [("tech_stack.use_api_docs", .text "false")] := by cbv

theorem sourceTree_across : sourceTree (variableData across) =
    .table [("tech_stack", .table [("use_api_docs", .text "false")])] := by
  rw [variableData_across]
  cbv

theorem noList_file (items : List Datum) : stackIn? file ≠ some (.list items) := by
  rw [stackIn?, sourceTree_file]
  rintro ⟨⟩

theorem keepsStack_beside : KeepsStack file beside where
  byName := by
    rw [variableData_beside]
    decide
  noList := fun _ => noList_file

theorem keepsStack_across : KeepsStack file across where
  byName := by
    rw [variableData_across]
    decide
  noList := fun _ => noList_file

theorem usable_beside : Usable file beside where
  once := by
    intro key
    simp only [GivenOnce, stackDatum?, stackSettings, stackIn?, sourceTree_file,
      sourceTree_beside]
    cases key <;> decide
  values := by
    have hvalues : ∀ key : Key,
        (key.datum? file beside).all fun datum => (key.value? datum).isSome := by
      rintro (⟨name, hname⟩ | name) <;>
        simp only [Key.datum?, Key.given?, Key.value?, stackSettings, stackIn?, sourceTree_file,
          sourceTree_beside]
      · cases name <;> first | exact absurd rfl hname | decide
      · cases name <;> decide
    exact fun key => (Option.all_eq_true _ _).mp (hvalues key)
  stack := by
    rw [stackIn?, sourceTree_beside]
    rintro ⟨⟩

end Sources

/-- Where both sources give the stack setting by setting, every setting has the value of its option,
or else of its variable, or else of the file, or else its default. The settings are refused exactly
when what the two sources give cannot be used together. -/
theorem setting_has_value_of_first_source (start : AbsPath) (environment : List (String × String))
    (options : Options) (disk : Disk) {file : List (String × Datum)}
    (hfile : fileData disk start options.config = .ok file)
    (hstack : KeepsStack file environment) :
    (∀ settings, (Command.settings start environment options).run disk = (.ok settings, disk) →
      ∀ key, settings.valueOf key =
        ((options.value? key).or ((key.datum? file environment).bind key.value?)).getD
          (Settings.valueOf {} key)) ∧
    ((∃ settings, (Command.settings start environment options).run disk = (.ok settings, disk)) ↔
      Usable file environment) := by
  simp only [run_settings_eq_ok_iff hfile]
  constructor
  · rintro settings ⟨given, hgiven, rfl⟩ key
    rw [valueOf_override, hstack.valueOf_settingsOf hgiven, Option.getD_or]
  · rw [← hstack.exists_settingsOf_iff, exists_comm]
    simp

theorem depot_has_settings_of_three_sources :
    let options : Options := { config := some Sources.path, orm := some .jpa }
    ∃ settings, (Command.settings .root Sources.beside options).run Sources.disk =
        (.ok settings, Sources.disk) ∧
      settings.valueOf (.stack .orm) = .text "jpa" ∧
      settings.valueOf (.run .projectName (by decide)) = .text "depot" ∧
      settings.valueOf (.stack .cache) = .bool true ∧
      settings.valueOf (.stack .apiDocs) = .bool true ∧
      settings.valueOf (.stack .buildTool) = .text "maven" := by
  intro options
  obtain ⟨hvalues, hread⟩ := setting_has_value_of_first_source .root Sources.beside options
    Sources.disk Sources.fileData_disk Sources.keepsStack_beside
  obtain ⟨settings, hsettings⟩ := hread.mpr Sources.usable_beside
  refine ⟨settings, hsettings, ?_⟩
  simp only [hvalues settings hsettings, Key.datum?, Key.given?, stackSettings, stackIn?,
    Sources.sourceTree_file, Sources.sourceTree_beside]
  exact ⟨rfl, rfl, rfl, rfl, rfl⟩

/-- A variable does not take precedence over a file that gives the same setting under its other
name: both give a usable value, and there are no settings. -/
theorem api_docs_under_two_names_refused :
    let options : Options := { config := some Sources.path }
    let apiDocs : Key := .stack .apiDocs
    fileData Sources.disk .root options.config = .ok Sources.file ∧
      (apiDocs.given? (variableData Sources.across)).bind apiDocs.value? = some (.bool false) ∧
      (apiDocs.given? Sources.file).bind apiDocs.value? = some (.bool true) ∧
      ∀ settings, (Command.settings .root Sources.across options).run Sources.disk ≠
        (.ok settings, Sources.disk) := by
  intro options apiDocs
  have hfile : fileData Sources.disk .root options.config = .ok Sources.file :=
    Sources.fileData_disk
  refine ⟨hfile, ?_, ?_, fun settings h => ?_⟩
  · simp only [Key.given?, stackSettings, stackIn?, Sources.sourceTree_across]
    rfl
  · simp only [Key.given?, stackSettings, stackIn?, Sources.sourceTree_file]
    rfl
  · obtain ⟨given, hgiven, -⟩ := (run_settings_eq_ok_iff hfile).mp h
    have honce := (Sources.keepsStack_across.exists_settingsOf_iff.mp ⟨given, hgiven⟩).once .apiDocs
    simp only [GivenOnce, stackDatum?, stackSettings, stackIn?, Sources.sourceTree_file,
      Sources.sourceTree_across] at honce
    exact absurd (honce "use_api_docs" (by decide) "use_swagger" (by decide) rfl rfl) (by decide)

end Command

end SchemaScaffold
