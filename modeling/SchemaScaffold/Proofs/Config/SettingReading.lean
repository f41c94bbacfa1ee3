import SchemaScaffold.Proofs.Config.DataTrees
import SchemaScaffold.Proofs.Traversal

namespace SchemaScaffold

open Traversal

namespace Config

theorem usable_eq_ok_iff {α : Type} {key : String} {value : Option α} {a : α} :
    usable key value = .ok a ↔ value = some a := by
  cases value <;> simp [usable]

theorem choice_eq_ok_iff {α : Type} {conversion : Conversion} {setting : Setting}
    {ofText? : String → Option α} {key : String} {datum : Datum} {a : α} :
    choice conversion setting ofText? key datum = .ok a ↔
      (datum.toText? conversion).bind ofText? = some a := by
  rw [choice, bind_eq_ok_iff]
  simp only [usable_eq_ok_iff, Option.bind_eq_some_iff]
  refine exists_congr fun text => and_congr_right fun _ => ?_
  cases ofText? text <;> simp [pure, Except.pure, throw, throwThe, MonadExceptOf.throw]

theorem exists_map_eq_ok_iff {α β : Type} {reading : Reading α} {f : α → β} :
    (∃ b, (reading >>= fun a => pure (f a)) = .ok b) ↔ ∃ a, reading = .ok a := by
  cases reading <;> simp [pure, Except.pure]

/-- The value that data give a setting of a stack, if they are usable. -/
def StackKey.value? (conversion : Conversion) (key : StackKey) (datum : Datum) : Option Value :=
  match key with
  | .orm => ((datum.toText? conversion).bind Orm.ofText?).map fun orm => .text orm.label
  | .buildTool =>
    ((datum.toText? conversion).bind BuildTool.ofText?).map fun tool => .text tool.label
  | .database =>
    ((datum.toText? conversion).bind Database.ofText?).map fun database => .text database.label
  | .lombokAccessors | .apiDocs | .validation | .pagination | .cache =>
    (datum.toBool? conversion).map .bool
  | .javaVersion =>
    ((datum.toText? conversion).bind JavaVersion.ofText?).map fun version => .text version.label
  | .frameworkVersion => (datum.toText? conversion).map .text

theorem StackKey.ofName?_eq_some_iff {name : String} {key : StackKey} :
    ofName? name = some key ↔ name ∈ key.names := by
  constructor
  · intro h
    simpa using List.find?_some h
  · intro h
    cases key <;> simp only [names, List.mem_cons, List.not_mem_nil, or_false] at h <;>
      first | (subst h; rfl) | (obtain rfl | rfl := h <;> rfl)

def Apart (field other : String × Datum) : Prop :=
  ∀ key : StackKey, field.1 ∈ key.names → other.1 ∉ key.names

end Config

open Config

variable {conversion : Conversion} {datum : Datum}

namespace Stack

variable {stack after : Stack} {key : StackKey}

theorem value?_of_set (h : stack.set conversion key datum = .ok after) :
    key.value? conversion datum = some (after.settingValue key) ∧
      ∀ other, other ≠ key → after.settingValue other = stack.settingValue other := by
  cases key <;>
    simp only [set, bind_eq_ok_iff, usable_eq_ok_iff, choice_eq_ok_iff, pure, Except.pure,
      Except.ok.injEq] at h <;>
    obtain ⟨value, hvalue, rfl⟩ := h <;>
    refine ⟨by simp [StackKey.value?, hvalue, settingValue], ?_⟩ <;>
    intro other hother <;> cases other <;> first | rfl | exact absurd rfl hother

theorem exists_set_iff :
    (∃ after, stack.set conversion key datum = .ok after) ↔
      (key.value? conversion datum).isSome := by
  cases key <;>
    simp only [set, exists_map_eq_ok_iff, usable_eq_ok_iff, choice_eq_ok_iff, StackKey.value?,
      Option.isSome_map, Option.isSome_iff_exists]

variable {seen : List StackKey} {fields : List (String × Datum)}

/-- Fields can be read exactly when each is usable and none gives what has its value already. -/
theorem exists_setAll_iff :
    (∃ after, setAll conversion seen stack fields = .ok after) ↔
      (∀ field ∈ fields, ∀ key ∈ seen, field.1 ∉ key.names) ∧ fields.Pairwise Apart ∧
        ∀ field ∈ fields, ∀ key : StackKey, field.1 ∈ key.names →
          (key.value? conversion field.2).isSome := by
  induction fields generalizing seen stack with
  | nil => simp [setAll]
  | cons field rest ih =>
      obtain ⟨name, datum⟩ := field
      simp only [List.forall_mem_cons, List.pairwise_cons]
      rw [setAll]
      cases hname : StackKey.ofName? name with
      | none =>
          have hnot : ∀ key : StackKey, name ∉ key.names := by
            intro key hmem
            rw [StackKey.ofName?_eq_some_iff.mpr hmem] at hname
            cases hname
          simp [ih, hnot, Apart]
      | some key =>
          have hmem := StackKey.ofName?_eq_some_iff.mp hname
          -- No two settings have a name in common.
          have honly : ∀ other : StackKey, name ∈ other.names ↔ other = key := by
            intro other
            rw [← StackKey.ofName?_eq_some_iff, hname, Option.some.injEq, eq_comm]
          have hread : (∃ after, (stack.set conversion key datum >>= fun next =>
              setAll conversion (key :: seen) next rest) = .ok after) ↔
              (key.value? conversion datum).isSome ∧
                (∀ field ∈ rest, ∀ other ∈ key :: seen, field.1 ∉ other.names) ∧
                rest.Pairwise Apart ∧
                ∀ field ∈ rest, ∀ other : StackKey, field.1 ∈ other.names →
                  (other.value? conversion field.2).isSome := by
            simp only [bind_eq_ok_iff]
            rw [exists_comm]
            simp only [exists_and_left, ih, exists_and_right, exists_set_iff]
          have happart : (∀ other ∈ rest, Apart (name, datum) other) ↔
              ∀ other ∈ rest, other.1 ∉ key.names := by
            simp only [Apart, honly, forall_eq]
          dsimp only
          split
          · rename_i hseen
            have hmem : key ∈ seen := by simpa using hseen
            constructor
            · rintro ⟨_, ⟨⟩⟩
            · intro h
              exact absurd ((honly key).mpr rfl) (h.1.1 key hmem)
          · rename_i hseen
            have hfresh : key ∉ seen := by simpa using hseen
            rw [hread, happart]
            simp only [List.forall_mem_cons, honly, forall_eq]
            constructor
            · rintro ⟨hvalue, hseen, hpairs, hvalues⟩
              refine ⟨⟨?_, fun field hfield => (hseen field hfield).2⟩,
                ⟨fun field hfield => (hseen field hfield).1, hpairs⟩, hvalue, hvalues⟩
              rintro other hother rfl
              exact hfresh hother
            · rintro ⟨⟨-, hseen⟩, ⟨hfirst, hpairs⟩, hvalue, hvalues⟩
              exact ⟨hvalue, fun field hfield => ⟨hfirst field hfield, hseen field hfield⟩,
                hpairs, hvalues⟩

/-- Every setting that fields give has its value, and every other one keeps the one it had. -/
theorem value_of_setAll (h : setAll conversion seen stack fields = .ok after) (key : StackKey) :
    (key ∈ seen → after.settingValue key = stack.settingValue key) ∧
      (∀ field ∈ fields, field.1 ∈ key.names →
        key.value? conversion field.2 = some (after.settingValue key)) ∧
      ((∀ field ∈ fields, field.1 ∉ key.names) →
        after.settingValue key = stack.settingValue key) := by
  induction fields generalizing seen stack with
  | nil =>
      obtain rfl : stack = after := Except.ok.inj h
      simp
  | cons field rest ih =>
      obtain ⟨name, datum⟩ := field
      simp only [List.forall_mem_cons]
      rw [setAll] at h
      cases hname : StackKey.ofName? name with
      | none =>
          have hnot : name ∉ key.names := by
            intro hmem
            rw [StackKey.ofName?_eq_some_iff.mpr hmem] at hname
            cases hname
          rw [hname] at h
          simpa [hnot] using ih h
      | some first =>
          rw [hname] at h
          dsimp only at h
          split at h
          · cases h
          · rename_i hseen
            obtain ⟨next, hnext, hrest⟩ := bind_eq_ok_iff.mp h
            obtain ⟨hvalue, hothers⟩ := value?_of_set hnext
            obtain ⟨hkept, hgiven, hmissing⟩ := ih hrest
            have hmem : name ∈ key.names ↔ first = key := by
              rw [← StackKey.ofName?_eq_some_iff, hname, Option.some.injEq]
            have hne : first ∉ seen := by simpa using hseen
            rw [hmem]
            refine ⟨fun hkey => ?_, ⟨?_, hgiven⟩, fun ⟨hkey, hrest⟩ => ?_⟩
            · have hother : key ≠ first := fun h => hne (h ▸ hkey)
              rw [hkept (List.mem_cons_of_mem _ hkey), hothers key hother]
            · rintro rfl
              rw [hkept List.mem_cons_self, hvalue]
            · rw [hmissing hrest, hothers key (Ne.symm hkey)]

end Stack

namespace Config

/-- The settings of a stack that data give by name. A list gives the first few by their places. -/
def Datum.settings : Datum → List (String × Datum)
  | .table fields => fields
  | .list items => (StackKey.all.map StackKey.name).zip items
  | _ => []

def Datum.HoldsSettings : Datum → Prop
  | .table _ => True
  | .list items => items.length ≤ StackKey.all.length
  | _ => False

theorem Apart.symm {field other : String × Datum} (h : Apart field other) : Apart other field :=
  fun key hother hfield => h key hfield hother

instance : Std.Symm Apart := ⟨fun _ _ => Apart.symm⟩

theorem perm_inOrder (fields : List (String × Datum)) : (inOrder fields).Perm fields :=
  List.mergeSort_perm fields _

end Config

namespace Stack

variable {stack : Stack}

/-- Data describe a stack exactly when every setting that they give is usable and given once. -/
theorem exists_ofDatum_iff :
    (∃ stack, ofDatum conversion datum = .ok stack) ↔
      datum.HoldsSettings ∧ datum.settings.Pairwise Apart ∧
        ∀ field ∈ datum.settings, ∀ key : StackKey, field.1 ∈ key.names →
          (key.value? conversion field.2).isSome := by
  cases datum with
  | table fields =>
      have hperm := perm_inOrder fields
      simp [ofDatum, exists_setAll_iff, Datum.HoldsSettings, Datum.settings, hperm.mem_iff,
        hperm.pairwise_iff Apart.symm]
  | list items =>
      rw [ofDatum]
      split
      · rename_i hlength
        simp [exists_setAll_iff, Datum.HoldsSettings, Datum.settings, hlength]
      · rename_i hlength
        simp [Datum.HoldsSettings, hlength]
  | _ => simp [ofDatum, Datum.HoldsSettings]

/-- Every setting that data give has its value, and every other one keeps its default. -/
theorem value_of_ofDatum (h : ofDatum conversion datum = .ok stack) (key : StackKey) :
    (∀ field ∈ datum.settings, field.1 ∈ key.names →
        key.value? conversion field.2 = some (stack.settingValue key)) ∧
      ((∀ field ∈ datum.settings, field.1 ∉ key.names) →
        stack.settingValue key = settingValue {} key) := by
  cases datum with
  | table fields =>
      have hvalues := (value_of_setAll h key).2
      simp only [(perm_inOrder fields).mem_iff] at hvalues
      exact hvalues
  | list items =>
      rw [ofDatum] at h
      split at h
      · exact (value_of_setAll h key).2
      · cases h
  | _ => cases h

theorem settingValue_eq_of_toValue_eq {other : Stack} (h : stack.toValue = other.toValue)
    (key : StackKey) : stack.settingValue key = other.settingValue key := by
  have hfields := Value.record.inj h
  rw [List.map_inj_left] at hfields
  exact (Prod.mk.inj (hfields key (by cases key <;> decide))).2

end Stack

namespace Config

def optionalValue? (conversion : Conversion) : Datum → Option Value
  | .null => some .null
  | datum => (datum.toText? conversion).map .text

theorem optionalValue?_of_ne_null (conversion : Conversion) (hdatum : datum ≠ .null)
    (key : String) :
    optionalText conversion key datum = some <$> usable key (datum.toText? conversion) ∧
      optionalValue? conversion datum = (datum.toText? conversion).map .text := by
  cases datum <;> first | exact absurd rfl hdatum | exact ⟨rfl, rfl⟩

theorem optionalValue?_of_optionalText {key : String} {text : Option String}
    (h : optionalText conversion key datum = .ok text) :
    optionalValue? conversion datum = some (.optText text) := by
  by_cases hdatum : datum = .null
  · subst hdatum
    cases h
    rfl
  · obtain ⟨hread, hvalue⟩ := optionalValue?_of_ne_null conversion hdatum key
    rw [hread] at h
    rw [hvalue]
    cases htext : datum.toText? conversion with
    | none =>
        rw [htext] at h
        cases h
    | some spelled =>
        rw [htext] at h
        cases h
        rfl

theorem exists_optionalText_iff {key : String} :
    (∃ text, optionalText conversion key datum = .ok text) ↔
      (optionalValue? conversion datum).isSome := by
  by_cases hdatum : datum = .null
  · subst hdatum
    simp [optionalText, optionalValue?]
  · obtain ⟨hread, hvalue⟩ := optionalValue?_of_ne_null conversion hdatum key
    rw [hread, hvalue]
    cases datum.toText? conversion <;> simp [usable, Functor.map, Except.map]

def SettingsKey.value? (conversion : Conversion) (key : SettingsKey) (datum : Datum) :
    Option Value :=
  match key with
  | .sqlFile | .projectName | .packageName | .outputDir | .templatesDir =>
    (datum.toText? conversion).map .text
  | .dialect | .allowedBaseDir | .logLevel => optionalValue? conversion datum
  | .stack => (Stack.ofDatum conversion datum).toOption.map Stack.toValue
  | .maxTables => (datum.toCount? conversion).map .number
  | .dryRun => (datum.toBool? conversion).map .bool

theorem SettingsKey.ofName?_eq_some_iff {name : String} {key : SettingsKey} :
    ofName? name = some key ↔ name = key.name := by
  constructor
  · intro h
    rw [ofName?] at h
    have hname := List.find?_some h
    exact (beq_iff_eq.mp hname).symm
  · rintro rfl
    cases key <;> rfl

end Config

namespace Settings

variable {settings next : Settings} {name : SettingsKey}

def settingValue (settings : Settings) : SettingsKey → Value
  | .sqlFile => pathValue settings.sqlFile
  | .dialect => .optText settings.dialect
  | .projectName => .text settings.projectName
  | .packageName => .text settings.packageName
  | .outputDir => pathValue settings.outputDir
  | .allowedBaseDir => .optText (settings.allowedBaseDir.map (·.text))
  | .templatesDir => pathValue settings.templatesDir
  | .stack => settings.stack.toValue
  | .maxTables => .number settings.maxTables
  | .dryRun => .bool settings.dryRun
  | .logLevel => .optText settings.logLevel

theorem value?_of_set (h : settings.set conversion name datum = .ok next) :
    name.value? conversion datum = some (next.settingValue name) ∧
      ∀ other, other ≠ name → next.settingValue other = settings.settingValue other := by
  cases name <;> obtain ⟨value, hvalue, hnext⟩ := bind_eq_ok_iff.mp h <;> cases hnext
  all_goals
    refine ⟨?_, fun other hother => by cases other <;> first | rfl | exact absurd rfl hother⟩
  case sqlFile | projectName | packageName | outputDir | templatesDir | maxTables | dryRun =>
    simp [SettingsKey.value?, usable_eq_ok_iff.mp hvalue, settingValue, pathValue]
  case dialect | logLevel => exact optionalValue?_of_optionalText hvalue
  case allowedBaseDir =>
    rw [SettingsKey.value?, optionalValue?_of_optionalText hvalue]
    cases value <;> rfl
  case stack => simp [SettingsKey.value?, hvalue, settingValue, Except.toOption]

theorem exists_set_iff :
    (∃ next, settings.set conversion name datum = .ok next) ↔
      (name.value? conversion datum).isSome := by
  cases name with
  | sqlFile | projectName | packageName | outputDir | templatesDir | maxTables | dryRun =>
      simp only [set, exists_map_eq_ok_iff, usable_eq_ok_iff, SettingsKey.value?,
        Option.isSome_map, Option.isSome_iff_exists]
  | dialect | allowedBaseDir | logLevel =>
      simp only [set, exists_map_eq_ok_iff]
      exact exists_optionalText_iff
  | stack =>
      simp only [set, exists_map_eq_ok_iff, SettingsKey.value?, Option.isSome_map,
        Option.isSome_iff_exists, toOption_eq_some_iff]

variable {fields : List (String × Datum)}

theorem exists_setAll_iff :
    (∃ next, setAll conversion settings fields = .ok next) ↔
      ∀ field ∈ fields, ∀ name : SettingsKey, field.1 = name.name →
        (name.value? conversion field.2).isSome := by
  induction fields generalizing settings with
  | nil => simp [setAll]
  | cons field rest ih =>
      obtain ⟨key, datum⟩ := field
      rw [setAll, List.forall_mem_cons]
      simp only [← SettingsKey.ofName?_eq_some_iff]
      cases SettingsKey.ofName? key with
      | none => simp [ih, SettingsKey.ofName?_eq_some_iff]
      | some name =>
          simp only [bind_eq_ok_iff]
          rw [exists_comm]
          simp [ih, exists_set_iff, SettingsKey.ofName?_eq_some_iff]

/-- Every setting that fields give has its value, and every other one keeps the one it had. -/
theorem value_of_setAll (hnodup : (fields.map Prod.fst).Nodup)
    (h : setAll conversion settings fields = .ok next) (name : SettingsKey) :
    (∀ field ∈ fields, field.1 = name.name →
        name.value? conversion field.2 = some (next.settingValue name)) ∧
      ((∀ field ∈ fields, field.1 ≠ name.name) →
        next.settingValue name = settings.settingValue name) := by
  induction fields generalizing settings with
  | nil =>
      obtain rfl : settings = next := Except.ok.inj h
      simp
  | cons field rest ih =>
      obtain ⟨key, datum⟩ := field
      rw [List.map_cons, List.nodup_cons] at hnodup
      simp only [List.forall_mem_cons]
      rw [setAll] at h
      cases hkey : SettingsKey.ofName? key with
      | none =>
          have hne : key ≠ name.name := by
            intro hname
            rw [SettingsKey.ofName?_eq_some_iff.mpr hname] at hkey
            cases hkey
          rw [hkey] at h
          simpa [hne] using ih hnodup.2 h
      | some first =>
          have hfirst : key = name.name ↔ first = name := by
            rw [← SettingsKey.ofName?_eq_some_iff, hkey, Option.some.injEq]
          rw [hkey] at h
          obtain ⟨after, hafter, hrest⟩ := bind_eq_ok_iff.mp h
          obtain ⟨hvalue, hothers⟩ := value?_of_set hafter
          obtain ⟨hgiven, hmissing⟩ := ih hnodup.2 hrest
          rw [hfirst]
          refine ⟨⟨?_, hgiven⟩, fun ⟨hne, hrest⟩ => ?_⟩
          · rintro rfl
            have hlater : ∀ field ∈ rest, field.1 ≠ first.name := by
              intro field hmem hname
              exact hnodup.1 (List.mem_map.mpr ⟨field, hmem, hname.trans (hfirst.mpr rfl).symm⟩)
            rw [hmissing hlater, hvalue]
          · rw [hmissing hrest, hothers name fun h => hne (hfirst.mpr h.symm)]

/-- Settings can be read off a table exactly when all that it gives them is usable. -/
theorem exists_ofFields_iff (hnodup : (fields.map Prod.fst).Nodup) :
    (∃ settings, ofFields conversion fields = .ok settings) ↔
      ∀ name : SettingsKey, ∀ datum ∈ fields.lookup name.name,
        (name.value? conversion datum).isSome := by
  rw [ofFields, exists_setAll_iff]
  simp only [(perm_inOrder fields).mem_iff, Option.mem_def, lookup_eq_some_iff_mem hnodup]
  constructor
  · intro h name datum hmem
    exact h _ hmem name rfl
  · rintro h ⟨key, datum⟩ hmem name rfl
    exact h name datum hmem

/-- Every setting has the value of its data, or else its default. -/
theorem value_of_ofFields (hnodup : (fields.map Prod.fst).Nodup)
    (h : ofFields conversion fields = .ok settings) (name : SettingsKey) :
    ((fields.lookup name.name).map (name.value? conversion)).getD (some (settingValue {} name)) =
      some (settings.settingValue name) := by
  have hperm := perm_inOrder fields
  have hvalues := value_of_setAll ((hperm.map Prod.fst).nodup_iff.mpr hnodup) h name
  simp only [hperm.mem_iff] at hvalues
  cases hlookup : fields.lookup name.name with
  | some datum =>
      exact hvalues.1 _ ((lookup_eq_some_iff_mem hnodup).mp hlookup) rfl
  | none =>
      have hmissing : ∀ field ∈ fields, field.1 ≠ name.name := by
        rintro ⟨key, datum⟩ hmem rfl
        rw [(lookup_eq_some_iff_mem hnodup).mpr hmem] at hlookup
        cases hlookup
      exact congrArg some (hvalues.2 hmissing).symm

end Settings

end SchemaScaffold
