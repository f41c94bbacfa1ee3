import SchemaScaffold.Proofs.Confinement
import SchemaScaffold.Proofs.DiskPlaces

/-!
# What activities add to a disk

Place by place, a disk is told by what stands there, the entries of a directory left aside. Seen that
way, putting a file or an empty directory into a directory changes a single place. On a disk without
links a path leads to the place that it spells, so an activity that succeeds has put its file there,
and new directories at most on the way.
-/

namespace SchemaScaffold

/-- What stands at a place, the entries of a directory left aside. -/
inductive Kind where
  | file (bytes : ByteArray)
  | link (target : Path)
  | directory

namespace Node

def kind : Node String → Kind
  | file bytes => .file bytes
  | link target => .link target
  | directory _ => .directory

def IsLeaf (node : Node String) : Prop := ∀ name rest, node.get? (name :: rest) = none

theorem isLeaf_file (bytes : ByteArray) : (file bytes).IsLeaf := fun _ _ => rfl

theorem isLeaf_emptyDirectory : emptyDirectory.IsLeaf := fun _ _ => rfl

theorem lookup_putNode (name other : String) (node : Node String) (entries : List (String × Node String)) :
    (putNode name node entries).lookup other =
      if other = name then some node else entries.lookup other := by
  induction entries with
  | nil =>
      by_cases h : other = name
      · simp [putNode, h]
      · simp [putNode, h, List.lookup_cons, beq_eq_false_iff_ne.mpr h]
  | cons entry rest ih =>
      obtain ⟨first, stood⟩ := entry
      rw [putNode]
      by_cases hfirst : first = name
      · subst hfirst
        by_cases h : other = first
        · simp [h]
        · simp [h, List.lookup_cons, beq_eq_false_iff_ne.mpr h]
      · rw [if_neg hfirst, List.lookup_cons, List.lookup_cons, ih]
        by_cases h : other = first
        · subst h
          simp [hfirst]
        · simp [beq_eq_false_iff_ne.mpr h]

/-- Putting a leaf into a directory changes what stands at one place. -/
theorem map_kind_get?_put {names : List String} {name : String} {node new : Node String}
    {entries : List (String × Node String)} (hparent : node.get? names = some (directory entries))
    (hold : ∀ old, entries.lookup name = some old → old.IsLeaf) (hnew : new.IsLeaf)
    (other : List String) :
    ((node.put (names ++ [name]) new).get? other).map kind =
      if other = names ++ [name] then some new.kind else (node.get? other).map kind := by
  induction names generalizing node other with
  | nil =>
      rw [get?_nil] at hparent
      obtain rfl := Option.some.inj hparent
      cases other with
      | nil => rfl
      | cons first rest =>
          have hput : ∀ child : Node String, child.put [] new = new := by rintro (_ | _ | _) <;> rfl
          rw [List.nil_append, put, hput, get?, lookup_putNode, get?]
          by_cases hfirst : first = name
          · subst hfirst
            cases rest with
            | nil => simp
            | cons second rest =>
                have hbelow : (entries.lookup first).bind (get? (second :: rest)) = none := by
                  rw [Option.bind_eq_none_iff]
                  exact fun old hlookup => hold old hlookup second rest
                simp [hnew second rest, hbelow]
          · simp [hfirst]
  | cons step above ih =>
      obtain ⟨inner, next, rfl, hnext, hrest⟩ := exists_of_get?_cons hparent
      cases other with
      | nil => rfl
      | cons first rest =>
          rw [List.cons_append, put, get?, lookup_putNode, hnext, Option.getD_some, get?]
          by_cases hfirst : first = step
          · subst hfirst
            simpa [hnext] using ih hrest rest
          · simp [hfirst]

end Node

namespace Path

theorem isFileName_of_mem_names {path : Path} {name : String} (h : name ∈ path.names) :
    '/' ∉ name.toList ∧ name ≠ "" := by
  obtain ⟨field, hfield, rfl⟩ := exists_field_of_mem_names h
  refine ⟨?_, by simpa using (List.mem_filter.mp h).2⟩
  rw [String.toList_ofList]
  exact Text.not_mem_of_mem_fields hfield

end Path

namespace AbsPath

/-- A place whose names can be spelled in a path and lead to it. -/
def IsPlain (place : AbsPath) : Prop := ∀ name ∈ place.names, Layout.IsFileName name ∧ name ≠ ".."

variable {place : AbsPath}

theorem isPlain_root : root.IsPlain := fun _ hname => absurd hname List.not_mem_nil

theorem IsPlain.mono {above : AbsPath} (h : place.IsPlain) (hsub : above.names ⊆ place.names) :
    above.IsPlain := fun name hname => h name (hsub hname)

theorem IsPlain.step (h : place.IsPlain) {name : String} (hslash : '/' ∉ name.toList)
    (hempty : name ≠ "") : (place.step name).IsPlain := by
  rw [AbsPath.step]
  by_cases hdot : name = "."
  · simpa [hdot] using h
  by_cases hup : name = ".."
  · rw [if_neg (by simpa using hdot), if_pos (by simpa using hup)]
    exact h.mono (List.dropLast_subset place.names)
  · rw [if_neg (by simpa using hdot), if_neg (by simpa using hup)]
    intro other hother
    rcases List.mem_append.mp hother with hother | hother
    · exact h other hother
    · obtain rfl := List.mem_singleton.mp hother
      exact ⟨⟨hslash, hempty, hdot⟩, hup⟩

/-- Following a path ends where names can be spelled, if it starts there. -/
theorem IsPlain.follow (h : place.IsPlain) (path : Path) : (place.follow path).IsPlain := by
  have hsteps : ∀ {names : List String}, (∀ name ∈ names, '/' ∉ name.toList ∧ name ≠ "") →
      ∀ {base : AbsPath}, base.IsPlain → (names.foldl AbsPath.step base).IsPlain := by
    intro names hnames
    induction names with
    | nil => exact id
    | cons name rest ih =>
        rw [List.forall_mem_cons] at hnames
        exact fun hbase => ih hnames.2 (hbase.step hnames.1.1 hnames.1.2)
  rw [AbsPath.follow]
  refine hsteps (fun name hname => Path.isFileName_of_mem_names hname) ?_
  split
  · exact isPlain_root
  · exact h

end AbsPath

namespace Disk

def kind? (disk : Disk) (place : AbsPath) : Option Kind := (disk.node? place).map Node.kind

def LinkFree (disk : Disk) : Prop := ∀ place target, disk.kind? place ≠ some (.link target)

/-- Where the path of a place leads to when there is no link on the way. -/
inductive Reaches (disk : Disk) (place : AbsPath) : Spot → Prop where
  | found {node : Node String} (hnode : disk.node? place = some node) : Reaches disk place (.found place node)
  | free {parent : AbsPath} {name : String} {entries : List (String × Node String)}
      (hplace : place = parent.child name)
      (hparent : disk.node? parent = some (.directory entries))
      (hfree : entries.lookup name = none) : Reaches disk place (.free place)

variable {disk changed : Disk} {place : AbsPath} {node : Node String}

theorem kind?_eq_directory_iff :
    disk.kind? place = some .directory ↔ ∃ entries, disk.node? place = some (.directory entries) := by
  rw [kind?, Option.map_eq_some_iff]
  constructor
  · rintro ⟨node, hnode, hkind⟩
    cases node <;> cases hkind
    exact ⟨_, hnode⟩
  · rintro ⟨entries, hnode⟩
    exact ⟨_, hnode, rfl⟩

theorem kind?_eq_file_iff {bytes : ByteArray} :
    disk.kind? place = some (.file bytes) ↔ disk.node? place = some (.file bytes) := by
  rw [kind?, Option.map_eq_some_iff]
  constructor
  · rintro ⟨node, hnode, hkind⟩
    cases node <;> cases hkind
    exact hnode
  · intro hnode
    exact ⟨_, hnode, rfl⟩

theorem kind?_put {parent : AbsPath} {name : String} {entries : List (String × Node String)}
    (hparent : disk.node? parent = some (.directory entries))
    (hold : ∀ old, entries.lookup name = some old → old.IsLeaf) (hnew : node.IsLeaf)
    (other : AbsPath) : (disk.put (parent.child name) node).kind? other =
      if other = parent.child name then some node.kind else disk.kind? other := by
  have hput := Node.map_kind_get?_put hparent hold hnew other.names
  have hroot : (disk.put (parent.child name) node).root =
      disk.root.put (parent.names ++ [name]) node := by
    rw [put, AbsPath.child]
    cases parent.names <;> rfl
  have hsame : other.names = parent.names ++ [name] ↔ other = parent.child name := by
    rw [AbsPath.child]
    exact ⟨fun h => congrArg AbsPath.mk h, fun h => congrArg AbsPath.names h⟩
  rw [kind?, node?, hroot, hput, kind?, node?]
  simp only [hsame]

theorem reaches_of_walkNames (hfree : disk.LinkFree) {followLast : Bool}
    {onLink : AbsPath → Path → List String → Except FileFault Spot} {names : List String}
    (hnames : ∀ name ∈ names, Layout.IsFileName name ∧ name ≠ "..") {spot : Spot}
    (h : walkNames disk followLast onLink place names = .ok spot) :
    disk.Reaches ⟨place.names ++ names⟩ spot ∧ ∀ name ∈ names, IsEntryName name := by
  induction names generalizing place with
  | nil =>
      rw [walkNames] at h
      split at h
      case h_1 node hnode =>
        cases h
        refine ⟨?_, by simp⟩
        rw [List.append_nil]
        exact .found hnode
      case h_2 => cases h
  | cons name rest ih =>
      rw [List.forall_mem_cons] at hnames
      obtain ⟨⟨hname, hup⟩, hrest⟩ := hnames
      rw [walkNames] at h
      split at h
      case h_1 entries hdirectory =>
        rw [if_neg (by simpa using hname.dot), if_neg (by simpa using hup)] at h
        split at h
        case isTrue => cases h
        case isFalse hlong =>
          have hentry : IsEntryName name := ⟨hname, hup, Nat.not_lt.mp hlong⟩
          have hchild : disk.node? (place.child name) = entries.lookup name :=
            node?_child hdirectory
          split at h
          case h_1 target hlookup =>
            -- On a disk without links there is none to follow.
            rw [hlookup] at hchild
            exact absurd (by rw [kind?, hchild]; rfl) (hfree (place.child name) target)
          case h_2 next hlookup _ =>
            obtain ⟨hreaches, hentries⟩ := ih hrest h
            rw [AbsPath.child, List.append_assoc, List.singleton_append] at hreaches
            exact ⟨hreaches, List.forall_mem_cons.mpr ⟨hentry, hentries⟩⟩
          case h_3 hlookup =>
            cases rest with
            | nil =>
                cases h
                exact ⟨.free rfl hdirectory hlookup, by simpa using hentry⟩
            | cons => cases h
      case h_2 => cases h
      case h_3 => cases h

/-- On a disk without links, the path of a place leads nowhere else. -/
theorem reaches_of_follow (hfree : disk.LinkFree) (hplain : place.IsPlain) (hne : place.names ≠ [])
    {followLast : Bool} {spot : Spot} (h : disk.follow followLast .root place.toPath = .ok spot) :
    disk.Reaches place spot ∧ ∀ name ∈ place.names, IsEntryName name := by
  obtain ⟨onLink, hfollow⟩ := follow_toPath disk followLast
    (fun name hname => (hplain name hname).1) hne
  rw [hfollow] at h
  exact reaches_of_walkNames hfree hplain h

/-! ### Growth -/

/-- What stands at a place is what stood there, or a new directory where nothing stood. A directory
is made for a reason. -/
def MadeAtMost (disk changed : Disk) (other : AbsPath) (reason : Prop) : Prop :=
  changed.kind? other = disk.kind? other ∨
    disk.kind? other = none ∧ changed.kind? other = some .directory ∧ reason

def GrowsTo (disk changed : Disk) (place : AbsPath) : Prop :=
  ∀ other, disk.MadeAtMost changed other (other.names <+: place.names)

/-- A file at a place, and new directories on the way to it, set a disk apart from what it was. -/
structure GainsFile (disk changed : Disk) (place : AbsPath) (bytes : ByteArray) : Prop where
  written : changed.kind? place = some (.file bytes)
  replaced : disk.kind? place = none ∨ ∃ old, disk.kind? place = some (.file old)
  kept : ∀ other, other ≠ place → disk.MadeAtMost changed other (other.names <+: place.names)

namespace MadeAtMost

variable {between : Disk} {other : AbsPath} {reason later : Prop}

theorem mono (h : disk.MadeAtMost changed other reason) (hreason : reason → later) :
    disk.MadeAtMost changed other later :=
  h.imp id (And.imp_right (And.imp_right hreason))

theorem trans (hfirst : disk.MadeAtMost between other reason)
    (hsecond : between.MadeAtMost changed other reason) :
    disk.MadeAtMost changed other reason := by
  rcases hfirst with hsame | ⟨hnone, hdirectory, hreason⟩ <;>
    rcases hsecond with hsame' | ⟨hnone', hdirectory', hreason'⟩
  · exact .inl (hsame'.trans hsame)
  · exact .inr ⟨hsame.symm.trans hnone', hdirectory', hreason'⟩
  · exact .inr ⟨hnone, hsame'.trans hdirectory, hreason⟩
  · exact .inr ⟨hnone, hdirectory', hreason⟩

theorem eq_of_ne_none (h : disk.MadeAtMost changed other reason) (hsome : disk.kind? other ≠ none) :
    changed.kind? other = disk.kind? other :=
  h.resolve_right fun hmade => hsome hmade.1

theorem eq_of_ne_directory (h : disk.MadeAtMost changed other reason)
    (hkind : changed.kind? other ≠ some .directory) : changed.kind? other = disk.kind? other :=
  h.resolve_right fun hmade => hkind hmade.2.1

theorem not_link (h : disk.MadeAtMost changed other reason) (hfree : disk.LinkFree)
    (target : Path) : changed.kind? other ≠ some (.link target) := by
  intro hlink
  have hsame := h.eq_of_ne_directory (by simp [hlink])
  exact hfree other target (hsame.symm.trans hlink)

end MadeAtMost

theorem GrowsTo.refl (disk : Disk) (place : AbsPath) : disk.GrowsTo disk place :=
  fun _ => .inl rfl

theorem GrowsTo.mono {above : AbsPath} (h : disk.GrowsTo changed above)
    (habove : above.names <+: place.names) : disk.GrowsTo changed place :=
  fun other => (h other).mono fun hway => hway.trans habove

theorem GrowsTo.trans {between : Disk} (hfirst : disk.GrowsTo between place)
    (hsecond : between.GrowsTo changed place) : disk.GrowsTo changed place :=
  fun other => (hfirst other).trans (hsecond other)

theorem GrowsTo.linkFree (h : disk.GrowsTo changed place) (hfree : disk.LinkFree) :
    changed.LinkFree := fun other => (h other).not_link hfree

theorem GainsFile.linkFree {bytes : ByteArray} (h : disk.GainsFile changed place bytes)
    (hfree : disk.LinkFree) : changed.LinkFree := by
  intro other target hlink
  by_cases hother : other = place
  · cases (hother ▸ hlink).symm.trans h.written
  · exact (h.kept other hother).not_link hfree target hlink

theorem gainsFile_put {parent : AbsPath} {name : String} {entries : List (String × Node String)}
    (hparent : disk.node? parent = some (.directory entries))
    (hold : entries.lookup name = none ∨ ∃ old, entries.lookup name = some (.file old))
    (bytes : ByteArray) :
    disk.GainsFile (disk.put (parent.child name) (.file bytes)) (parent.child name) bytes := by
  have hleaf : ∀ old, entries.lookup name = some old → old.IsLeaf := by
    intro old hlookup
    rcases hold with hnone | ⟨bytes', hfile⟩
    · cases hlookup.symm.trans hnone
    · cases hlookup.symm.trans hfile
      exact Node.isLeaf_file bytes'
  have hput := kind?_put hparent hleaf (Node.isLeaf_file bytes)
  refine ⟨by rw [hput, if_pos rfl]; rfl, ?_, fun other hother => .inl (by rw [hput, if_neg hother])⟩
  rw [kind?, node?_child hparent]
  rcases hold with hnone | ⟨old, hfile⟩
  · exact .inl (by rw [hnone, Option.map_none])
  · exact .inr ⟨old, by rw [hfile]; rfl⟩

theorem exists_entry {bytes : ByteArray} (hnode : disk.node? place = some (.file bytes)) :
    ∃ parent name entries, place = parent.child name ∧
      disk.node? parent = some (.directory entries) ∧ entries.lookup name = some (.file bytes) := by
  obtain ⟨hne, entries, hparent⟩ := exists_parent hnode
  have hplace : place = place.parent.child (place.names.getLast hne) := by
    rw [AbsPath.child, AbsPath.parent, List.dropLast_append_getLast]
  refine ⟨_, _, entries, hplace, hparent, ?_⟩
  rw [← node?_child hparent, ← hplace, hnode]

end Disk

namespace Filing

open Disk (IsEntryName)

variable {α β : Type} {disk changed : Disk} {place : AbsPath}

theorem exists_of_on_bind {activity : Filing α} {next : α → Filing β} {b : β}
    (h : (activity >>= next).on disk = (.ok b, changed)) :
    ∃ a between, activity.on disk = (.ok a, between) ∧ (next a).on between = (.ok b, changed) := by
  rcases hfirst : activity.on disk with ⟨error | a, between⟩
  · rw [on_bind_of_error hfirst] at h
    cases h
  · rw [on_bind_of_ok hfirst] at h
    exact ⟨a, between, rfl, h⟩

section

variable (hfree : disk.LinkFree) (hplain : place.IsPlain) (hne : place.names ≠ [])

include hfree hplain hne

theorem growsTo_withDirectory (h : withDirectory disk place = .ok changed) :
    disk.GrowsTo changed place ∧ changed.kind? place = some .directory := by
  rw [withDirectory] at h
  split at h
  case h_1 real hfollow =>
    cases h
    cases (Disk.reaches_of_follow hfree hplain hne hfollow).1 with
    | @free parent name entries hplace hparent hlookup =>
        subst hplace
        have hnone : disk.kind? (parent.child name) = none := by
          rw [Disk.kind?, Disk.node?_child hparent, hlookup, Option.map_none]
        have hput := Disk.kind?_put hparent (fun old hold => by rw [hlookup] at hold; cases hold)
          Node.isLeaf_emptyDirectory
        refine ⟨fun other => ?_, by rw [hput, if_pos rfl]; rfl⟩
        rw [Disk.MadeAtMost, hput]
        by_cases hother : other = parent.child name
        · subst hother
          exact .inr ⟨hnone, by rw [if_pos rfl]; rfl, List.prefix_refl _⟩
        · exact .inl (if_neg hother)
  case h_2 => cases h
  case h_3 => cases h

theorem kind?_of_isDirectory (h : disk.isDirectory .root place.toPath) :
    disk.kind? place = some .directory := by
  rw [Disk.isDirectory, Disk.find] at h
  rcases hfollow : disk.follow true .root place.toPath with fault | spot
  · simp [hfollow] at h
  · rw [hfollow] at h
    cases (Disk.reaches_of_follow hfree hplain hne hfollow).1 with
    | found hnode =>
        rename_i node
        cases node with
        | directory entries => exact Disk.kind?_eq_directory_iff.mpr ⟨entries, hnode⟩
        | file bytes => cases h
        | link target => cases h
    | free => cases h

theorem growsTo_ensureDirectory (h : (ensureDirectory place).on disk = (.ok (), changed)) :
    disk.GrowsTo changed place ∧ changed.kind? place = some .directory := by
  rw [ensureDirectory, on_bind_of_ok (on_get disk)] at h
  cases hmade : withDirectory disk place with
  | ok made =>
      rw [hmade] at h
      cases h
      exact growsTo_withDirectory hfree hplain hne hmade
  | error fault =>
      rw [hmade] at h
      dsimp only at h
      split at h
      case isTrue hdirectory =>
        cases h
        exact ⟨.refl disk place, kind?_of_isDirectory hfree hplain hne hdirectory⟩
      case isFalse => cases h

theorem gainsFile_write {bytes : ByteArray} (h : (write place bytes).on disk = (.ok (), changed)) :
    disk.GainsFile changed place bytes ∧ ∀ name ∈ place.names, IsEntryName name := by
  rw [write, on_bind_of_ok (on_get disk)] at h
  cases hfollow : disk.follow true .root place.toPath with
  | error fault =>
      rw [hfollow] at h
      cases h
  | ok spot =>
      rw [hfollow] at h
      obtain ⟨hreaches, hnames⟩ := Disk.reaches_of_follow hfree hplain hne hfollow
      refine ⟨?_, hnames⟩
      cases hreaches with
      | @free parent name entries hplace hparent hlookup =>
          cases h
          subst hplace
          exact Disk.gainsFile_put hparent (.inl hlookup) bytes
      | @found node hnode =>
          cases node with
          | file old =>
              cases h
              obtain ⟨parent, name, entries, rfl, hparent, hlookup⟩ := Disk.exists_entry hnode
              exact Disk.gainsFile_put hparent (.inr ⟨old, hlookup⟩) bytes
          | directory entries => cases h
          | link target => cases h

end

/-- Directories that are made lie on the way to the last of them. -/
theorem growsTo_makeDirectoriesUp {names : List String} (hfree : disk.LinkFree)
    (hplain : (AbsPath.mk names.reverse).IsPlain)
    (h : (makeDirectoriesUp names).on disk = (.ok (), changed)) :
    disk.GrowsTo changed ⟨names.reverse⟩ ∧ changed.kind? ⟨names.reverse⟩ = some .directory := by
  induction names generalizing disk changed with
  | nil =>
      cases h
      exact ⟨.refl disk _, Disk.kind?_eq_directory_iff.mpr ⟨_, Disk.node?_root⟩⟩
  | cons name above ih =>
      have hne : (AbsPath.mk (name :: above).reverse).names ≠ [] := by simp
      have habove : above.reverse <+: (name :: above).reverse := by simp
      rw [makeDirectoriesUp, on_bind_of_ok (on_get disk)] at h
      split at h
      case h_1 =>
        obtain ⟨_, between, hup, hlast⟩ := exists_of_on_bind h
        have hfirst := (ih hfree (hplain.mono habove.subset) hup).1.mono habove
        obtain ⟨hsecond, hdirectory⟩ :=
          growsTo_ensureDirectory (hfirst.linkFree hfree) hplain hne hlast
        exact ⟨hfirst.trans hsecond, hdirectory⟩
      case h_2 => exact growsTo_ensureDirectory hfree hplain hne h

theorem growsTo_makeDirectories (hfree : disk.LinkFree) (hplain : place.IsPlain)
    (h : (makeDirectories place).on disk = (.ok (), changed)) : disk.GrowsTo changed place := by
  have hplace : AbsPath.mk place.names.reverse.reverse = place := by rw [List.reverse_reverse]
  rw [← hplace] at hplain ⊢
  exact (growsTo_makeDirectoriesUp hfree hplain h).1

end Filing

end SchemaScaffold
