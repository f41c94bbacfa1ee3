import SchemaScaffold.Proofs.DiskChanges

namespace SchemaScaffold

theorem Text.fields_intercalate {separator : Char} {all : List (List Char)} (hne : all ≠ [])
    (hall : ∀ field ∈ all, separator ∉ field) : fields separator ([separator].intercalate all) =
      all := by
  induction all with
  | nil => exact absurd rfl hne
  | cons field rest ih =>
      rw [List.forall_mem_cons] at hall
      cases rest with
      | nil => rw [List.intercalate_singleton, fields_of_not_mem hall.1]
      | cons next others =>
          rw [List.intercalate_cons_cons, List.append_assoc, List.singleton_append, fields_append,
            fields_of_not_mem hall.1, ih (List.cons_ne_nil _ _) hall.2, List.singleton_append]

theorem Text.fieldsOf_intercalate {names : List String} (hne : names ≠ [])
    (hslash : ∀ name ∈ names, '/' ∉ name.toList) :
    fieldsOf '/' ("/".intercalate names) = names := by
  have hfields : ∀ field ∈ names.map String.toList, '/' ∉ field := by
    intro field hfield
    obtain ⟨name, hname, rfl⟩ := List.mem_map.mp hfield
    exact hslash name hname
  rw [fieldsOf, String.toList_intercalate]
  change (fields '/' (['/'].intercalate (names.map String.toList))).map String.ofList = names
  rw [fields_intercalate (by simpa using hne) hfields]
  simp [Function.comp_def]

namespace Node

section

variable {Name : Type} [DecidableEq Name]

@[simp]
theorem get?_nil (node : Node Name) : node.get? [] = some node := by
  cases node <;> rfl

theorem get?_append (before after : List Name) (node : Node Name) :
    node.get? (before ++ after) = (node.get? before).bind (get? after) := by
  induction before generalizing node with
  | nil => rw [List.nil_append, get?_nil, Option.bind_some]
  | cons name rest ih =>
      cases node with
      | file bytes => rfl
      | link target => rfl
      | directory entries =>
          simp only [List.cons_append, get?]
          cases entries.lookup name with
          | none => rfl
          | some next => exact ih next

theorem exists_of_get?_cons {name : Name} {rest : List Name} {node found : Node Name}
    (h : node.get? (name :: rest) = some found) : ∃ entries next, node = directory entries ∧
      entries.lookup name = some next ∧ next.get? rest = some found := by
  cases node with
  | file bytes => cases h
  | link target => cases h
  | directory entries =>
      obtain ⟨next, hnext, hrest⟩ := Option.bind_eq_some_iff.mp h
      exact ⟨entries, next, rfl, hnext, hrest⟩

end

theorem putNode_of_lookup {name : String} {node : Node String}
    {entries : List (String × Node String)} (h : entries.lookup name = some node) : putNode name node entries = entries := by
  induction entries with
  | nil => cases h
  | cons entry rest ih =>
      rw [putNode]
      by_cases hname : entry.1 = name
      · rw [List.lookup_cons, hname, beq_self_eq_true] at h
        obtain rfl := Option.some.inj h
        rw [if_pos hname, ← hname]
      · have hother : (name == entry.1) = false := beq_eq_false_iff_ne.mpr (Ne.symm hname)
        rw [List.lookup_cons, hother] at h
        rw [if_neg hname, ih h]

theorem put_of_get? {names : List String} {node found : Node String}
    (h : node.get? names = some found) : node.put names found = node := by
  induction names generalizing node with
  | nil =>
      rw [get?_nil] at h
      obtain rfl := Option.some.inj h
      cases node <;> rfl
  | cons name rest ih =>
      obtain ⟨entries, next, rfl, hnext, hrest⟩ := exists_of_get?_cons h
      rw [put, hnext, Option.getD_some, ih hrest, putNode_of_lookup hnext]

end Node

namespace Disk

structure IsEntryName (name : String) : Prop extends Layout.IsFileName name where
  up : name ≠ ".."
  short : name.utf8ByteSize ≤ maxNameBytes

variable {disk : Disk} {place : AbsPath} {names : List String} {node : Node String}

theorem isAbsolute_toPath (place : AbsPath) : place.toPath.isAbsolute := by
  simp [Path.isAbsolute, AbsPath.toPath, AbsPath.toString]

theorem isEmpty_toPath (place : AbsPath) : place.toPath.isEmpty = false := by
  simp [Path.isEmpty, AbsPath.toPath, AbsPath.toString]

theorem fieldsOf_toString (hnames : ∀ name ∈ place.names, Layout.IsFileName name)
    (hne : place.names ≠ []) : Text.fieldsOf '/' place.toString = "" :: place.names := by
  have hback := Text.fieldsOf_intercalate hne fun name hname => (hnames name hname).slash
  have htext : place.toString.toList = '/' :: ("/".intercalate place.names).toList := by
    rw [AbsPath.toString, String.toList_append]
    rfl
  rw [Text.fieldsOf] at hback ⊢
  rw [htext, Text.fields, if_pos (by rfl), List.map_cons, hback]

theorem names_toPath (hnames : ∀ name ∈ place.names, Layout.IsFileName name) :
    place.toPath.names = place.names := by
  by_cases hne : place.names = []
  · have hroot : place = .root := congrArg AbsPath.mk hne
    rw [hroot]
    decide
  · have hkept : place.names.filter (fun name => !name.isEmpty) = place.names := by
      rw [List.filter_eq_self]
      intro name hname
      simpa using (hnames name hname).empty
    rw [Path.names, AbsPath.toPath, fieldsOf_toString hnames hne]
    simpa using hkept

theorem namesToFollow_toPath (hnames : ∀ name ∈ place.names, Layout.IsFileName name)
    (hne : place.names ≠ []) : namesToFollow place.toPath = place.names := by
  have hfields := fieldsOf_toString hnames hne
  have hend : Path.endsInSlash place.toPath.text = false := by
    rw [← Bool.not_eq_true]
    intro hslash
    obtain ⟨text, htext⟩ := Path.exists_eq_append_slash hslash
    -- A slash at the end leaves an empty last field, and the last name is not empty.
    have hchars : (place.toString).toList = text.toList ++ '/' :: [] := by
      have htoList := congrArg String.toList htext
      rwa [String.toList_append] at htoList
    rw [Text.fieldsOf, hchars, Text.fields_append, List.map_append] at hfields
    have hlast := congrArg List.getLast? hfields
    rw [List.getLast?_cons_of_ne_nil hne] at hlast
    have hempty : place.names.getLast? = some "" := hlast.symm.trans (by simp [Text.fields])
    exact (hnames _ (List.mem_of_getLast? hempty)).empty rfl
  rw [namesToFollow, if_neg (by rw [hend]; exact Bool.false_ne_true), names_toPath hnames]

theorem node?_child {entries : List (String × Node String)} {name : String}
    (hplace : disk.node? place = some (.directory entries)) :
    disk.node? (place.child name) = entries.lookup name := by
  rw [node?, AbsPath.child, Node.get?_append, ← node?, hplace, Option.bind_some, Node.get?]
  cases entries.lookup name with
  | none => rfl
  | some next => exact Node.get?_nil next

theorem walkNames_of_get? {followLast : Bool}
    {onLink : AbsPath → Path → List String → Except FileFault Spot} {start : Node String}
    (hstart : disk.node? place = some start) (hnode : start.get? names = some node)
    (hlink : ∀ target, node ≠ .link target) (hnames : ∀ name ∈ names, IsEntryName name) :
    walkNames disk followLast onLink place names = .ok (.found ⟨place.names ++ names⟩ node) := by
  induction names generalizing place start with
  | nil =>
      rw [Node.get?_nil] at hnode
      obtain rfl := Option.some.inj hnode
      simp [walkNames, hstart]
  | cons name rest ih =>
      obtain ⟨entries, next, rfl, hnext, hrest⟩ := Node.exists_of_get?_cons hnode
      rw [List.forall_mem_cons] at hnames
      have hname := hnames.1
      have hchild : disk.node? (place.child name) = some next := (node?_child hstart).trans hnext
      have hlater := ih hchild hrest hnames.2
      rw [AbsPath.child, List.append_assoc, List.singleton_append] at hlater
      have hshort : ¬maxNameBytes < name.utf8ByteSize := Nat.not_lt.mpr hname.short
      cases next with
      | link target =>
          cases rest with
          | nil => exact absurd (Option.some.inj hrest).symm (hlink target)
          | cons => cases hrest
      | file bytes | directory inner =>
          simp [walkNames, hstart, hname.dot, hname.up, hshort, hnext, hlater, AbsPath.child]

theorem node?_root : disk.node? .root = some disk.root := by
  rw [node?, AbsPath.root, Node.get?_nil]

theorem follow_toPath (disk : Disk) (followLast : Bool)
    (hnames : ∀ name ∈ place.names, Layout.IsFileName name) (hne : place.names ≠ []) :
    ∃ onLink, disk.follow followLast .root place.toPath =
      walkNames disk followLast onLink .root place.names := by
  rw [follow, if_neg (by rw [isEmpty_toPath]; exact Bool.false_ne_true),
    if_pos (isAbsolute_toPath place), namesToFollow_toPath hnames hne, maxLinks, walk]
  exact ⟨_, rfl⟩

theorem follow_of_node? {followLast : Bool} (hnode : disk.node? place = some node)
    (hlink : ∀ target, node ≠ .link target) (hnames : ∀ name ∈ place.names, IsEntryName name)
    (hne : place.names ≠ []) :
    disk.follow followLast .root place.toPath = .ok (.found place node) := by
  obtain ⟨onLink, hfollow⟩ := follow_toPath disk followLast
    (fun name hname => (hnames name hname).toIsFileName) hne
  rw [hfollow]
  exact walkNames_of_get? node?_root hnode hlink hnames

theorem fromUTF8?_toUTF8 (s : String) : String.fromUTF8? s.toUTF8 = some s := by
  unfold String.fromUTF8?
  exact dif_pos s.isValidUTF8

theorem readText_of_node? {text : String} (hnode : disk.node? place = some (.file text.toUTF8))
    (hnames : ∀ name ∈ place.names, IsEntryName name) (hne : place.names ≠ []) :
    disk.readText .root place.toPath = .ok text := by
  have hfollow : disk.follow true .root place.toPath = .ok (.found place (.file text.toUTF8)) :=
    follow_of_node? hnode (fun _ h => by cases h) hnames hne
  simp only [readText, read, find, hfollow, Traversal.ok_bind, fromUTF8?_toUTF8]
  rfl

theorem exists_parent {bytes : ByteArray} (hnode : disk.node? place = some (.file bytes)) :
    place.names ≠ [] ∧ ∃ entries, disk.node? place.parent = some (.directory entries) := by
  rcases List.eq_nil_or_concat' place.names with hroot | ⟨above, name, hplace⟩
  · rw [node?, hroot, Node.get?_nil] at hnode
    cases hnode
  · rw [node?, hplace, Node.get?_append] at hnode
    obtain ⟨parent, hparent, hchild⟩ := Option.bind_eq_some_iff.mp hnode
    obtain ⟨entries, -, rfl, -, -⟩ := Node.exists_of_get?_cons hchild
    refine ⟨by simp [hplace], entries, ?_⟩
    rw [node?, AbsPath.parent, hplace, List.dropLast_concat, hparent]

theorem put_of_node? (hnode : disk.node? place = some node) : disk.put place node = disk := by
  rw [put, Node.put_of_get? hnode, root]

end Disk

namespace Filing

variable {disk : Disk} {place : AbsPath}

theorem on_makeDirectories_of_node? {entries : List (String × Node String)}
    (hnode : disk.node? place = some (.directory entries))
    (hnames : ∀ name ∈ place.names, Disk.IsEntryName name) :
    (makeDirectories place).on disk = (.ok (), disk) := by
  rw [makeDirectories]
  cases hreverse : place.names.reverse with
  | nil => rfl
  | cons name above =>
      have hne : place.names ≠ [] := by
        rw [ne_eq, ← List.reverse_eq_nil_iff, hreverse]
        exact List.cons_ne_nil _ _
      have hplace : AbsPath.mk (name :: above).reverse = place := by
        rw [← hreverse, List.reverse_reverse]
      have hfound : ∀ followLast, disk.follow followLast .root place.toPath =
          .ok (.found place (.directory entries)) := fun followLast =>
        Disk.follow_of_node? hnode (fun _ h => by cases h) hnames hne
      have hthere : withDirectory disk place = .error .alreadyExists := by
        rw [withDirectory, hfound]
      have hdirectory : disk.isDirectory .root place.toPath := by
        simp [Disk.isDirectory, Disk.find, hfound, Node.isDirectory]
      rw [makeDirectoriesUp, on_bind_of_ok (on_get disk), hplace, hthere]
      dsimp only
      rw [ensureDirectory, on_bind_of_ok (on_get disk), hthere]
      dsimp only
      rw [if_pos hdirectory, on_pure]

theorem on_write_of_node? {old : ByteArray} (hnode : disk.node? place = some (.file old))
    (hnames : ∀ name ∈ place.names, Disk.IsEntryName name) (bytes : ByteArray) :
    (write place bytes).on disk = (.ok (), disk.put place (.file bytes)) := by
  have hfound : disk.follow true .root place.toPath = .ok (.found place (.file old)) :=
    Disk.follow_of_node? hnode (fun _ h => by cases h) hnames (Disk.exists_parent hnode).1
  rw [write, on_bind_of_ok (on_get disk), hfound]
  rfl

end Filing

namespace Output

theorem on_writeAll_of_written {files : FileMap} {placements : List Placement} {disk : Disk}
    (hnames : ∀ placement ∈ placements, ∀ name ∈ placement.absolutePath.names,
      Disk.IsEntryName name)
    (hwritten : ∀ placement ∈ placements, disk.node? placement.absolutePath =
      some (.file ((files.content? placement.logicalName).getD "").toUTF8)) :
    (writeAll files placements).on disk = (.ok (), disk) := by
  induction placements with
  | nil => rfl
  | cons placement rest ih =>
      rw [List.forall_mem_cons] at hnames hwritten
      obtain ⟨-, entries, hparent⟩ := Disk.exists_parent hwritten.1
      have hmade := Filing.on_makeDirectories_of_node? hparent
        fun name hname => hnames.1 name ((List.dropLast_sublist _).subset hname)
      have hfile := Filing.on_write_of_node? hwritten.1 hnames.1
        ((files.content? placement.logicalName).getD "").toUTF8
      rw [Disk.put_of_node? hwritten.1] at hfile
      have hfirst : (writeFile placement ((files.content? placement.logicalName).getD "")).on disk =
          (.ok (), disk) := by
        rw [writeFile, Filing.on_bind_of_ok hmade, hfile]
      rw [writeAll, Filing.on_bind_of_ok hfirst, ih hnames.2 hwritten.2]

end Output

end SchemaScaffold
