import SchemaScaffold.Proofs.Descendants
import SchemaScaffold.Proofs.DiskChanges

namespace SchemaScaffold

namespace Node

variable {node new : Node String} {names other : List String}

theorem map_fst_putNode (name : String) (node : Node String) (entries : List (String × Node String)) :
    (putNode name node entries).map Prod.fst =
      if name ∈ entries.map Prod.fst then entries.map Prod.fst
      else entries.map Prod.fst ++ [name] := by
  induction entries with
  | nil => simp [putNode]
  | cons entry rest ih =>
      rw [putNode]
      by_cases h : entry.1 = name
      · simp [h]
      · rw [if_neg h, List.map_cons, ih]
        simp only [List.map_cons, List.mem_cons, Ne.symm h, false_or]
        split <;> simp

theorem nodup_putNode {entries : List (String × Node String)} (h : (entries.map Prod.fst).Nodup)
    (name : String) (node : Node String) : ((putNode name node entries).map Prod.fst).Nodup := by
  rw [map_fst_putNode]
  split
  case isTrue => exact h
  case isFalse hfresh =>
    rw [← List.concat_eq_append]
    exact h.concat hfresh

theorem isTidy_file (bytes : ByteArray) : (file bytes : Node String).IsTidy := by
  rintro (_ | _) entries h <;> cases h

theorem isTidy_emptyDirectory : emptyDirectory.IsTidy := by
  rintro (_ | _) entries h <;> cases h
  exact List.nodup_nil

/-- Putting a node into a tree leaves every directory tidy that was. -/
theorem IsTidyAt.put (h : node.IsTidyAt other) (hnew : new.IsTidy) :
    (node.put names new).IsTidyAt other := by
  induction names generalizing node other with
  | nil =>
      have hput : node.put [] new = new := by cases node <;> rfl
      rw [hput]
      exact hnew other
  | cons step rest ih =>
      cases node with
      | file | link => exact h
      | directory entries =>
          cases other with
          | nil =>
              intro inner hinner
              rw [Node.put, get?_nil] at hinner
              cases hinner
              exact nodup_putNode (h entries (get?_nil _)) _ _
          | cons first below =>
              intro inner hinner
              rw [Node.put, get?, lookup_putNode] at hinner
              by_cases hfirst : first = step
              · rw [if_pos hfirst] at hinner
                refine ih (fun found hfound => ?_) inner hinner
                rw [← hfirst] at hfound
                cases hlookup : entries.lookup first with
                | none =>
                    rw [hlookup] at hfound
                    exact isTidy_emptyDirectory below found hfound
                | some next =>
                    rw [hlookup] at hfound
                    refine h found ?_
                    rw [get?, hlookup]
                    exact hfound
              · rw [if_neg hfirst] at hinner
                exact h inner hinner

end Node

namespace Disk

def IsTidyAt (disk : Disk) (place : AbsPath) : Prop := disk.root.IsTidyAt place.names

theorem IsTidyAt.put {disk : Disk} {place : AbsPath} (h : disk.IsTidyAt place) {node : Node String}
    (hnode : node.IsTidy) (other : AbsPath) : (disk.put other node).IsTidyAt place := by
  rw [Disk.put]
  split
  case h_1 entries hput =>
    have hroot : (Disk.mk entries).root = disk.root.put other.names node := hput.symm
    rw [IsTidyAt, hroot]
    exact Node.IsTidyAt.put h hnode
  case h_2 => exact h

end Disk

namespace Filing

variable {α β : Type}

def KeepsTidy (activity : Filing α) : Prop :=
  ∀ disk place, disk.IsTidyAt place → (activity.on disk).2.IsTidyAt place

namespace KeepsTidy

theorem pure (a : α) : KeepsTidy (Pure.pure a) := fun _ _ h => h

theorem bind {activity : Filing α} {next : α → Filing β} (hactivity : KeepsTidy activity)
    (hnext : ∀ a, KeepsTidy (next a)) : KeepsTidy (activity >>= next) := by
  intro disk place h
  have hfirst := hactivity disk place h
  rcases hrun : activity.on disk with ⟨error | a, between⟩ <;> rw [hrun] at hfirst
  · rw [on_bind_of_error hrun]
    exact hfirst
  · rw [on_bind_of_ok hrun]
    exact hnext a between place hfirst

theorem get : KeepsTidy (MonadState.get : Filing Disk) := fun _ _ h => h

theorem put (place : AbsPath) {node : Node String} (hnode : node.IsTidy) :
    KeepsTidy (Filing.put place node) := fun _ _ h => h.put hnode place

theorem refuse (fault : FileFault) : KeepsTidy (Filing.refuse fault : Filing α) := fun _ _ h => h

theorem ofAnswer (answer : Except FileFault α) : KeepsTidy (Filing.ofAnswer answer) := by
  cases answer with
  | ok a => exact pure a
  | error fault => exact refuse fault

theorem ofResult (result : Result α) : KeepsTidy (Filing.ofResult result) := by
  intro disk place h
  rwa [on_ofResult]

theorem withDirectory {disk changed : Disk} {place other : AbsPath} (h : disk.IsTidyAt place)
    (hmade : Filing.withDirectory disk other = .ok changed) : changed.IsTidyAt place := by
  rw [Filing.withDirectory] at hmade
  split at hmade <;> cases hmade
  exact h.put Node.isTidy_emptyDirectory _

theorem ensureDirectory (other : AbsPath) : KeepsTidy (Filing.ensureDirectory other) := by
  intro disk place h
  rw [Filing.ensureDirectory, on_bind_of_ok (on_get disk)]
  cases hmade : Filing.withDirectory disk other with
  | ok changed => exact withDirectory h hmade
  | error fault =>
      dsimp only
      split
      · exact h
      · exact h

theorem makeDirectoriesUp (names : List String) : KeepsTidy (Filing.makeDirectoriesUp names) := by
  induction names with
  | nil => exact pure ()
  | cons name above ih =>
      refine bind get fun disk => ?_
      split
      · exact bind ih fun _ => ensureDirectory _
      · exact ensureDirectory _

theorem write (place : AbsPath) (bytes : ByteArray) : KeepsTidy (Filing.write place bytes) := by
  refine bind get fun disk => bind (ofAnswer _) fun spot => ?_
  split
  · exact put _ (Node.isTidy_file bytes)
  · exact put _ (Node.isTidy_file bytes)
  · exact refuse _

end KeepsTidy

end Filing

namespace Output

open Filing (KeepsTidy)

theorem keepsTidy_writeAll (files : FileMap) (placements : List Placement) :
    KeepsTidy (writeAll files placements) := by
  induction placements with
  | nil => exact .pure ()
  | cons placement rest ih =>
      exact .bind (.bind (.makeDirectoriesUp _) fun _ => .write _ _) fun _ => ih

theorem keepsTidy_writeProject (files : FileMap) (project : Project) (guard : Guard) :
    KeepsTidy (writeProject files project guard) :=
  .bind (.ofResult _) fun placements => .bind (keepsTidy_writeAll files placements) fun _ => .pure _

end Output

end SchemaScaffold
