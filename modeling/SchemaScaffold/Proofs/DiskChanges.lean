import SchemaScaffold.Proofs.PackageNames
import SchemaScaffold.Run

namespace SchemaScaffold

variable {α β : Type}

namespace Filing

@[simp]
theorem on_pure (a : α) (disk : Disk) : (pure a : Filing α).on disk = (.ok a, disk) := rfl

@[simp]
theorem on_get (disk : Disk) : (get : Filing Disk).on disk = (.ok disk, disk) := rfl

@[simp]
theorem on_ofResult (result : Result α) (disk : Disk) :
    (ofResult result).on disk = (result, disk) := by
  cases result <;> rfl

theorem on_bind (activity : Filing α) (next : α → Filing β) (disk : Disk) :
    (activity >>= next).on disk =
      match activity.on disk with
      | (.ok a, changed) => (next a).on changed
      | (.error error, changed) => (.error error, changed) := by
  change ExceptT.bindCont next (activity.on disk).1 (activity.on disk).2 = _
  rcases activity.on disk with ⟨_ | _, _⟩ <;> rfl

theorem on_bind_of_ok {activity : Filing α} {disk changed : Disk} {a : α}
    (h : activity.on disk = (.ok a, changed)) (next : α → Filing β) :
    (activity >>= next).on disk = (next a).on changed := by
  rw [on_bind, h]

theorem on_bind_of_error {activity : Filing α} {disk changed : Disk} {error : Error}
    (h : activity.on disk = (.error error, changed)) (next : α → Filing β) :
    (activity >>= next).on disk = (.error error, changed) := by
  rw [on_bind, h]

/-- Nothing but the file system stops an activity. -/
def StoppedByDisk (activity : Filing α) : Prop :=
  ∀ disk changed error, activity.on disk = (.error error, changed) → error.kind = .io

namespace StoppedByDisk

theorem pure (a : α) : StoppedByDisk (Pure.pure a) := by
  intro disk changed error h
  cases h

theorem bind {activity : Filing α} {next : α → Filing β} (hactivity : StoppedByDisk activity)
    (hnext : ∀ a, StoppedByDisk (next a)) : StoppedByDisk (activity >>= next) := by
  intro disk changed error h
  rcases hfirst : activity.on disk with ⟨fault | a, between⟩
  · rw [on_bind_of_error hfirst] at h
    cases h
    exact hactivity disk changed error hfirst
  · rw [on_bind_of_ok hfirst] at h
    exact hnext a between changed error h

theorem get : StoppedByDisk (MonadState.get : Filing Disk) := by
  intro disk changed error h
  cases h

theorem set (new : Disk) : StoppedByDisk (MonadStateOf.set new : Filing Unit) := by
  intro disk changed error h
  cases h

theorem put (place : AbsPath) (node : Node String) : StoppedByDisk (Filing.put place node) := by
  intro disk changed error h
  cases h

theorem refuse (fault : FileFault) : StoppedByDisk (Filing.refuse fault : Filing α) := by
  intro disk changed error h
  cases h
  rfl

theorem ofAnswer (answer : Except FileFault α) : StoppedByDisk (Filing.ofAnswer answer) := by
  cases answer with
  | ok a => exact pure a
  | error fault => exact refuse fault

theorem ensureDirectory (place : AbsPath) : StoppedByDisk (Filing.ensureDirectory place) := by
  refine bind get fun disk => ?_
  cases withDirectory disk place with
  | ok changed => exact set changed
  | error fault =>
      dsimp only
      split
      · exact pure ()
      · exact refuse fault

theorem makeDirectoriesUp (names : List String) :
    StoppedByDisk (Filing.makeDirectoriesUp names) := by
  induction names with
  | nil => exact pure ()
  | cons name above ih =>
      refine bind get fun disk => ?_
      split
      · exact bind ih fun _ => ensureDirectory _
      · exact ensureDirectory _

theorem write (place : AbsPath) (bytes : ByteArray) : StoppedByDisk (Filing.write place bytes) := by
  refine bind get fun disk => bind (ofAnswer _) fun spot => ?_
  split
  · exact put _ _
  · exact put _ _
  · exact refuse _

end StoppedByDisk

end Filing

namespace Output

open Filing (StoppedByDisk)

theorem stoppedByDisk_writeFile (placement : Placement) (content : String) :
    StoppedByDisk (writeFile placement content) :=
  .bind (.makeDirectoriesUp _) fun _ => .write _ _

theorem stoppedByDisk_writeAll (files : FileMap) (placements : List Placement) :
    StoppedByDisk (writeAll files placements) := by
  induction placements with
  | nil => exact .pure ()
  | cons placement rest ih => exact .bind (stoppedByDisk_writeFile _ _) fun _ => ih

theorem on_writeProject_of_error {files : FileMap} {project : Project} {guard : Guard}
    {error : Error} (h : Placement.plan files project guard = .error error) (disk : Disk) :
    (writeProject files project guard).on disk = (.error error, disk) := by
  rw [writeProject, Filing.on_bind, Filing.on_ofResult, h]

theorem on_writeProject_of_ok {files : FileMap} {project : Project} {guard : Guard}
    {placements : List Placement} (h : Placement.plan files project guard = .ok placements)
    (disk : Disk) : (writeProject files project guard).on disk =
      (writeAll files placements >>= fun _ => pure placements).on disk := by
  rw [writeProject, Filing.on_bind, Filing.on_ofResult, h]

theorem plan_of_writeProject {files : FileMap} {project : Project} {guard : Guard}
    {disk changed : Disk} {placements : List Placement}
    (h : (writeProject files project guard).on disk = (.ok placements, changed)) :
    Placement.plan files project guard = .ok placements := by
  cases hplan : Placement.plan files project guard with
  | error cause =>
      rw [on_writeProject_of_error hplan] at h
      cases h
  | ok planned =>
      rw [on_writeProject_of_ok hplan, Filing.on_bind] at h
      split at h <;> cases h
      rfl

/-- A project that is not written for a reason of its own leaves the disk as it is. -/
theorem writeProject_keeps_disk {files : FileMap} {project : Project} {guard : Guard}
    {disk changed : Disk} {error : Error}
    (h : (writeProject files project guard).on disk = (.error error, changed))
    (herror : error.kind ≠ .io) : changed = disk := by
  cases hplan : Placement.plan files project guard with
  | error cause =>
      rw [on_writeProject_of_error hplan] at h
      cases h
      rfl
  | ok placements =>
      rw [on_writeProject_of_ok hplan] at h
      have hstopped : (writeAll files placements >>= fun _ => pure placements).StoppedByDisk :=
        (stoppedByDisk_writeAll files placements).bind fun _ => .pure placements
      exact absurd (hstopped disk changed error h) herror

end Output

namespace Run

theorem on_generate (start : AbsPath) (settings : Settings) (disk : Disk) :
    (generate start settings).on disk =
      match prepare disk start settings with
      | .error error => (.error error, disk)
      | .ok (files, guard) =>
        if settings.dryRun then (Placement.plan files settings.project guard, disk)
        else (Output.writeProject files settings.project guard).on disk := by
  rw [generate, Filing.on_bind_of_ok (Filing.on_get disk), Filing.on_bind, Filing.on_ofResult]
  rcases prepare disk start settings with error | ⟨files, guard⟩
  · rfl
  · dsimp only
    split
    · exact Filing.on_ofResult _ disk
    · rfl

/-- A dry run leaves the disk as it is, and so does a run or a writing of files that anything but
the file system stops. -/
theorem disk_kept_unless_disk_stops :
    (∀ start settings disk result changed,
      (generate start settings).on disk = (result, changed) →
        (settings.dryRun ∨ ∃ error, result = .error error ∧ error.kind ≠ .io) →
          changed = disk) ∧
      ∀ files project guard disk error changed,
        (Output.writeProject files project guard).on disk = (.error error, changed) →
          error.kind ≠ .io → changed = disk := by
  refine ⟨?_, fun files project guard disk error changed => Output.writeProject_keeps_disk⟩
  intro start settings disk result changed h hreason
  rw [on_generate] at h
  rcases hprepare : prepare disk start settings with error | ⟨files, guard⟩
  · rw [hprepare] at h
    cases h
    rfl
  · rw [hprepare] at h
    dsimp only at h
    rcases hreason with hdry | ⟨error, rfl, herror⟩
    · rw [if_pos hdry] at h
      exact (Prod.mk.inj h).2.symm
    · split at h
      · exact (Prod.mk.inj h).2.symm
      · exact Output.writeProject_keeps_disk h herror

/-- A project outside the directory that its files are confined to is not written. -/
theorem disk_kept_of_escaping_project :
    let files := FileMap.ofList [("pom.xml", "<project/>"), ("SysUser.java", "class SysUser {}")]
    let guard : Guard := ⟨.root, ⟨["safe"]⟩⟩
    let disk : Disk := ⟨[("safe", .emptyDirectory), ("notes", .file "keep".toUTF8)]⟩
    ∃ error changed, (Output.writeProject files shop guard).on disk = (.error error, changed) ∧
      error.kind ≠ .io ∧ changed = disk := by
  intro files guard disk
  have h : (Output.writeProject files shop guard).on disk =
      (.error (.escape (.base "/out/shop")), disk) := by rfl
  exact ⟨_, _, h, by decide, disk_kept_unless_disk_stops.2 _ _ _ _ _ _ h (by decide)⟩

end Run

end SchemaScaffold
