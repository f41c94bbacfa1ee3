import Mathlib.Logic.Relation
import SchemaScaffold.Proofs.DiskGrowth
import SchemaScaffold.Proofs.Placements

/-!
# Paths that a guard lets pass

The names of a path are simplified by three rules: a dot is left out, a name is left out together
with the two dots behind it, and two dots at the root are left out. The order of the rules does not
matter. What is left is what following the path leads to, because every rule keeps the place that
the names lead to. So a guard, which follows paths, compares simplified paths name by name.
-/

namespace SchemaScaffold

/-! ### Simplified paths -/

namespace AbsPath

/-- One simplification of names along a path from the root. -/
inductive Simplifies : List String → List String → Prop where
  | stay (before after : List String) : Simplifies (before ++ "." :: after) (before ++ after)
  | back (before after : List String) {name : String} (hdot : name ≠ ".") (hup : name ≠ "..") :
      Simplifies (before ++ name :: ".." :: after) (before ++ after)
  | top (after : List String) : Simplifies (".." :: after) after

def IsSimple (names : List String) : Prop := "." ∉ names ∧ ".." ∉ names

theorem step_dot (place : AbsPath) : place.step "." = place := rfl

theorem step_up (place : AbsPath) : place.step ".." = place.parent := rfl

theorem step_name (place : AbsPath) {name : String} (hdot : name ≠ ".") (hup : name ≠ "..") :
    place.step name = place.child name := by
  simp [step, hdot, hup]

theorem parent_child (place : AbsPath) (name : String) : (place.child name).parent = place := by
  simp [parent, child]

theorem Simplifies.foldl_step {names shorter : List String} (h : Simplifies names shorter) :
    names.foldl step root = shorter.foldl step root := by
  cases h with
  | stay before after => rw [List.foldl_append, List.foldl_cons, step_dot, List.foldl_append]
  | back before after hdot hup =>
      rw [List.foldl_append, List.foldl_cons, List.foldl_cons, step_name _ hdot hup, step_up,
        parent_child, List.foldl_append]
  | top => rfl

theorem Simplifies.append {names shorter : List String} (h : Simplifies names shorter)
    (more : List String) : Simplifies (names ++ more) (shorter ++ more) := by
  cases h with
  | stay before after => simpa using stay before (after ++ more)
  | back before after hdot hup => simpa using back before (after ++ more) hdot hup
  | top => exact top (shorter ++ more)

theorem IsSimple.foldl_step {names : List String} (h : IsSimple names) :
    names.foldl step root = ⟨names⟩ := by
  have hnames := names_foldl_step h.2 root
  have hkept : names.filter (· != ".") = names := by
    rw [List.filter_eq_self]
    intro name hname
    simpa using fun hdot : name = "." => h.1 (hdot ▸ hname)
  rw [hkept] at hnames
  exact congrArg AbsPath.mk hnames

theorem IsSimple.step {place : AbsPath} (h : IsSimple place.names) (name : String) :
    IsSimple (place.step name).names := by
  by_cases hdot : name = "."
  · rwa [hdot, step_dot]
  by_cases hup : name = ".."
  · rw [hup, step_up]
    exact ⟨fun hmem => h.1 ((List.dropLast_sublist _).subset hmem),
      fun hmem => h.2 ((List.dropLast_sublist _).subset hmem)⟩
  · rw [step_name place hdot hup]
    exact ⟨by simp [child, h.1, Ne.symm hdot], by simp [child, h.2, Ne.symm hup]⟩

theorem simplifies_step {place : AbsPath} (h : IsSimple place.names) (name : String) :
    Relation.ReflTransGen Simplifies (place.names ++ [name]) (place.step name).names := by
  by_cases hdot : name = "."
  · rw [hdot, step_dot]
    simpa using Relation.ReflTransGen.single (Simplifies.stay place.names [])
  by_cases hup : name = ".."
  · rw [hup, step_up, parent]
    rcases List.eq_nil_or_concat' place.names with hroot | ⟨above, last, hplace⟩
    · rw [hroot]
      exact .single (.top [])
    · rw [hplace, IsSimple] at h
      have hlast : last ≠ "." ∧ last ≠ ".." :=
        ⟨fun heq => h.1 (by simp [heq]), fun heq => h.2 (by simp [heq])⟩
      rw [hplace, List.dropLast_concat, List.append_assoc]
      simpa using Relation.ReflTransGen.single (Simplifies.back above [] hlast.1 hlast.2)
  · rw [step_name place hdot hup]
    exact .refl

theorem simplifies_foldl_step (names : List String) :
    Relation.ReflTransGen Simplifies names (names.foldl step root).names ∧
      IsSimple (names.foldl step root).names := by
  -- The names are read from the front, so the last one is what the induction takes off.
  induction names using List.reverseRecOn with
  | nil => exact ⟨.refl, by simp [IsSimple, root]⟩
  | append_singleton before name ih =>
      obtain ⟨hbefore, hsimple⟩ := ih
      rw [List.foldl_append, List.foldl_cons, List.foldl_nil]
      refine ⟨?_, hsimple.step name⟩
      have hlift : Relation.ReflTransGen Simplifies (before ++ [name])
          ((before.foldl step root).names ++ [name]) :=
        hbefore.lift (· ++ [name]) fun _ _ h => h.append [name]
      exact hlift.trans (simplifies_step hsimple name)

theorem foldl_step_of_simplifies {names shorter : List String}
    (h : Relation.ReflTransGen Simplifies names shorter) :
    names.foldl step root = shorter.foldl step root := by
  induction h with
  | refl => rfl
  | tail _ hlast ih => exact ih.trans hlast.foldl_step

theorem follow_toPath {place : AbsPath} (hplace : place.IsPlain) (start : AbsPath) :
    start.follow place.toPath = place := by
  have habsolute : place.toPath.isAbsolute := Disk.isAbsolute_toPath place
  have hnames := Disk.names_toPath fun name hname => (hplace name hname).1
  have hsimple : IsSimple place.names :=
    ⟨fun hdot => (hplace _ hdot).1.dot rfl, fun hup => (hplace _ hup).2 rfl⟩
  rw [follow, if_pos habsolute, hnames, hsimple.foldl_step]

end AbsPath

namespace Path

/-- The names of a path from the root, read without links, are simplified to these. -/
def SimplifiesTo (path : Path) (names : List String) : Prop :=
  Relation.ReflTransGen AbsPath.Simplifies path.names names ∧ AbsPath.IsSimple names

/-- A path is simplified to the names of the place that it leads to, and to no others. -/
theorem simplifiesTo_iff {path : Path} {names : List String} :
    path.SimplifiesTo names ↔ names = (AbsPath.root.follow path).names := by
  have hfollow : AbsPath.root.follow path = path.names.foldl AbsPath.step .root := by
    rw [AbsPath.follow, ite_self]
  rw [hfollow]
  constructor
  · rintro ⟨hsteps, hsimple⟩
    rw [AbsPath.foldl_step_of_simplifies hsteps, hsimple.foldl_step]
  · rintro rfl
    exact AbsPath.simplifies_foldl_step path.names

theorem simplifiesTo_up_iff {path : String} {names : List String} :
    (Path.mk ("/../" ++ path)).SimplifiesTo names ↔ (Path.mk ("/" ++ path)).SimplifiesTo names := by
  have htop : (Path.mk "").names = [] := by decide
  have hup : (Path.mk "/..").names = [".."] := by decide
  have hbelow : (Path.mk ("/" ++ path)).names = (Path.mk path).names := by
    have hslash := names_slash "" path
    rwa [htop, String.empty_append, List.nil_append] at hslash
  have habove : (Path.mk ("/../" ++ path)).names = ".." :: (Path.mk path).names := by
    have hslash := names_slash "/.." path
    rwa [hup] at hslash
  simp only [simplifiesTo_iff, AbsPath.follow, ite_self, hbelow, habove]
  rfl

end Path

/-! ### Guards -/

namespace Guard

variable {guard : Guard} {base candidate : Path} {place : AbsPath}

theorem make_eq_ok_iff {start : AbsPath} {dir : Path} :
    make start dir = .ok guard ↔ dir.isEmpty = false ∧ guard = ⟨start, start.follow dir⟩ := by
  cases hempty : dir.isEmpty with
  | true => simp [make, absolute, hempty, Result.invalid]
  | false => simp [make, absolute, hempty, Traversal.ok_bind, pure, Except.pure, eq_comm]

/-- A refused path leaves the root, unless the path that it starts from is empty. -/
theorem exists_escape_of_resolve {error : Error} (hbase : base.isEmpty = false)
    (h : guard.resolve base candidate = .error error) : ∃ path, error = .escape path := by
  rw [resolve, absolute, hbase, if_neg Bool.false_ne_true, Traversal.ok_bind, resolveFrom] at h
  dsimp only at h
  split at h
  · exact ⟨_, (Except.error.inj h).symm⟩
  · split at h
    · cases h
    · exact ⟨_, (Except.error.inj h).symm⟩

theorem resolve_toPath (hplace : place.IsPlain) (hwithin : place.within guard.root) :
    guard.resolve place.toPath ⟨""⟩ = .ok place := by
  have hfollow := AbsPath.follow_toPath hplace guard.start
  have hempty := Disk.isEmpty_toPath place
  rw [resolve_eq_ok_iff, AbsPath.follow_join, hfollow, follow_empty]
  exact ⟨hempty, hwithin, hwithin, rfl⟩

/-- A guard accepts a path from a base that is not empty exactly when the simplified base and the
simplified path from the base both begin with all names of its simplified root, and then the place
is the simplified path. -/
theorem resolve_accepts_iff {workingDir dir : Path}
    (hguard : make (AbsPath.root.follow workingDir) dir = .ok guard) (base candidate : Path) :
    (∀ path : Path, ∃! names, path.SimplifiesTo names) ∧
      (∀ path names, (Path.mk ("/../" ++ path)).SimplifiesTo names ↔
        (Path.mk ("/" ++ path)).SimplifiesTo names) ∧
      (∀ place, guard.resolve base candidate = .ok place ↔
        base.isEmpty = false ∧ ∃ top inner, (workingDir.join dir).SimplifiesTo top ∧
          (workingDir.join base).SimplifiesTo inner ∧
          (workingDir.join (base.join candidate)).SimplifiesTo place.names ∧
          top <+: inner ∧ top <+: place.names) ∧
      (∀ place, guard.resolve base candidate = .ok place →
        place.toPath.isAbsolute ∧ place.toPath.names = place.names ∧
          "." ∉ place.names ∧ ".." ∉ place.names ∧
          guard.resolve place.toPath ⟨""⟩ = .ok place ∧
          (candidate.isAbsolute → candidate.SimplifiesTo place.names)) ∧
      ∀ error, base.isEmpty = false → guard.resolve base candidate = .error error →
        ∃ path, error = .escape path := by
  obtain ⟨-, rfl⟩ := make_eq_ok_iff.mp hguard
  refine ⟨fun path => ?_, fun path names => Path.simplifiesTo_up_iff, fun place => ?_,
    fun place hplace => ?_, fun error => exists_escape_of_resolve⟩
  · simp only [Path.simplifiesTo_iff]
    exact existsUnique_eq
  · simp only [resolve_eq_ok_iff, AbsPath.within_iff, Path.simplifiesTo_iff, AbsPath.follow_join]
    refine and_congr_right fun _ => ?_
    constructor
    · rintro ⟨hbase, hfull, rfl⟩
      exact ⟨_, _, rfl, rfl, rfl, hbase, hfull⟩
    · rintro ⟨_, _, rfl, rfl, hplace, hbase, hfull⟩
      obtain rfl : place = _ := congrArg AbsPath.mk hplace
      exact ⟨hbase, hfull, rfl⟩
  · obtain ⟨-, -, hfull, rfl⟩ := resolve_eq_ok_iff.mp hplace
    have hplain := (AbsPath.isPlain_root.follow workingDir).follow (base.join candidate)
    refine ⟨Disk.isAbsolute_toPath _, Disk.names_toPath fun name hname => (hplain name hname).1,
      fun hdot => (hplain _ hdot).1.dot rfl, fun hup => (hplain _ hup).2 rfl,
      resolve_toPath hplain hfull, fun habsolute => ?_⟩
    rw [Path.simplifiesTo_iff, AbsPath.follow_join]
    simp [AbsPath.follow, habsolute]

/-- A path that leaves the root and comes back is accepted, and a directory whose name only begins
like that of the root is not. -/
theorem resolve_accepts_iff_leaving_root :
    let guard : Guard := ⟨⟨["work"]⟩, ⟨["srv", "out"]⟩⟩
    make (AbsPath.root.follow ⟨"/work"⟩) ⟨"/srv/out"⟩ = .ok guard ∧
      guard.resolve ⟨"/srv/out/demo"⟩ ⟨"../../out/./b.txt"⟩ = .ok ⟨["srv", "out", "b.txt"]⟩ ∧
      guard.resolve (AbsPath.mk ["srv", "out", "b.txt"]).toPath ⟨""⟩ =
        .ok ⟨["srv", "out", "b.txt"]⟩ ∧
      ∀ place, guard.resolve ⟨"/srv/outside"⟩ ⟨"b.txt"⟩ ≠ .ok place := by
  intro guard
  have hguard : make (AbsPath.root.follow ⟨"/work"⟩) ⟨"/srv/out"⟩ = .ok guard :=
    make_eq_ok_iff.mpr ⟨by decide, by decide⟩
  obtain ⟨-, -, haccepts, hagain, -⟩ :=
    resolve_accepts_iff hguard ⟨"/srv/out/demo"⟩ ⟨"../../out/./b.txt"⟩
  have hplace := (haccepts ⟨["srv", "out", "b.txt"]⟩).mpr
    ⟨by decide, ["srv", "out"], ["srv", "out", "demo"], Path.simplifiesTo_iff.mpr (by decide),
      Path.simplifiesTo_iff.mpr (by decide), Path.simplifiesTo_iff.mpr (by decide), ⟨["demo"], rfl⟩,
      ⟨["b.txt"], rfl⟩⟩
  obtain ⟨-, -, -, -, hplaceAgain, -⟩ := hagain _ hplace
  refine ⟨hguard, hplace, hplaceAgain, fun place hother => ?_⟩
  obtain ⟨-, -, hrefuses, -⟩ := resolve_accepts_iff hguard ⟨"/srv/outside"⟩ ⟨"b.txt"⟩
  obtain ⟨-, top, inner, htop, hinner, -, hprefix, -⟩ := (hrefuses place).mp hother
  rw [Path.simplifiesTo_iff] at htop hinner
  rw [htop, hinner] at hprefix
  revert hprefix
  decide

end Guard

end SchemaScaffold
