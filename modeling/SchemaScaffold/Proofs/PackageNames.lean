import SchemaScaffold.Project
import SchemaScaffold.Proofs.Layout
import SchemaScaffold.Proofs.Traversal
import SchemaScaffold.Validation

namespace SchemaScaffold

namespace Text

def blankCodes : List Nat :=
  [0x09, 0x0A, 0x0B, 0x0C, 0x0D, 0x20, 0x85, 0xA0, 0x1680, 0x2000, 0x2001, 0x2002, 0x2003, 0x2004,
    0x2005, 0x2006, 0x2007, 0x2008, 0x2009, 0x200A, 0x2028, 0x2029, 0x202F, 0x205F, 0x3000]

/-- What holds of all blank characters by evaluation holds of a blank character. -/
theorem forall_isBlank {p : Char → Prop} (h : ∀ n ∈ blankCodes, p (Char.ofNat n)) {c : Char}
    (hc : isBlank c) : p c := by
  have hcode : c.toNat ∈ blankCodes := by
    simp only [isBlank, Bool.or_eq_true, Bool.and_eq_true, decide_eq_true_eq, beq_iff_eq] at hc
    simp only [blankCodes, List.mem_cons, List.not_mem_nil, or_false]
    omega
  have hp := h c.toNat hcode
  rwa [Char.ofNat_toNat] at hp

theorem lowerChar_of_isBlank {c : Char} (h : isBlank c) : lowerChar c = [c] :=
  forall_isBlank (p := fun c => lowerChar c = [c]) (by decide) h

theorem mem_lowerFrom {c : Char} (hlower : lowerChar c = [c]) (hsigma : c ≠ capitalSigma)
    {chars : List Char} (hc : c ∈ chars) (before : List Char) : c ∈ lowerFrom before chars := by
  induction chars generalizing before with
  | nil => cases hc
  | cons d rest ih =>
      unfold lowerFrom
      rcases List.mem_cons.mp hc with rfl | hc
      · simp [hsigma, hlower]
      · split
        · exact List.mem_cons_of_mem _ (ih hc _)
        · exact List.mem_append_right _ (ih hc _)

theorem trimList_of_forall_not_isBlank {chars : List Char}
    (hchars : ∀ c ∈ chars, isBlank c = false) : trimList chars = chars :=
  trimList_eq_self_iff.mpr ⟨fun c hc => hchars c (List.mem_of_mem_head? hc),
    fun c hc => hchars c (List.mem_of_mem_getLast? hc)⟩

theorem trim_eq_self_iff {s : String} : trim s = s ↔ trimList s.toList = s.toList := by
  rw [trim, ← String.toList_inj, String.toList_ofList]

end Text

namespace Validation

theorem require_eq_ok_iff {condition : Bool} {cause : Invalid} {done : Unit} :
    require condition cause = .ok done ↔ condition = true := by
  cases condition <;> simp [require, Result.invalid]

theorem packageName_eq_ok_iff {name : String} :
    packageName name = .ok () ↔
      Text.isBlankText name = false ∧ isPackageName (Text.lower name).toList ∧
        name.length ≤ Limits.maxPackageNameLength := by
  simp [packageName, Traversal.bind_eq_ok_iff, require_eq_ok_iff]

def isPackageChar (c : Char) : Bool := isLowerAlphanumeric c || c == '_' || c == '.'

theorem isPackageChar_of_isPackageName {chars : List Char} (h : isPackageName chars) {c : Char}
    (hc : c ∈ chars) : isPackageChar c := by
  rcases Text.mem_fields '.' hc with rfl | ⟨field, hfield, hc⟩
  · decide
  · have hsegment := List.all_eq_true.mp h field hfield
    have hlower : isLowerAlphanumeric c || c == '_' := by
      cases field with
      | nil => cases hc
      | cons first rest =>
          simp only [isPackageSegment, Bool.and_eq_true] at hsegment
          rcases List.mem_cons.mp hc with rfl | hc
          · simp [isLowerAlphanumeric, hsegment.1]
          · exact List.all_eq_true.mp hsegment.2 c hc
    rw [isPackageChar, hlower, Bool.true_or]

/-- Of the characters that are their own small letters, a checked package name holds only these. -/
theorem isPackageChar_of_packageName {name : String} (h : packageName name = .ok ()) {c : Char}
    (hlower : Text.lowerChar c = [c]) (hsigma : c ≠ Text.capitalSigma) (hc : c ∈ name.toList) :
    isPackageChar c := by
  refine isPackageChar_of_isPackageName (packageName_eq_ok_iff.mp h).2.1 ?_
  rw [Text.lower, String.toList_ofList]
  exact Text.mem_lowerFrom hlower hsigma hc []

theorem not_isBlank_of_packageName {name : String} (h : packageName name = .ok ()) {c : Char}
    (hc : c ∈ name.toList) : Text.isBlank c = false := by
  rw [← Bool.not_eq_true]
  intro hblank
  obtain ⟨hsigma, hother⟩ := Text.forall_isBlank
    (p := fun c => c ≠ Text.capitalSigma ∧ isPackageChar c = false) (by decide) hblank
  rw [isPackageChar_of_packageName h (Text.lowerChar_of_isBlank hblank) hsigma hc] at hother
  cases hother

theorem trim_of_packageName {name : String} (h : packageName name = .ok ()) :
    Text.trim name = name :=
  Text.trim_eq_self_iff.mpr
    (Text.trimList_of_forall_not_isBlank fun _ => not_isBlank_of_packageName h)

/-- A checked package name holds no ASCII characters other than letters, digits, `_` and `.`. -/
theorem isNameChar_of_packageName {name : String} (h : packageName name = .ok ()) {c : Char}
    (hc : c ∈ name.toList) : Text.isNameChar c ∨ c = '_' ∨ c = '.' := by
  by_cases hascii : c.toNat < 0x80
  · have hcases := Text.forall_ascii (p := fun c => (Text.isNameChar c ∨ c = '_' ∨ c = '.') ∨
      Text.lowerChar c = [c] ∧ c ≠ Text.capitalSigma ∧ isPackageChar c = false)
      (by decide) hascii
    refine hcases.resolve_right ?_
    rintro ⟨hlower, hsigma, hother⟩
    rw [isPackageChar_of_packageName h hlower hsigma hc] at hother
    cases hother
  · left
    simp only [Text.isNameChar, Bool.or_eq_true, decide_eq_true_eq]
    left
    omega

theorem packageName_ne_empty {name : String} (h : packageName name = .ok ()) : name ≠ "" := by
  rintro rfl
  have hform := (packageName_eq_ok_iff.mp h).2.1
  revert hform
  decide

end Validation

namespace Layout

def sourceDirectory (packageName : String) : Path := directory packageName (.package "")

def subpackage (path : String) : String :=
  if path.isEmpty then ""
  else "." ++ String.ofList (path.toList.map fun c => if c == '/' then '.' else c)

def isPlaceChar (c : Char) : Bool := !Text.isBlank c && c != '.'

theorem directory_base (packageName : String) :
    directory packageName (.package "") =
      (Path.mk sourceRoot).join ⟨Naming.packageDirectory packageName⟩ := by
  simp [directory]

theorem toList_packageDirectory {packageName : String}
    (hpackage : ∀ c ∈ packageName.toList, Text.isBlank c = false) :
    (Naming.packageDirectory packageName).toList =
      packageName.toList.map fun c => if c == '.' then '/' else c := by
  rw [Naming.packageDirectory, String.toList_ofList, Text.trimList_of_forall_not_isBlank hpackage]

theorem packageDirectory_subpackage {packageName path : String}
    (hpackage : ∀ c ∈ packageName.toList, Text.isBlank c = false) (hne : path ≠ "")
    (hpath : path.toList.all isPlaceChar) :
    Naming.packageDirectory (packageName ++ subpackage path) =
      Naming.packageDirectory packageName ++ "/" ++ path := by
  have hempty : path.isEmpty = false := by simpa using hne
  have hback : (path.toList.map fun c => if c == '/' then '.' else c).map
      (fun c => if c == '.' then '/' else c) = path.toList := by
    rw [List.map_map]
    refine (List.map_congr_left fun c hc => ?_).trans (List.map_id _)
    have hdot := List.all_eq_true.mp hpath c hc
    simp only [isPlaceChar, Bool.and_eq_true, bne_iff_ne] at hdot
    by_cases hslash : c = '/' <;> simp [hslash, hdot.2]
  have hchars : (packageName ++ subpackage path).toList = packageName.toList ++
      '.' :: path.toList.map fun c => if c == '/' then '.' else c := by
    simp [subpackage, hempty]
  have hblank : ∀ c ∈ (packageName ++ subpackage path).toList, Text.isBlank c = false := by
    intro c hc
    rw [hchars, List.mem_append, List.mem_cons] at hc
    rcases hc with hc | rfl | hc
    · exact hpackage c hc
    · decide
    · obtain ⟨d, hd, rfl⟩ := List.mem_map.mp hc
      have hplace := List.all_eq_true.mp hpath d hd
      simp only [isPlaceChar, Bool.and_eq_true, Bool.not_eq_true'] at hplace
      split
      · decide
      · exact hplace.1
  apply String.toList_inj.mp
  rw [toList_packageDirectory hblank, hchars, List.map_append, List.map_cons, hback,
    String.toList_append, String.toList_append, toList_packageDirectory hpackage]
  simp

/-- The sources of a package below the base package stand at the place of that name. -/
theorem components_sourceDirectory {packageName path : String}
    (hpackage : Validation.packageName packageName = .ok ()) (hpath : path.toList.all isPlaceChar)
    (habsolute : (Path.mk path).isAbsolute = false) :
    (sourceDirectory (packageName ++ subpackage path)).components =
      (directory packageName (.package path)).components := by
  by_cases hempty : path = ""
  · simp [hempty, sourceDirectory, subpackage]
  · have hblank := fun c => Validation.not_isBlank_of_packageName hpackage (c := c)
    have hne : Naming.packageDirectory packageName ≠ "" := by
      rw [ne_eq, ← String.toList_eq_nil_iff, toList_packageDirectory hblank, List.map_eq_nil_iff,
        String.toList_eq_nil_iff]
      exact Validation.packageName_ne_empty hpackage
    rw [directory_package packageName hempty, sourceDirectory, directory_base, directory_base,
      packageDirectory_subpackage hblank hempty hpath]
    exact Path.components_join_slash hne habsolute

/-- The packages of roles are among the places that keep packages and directories together. -/
theorem isPlace_home {stack : Stack} {role : Role} {path : String}
    (h : home stack role = .package path) :
    path.toList.all isPlaceChar ∧ (Path.mk path).isAbsolute = false ∧
      '\n' ∉ (subpackage path).toList := by
  unfold home at h
  split at h <;> (try split at h) <;> cases h <;> exact ⟨by decide, by decide, by decide⟩

end Layout

def shop : Project where
  name := "shop"
  packageName := "com.acme.shop"
  outputRoot := ⟨"out"⟩
  stack := {}

theorem packageName_shop : Validation.packageName shop.packageName = .ok () := by
  rw [Validation.packageName_eq_ok_iff, Text.isBlankText_eq]
  decide

end SchemaScaffold
