import Mathlib.Data.List.Lex
import SchemaScaffold.Output.Archive

namespace SchemaScaffold

namespace Archive

def ByteBefore (a b : UInt8) : Prop := a.toNat < b.toNat

def NameBefore (a b : DiskName) : Prop := List.Lex ByteBefore a.bytes b.bytes

/-- Whether a path comes before another one, both compared name by name. -/
def PathBefore (names others : List DiskName) : Prop := List.Lex NameBefore names others

instance : Std.Asymm ByteBefore := ⟨fun _ _ => Nat.lt_asymm⟩

instance : Std.Trichotomous ByteBefore :=
  ⟨fun _ _ hab hba => UInt8.toNat_inj.mp (Nat.le_antisymm (Nat.not_lt.mp hba) (Nat.not_lt.mp hab))⟩

instance : IsOrderConnected UInt8 ByteBefore :=
  ⟨fun _ b _ h => (Nat.lt_or_ge _ b.toNat).imp_right fun hb => Nat.lt_of_le_of_lt hb h⟩

theorem nameBefore_iff {a b : DiskName} : nameBefore a b ↔ NameBefore a b := by
  rw [nameBefore, List.lex_eq_true_iff_lex]
  simp only [Nat.blt_eq]
  rfl

instance : Std.Asymm NameBefore := ⟨fun _ _ => Std.Asymm.asymm (r := List.Lex ByteBefore) _ _⟩

instance : Std.Trichotomous NameBefore :=
  ⟨fun _ _ hab hba => DiskName.ext
    (Std.Trichotomous.trichotomous (r := List.Lex ByteBefore) _ _ hab hba)⟩

instance : IsOrderConnected DiskName NameBefore :=
  ⟨fun a b c => (List.Lex.isOrderConnected ByteBefore).conn a.bytes b.bytes c.bytes⟩

instance : Std.Asymm PathBefore := List.Lex.asymm NameBefore

instance : Std.Trichotomous PathBefore := List.Lex.trichotomous NameBefore

instance : IsOrderConnected (List DiskName) PathBefore := List.Lex.isOrderConnected NameBefore

theorem lex_nameBefore_iff {names others : List DiskName} :
    names.lex others nameBefore ↔ PathBefore names others := by
  rw [List.lex_eq_true_iff_lex]
  simp only [nameBefore_iff]
  rfl

end Archive

end SchemaScaffold
