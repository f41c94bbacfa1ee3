import Mathlib.Tactic.Ring
import Mathlib.Tactic.SplitIfs
import SchemaScaffold.Disk.Names
import SchemaScaffold.Proofs.Names

/-!
# Names and texts

The bytes of a text are read back as the text, and a name is the one of the text that it is shown as
just if it is the name of any text. A character below 0x80 is read from its own byte and from no
other, so that slashes stand in a text where they stand in the bytes.
-/

namespace SchemaScaffold

namespace Text

theorem decodeFrom_cons (begun : Option Begun) (byte : UInt8) (rest : List UInt8) :
    decodeFrom begun (byte :: rest) = (decodeNext begun byte.toNat).1 ++
      decodeFrom (decodeNext begun byte.toNat).2 rest := by
  cases begun <;> rfl

section

variable {number low high more byte : Nat}

theorem decodeNext_more (hlow : low ≤ byte) (hhigh : byte ≤ high) :
    decodeNext (some ⟨number, low, high, more + 1⟩) byte =
      ([], some ⟨64 * number + (byte - 0x80), 0x80, 0xBF, more⟩) := by
  rw [decodeNext, if_pos ⟨hlow, hhigh⟩]

theorem decodeNext_last (hlow : low ≤ byte) (hhigh : byte ≤ high) :
    decodeNext (some ⟨number, low, high, 0⟩) byte =
      ([Char.ofNat (64 * number + (byte - 0x80))], none) := by
  rw [decodeNext, if_pos ⟨hlow, hhigh⟩]

theorem decodeNext_broken (h : ¬(low ≤ byte ∧ byte ≤ high)) :
    decodeNext (some ⟨number, low, high, more⟩) byte =
      (replacement :: (decodeLead byte).1, (decodeLead byte).2) := by
  rw [decodeNext, if_neg h]

theorem toNat_ofNat_byte (hbyte : byte < 256) : (UInt8.ofNat byte).toNat = byte := by
  rw [UInt8.toNat_ofNat', Nat.mod_eq_of_lt hbyte]

theorem decodeFrom_lead {begun : Begun} (hlead : 0x80 ≤ byte) (hbyte : byte < 256)
    (hbegun : Begun.ofLead? byte = some begun) (rest : List UInt8) :
    decodeFrom none (UInt8.ofNat byte :: rest) = decodeFrom (some begun) rest := by
  rw [decodeFrom_cons, toNat_ofNat_byte hbyte, decodeNext, decodeLead, if_neg (by omega), hbegun]
  rfl

theorem decodeFrom_more (hlow : low ≤ byte) (hhigh : byte ≤ high) (hbyte : byte < 256)
    (rest : List UInt8) :
    decodeFrom (some ⟨number, low, high, more + 1⟩) (UInt8.ofNat byte :: rest) =
      decodeFrom (some ⟨64 * number + (byte - 0x80), 0x80, 0xBF, more⟩) rest := by
  rw [decodeFrom_cons, toNat_ofNat_byte hbyte, decodeNext_more hlow hhigh, List.nil_append]

theorem decodeFrom_last (hlow : low ≤ byte) (hhigh : byte ≤ high) (hbyte : byte < 256)
    (rest : List UInt8) :
    decodeFrom (some ⟨number, low, high, 0⟩) (UInt8.ofNat byte :: rest) =
      Char.ofNat (64 * number + (byte - 0x80)) :: decodeFrom none rest := by
  rw [decodeFrom_cons, toNat_ofNat_byte hbyte, decodeNext_last hlow hhigh, List.singleton_append]

end

/-- The lead byte of a number with three bytes admits the byte that follows it. -/
theorem exists_ofLead?_three {v : Nat} (hlow : 0x800 ≤ v) (hhigh : v ≤ 0xFFFF)
    (hvalid : v < 0xD800 ∨ 0xDFFF < v) : ∃ low high,
      Begun.ofLead? (v / 4096 + 224) = some ⟨v / 4096, low, high, 1⟩ ∧
        low ≤ v / 64 % 64 + 128 ∧ v / 64 % 64 + 128 ≤ high := by
  by_cases hzero : v / 4096 = 0
  · exact ⟨0xA0, 0xBF, by rw [hzero]; rfl, by omega, by omega⟩
  · by_cases hsurrogate : v / 4096 = 13
    · exact ⟨0x80, 0x9F, by rw [hsurrogate]; rfl, by omega, by omega⟩
    · refine ⟨0x80, 0xBF, ?_, by omega, by omega⟩
      rw [Begun.ofLead?, if_neg (by omega), if_neg (by omega), if_neg (by omega),
        if_pos (by omega), Nat.add_sub_cancel]

/-- The lead byte of a number with four bytes admits the byte that follows it. -/
theorem exists_ofLead?_four {v : Nat} (hlow : 0xFFFF < v) (hhigh : v < 0x110000) : ∃ low high,
    Begun.ofLead? (v / 262144 + 240) = some ⟨v / 262144, low, high, 2⟩ ∧
      low ≤ v / 4096 % 64 + 128 ∧ v / 4096 % 64 + 128 ≤ high := by
  by_cases hzero : v / 262144 = 0
  · exact ⟨0x90, 0xBF, by rw [hzero]; rfl, by omega, by omega⟩
  · by_cases hlast : v / 262144 = 4
    · exact ⟨0x80, 0x8F, by rw [hlast]; rfl, by omega, by omega⟩
    · refine ⟨0x80, 0xBF, ?_, by omega, by omega⟩
      rw [Begun.ofLead?, if_neg (by omega), if_neg (by omega), if_neg (by omega),
        if_neg (by omega), if_neg (by omega), if_pos (by omega), Nat.add_sub_cancel]

theorem decodeFrom_utf8EncodeChar (c : Char) (rest : List UInt8) :
    decodeFrom none (String.utf8EncodeChar c ++ rest) = c :: decodeFrom none rest := by
  have hchar : Char.ofNat c.val.toNat = c := Char.ofNat_toNat c
  have hvalid : c.val.toNat < 0xD800 ∨ 0xDFFF < c.val.toNat ∧ c.val.toNat < 0x110000 := by
    have hvalid := c.valid
    simp only [UInt32.isValidChar, Nat.isValidChar] at hvalid
    omega
  simp only [String.utf8EncodeChar]
  generalize c.val.toNat = v at hchar hvalid ⊢
  split_ifs with hone htwo hthree
  · rw [List.singleton_append, decodeFrom_cons, decodeNext, decodeLead]
    rw [show v.toUInt8.toNat = v from toNat_ofNat_byte (by omega), if_pos (by omega), hchar]
    rfl
  · have hbegun : Begun.ofLead? (v / 64 % 32 + 192) = some ⟨v / 64, 0x80, 0xBF, 0⟩ := by
      rw [Begun.ofLead?, if_pos (by omega), Nat.add_sub_cancel, Nat.mod_eq_of_lt (by omega)]
    rw [List.cons_append, List.singleton_append]
    refine (decodeFrom_lead (by omega) (by omega) hbegun _).trans ?_
    refine (decodeFrom_last (by omega) (by omega) (by omega) _).trans ?_
    rw [show 64 * (v / 64) + (v % 64 + 128 - 0x80) = v by omega, hchar]
  · obtain ⟨low, high, hbegun, hlow, hhigh⟩ :=
      exists_ofLead?_three (v := v) (by omega) hthree (by omega)
    rw [show v / 4096 + 224 = v / 4096 % 16 + 224 by omega] at hbegun
    rw [List.cons_append, List.cons_append, List.singleton_append]
    refine (decodeFrom_lead (by omega) (by omega) hbegun _).trans ?_
    refine (decodeFrom_more hlow hhigh (by omega) _).trans ?_
    refine (decodeFrom_last (by omega) (by omega) (by omega) _).trans ?_
    rw [show 64 * (64 * (v / 4096) + (v / 64 % 64 + 128 - 0x80)) + (v % 64 + 128 - 0x80) = v by
      omega, hchar]
  · obtain ⟨low, high, hbegun, hlow, hhigh⟩ := exists_ofLead?_four (v := v) (by omega) (by omega)
    rw [show v / 262144 + 240 = v / 262144 % 8 + 240 by omega] at hbegun
    rw [List.cons_append, List.cons_append, List.cons_append, List.singleton_append]
    refine (decodeFrom_lead (by omega) (by omega) hbegun _).trans ?_
    refine (decodeFrom_more hlow hhigh (by omega) _).trans ?_
    refine (decodeFrom_more (by omega) (by omega) (by omega) _).trans ?_
    refine (decodeFrom_last (by omega) (by omega) (by omega) _).trans ?_
    rw [show 64 * (64 * (64 * (v / 262144) + (v / 4096 % 64 + 128 - 0x80)) +
        (v / 64 % 64 + 128 - 0x80)) + (v % 64 + 128 - 0x80) = v by omega, hchar]

theorem decodeFrom_flatMap_utf8EncodeChar (chars : List Char) :
    decodeFrom none (chars.flatMap String.utf8EncodeChar) = chars := by
  induction chars with
  | nil => rfl
  | cons c rest ih => rw [List.flatMap_cons, decodeFrom_utf8EncodeChar, ih]

/-! ### Characters below 0x80 -/

/-- Whether no number below 0x80 can come of what has begun. -/
def Begun.IsWide (begun : Begun) : Prop :=
  0x80 ≤ (64 * begun.number + (begun.low - 0x80)) * 64 ^ begun.more

theorem Begun.isWide_of_ofLead? {byte : Nat} {begun : Begun} (h : ofLead? byte = some begun) :
    begun.IsWide := by
  unfold ofLead? at h
  split_ifs at h <;> obtain rfl := Option.some.inj h <;> simp only [IsWide] <;> omega

theorem decodeLead_of_mem (byte : Nat) : (∀ c ∈ (decodeLead byte).1, c.toNat < 0x80 →
    c.toNat = byte) ∧ ∀ begun ∈ (decodeLead byte).2, begun.IsWide := by
  unfold decodeLead
  split
  case isTrue hsmall =>
    refine ⟨fun c hc _ => ?_, by simp⟩
    obtain rfl := List.mem_singleton.mp hc
    exact toNat_ofNat (by left; omega)
  case isFalse =>
    cases hbegun : Begun.ofLead? byte with
    | none =>
        refine ⟨fun c hc hsmall => ?_, by simp⟩
        obtain rfl := List.mem_singleton.mp hc
        exact absurd hsmall (by decide)
    | some begun =>
        refine ⟨by simp, fun other hother => ?_⟩
        obtain rfl := Option.mem_some.mp hother
        exact Begun.isWide_of_ofLead? hbegun

/-- A byte ends no character below 0x80 but the one that it is, or the one of the number 0 that stands
for what is no number of a character. -/
theorem decodeNext_of_mem {started : Option Begun} (hstarted : ∀ begun ∈ started, begun.IsWide)
    (byte : Nat) : (∀ c ∈ (decodeNext started byte).1, c.toNat < 0x80 →
      c.toNat = byte ∨ c.toNat = 0) ∧ ∀ begun ∈ (decodeNext started byte).2, begun.IsWide := by
  have hlead := decodeLead_of_mem byte
  cases started with
  | none => exact ⟨fun c hc hsmall => .inl (hlead.1 c hc hsmall), hlead.2⟩
  | some begun =>
      obtain ⟨number, low, high, more⟩ := begun
      have hwide := hstarted _ rfl
      rw [Begun.IsWide] at hwide
      dsimp only at hwide
      by_cases hbyte : low ≤ byte ∧ byte ≤ high
      · cases more with
        | zero =>
            rw [decodeNext_last hbyte.1 hbyte.2]
            rw [pow_zero, mul_one] at hwide
            -- A number this large is that of no small character, but it may be no number of any.
            refine ⟨fun c hc hsmall => .inr ?_, by simp⟩
            rw [List.mem_singleton] at hc
            by_cases hvalid : (64 * number + (byte - 0x80)).isValidChar
            · rw [hc, toNat_ofNat hvalid] at hsmall
              omega
            · rw [hc, Char.ofNat, dif_neg hvalid]
              rfl
        | succ more =>
            rw [decodeNext_more hbyte.1 hbyte.2]
            refine ⟨by simp, fun next hnext => ?_⟩
            rw [← Option.mem_some.mp hnext, Begun.IsWide]
            calc 0x80 ≤ (64 * number + (low - 0x80)) * 64 ^ (more + 1) := hwide
              _ ≤ (64 * number + (byte - 0x80)) * 64 ^ (more + 1) :=
                Nat.mul_le_mul_right _ (by omega)
              _ = (64 * (64 * number + (byte - 0x80)) + (0x80 - 0x80)) * 64 ^ more := by
                rw [Nat.sub_self]
                ring
      · rw [decodeNext_broken hbyte]
        refine ⟨fun c hc hsmall => ?_, hlead.2⟩
        rcases List.mem_cons.mp hc with rfl | hc
        · exact absurd hsmall (by decide)
        · exact .inl (hlead.1 c hc hsmall)

theorem exists_byte_of_mem_decodeFrom {c : Char} (hpos : 0 < c.toNat) (hsmall : c.toNat < 0x80)
    {bytes : List UInt8} {started : Option Begun} (hstarted : ∀ begun ∈ started, begun.IsWide)
    (hc : c ∈ decodeFrom started bytes) : ∃ byte ∈ bytes, byte.toNat = c.toNat := by
  induction bytes generalizing started with
  | nil =>
      cases started with
      | none => cases hc
      | some begun =>
          obtain rfl := List.mem_singleton.mp hc
          exact absurd hsmall (by decide)
  | cons byte rest ih =>
      obtain ⟨hchars, hnext⟩ := decodeNext_of_mem hstarted byte.toNat
      rw [decodeFrom_cons] at hc
      rcases List.mem_append.mp hc with hc | hc
      · rcases hchars c hc hsmall with hbyte | hzero
        · exact ⟨byte, List.mem_cons_self, hbyte.symm⟩
        · omega
      · obtain ⟨other, hother, hsame⟩ := ih hnext hc
        exact ⟨other, List.mem_cons_of_mem _ hother, hsame⟩

/-- A byte below 0x80 in a text stands for a character of its own. -/
theorem toNat_of_mem_utf8EncodeChar {c : Char} {byte : UInt8} (hbyte : byte ∈ String.utf8EncodeChar c)
    (hsmall : byte.toNat < 0x80) : c.toNat = byte.toNat := by
  change c.val.toNat = byte.toNat
  simp only [String.utf8EncodeChar] at hbyte
  generalize c.val.toNat = v at hbyte ⊢
  split_ifs at hbyte <;> simp only [List.mem_cons, List.not_mem_nil, or_false] at hbyte <;>
    rcases hbyte with rfl | rfl | rfl | rfl <;>
    simp only [UInt8.toNat_ofNat'] at hsmall ⊢ <;> omega

end Text

namespace DiskName

variable {name : DiskName} {names : List DiskName} {text : String}

theorem bytes_ofText (text : String) :
    (ofText text).bytes = text.toList.flatMap String.utf8EncodeChar := by
  rw [ofText, String.toUTF8, ← String.utf8Encode_toList, List.utf8Encode]
  exact List.toList_data_toByteArray

@[simp]
theorem text_ofText (text : String) : (ofText text).text = text := by
  rw [DiskName.text, Text.decode, bytes_ofText, Text.decodeFrom_flatMap_utf8EncodeChar,
    String.ofList_toList]

def IsText (name : DiskName) : Prop := ∃ text, name = ofText text

theorem ofText_text_iff : ofText name.text = name ↔ name.IsText := by
  constructor
  · exact fun h => ⟨_, h.symm⟩
  · rintro ⟨text, rfl⟩
    rw [text_ofText]

/-! ### Slashes -/

def slash : UInt8 := 0x2F

theorem slash_mem_bytes_ofText_iff : slash ∈ (ofText text).bytes ↔ '/' ∈ text.toList := by
  rw [bytes_ofText, List.mem_flatMap]
  constructor
  · rintro ⟨c, hc, hbyte⟩
    have hcode := Text.toNat_of_mem_utf8EncodeChar hbyte (by decide)
    obtain rfl : c = '/' := Char.toNat_inj.mp hcode
    exact hc
  · exact fun hslash => ⟨'/', hslash, by decide⟩

theorem slash_mem_bytes_of_mem_text (h : '/' ∈ name.text.toList) : slash ∈ name.bytes := by
  rw [DiskName.text, Text.decode, String.toList_ofList] at h
  obtain ⟨byte, hbyte, hcode⟩ :=
    Text.exists_byte_of_mem_decodeFrom (by decide) (by decide) (by simp) h
  rwa [show byte = slash from UInt8.toNat_inj.mp hcode] at hbyte

/-- The name of a path: the names on it with slashes between them. -/
def joined (names : List DiskName) : DiskName := ⟨[slash].intercalate (names.map (·.bytes))⟩

theorem ofText_intercalate (texts : List String) :
    ofText ("/".intercalate texts) = joined (texts.map ofText) := by
  have hslash : String.utf8EncodeChar '/' = [slash] := by decide
  have hbytes : (ofText ("/".intercalate texts)).bytes = (joined (texts.map ofText)).bytes := by
    rw [bytes_ofText, String.toList_intercalate, joined]
    change (['/'].intercalate (texts.map String.toList)).flatMap _ = _
    induction texts with
    | nil => rfl
    | cons first rest ih =>
        cases rest with
        | nil => simp [bytes_ofText]
        | cons second others =>
            simp only [List.map_cons] at ih ⊢
            rw [List.intercalate_cons_cons, List.intercalate_cons_cons, List.flatMap_append,
              List.flatMap_append, ih, List.flatMap_singleton, hslash, ← bytes_ofText]
  exact DiskName.mk.injEq _ _ ▸ hbytes

theorem joined_inj {others : List DiskName} (hnames : ∀ name ∈ names, slash ∉ name.bytes)
    (hothers : ∀ name ∈ others, slash ∉ name.bytes) (hne : names ≠ []) (hne' : others ≠ []) :
    joined names = joined others ↔ names = others := by
  refine ⟨fun h => ?_, congrArg joined⟩
  have hparts := congrArg (fun name => name.bytes.splitOn slash) h
  simp only [joined] at hparts
  rw [List.splitOn_intercalate _ (List.forall_mem_map.mpr hnames) (by simpa using hne),
    List.splitOn_intercalate _ (List.forall_mem_map.mpr hothers) (by simpa using hne')] at hparts
  exact List.map_injective_iff.mpr (fun a b hbytes => DiskName.ext hbytes) hparts

/-- The texts of some names make up the text of the path just if each of them is the name's own. -/
theorem ofText_intercalate_iff (hslash : ∀ name ∈ names, slash ∉ name.bytes) :
    ofText ("/".intercalate (names.map DiskName.text)) = joined names ↔
      ∀ name ∈ names, name.IsText := by
  have hall : names.map (ofText ∘ DiskName.text) = names ↔ ∀ name ∈ names, name.IsText := by
    conv_lhs => rhs; rw [← List.map_id names]
    rw [List.map_inj_left]
    exact forall₂_congr fun name _ => ofText_text_iff
  rw [ofText_intercalate, List.map_map, ← hall]
  by_cases hne : names = []
  · rw [hne]
    exact iff_of_true rfl rfl
  · refine joined_inj (List.forall_mem_map.mpr fun name hname => ?_) hslash (by simpa using hne) hne
    exact fun hmem => hslash name hname
      (slash_mem_bytes_of_mem_text (slash_mem_bytes_ofText_iff.mp hmem))

end DiskName

end SchemaScaffold
