import Mathlib.Algebra.Group.Nat.Basic
import BanyanGuard.Trust

/-!
# UTF-8

`decodeRunes` is `utf8.DecodeRune` position after position; it inverts `[]byte(s)`.
-/

namespace BanyanGuard.Utf8

/-- `utf8.RuneError`. -/
def runeError : Char := Char.ofNat 0xFFFD

/-- The bounds of the byte after the lead byte `p0`: `acceptRanges[first[p0]>>4]`. -/
def acceptRange (p0 : Nat) : Nat × Nat :=
  if p0 = 0xE0 then (0xA0, 0xBF)
  else if p0 = 0xED then (0x80, 0x9F)
  else if p0 = 0xF0 then (0x90, 0xBF)
  else if p0 = 0xF4 then (0x80, 0x8F)
  else (0x80, 0xBF)

/-- A continuation byte: `locb ≤ b ≤ hicb`. -/
def isContinuation (b : Nat) : Bool := 0x80 ≤ b && b ≤ 0xBF

/-- `utf8.DecodeRune` at every position in turn.  The lead byte gives the length (`first`);
the masks and shifts of the rune are written as arithmetic on the byte values. -/
def decodeRunes : List UInt8 → List Char
  | [] => []
  | p0 :: rest =>
    if p0.toNat < 0x80 then Char.ofNat p0.toNat :: decodeRunes rest
    else if p0.toNat < 0xC2 ∨ 0xF4 < p0.toNat then runeError :: decodeRunes rest
    else match next1 : rest with
      | [] => runeError :: decodeRunes []
      | b1 :: rest1 =>
        if b1.toNat < (acceptRange p0.toNat).1 ∨ (acceptRange p0.toNat).2 < b1.toNat then
          runeError :: decodeRunes rest
        else if p0.toNat < 0xE0 then
          Char.ofNat (p0.toNat % 32 * 64 + b1.toNat % 64) :: decodeRunes rest1
        else match next2 : rest1 with
          | [] => runeError :: decodeRunes rest
          | b2 :: rest2 =>
            if !isContinuation b2.toNat then runeError :: decodeRunes rest
            else if p0.toNat < 0xF0 then
              Char.ofNat (p0.toNat % 16 * 4096 + b1.toNat % 64 * 64 + b2.toNat % 64) ::
                decodeRunes rest2
            else match next3 : rest2 with
              | [] => runeError :: decodeRunes rest
              | b3 :: rest3 =>
                if !isContinuation b3.toNat then runeError :: decodeRunes rest
                else
                  Char.ofNat (p0.toNat % 8 * 262144 + b1.toNat % 64 * 4096 +
                    b2.toNat % 64 * 64 + b3.toNat % 64) :: decodeRunes rest3
termination_by bytes => bytes.length
decreasing_by all_goals simp_all <;> omega

theorem toNat_toUInt8 (n : Nat) : n.toUInt8.toNat = n % 256 := BitVec.toNat_ofNat _ _

theorem toUInt8_toNat {n : Nat} (small : n < 256) : n.toUInt8.toNat = n := by
  rw [toNat_toUInt8, Nat.mod_eq_of_lt small]

theorem toNat_land (a b : UInt8) : (a &&& b).toNat = a.toNat &&& b.toNat := BitVec.toNat_and _ _

theorem toNat_lor (a b : UInt8) : (a ||| b).toNat = a.toNat ||| b.toNat := BitVec.toNat_or _ _

theorem mask_or (n k m : Nat) : n &&& (2 ^ k - 1) ||| 2 ^ k * m = 2 ^ k * m + n % 2 ^ k := by
  rw [Nat.and_pow_two_sub_one_eq_mod, Nat.or_comm,
    Nat.mul_add_lt_is_or (Nat.mod_lt _ (Nat.two_pow_pos k))]

theorem toNat_shiftRight (v : UInt32) (k : Nat) (small : k < 32) :
    (v >>> k.toUInt32).toNat = v.toNat / 2 ^ k := by
  show (v.toBitVec >>> (UInt32.mod k.toUInt32 32).toBitVec.toNat).toNat = _
  rw [BitVec.toNat_ushiftRight, Nat.shiftRight_eq_div_pow]
  congr
  show k % 2 ^ 32 % (32 % 2 ^ 32) = k
  simp only [Nat.reducePow, Nat.reduceMod]
  omega

theorem toNat_encodedByte (v : UInt32) (shift k m : Nat) (small : shift < 32)
    (tagged : 2 ^ k * m < 256) (fits : k ≤ 8) :
    ((v >>> shift.toUInt32).toUInt8 &&& (2 ^ k - 1).toUInt8 ||| (2 ^ k * m).toUInt8).toNat =
      2 ^ k * m + v.toNat / 2 ^ shift % 2 ^ k := by
  have maskSmall : 2 ^ k - 1 < 256 := by
    have : 2 ^ k ≤ 2 ^ 8 := Nat.pow_le_pow_right (by decide) fits
    omega
  rw [toNat_lor, toNat_land, toUInt8_toNat maskSmall, toUInt8_toNat tagged, mask_or,
    UInt32.toUInt8, toNat_toUInt8, toNat_shiftRight v shift small]
  have : 2 ^ k ∣ 256 := by
    rw [show 256 = 2 ^ k * 2 ^ (8 - k) by rw [← Nat.pow_add, Nat.add_sub_cancel' fits]]
    exact Nat.dvd_mul_right _ _
  rw [Nat.mod_mod_of_dvd _ this]

theorem toNat_lead2 (v : UInt32) :
    ((v >>> 6).toUInt8 &&& 0x1f ||| 0xc0).toNat = 0xC0 + v.toNat / 64 % 32 :=
  toNat_encodedByte v 6 5 6 (by decide) (by decide) (by decide)

theorem toNat_lead3 (v : UInt32) :
    ((v >>> 12).toUInt8 &&& 0x0f ||| 0xe0).toNat = 0xE0 + v.toNat / 4096 % 16 :=
  toNat_encodedByte v 12 4 14 (by decide) (by decide) (by decide)

theorem toNat_lead4 (v : UInt32) :
    ((v >>> 18).toUInt8 &&& 0x07 ||| 0xf0).toNat = 0xF0 + v.toNat / 262144 % 8 :=
  toNat_encodedByte v 18 3 30 (by decide) (by decide) (by decide)

theorem toNat_tail12 (v : UInt32) :
    ((v >>> 12).toUInt8 &&& 0x3f ||| 0x80).toNat = 0x80 + v.toNat / 4096 % 64 :=
  toNat_encodedByte v 12 6 2 (by decide) (by decide) (by decide)

theorem toNat_tail6 (v : UInt32) :
    ((v >>> 6).toUInt8 &&& 0x3f ||| 0x80).toNat = 0x80 + v.toNat / 64 % 64 :=
  toNat_encodedByte v 6 6 2 (by decide) (by decide) (by decide)

theorem toNat_last (v : UInt32) : (v.toUInt8 &&& 0x3f ||| 0x80).toNat = 0x80 + v.toNat % 64 := by
  simpa using toNat_encodedByte v 0 6 2 (by decide) (by decide) (by decide)

theorem decodeRunes_ascii {p0 : UInt8} (ascii : p0.toNat < 0x80) (rest : List UInt8) :
    decodeRunes (p0 :: rest) = Char.ofNat p0.toNat :: decodeRunes rest := by
  rw [decodeRunes.eq_def]
  exact if_pos ascii

theorem decodeRunes_two {p0 b1 : UInt8} (lead : 0xC2 ≤ p0.toNat ∧ p0.toNat < 0xE0)
    (tail : 0x80 ≤ b1.toNat ∧ b1.toNat ≤ 0xBF) (rest : List UInt8) :
    decodeRunes (p0 :: b1 :: rest) =
      Char.ofNat (p0.toNat % 32 * 64 + b1.toNat % 64) :: decodeRunes rest := by
  have range : acceptRange p0.toNat = (0x80, 0xBF) := by
    simp only [acceptRange]; split_ifs <;> first | rfl | omega
  rw [decodeRunes.eq_def]
  dsimp only
  rw [if_neg (by omega), if_neg (by omega), range, if_neg (by omega), if_pos lead.2]

theorem decodeRunes_three {p0 b1 b2 : UInt8} (lead : 0xE0 ≤ p0.toNat ∧ p0.toNat < 0xF0)
    (first : (acceptRange p0.toNat).1 ≤ b1.toNat ∧ b1.toNat ≤ (acceptRange p0.toNat).2)
    (tail : isContinuation b2.toNat) (rest : List UInt8) :
    decodeRunes (p0 :: b1 :: b2 :: rest) =
      Char.ofNat (p0.toNat % 16 * 4096 + b1.toNat % 64 * 64 + b2.toNat % 64) ::
        decodeRunes rest := by
  rw [decodeRunes.eq_def]
  dsimp only
  rw [if_neg (by omega), if_neg (by omega), if_neg (by omega), if_neg (by omega)]
  simp only [tail, Bool.not_true, Bool.false_eq_true, if_false]
  rw [if_pos lead.2]

theorem decodeRunes_four {p0 b1 b2 b3 : UInt8} (lead : 0xF0 ≤ p0.toNat ∧ p0.toNat ≤ 0xF4)
    (first : (acceptRange p0.toNat).1 ≤ b1.toNat ∧ b1.toNat ≤ (acceptRange p0.toNat).2)
    (second : isContinuation b2.toNat) (third : isContinuation b3.toNat) (rest : List UInt8) :
    decodeRunes (p0 :: b1 :: b2 :: b3 :: rest) =
      Char.ofNat (p0.toNat % 8 * 262144 + b1.toNat % 64 * 4096 + b2.toNat % 64 * 64 +
        b3.toNat % 64) :: decodeRunes rest := by
  rw [decodeRunes.eq_def]
  dsimp only
  rw [if_neg (by omega), if_neg (by omega), if_neg (by omega), if_neg (by omega)]
  simp only [second, third, Bool.not_true, Bool.false_eq_true, if_false]
  rw [if_neg (by omega)]

theorem decodeRunes_encoded2 {c : Char} (one : 0x7f < c.toNat) (two : c.toNat ≤ 0x7ff)
    (rest : List UInt8) :
    decodeRunes (((c.val >>> 6).toUInt8 &&& 0x1f ||| 0xc0) :: (c.val.toUInt8 &&& 0x3f ||| 0x80) ::
      rest) = c :: decodeRunes rest := by
  have lead : _ = 0xC0 + c.toNat / 64 % 32 := toNat_lead2 c.val
  have last : _ = 0x80 + c.toNat % 64 := toNat_last c.val
  conv_rhs => rw [← Char.ofNat_toNat c]
  rw [decodeRunes_two (by omega) (by omega), lead, last]
  congr 2
  omega

theorem decodeRunes_encoded3 {c : Char} (two : 0x7ff < c.toNat) (three : c.toNat ≤ 0xffff)
    (rest : List UInt8) :
    decodeRunes (((c.val >>> 12).toUInt8 &&& 0x0f ||| 0xe0) ::
      ((c.val >>> 6).toUInt8 &&& 0x3f ||| 0x80) :: (c.val.toUInt8 &&& 0x3f ||| 0x80) :: rest) =
      c :: decodeRunes rest := by
  have valid : c.toNat < 0xD800 ∨ 0xDFFF < c.toNat ∧ c.toNat < 0x110000 := c.valid
  have lead : _ = 0xE0 + c.toNat / 4096 % 16 := toNat_lead3 c.val
  have middle : _ = 0x80 + c.toNat / 64 % 64 := toNat_tail6 c.val
  have last : _ = 0x80 + c.toNat % 64 := toNat_last c.val
  have first : (acceptRange (0xE0 + c.toNat / 4096 % 16)).1 ≤ 0x80 + c.toNat / 64 % 64 ∧
      0x80 + c.toNat / 64 % 64 ≤ (acceptRange (0xE0 + c.toNat / 4096 % 16)).2 := by
    simp only [acceptRange]; split_ifs <;> omega
  conv_rhs => rw [← Char.ofNat_toNat c]
  rw [decodeRunes_three (by omega) (by rw [lead, middle]; exact first)
    (by simp [isContinuation, last]; omega), lead, middle, last]
  congr 2
  omega

theorem decodeRunes_encoded4 {c : Char} (three : 0xffff < c.toNat) (rest : List UInt8) :
    decodeRunes (((c.val >>> 18).toUInt8 &&& 0x07 ||| 0xf0) ::
      ((c.val >>> 12).toUInt8 &&& 0x3f ||| 0x80) :: ((c.val >>> 6).toUInt8 &&& 0x3f ||| 0x80) ::
      (c.val.toUInt8 &&& 0x3f ||| 0x80) :: rest) = c :: decodeRunes rest := by
  have valid : c.toNat < 0xD800 ∨ 0xDFFF < c.toNat ∧ c.toNat < 0x110000 := c.valid
  have lead : _ = 0xF0 + c.toNat / 262144 % 8 := toNat_lead4 c.val
  have second : _ = 0x80 + c.toNat / 4096 % 64 := toNat_tail12 c.val
  have third : _ = 0x80 + c.toNat / 64 % 64 := toNat_tail6 c.val
  have last : _ = 0x80 + c.toNat % 64 := toNat_last c.val
  have first : (acceptRange (0xF0 + c.toNat / 262144 % 8)).1 ≤ 0x80 + c.toNat / 4096 % 64 ∧
      0x80 + c.toNat / 4096 % 64 ≤ (acceptRange (0xF0 + c.toNat / 262144 % 8)).2 := by
    simp only [acceptRange]; split_ifs <;> omega
  conv_rhs => rw [← Char.ofNat_toNat c]
  rw [decodeRunes_four (by omega) (by rw [lead, second]; exact first)
    (by simp [isContinuation, third]; omega) (by simp [isContinuation, last]; omega),
    lead, second, third, last]
  congr 2
  omega

theorem decodeRunes_utf8EncodeChar (c : Char) (rest : List UInt8) :
    decodeRunes (String.utf8EncodeChar c ++ rest) = c :: decodeRunes rest := by
  unfold String.utf8EncodeChar
  simp only [UInt32.le_def, BitVec.le_def]
  split
  · rename_i one
    have one : c.toNat ≤ 0x7f := one
    have byte : c.val.toUInt8.toNat = c.toNat := toUInt8_toNat (show c.toNat < 256 by omega)
    rw [List.singleton_append, decodeRunes_ascii (by omega), byte, Char.ofNat_toNat]
  split
  · rename_i one two
    have one : ¬c.toNat ≤ 0x7f := one
    exact decodeRunes_encoded2 (by omega) two rest
  split
  · rename_i two three
    have two : ¬c.toNat ≤ 0x7ff := two
    exact decodeRunes_encoded3 (by omega) three rest
  · rename_i three
    have three : ¬c.toNat ≤ 0xffff := three
    exact decodeRunes_encoded4 (by omega) rest

theorem decodeRunes_flatMap (runes : List Char) :
    decodeRunes (runes.flatMap String.utf8EncodeChar) = runes := by
  induction runes with
  | nil => simp [decodeRunes]
  | cons c rest inductionHypothesis =>
    rw [List.flatMap_cons, decodeRunes_utf8EncodeChar, inductionHypothesis]

theorem toList_loop (bs : ByteArray) (i : Nat) (r : List UInt8) :
    ByteArray.toList.loop bs i r = r.reverse ++ bs.data.toList.drop i := by
  rw [ByteArray.toList.loop]
  split
  · rename_i lt
    rw [toList_loop bs (i + 1), List.drop_eq_getElem_cons (show i < bs.data.toList.length from lt)]
    simp [ByteArray.get!, Array.get!, Array.getD, dif_pos (show i < bs.data.size from lt)]
  · rename_i ge
    simp [List.drop_eq_nil_of_le (show bs.data.toList.length ≤ i from Nat.le_of_not_lt ge)]
termination_by bs.size - i

theorem bytesOf_eq (s : String) : bytesOf s = s.data.flatMap String.utf8EncodeChar := by
  simp [bytesOf, String.toUTF8, ByteArray.toList, toList_loop]

theorem decodeRunes_bytesOf (s : String) : decodeRunes (bytesOf s) = s.data := by
  rw [bytesOf_eq, decodeRunes_flatMap]

@[simp] theorem bytesOf_inj {s t : String} : bytesOf s = bytesOf t ↔ s = t :=
  ⟨fun same => String.ext (by rw [← decodeRunes_bytesOf s, same, decodeRunes_bytesOf]),
    congrArg bytesOf⟩

end BanyanGuard.Utf8
