/-
# SomeServer.Discovery.Base64 — what the two ends of the etcd gateway make of bytes

The JSON gateway of etcd takes and gives keys and values in Base64. `Base64Encode` works in blocks of three
bytes, with two cases for what is left at the end; `Base64Decode` collects six bits with each character and
hands out a byte whenever there are eight. The decoder's accumulator is an `int` that is never masked: on longer
inputs its upper bits are shifted out. What is handed out depends on its lowest twelve bits only, and these are
the bits of the last two characters, whatever it holds above them (`decodeLoop_base64Encode`).
-/
import Mathlib.Algebra.Group.Int.Defs
import Mathlib.Algebra.Group.Nat.Defs

namespace SomeServer

/-- `kAlphabet`, as ASCII. -/
def kAlphabet : List UInt8 :=
  "ABCDEFGHIJKLMNOPQRSTUVWXYZabcdefghijklmnopqrstuvwxyz0123456789+/".toList.map fun c => UInt8.ofNat c.toNat

/-- `kAlphabet[index]`. -/
def letter (index : Nat) : UInt8 := kAlphabet.getD index 0

/-- `'='`. -/
def paddingChar : UInt8 := 61

/-- `Base64Encode`: the loop over the blocks of three bytes, and the two cases of what remains. -/
def base64Encode : List UInt8 → List UInt8
  | a :: b :: c :: value =>
      letter ((a.toNat >>> 2) &&& 0x3F) ::
      letter (((a.toNat &&& 0x03) <<< 4) ||| ((b.toNat >>> 4) &&& 0x0F)) ::
      letter (((b.toNat &&& 0x0F) <<< 2) ||| ((c.toNat >>> 6) &&& 0x03)) ::
      letter (c.toNat &&& 0x3F) :: base64Encode value
  | [a] =>
      [letter ((a.toNat >>> 2) &&& 0x3F), letter ((a.toNat &&& 0x03) <<< 4), paddingChar, paddingChar]
  | [a, b] =>
      [letter ((a.toNat >>> 2) &&& 0x3F),
        letter (((a.toNat &&& 0x03) <<< 4) ||| ((b.toNat >>> 4) &&& 0x0F)),
        letter ((b.toNat &&& 0x0F) <<< 2), paddingChar]
  | [] => []

/-- `kDecodeTable[ch]`. -/
def kDecodeTable (ch : UInt8) : Int :=
  if 65 ≤ ch ∧ ch ≤ 90 then ch.toNat - 65
  else if 97 ≤ ch ∧ ch ≤ 122 then ch.toNat - 97 + 26
  else if 48 ≤ ch ∧ ch ≤ 57 then ch.toNat - 48 + 52
  else if ch = 43 then 62
  else if ch = 47 then 63
  else -1

/-- `val << 6` on a 32-bit `int`: the value modulo `2^32` that is one. -/
def shiftLeftSix (val : Int) : Int := (val * 64).bmod (2 ^ 32)

/-- The loop of `Base64Decode`: the bytes that are still pushed to `decoded`. -/
def decodeLoop : (val valb : Int) → List UInt8 → List UInt8
  | _, _, [] => []
  | val, valb, ch :: encoded =>
      if ch = paddingChar then []
      else if kDecodeTable ch = -1 then decodeLoop val valb encoded
      else
        let val := shiftLeftSix val + kDecodeTable ch
        let valb := valb + 6
        if 0 ≤ valb then
          -- `& 0xFF` and the cast to `char` leave the lowest byte
          UInt8.ofInt (val >>> valb.toNat) :: decodeLoop val (valb - 8) encoded
        else decodeLoop val valb encoded

/-- `detail::Base64Decode`. -/
def base64Decode (encoded : List UInt8) : List UInt8 := decodeLoop 0 (-8) encoded

attribute [local simp] base64Encode decodeLoop

/-! ## The bits -/

variable {val : Int} {encoded : List UInt8} {a b c : UInt8}

theorem letter_ne_padding {index : Nat} (h : index < 64) : letter index ≠ paddingChar := by
  revert index
  decide

theorem kDecodeTable_letter {index : Nat} (h : index < 64) : kDecodeTable (letter index) = index := by
  revert index
  decide +kernel

/-- The upper six bits of a byte. -/
theorem upperSix (a : UInt8) : (a.toNat >>> 2) &&& 0x3F = a.toNat / 4 := by
  have ha := a.toNat_lt
  rw [Nat.shiftRight_eq_div_pow]
  exact (Nat.and_two_pow_sub_one_eq_mod _ 6).trans (Nat.mod_eq_of_lt (by omega))

/-- The lower two bits of a byte, in the place of the upper two of six. -/
theorem lowerTwo (a : UInt8) : (a.toNat &&& 0x03) <<< 4 = a.toNat % 4 * 16 := by
  have hmask : a.toNat &&& 0x03 = a.toNat % 4 := Nat.and_two_pow_sub_one_eq_mod _ 2
  rw [hmask, Nat.shiftLeft_eq]

theorem lowerFour (b : UInt8) : (b.toNat &&& 0x0F) <<< 2 = b.toNat % 16 * 4 := by
  have hmask : b.toNat &&& 0x0F = b.toNat % 16 := Nat.and_two_pow_sub_one_eq_mod _ 4
  rw [hmask, Nat.shiftLeft_eq]

theorem lowerSix (c : UInt8) : c.toNat &&& 0x3F = c.toNat % 64 := Nat.and_two_pow_sub_one_eq_mod _ 6

/-- Two bits of one byte and four of the next. -/
theorem twoAndFour (a b : UInt8) :
    ((a.toNat &&& 0x03) <<< 4) ||| ((b.toNat >>> 4) &&& 0x0F) = a.toNat % 4 * 16 + b.toNat / 16 := by
  have hb := b.toNat_lt
  have hmask : (b.toNat >>> 4) &&& 0x0F = b.toNat / 16 := by
    rw [Nat.shiftRight_eq_div_pow]
    exact (Nat.and_two_pow_sub_one_eq_mod _ 4).trans (Nat.mod_eq_of_lt (by omega))
  rw [hmask, ← Nat.shiftLeft_add_eq_or_of_lt (by omega), lowerTwo]

/-- Four bits of one byte and two of the next. -/
theorem fourAndTwo (b c : UInt8) :
    ((b.toNat &&& 0x0F) <<< 2) ||| ((c.toNat >>> 6) &&& 0x03) = b.toNat % 16 * 4 + c.toNat / 64 := by
  have hc := c.toNat_lt
  have hmask : (c.toNat >>> 6) &&& 0x03 = c.toNat / 64 := by
    rw [Nat.shiftRight_eq_div_pow]
    exact (Nat.and_two_pow_sub_one_eq_mod _ 2).trans (Nat.mod_eq_of_lt (by omega))
  rw [hmask, ← Nat.shiftLeft_add_eq_or_of_lt (by omega), lowerFour]

/-! ## The accumulator -/

/-- A shift loses a multiple of `2^32`. -/
theorem shiftLeftSix_eq (val : Int) : ∃ lost : Int, shiftLeftSix val = val * 64 - 4294967296 * lost := by
  refine ⟨(val * 64).bdiv (2 ^ 32), ?_⟩
  have hsum : shiftLeftSix val + 4294967296 * (val * 64).bdiv (2 ^ 32) = val * 64 :=
    Int.bmod_add_bdiv (val * 64) (2 ^ 32)
  omega

/-- The addition that follows a shift stays within an `int`. -/
theorem shiftLeftSix_add {d : Int} (hd : 0 ≤ d) (hlt : d < 64) :
    -2147483648 ≤ shiftLeftSix val + d ∧ shiftLeftSix val + d < 2147483648 := by
  obtain ⟨lost, hlost⟩ := shiftLeftSix_eq val
  have hlow : -2147483648 ≤ shiftLeftSix val := Int.le_bmod (by decide)
  have hhigh : shiftLeftSix val < 2147483648 := Int.bmod_lt (by decide)
  omega

/-- A byte is read off the accumulator. -/
theorem ofInt_shiftRight {n : Nat} (h : val / 2 ^ n % 256 = a.toNat) : UInt8.ofInt (val >>> n) = a := by
  rw [Int.shiftRight_eq_div_pow]
  show UInt8.ofNat (val / 2 ^ n % 256).toNat = a
  rw [h, Int.toNat_natCast, UInt8.ofNat_toNat]

/-! ## The loop -/

/-- A character of the alphabet is six bits. -/
theorem decodeLoop_letter {index : Nat} (h : index < 64) (val valb : Int) :
    decodeLoop val valb (letter index :: encoded) =
      if 0 ≤ valb + 6 then UInt8.ofInt ((shiftLeftSix val + index) >>> (valb + 6).toNat) ::
        decodeLoop (shiftLeftSix val + index) (valb + 6 - 8) encoded
      else decodeLoop (shiftLeftSix val + index) (valb + 6) encoded := by
  have hne : ¬ (index : Int) = -1 := by omega
  simp only [decodeLoop, if_neg (letter_ne_padding h), kDecodeTable_letter h, if_neg hne]

theorem decodeLoop_padding (val valb : Int) : decodeLoop val valb (paddingChar :: encoded) = [] := by
  rw [decodeLoop, if_pos rfl]

/-- Two characters whose last twelve bits begin with a byte: none is left over from before. -/
theorem decodeLoop_first {i j : Nat} (hi : i < 64) (hj : j < 64) (ha : i * 4 + j / 16 = a.toNat) (val : Int) :
    ∃ val', decodeLoop val (-8) (letter i :: letter j :: encoded) = a :: decodeLoop val' (-4) encoded ∧
      val' % 16 = j % 16 := by
  rw [decodeLoop_letter hi, if_neg (by decide), decodeLoop_letter hj, if_pos (by decide)]
  obtain ⟨lost, hlost⟩ := shiftLeftSix_eq val
  obtain ⟨lost', hlost'⟩ := shiftLeftSix_eq (shiftLeftSix val + i)
  refine ⟨_, congrArg (· :: _) (ofInt_shiftRight ?_), by omega⟩
  show _ / 2 ^ 4 % 256 = _
  omega

/-- The next character, after four bits of a byte. -/
theorem decodeLoop_second {i : Nat} (val : Int) (hi : i < 64) (hval : val % 16 * 16 + (i : Int) / 4 = b.toNat) :
    ∃ val', decodeLoop val (-4) (letter i :: encoded) = b :: decodeLoop val' (-6) encoded ∧
      val' % 4 = i % 4 := by
  rw [decodeLoop_letter hi, if_pos (by decide)]
  obtain ⟨lost, hlost⟩ := shiftLeftSix_eq val
  refine ⟨_, congrArg (· :: _) (ofInt_shiftRight ?_), by omega⟩
  show _ / 2 ^ 2 % 256 = _
  omega

/-- The last character of a block, after two bits of a byte. -/
theorem decodeLoop_third {i : Nat} (val : Int) (hi : i < 64) (hval : val % 4 * 64 + (i : Int) = c.toNat) :
    ∃ val', decodeLoop val (-6) (letter i :: encoded) = c :: decodeLoop val' (-8) encoded := by
  rw [decodeLoop_letter hi, if_pos (by decide)]
  obtain ⟨lost, hlost⟩ := shiftLeftSix_eq val
  refine ⟨_, congrArg (· :: _) (ofInt_shiftRight ?_)⟩
  show _ / 2 ^ 0 % 256 = _
  omega

/-- Whatever the accumulator holds at the beginning of a block. -/
theorem decodeLoop_base64Encode (value : List UInt8) (val : Int) :
    decodeLoop val (-8) (base64Encode value) = value := by
  induction value using base64Encode.induct generalizing val with
  | case1 a b c value ih =>
      have ha := a.toNat_lt
      have hb := b.toNat_lt
      have hc := c.toNat_lt
      rw [base64Encode, upperSix, twoAndFour, fourAndTwo, lowerSix]
      obtain ⟨val₁, hfirst, hval₁⟩ := decodeLoop_first (a := a) (i := a.toNat / 4)
        (j := a.toNat % 4 * 16 + b.toNat / 16) (by omega) (by omega) (by omega) val
      rw [hfirst]
      obtain ⟨val₂, hsecond, hval₂⟩ := decodeLoop_second (b := b)
        (i := b.toNat % 16 * 4 + c.toNat / 64) val₁ (by omega) (by omega)
      rw [hsecond]
      obtain ⟨val₃, hthird⟩ := decodeLoop_third (c := c) (i := c.toNat % 64) val₂ (by omega) (by omega)
      rw [hthird, ih]
  | case2 a =>
      have ha := a.toNat_lt
      rw [base64Encode, upperSix, lowerTwo]
      obtain ⟨val₁, hfirst, -⟩ := decodeLoop_first (a := a) (i := a.toNat / 4)
        (j := a.toNat % 4 * 16) (by omega) (by omega) (by omega) val
      rw [hfirst, decodeLoop_padding]
  | case3 a b =>
      have ha := a.toNat_lt
      have hb := b.toNat_lt
      rw [base64Encode, upperSix, twoAndFour, lowerFour]
      obtain ⟨val₁, hfirst, hval₁⟩ := decodeLoop_first (a := a) (i := a.toNat / 4)
        (j := a.toNat % 4 * 16 + b.toNat / 16) (by omega) (by omega) (by omega) val
      rw [hfirst]
      obtain ⟨val₂, hsecond, -⟩ := decodeLoop_second (b := b) (i := b.toNat % 16 * 4) val₁ (by omega) (by omega)
      rw [hsecond, decodeLoop_padding]
  | case4 => rfl

/-- **What has been encoded is decoded.** -/
theorem base64Decode_base64Encode (value : List UInt8) : base64Decode (base64Encode value) = value :=
  decodeLoop_base64Encode value 0

example : base64Decode (base64Encode [0x4D, 0x61, 0x6E, 0xFF]) = [0x4D, 0x61, 0x6E, 0xFF] := by decide

end SomeServer
