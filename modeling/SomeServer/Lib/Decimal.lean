/-
# SomeServer.Lib.Decimal — decimal texts of machine integers and the functions that read them back

Numbers travel through text stores as decimal texts. Writing is `Nat.repr` and `Int.repr`. Reading
is done by three functions of different strictness: the C++ library's `stoull` and `stoll`, which
skip white space, accept a sign and ignore what follows the digits, and Redis's own `string2ll`,
which accepts exactly the canonical text of a 64-bit integer.

The facts a user needs: a written number reads back as itself under each reader, what `string2ll`
accepts `stoll` reads as the same number, a decimal text contains no separator, and a text is
therefore determined by the two decimals at its front.
-/
import Mathlib.Data.List.Basic
import Mathlib.Data.List.TakeWhile
import Mathlib.Algebra.Group.Int.Defs
import Mathlib.Algebra.Group.Nat.Defs

namespace SomeServer.Lib.Decimal

/-- `isspace` in the C locale. -/
def isSpace (c : Char) : Bool :=
  c == ' ' || c == '\t' || c == '\n' || c == '\x0b' || c == '\x0c' || c == '\r'

/-- The optional sign in front of a number: `true` for a minus. -/
def splitSign : List Char → Bool × List Char
  | '-' :: cs => (true, cs)
  | '+' :: cs => (false, cs)
  | cs => (false, cs)

/-- What the `strtol` family reads: white space, a sign, then digits as far as they go; `none` when
there is no digit. -/
def readInteger (s : String) : Option (Bool × Nat) :=
  let signed := splitSign (s.toList.dropWhile isSpace)
  let digits := signed.2.takeWhile Char.isDigit
  if digits.isEmpty then none else some (signed.1, Nat.ofDigitChars 10 digits 0)

/-- `std::stoull`: `none` when it throws. A minus negates within 64 bits. -/
def stoull (s : String) : Option UInt64 :=
  match readInteger s with
  | none => none
  | some (negative, n) =>
      if n < 2 ^ 64 then some (if negative then 0 - UInt64.ofNat n else UInt64.ofNat n) else none

/-- `std::stoll`: `none` when it throws. -/
def stoll (s : String) : Option Int :=
  match readInteger s with
  | none => none
  | some (negative, n) =>
      let v : Int := if negative then - (n : Int) else n
      if -(2 ^ 63) ≤ v ∧ v < 2 ^ 63 then some v else none

/-- Canonical digits: the text is `0`, or it starts with another digit. -/
def canonicalDigits : List Char → Bool
  | ['0'] => true
  | c :: cs => c != '0' && (c :: cs).all Char.isDigit
  | [] => false

/-- Redis's `string2ll`: the canonical text of a 64-bit integer, and nothing else. -/
def string2ll (s : String) : Option Int :=
  match s.toList with
  | '-' :: cs =>
      if cs != ['0'] && canonicalDigits cs && decide (Nat.ofDigitChars 10 cs 0 ≤ 2 ^ 63) then
        some (- (Nat.ofDigitChars 10 cs 0 : Int))
      else none
  | cs =>
      if canonicalDigits cs && decide (Nat.ofDigitChars 10 cs 0 < 2 ^ 63) then
        some (Nat.ofDigitChars 10 cs 0 : Int)
      else none

/-- An unsigned 64-bit decimal number: digits and nothing else, below `2^64`. -/
def isUnsigned64 (s : String) : Bool :=
  !s.toList.isEmpty && s.toList.all Char.isDigit && decide (Nat.ofDigitChars 10 s.toList 0 < 2 ^ 64)

/-! ## Digits -/

theorem isDigit_of_mem_repr {n : Nat} {c : Char} (h : c ∈ n.repr.toList) : c.isDigit := by
  rw [Nat.toList_repr] at h
  exact Nat.isDigit_of_mem_toDigits (by decide) (by decide) h

theorem notMem_repr {n : Nat} {c : Char} (hc : c.isDigit = false) : c ∉ n.repr.toList := by
  intro h
  rw [isDigit_of_mem_repr h] at hc
  cases hc

theorem ofDigitChars_repr (n : Nat) : Nat.ofDigitChars 10 n.repr.toList 0 = n := by
  rw [Nat.toList_repr, Nat.ofDigitChars_ten_toDigits]

theorem repr_injective {m n : Nat} (h : m.repr = n.repr) : m = n := by
  rw [← ofDigitChars_repr m, h, ofDigitChars_repr]

theorem repr_ne_nil (n : Nat) : n.repr.toList ≠ [] := by
  rw [Nat.toList_repr]
  exact Nat.toDigits_ne_nil

/-- The first occurrence of a separator cuts a text in one way only. -/
theorem append_cons_inj {c : Char} {us vs xs ys : List Char} (hu : c ∉ us) (hv : c ∉ vs)
    (h : us ++ c :: xs = vs ++ c :: ys) : us = vs ∧ xs = ys := by
  rcases List.append_eq_append_iff.mp h with ⟨ws, rfl, hw⟩ | ⟨ws, rfl, hw⟩
  · cases ws with
    | nil => simpa using hw
    | cons w ws =>
        obtain ⟨rfl, -⟩ := List.cons.inj hw
        simp at hv
  · cases ws with
    | nil => simpa [eq_comm] using hw
    | cons w ws =>
        obtain ⟨rfl, -⟩ := List.cons.inj hw
        simp at hu

theorem repr_append_cons_inj {m n : Nat} {c : Char} {xs ys : List Char} (hc : c.isDigit = false)
    (h : m.repr.toList ++ c :: xs = n.repr.toList ++ c :: ys) : m = n ∧ xs = ys := by
  obtain ⟨hr, hxs⟩ := append_cons_inj (notMem_repr hc) (notMem_repr hc) h
  exact ⟨repr_injective (String.toList_injective hr), hxs⟩

/-! ## Reading a written number -/

theorem isSpace_of_isDigit {c : Char} (h : c.isDigit = true) : isSpace c = false := by
  have hne : ∀ d : Char, d.isDigit = false → (c == d) = false := by
    intro d hd
    rw [beq_eq_false_iff_ne]
    rintro rfl
    rw [h] at hd
    cases hd
  simp [isSpace, hne ' ' rfl, hne '\t' rfl, hne '\n' rfl, hne '\x0b' rfl, hne '\x0c' rfl,
    hne '\r' rfl]

theorem splitSign_of_isDigit {c : Char} {cs : List Char} (h : c.isDigit = true) :
    splitSign (c :: cs) = (false, c :: cs) := by
  have h1 : c ≠ '-' := by rintro rfl; exact absurd h (by decide)
  have h2 : c ≠ '+' := by rintro rfl; exact absurd h (by decide)
  unfold splitSign
  split
  · rename_i heq; exact absurd (List.cons.inj heq).1 h1
  · rename_i heq; exact absurd (List.cons.inj heq).1 h2
  · rfl

/-- A text that is all digits is read whole. -/
theorem readInteger_digits {s : String} (hne : s.toList ≠ [])
    (hd : ∀ c ∈ s.toList, c.isDigit = true) :
    readInteger s = some (false, Nat.ofDigitChars 10 s.toList 0) := by
  obtain ⟨c, cs, hs⟩ := List.exists_cons_of_ne_nil hne
  have hc : c.isDigit = true := hd c (by rw [hs]; exact List.mem_cons_self)
  have hall : s.toList.takeWhile Char.isDigit = s.toList := List.takeWhile_eq_self_iff.mpr hd
  have hdrop : s.toList.dropWhile isSpace = s.toList := by
    rw [hs, List.dropWhile_cons_of_neg]
    simp [isSpace_of_isDigit hc]
  have hsplit : splitSign s.toList = (false, s.toList) := by
    rw [hs]; exact splitSign_of_isDigit hc
  unfold readInteger
  rw [hdrop, hsplit]
  simp [hall, hne]

/-- So is a text of digits behind a minus. -/
theorem readInteger_minus {s : String} {cs : List Char} (hs : s.toList = '-' :: cs) (hne : cs ≠ [])
    (hd : ∀ c ∈ cs, c.isDigit = true) :
    readInteger s = some (true, Nat.ofDigitChars 10 cs 0) := by
  have hall : cs.takeWhile Char.isDigit = cs := List.takeWhile_eq_self_iff.mpr hd
  have hdrop : ('-' :: cs).dropWhile isSpace = '-' :: cs :=
    List.dropWhile_cons_of_neg (by decide)
  unfold readInteger
  rw [hs, hdrop]
  simp [splitSign, hall, hne]

/-- `stoull` reads every unsigned 64-bit decimal number. -/
theorem stoull_of_isUnsigned64 {s : String} (h : isUnsigned64 s = true) :
    stoull s = some (UInt64.ofNat (Nat.ofDigitChars 10 s.toList 0)) := by
  simp only [isUnsigned64, Bool.and_eq_true, Bool.not_eq_true', List.isEmpty_eq_false_iff, List.all_eq_true,
    decide_eq_true_eq] at h
  obtain ⟨⟨hne, hd⟩, hlt⟩ := h
  simp only [stoull, readInteger_digits hne hd, if_pos hlt]
  rfl

theorem stoull_repr {n : Nat} (h : n < 2 ^ 64) : stoull n.repr = some (UInt64.ofNat n) := by
  have hr := readInteger_digits (repr_ne_nil n) fun c hc => isDigit_of_mem_repr hc
  simp only [stoull, hr, ofDigitChars_repr]
  rw [if_pos h]
  rfl

theorem stoull_toNat (i : UInt64) : stoull i.toNat.repr = some i := by
  rw [stoull_repr i.toNat_lt, UInt64.ofNat_toNat]

theorem stoll_ofNat {n : Nat} (h : n < 2 ^ 63) : stoll n.repr = some (n : Int) := by
  have hr := readInteger_digits (repr_ne_nil n) fun c hc => isDigit_of_mem_repr hc
  simp only [stoll, hr, ofDigitChars_repr]
  rw [if_pos]
  · simp
  · simp only [Bool.false_eq_true, if_false]
    omega

theorem stoll_neg {n : Nat} (h : n ≤ 2 ^ 63) : stoll ("-" ++ n.repr) = some (- (n : Int)) := by
  have hs : ("-" ++ n.repr).toList = '-' :: n.repr.toList := by
    rw [String.toList_append]; rfl
  have hr := readInteger_minus hs (repr_ne_nil n) fun c hc => isDigit_of_mem_repr hc
  simp only [stoll, hr, ofDigitChars_repr]
  rw [if_pos]
  · simp
  · simp only [if_true]
    omega

/-- A written 64-bit integer is read back by `stoll`. -/
theorem stoll_repr {i : Int} (hlo : -(2 ^ 63) ≤ i) (hhi : i < 2 ^ 63) : stoll i.repr = some i := by
  cases i with
  | ofNat n => exact stoll_ofNat (Int.ofNat_lt.mp hhi)
  | negSucc n =>
      show stoll ("-" ++ (n + 1).repr) = some (Int.negSucc n)
      rw [stoll_neg (by omega)]
      rfl

/-! ## `string2ll` against `stoll` -/

theorem digits_of_canonicalDigits {cs : List Char} (h : canonicalDigits cs = true) :
    cs ≠ [] ∧ ∀ c ∈ cs, c.isDigit = true := by
  unfold canonicalDigits at h
  split at h
  · simp
  · rename_i c cs _
    rw [Bool.and_eq_true, List.all_eq_true] at h
    exact ⟨List.cons_ne_nil c cs, h.2⟩
  · cases h

/-- What Redis accepts as an integer, `stoll` reads as the same integer. -/
theorem stoll_of_string2ll {s : String} {v : Int} (h : string2ll s = some v) :
    stoll s = some v ∧ -(2 ^ 63) ≤ v ∧ v < 2 ^ 63 := by
  unfold string2ll at h
  split at h
  · rename_i cs hs
    split at h
    · rename_i hc
      rw [Bool.and_eq_true, Bool.and_eq_true, decide_eq_true_eq] at hc
      obtain ⟨⟨-, hcan⟩, hlt⟩ := hc
      obtain ⟨hne, hd⟩ := digits_of_canonicalDigits hcan
      cases h
      have hr := readInteger_minus hs hne hd
      refine ⟨?_, by omega, by omega⟩
      simp only [stoll, hr]
      rw [if_pos]
      · simp
      · simp only [if_true]
        omega
    · cases h
  · split at h
    · rename_i hc
      rw [Bool.and_eq_true, decide_eq_true_eq] at hc
      obtain ⟨hcan, hlt⟩ := hc
      obtain ⟨hne, hd⟩ := digits_of_canonicalDigits hcan
      cases h
      have hr := readInteger_digits hne hd
      refine ⟨?_, by omega, by omega⟩
      simp only [stoll, hr]
      rw [if_pos]
      · simp
      · simp only [Bool.false_eq_true, if_false]
        omega
    · cases h

/-- A written positive number does not start with a zero. -/
theorem head?_toDigits_ne {n : Nat} (h : 0 < n) : (Nat.toDigits 10 n).head? ≠ some '0' := by
  induction n using Nat.strongRecOn with
  | ind n ih =>
      rw [Nat.toDigits_eq_if (by decide)]
      split
      · rename_i hlt
        have hdigit : ∀ d < 10, 0 < d → Nat.digitChar d ≠ '0' := by decide
        simpa using hdigit n hlt h
      · rename_i hge
        rw [List.head?_append_of_ne_nil _ Nat.toDigits_ne_nil]
        exact ih (n / 10) (by omega) (by omega)

theorem canonicalDigits_repr (n : Nat) : canonicalDigits n.repr.toList = true := by
  have hd : ∀ c ∈ n.repr.toList, c.isDigit = true := fun c hc => isDigit_of_mem_repr hc
  rcases Nat.eq_zero_or_pos n with rfl | hn
  · decide
  · have hhead := head?_toDigits_ne hn
    rw [← Nat.toList_repr] at hhead
    obtain ⟨c, cs, hs⟩ := List.exists_cons_of_ne_nil (repr_ne_nil n)
    rw [hs, List.head?_cons, ne_eq, Option.some.injEq] at hhead
    rw [hs] at hd ⊢
    unfold canonicalDigits
    split
    · rfl
    · rename_i heq
      cases heq
      rw [Bool.and_eq_true, List.all_eq_true]
      exact ⟨by simpa using hhead, hd⟩
    · rename_i heq
      cases heq

/-- Redis accepts a written number that fits in 63 bits. -/
theorem string2ll_repr {n : Nat} (h : n < 2 ^ 63) : string2ll n.repr = some (n : Int) := by
  have hminus : ∀ cs, n.repr.toList ≠ '-' :: cs := by
    intro cs hs
    have hc := isDigit_of_mem_repr (n := n) (c := '-') (by rw [hs]; exact List.mem_cons_self)
    exact absurd hc (by decide)
  unfold string2ll
  split
  · rename_i cs hs
    exact absurd hs (hminus cs)
  · rw [canonicalDigits_repr, ofDigitChars_repr, if_pos (by simpa using h)]

end SomeServer.Lib.Decimal
