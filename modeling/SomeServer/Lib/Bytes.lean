/-
# SomeServer.Lib.Bytes — numbers of a fixed width as bytes

What copying the memory of an unsigned integer gives: its digits to the base 256, in the byte order of the
host. Reading them back is exact in both directions, in either order.
-/
import Mathlib.Data.Nat.Basic
import Mathlib.Algebra.Group.Int.Defs
import Mathlib.Algebra.Group.Nat.Defs

namespace SomeServer.Lib

/-- The lowest digits of a number, the lowest first. -/
def littleBytes : Nat → Nat → List UInt8
  | 0, _ => []
  | width + 1, n => UInt8.ofNat n :: littleBytes width (n / 256)

/-- The number with these digits, the lowest first. -/
def littleNat : List UInt8 → Nat
  | [] => 0
  | byte :: bytes => byte.toNat + 256 * littleNat bytes

attribute [local simp] littleBytes littleNat

@[simp] theorem length_littleBytes (width n : Nat) : (littleBytes width n).length = width := by
  induction width generalizing n with
  | zero => rfl
  | succ width ih => simp [ih]

theorem littleNat_littleBytes (width n : Nat) : littleNat (littleBytes width n) = n % 256 ^ width := by
  induction width generalizing n with
  | zero => simp [Nat.mod_one]
  | succ width ih =>
      rw [littleBytes, littleNat, ih, Nat.pow_succ', Nat.mod_mul]
      simp

theorem littleNat_lt (bytes : List UInt8) : littleNat bytes < 256 ^ bytes.length := by
  induction bytes with
  | nil => simp
  | cons byte bytes ih =>
      have hbyte : byte.toNat < 256 := byte.toNat_lt
      rw [littleNat, List.length_cons, Nat.pow_succ]
      omega

theorem littleBytes_littleNat (bytes : List UInt8) :
    littleBytes bytes.length (littleNat bytes) = bytes := by
  induction bytes with
  | nil => rfl
  | cons byte bytes ih =>
      have hbyte : byte.toNat < 256 := byte.toNat_lt
      have hrest : (byte.toNat + 256 * littleNat bytes) / 256 = littleNat bytes := by omega
      have hhead : UInt8.ofNat (byte.toNat + 256 * littleNat bytes) = byte := by
        apply UInt8.toNat_inj.mp
        rw [UInt8.toNat_ofNat']
        omega
      rw [List.length_cons, littleNat, littleBytes, hrest, ih, hhead]

/-- The order in which a host keeps the bytes of a number. -/
inductive ByteOrder where
  | little
  | big
deriving DecidableEq, Repr

namespace ByteOrder

/-- The memory of a number of this width. -/
def bytes (order : ByteOrder) (width n : Nat) : List UInt8 :=
  match order with
  | little => littleBytes width n
  | big => (littleBytes width n).reverse

/-- The number with this memory. -/
def nat (order : ByteOrder) (memory : List UInt8) : Nat :=
  match order with
  | little => littleNat memory
  | big => littleNat memory.reverse

variable {order : ByteOrder}

@[simp] theorem length_bytes (order : ByteOrder) (width n : Nat) : (order.bytes width n).length = width := by
  cases order <;> simp [bytes]

/-- A number that fits comes back. -/
theorem nat_bytes {width n : Nat} (h : n < 256 ^ width) : order.nat (order.bytes width n) = n := by
  cases order with
  | little => simp only [nat, bytes, littleNat_littleBytes, Nat.mod_eq_of_lt h]
  | big => simp only [nat, bytes, List.reverse_reverse, littleNat_littleBytes, Nat.mod_eq_of_lt h]

theorem nat_lt (order : ByteOrder) (memory : List UInt8) : order.nat memory < 256 ^ memory.length := by
  cases order with
  | little => exact littleNat_lt memory
  | big =>
      have h := littleNat_lt memory.reverse
      rw [List.length_reverse] at h
      exact h

/-- Memory comes back. -/
theorem bytes_nat {width : Nat} {memory : List UInt8} (h : memory.length = width) :
    order.bytes width (order.nat memory) = memory := by
  subst h
  cases order with
  | little => exact littleBytes_littleNat memory
  | big =>
      have hreverse := littleBytes_littleNat memory.reverse
      rw [List.length_reverse] at hreverse
      simp only [bytes, nat, hreverse, List.reverse_reverse]

end ByteOrder

end SomeServer.Lib
