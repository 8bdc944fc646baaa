/-
# SomeServer.Discovery.Ranges — the range of a prefix in etcd

etcd knows no prefixes: it is asked for the keys from one on up to another, in the order of their bytes.
`PrefixRangeEnd` computes where the keys with a given prefix end; `GetPrefix` and the watch ask for this range.
The range is exactly that of the prefix, and so what a snapshot reads are the values of the keys with the
prefix, as `Etcd.range` has them.
-/
import SomeServer.Discovery.Etcd
import SomeServer.Lib.Lexicographic
import Mathlib.Data.List.Infix

namespace SomeServer

open Lib

/-! ## Bytes in order -/

instance instLinearOrderUInt8 : LinearOrder UInt8 where
  le_refl := UInt8.le_refl
  le_trans _ _ _ := UInt8.le_trans
  le_antisymm _ _ := UInt8.le_antisymm
  le_total := UInt8.le_total
  lt_iff_le_not_ge a b := by
    rw [UInt8.lt_iff_toNat_lt, UInt8.le_iff_toNat_le, UInt8.le_iff_toNat_le]
    omega
  toDecidableLE := inferInstance

theorem isTop_maxByte : IsTop (0xFF : UInt8) := by
  intro a
  have h := a.toNat_lt
  rw [UInt8.le_iff_toNat_le]
  show a.toNat ≤ 255
  omega

/-- Adding one to a byte that is not the greatest leads to the next one. -/
theorem covBy_add_one {ch : UInt8} (h : ch ≠ 0xFF) : ch ⋖ ch + 1 := by
  have hlt := ch.toNat_lt
  have hne : ch.toNat ≠ 255 := fun heq => h (UInt8.toNat_inj.mp heq)
  have hnext : (ch + 1).toNat = ch.toNat + 1 := by
    rw [UInt8.toNat_add]
    show (ch.toNat + 1) % 256 = _
    omega
  constructor
  · rw [UInt8.lt_iff_toNat_lt]
    omega
  · intro a ha hb
    rw [UInt8.lt_iff_toNat_lt] at ha hb
    omega

/-! ## The end of a range -/

/-- The loop of `PrefixRangeEnd`, over the bytes from the last to the first: the first one that is not the
greatest is incremented, and what stands behind it dropped. -/
def incrementLast : List UInt8 → Option (List UInt8)
  | [] => none
  | ch :: rest => if ch ≠ 0xFF then some ((ch + 1) :: rest) else incrementLast rest

/-- `PrefixRangeEnd`. -/
def prefixRangeEnd (keyPrefix : List UInt8) : List UInt8 :=
  match incrementLast keyPrefix.reverse with
  | some rangeEnd => rangeEnd.reverse
  | none => [0]

/-- Whether etcd counts a key to a range: without an end it is only the first key, and an end of a single
zero byte leaves the range open. -/
def inRange (start rangeEnd key : List UInt8) : Prop :=
  if rangeEnd = [] then key = start
  else if rangeEnd = [0] then ¬key < start
  else ¬key < start ∧ key < rangeEnd

instance (start rangeEnd key : List UInt8) : Decidable (inRange start rangeEnd key) := by
  unfold inRange
  infer_instance

/-- Where the loop stops. -/
theorem incrementLast_some {bytes rangeEnd : List UInt8} (h : incrementLast bytes = some rangeEnd) :
    ∃ tops ch rest, bytes = tops ++ ch :: rest ∧ (∀ top ∈ tops, top = 0xFF) ∧ ch ≠ 0xFF ∧
      rangeEnd = (ch + 1) :: rest := by
  induction bytes with
  | nil => simp [incrementLast] at h
  | cons ch rest ih =>
      rw [incrementLast] at h
      split at h
      · next hne => exact ⟨[], ch, rest, rfl, by simp, hne, (Option.some.inj h).symm⟩
      · next htop =>
        obtain ⟨tops, ch', rest', rfl, htops, hne, rfl⟩ := ih h
        refine ⟨ch :: tops, ch', rest', rfl, ?_, hne, rfl⟩
        intro top hmem
        rcases List.mem_cons.mp hmem with rfl | hmem
        · simpa using htop
        · exact htops top hmem

/-- The loop finds nothing to increment. -/
theorem incrementLast_none {bytes : List UInt8} (h : incrementLast bytes = none) : ∀ ch ∈ bytes, ch = 0xFF := by
  induction bytes with
  | nil => simp
  | cons ch rest ih =>
      rw [incrementLast] at h
      split at h
      · cases h
      · next htop =>
        intro ch' hmem
        rcases List.mem_cons.mp hmem with rfl | hmem
        · simpa using htop
        · exact ih h ch' hmem

/-- The two forms that the end of a range has. -/
theorem prefixRangeEnd_cases (keyPrefix : List UInt8) :
    (prefixRangeEnd keyPrefix = [0] ∧ ∀ ch ∈ keyPrefix, ch = 0xFF) ∨
      ∃ before ch tops, keyPrefix = before ++ ch :: tops ∧ (∀ top ∈ tops, top = 0xFF) ∧ ch ≠ 0xFF ∧
        prefixRangeEnd keyPrefix = before ++ [ch + 1] := by
  unfold prefixRangeEnd
  split
  · next rangeEnd h =>
    obtain ⟨tops, ch, rest, hbytes, htops, hne, rfl⟩ := incrementLast_some h
    refine .inr ⟨rest.reverse, ch, tops.reverse, ?_, by simpa using htops, hne, by simp⟩
    have hreverse := congrArg List.reverse hbytes
    simpa using hreverse
  · next h => exact .inl ⟨rfl, by simpa using incrementLast_none h⟩

/-- What the requests of a snapshot and of the watch ask for: the keys that begin with the prefix. -/
theorem inRange_prefixRangeEnd {keyPrefix key : List UInt8} (hnonempty : keyPrefix ≠ []) :
    inRange keyPrefix (prefixRangeEnd keyPrefix) key ↔ keyPrefix <+: key := by
  have htop : ∀ bytes : List UInt8, (∀ ch ∈ bytes, ch = 0xFF) → ∀ ch ∈ bytes, IsTop ch := by
    intro bytes h ch hmem
    rw [h ch hmem]
    exact isTop_maxByte
  rcases prefixRangeEnd_cases keyPrefix with ⟨hend, hall⟩ | ⟨before, ch, tops, rfl, htops, hne, hend⟩
  · rw [hend, inRange, if_neg (by simp), if_pos rfl]
    exact (prefix_iff_of_isTop (htop keyPrefix hall)).symm
  · -- an incremented byte is not zero, so the end is not taken for an open one
    have hopen : before ++ [ch + 1] ≠ [0] := by
      intro h
      have hlast : ch + 1 = 0 := by simpa using congrArg List.getLast? h
      exact absurd ((covBy_add_one hne).lt.trans_eq hlast) (UInt8.not_lt.mpr UInt8.zero_le)
    rw [hend, inRange, if_neg (by simp), if_neg hopen]
    exact (prefix_iff_of_covBy (covBy_add_one hne) (htop tops htops)).symm

/-- **The range covers exactly the prefix**: a key lies between a prefix and its `PrefixRangeEnd` if and only
if it begins with the prefix. -/
theorem prefix_iff_inRange (keyPrefix key : List UInt8) (hnonempty : keyPrefix ≠ []) :
    keyPrefix <+: key ↔ inRange keyPrefix (prefixRangeEnd keyPrefix) key :=
  (inRange_prefixRangeEnd hnonempty).symm

/-- A prefix that ends in the greatest byte: its keys end where the byte before it is incremented. -/
theorem prefix_iff_inRange_carried : prefixRangeEnd [0x61, 0xFF] = [0x62] ∧
    inRange [0x61, 0xFF] (prefixRangeEnd [0x61, 0xFF]) [0x61, 0xFF, 0x00] :=
  ⟨rfl, (prefix_iff_inRange [0x61, 0xFF] [0x61, 0xFF, 0x00] (by decide)).mp (by decide)⟩

/-- Behind an open end there is only the prefix of the greatest bytes. -/
example : inRange [0xFF] (prefixRangeEnd [0xFF]) [0xFF, 0x01] ∧ ¬ inRange [0xFF] (prefixRangeEnd [0xFF]) [0xFE] := by
  decide

/-! ## What a snapshot reads -/

/-- The bytes of a text. -/
def bytesOf (text : String) : List UInt8 := text.toByteArray.data.toList

theorem length_bytesOf (text : String) : (bytesOf text).length = text.toByteArray.size := by
  rw [bytesOf, Array.length_toList]
  rfl

theorem bytesOf_append (a b : String) : bytesOf (a ++ b) = bytesOf a ++ bytesOf b := by
  simp [bytesOf, String.toByteArray_append]

/-- The bytes of one text begin those of another exactly if its characters do. -/
theorem bytesOf_prefix_iff {a b : String} : bytesOf a <+: bytesOf b ↔ a.toList <+: b.toList := by
  constructor
  · rintro ⟨rest, hrest⟩
    have hle : a.toByteArray.size ≤ b.toByteArray.size := by
      rw [← length_bytesOf, ← length_bytesOf, ← hrest, List.length_append]
      omega
    have hsame : b.toByteArray.extract 0 a.toByteArray.size = a.toByteArray := by
      apply ByteArray.ext
      apply Array.toList_inj.mp
      rw [ByteArray.data_extract, Array.toList_extract, List.extract_eq_take_drop]
      show List.take _ (List.drop 0 (bytesOf b)) = bytesOf a
      rw [← hrest, List.drop_zero, ← length_bytesOf, Nat.sub_zero, List.take_left]
    -- the bytes of `a` are those of a text, so `b` can be cut behind them
    have hvalid : a.rawEndPos.IsValid b := by
      rw [String.Pos.Raw.isValid_iff_isValidUTF8_extract_zero]
      refine ⟨hle, ?_⟩
      show (b.toByteArray.extract 0 a.toByteArray.size).IsValidUTF8
      rw [hsame]
      exact a.isValidUTF8
    have hsplits := (b.pos _ hvalid).splits
    have hcopy : (b.sliceTo (b.pos _ hvalid)).copy = a := by
      apply String.toByteArray_inj.mp
      simpa [String.copy_toByteArray_sliceTo] using! hsame
    rw [hcopy] at hsplits
    rw [hsplits.eq_append, String.toList_append]
    exact List.prefix_append _ _
  · rintro ⟨rest, hrest⟩
    obtain rfl : b = a ++ String.ofList rest := by
      apply String.toList_inj.mp
      simp [hrest]
    rw [bytesOf_append]
    exact List.prefix_append _ _

/-- The answer to the request that `GetPrefix` makes. -/
def Etcd.rangeRequest {P : Type} (e : Etcd P) (start rangeEnd : List UInt8) : List String :=
  (e.records.keys.filter fun key => inRange start rangeEnd (bytesOf key)).filterMap fun key =>
    (e.records.get key).map EtcdRecord.value

/-- A snapshot has the values of the keys with its prefix, and no others. -/
theorem Etcd.range_eq_rangeRequest {P : Type} (e : Etcd P) {keyPrefix : String} (h : keyPrefix ≠ "") :
    e.range keyPrefix = e.rangeRequest (bytesOf keyPrefix) (prefixRangeEnd (bytesOf keyPrefix)) := by
  have hbytes : bytesOf keyPrefix ≠ [] := by
    intro hempty
    have hprefix : bytesOf keyPrefix <+: bytesOf "" := by rw [hempty]; exact List.nil_prefix
    have hnil := List.prefix_nil.mp (bytesOf_prefix_iff.mp hprefix)
    exact h (String.toList_inj.mp hnil)
  unfold Etcd.range Etcd.rangeRequest
  congr 1
  apply List.filter_congr
  intro key _
  rw [Bool.eq_iff_iff, List.isPrefixOf_iff_prefix, decide_eq_true_iff, inRange_prefixRangeEnd hbytes,
    bytesOf_prefix_iff]

end SomeServer
