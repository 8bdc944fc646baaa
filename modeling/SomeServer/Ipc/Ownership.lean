/-
# SomeServer.Ipc.Ownership — the versions of a receiver's owner

A process that gives a receiver up does so with the owner and the version that it has resolved before, so
that a release that comes late does not take the receiver from a newer owner. A `DirectoryHistory` keeps
for each address the bindings that it has had beside the directory.
-/
import SomeServer.Ipc.Routing
import SomeServer.Lib.Histories
import Mathlib.Algebra.Group.Int.Defs
import Mathlib.Algebra.Group.Nat.Defs

namespace SomeServer

open Lib

namespace LocalReceiverDirectory

/-- `Rebind`. -/
def rebind (d : LocalReceiverDirectory) (receiver : ReceiverAddress) (oldOwner newOwner : ProcessRef) :
    LocalReceiverDirectory × Result :=
  match d receiver with
  | none => (d, .failure "receiver is not bound")
  | some entry =>
      if entry.owner ≠ oldOwner then (d, .failure "receiver owner mismatch")
      else (Function.update d receiver (some ⟨newOwner, entry.version + 1⟩), .success)

end LocalReceiverDirectory

inductive DirectoryCall where
  | bind (receiver : ReceiverAddress) (owner : ProcessRef)
  | rebind (receiver : ReceiverAddress) (oldOwner newOwner : ProcessRef)
  | invalidate (receiver : ReceiverAddress) (owner : ProcessRef) (version : UInt64)
deriving DecidableEq

namespace DirectoryCall

def receiver : DirectoryCall → ReceiverAddress
  | bind receiver _ => receiver
  | rebind receiver _ _ => receiver
  | invalidate receiver _ _ => receiver

/-- The directory after a call. -/
def apply (d : LocalReceiverDirectory) : DirectoryCall → LocalReceiverDirectory
  | bind receiver owner => (d.bind receiver owner).1
  | rebind receiver oldOwner newOwner => (d.rebind receiver oldOwner newOwner).1
  | invalidate receiver owner version => (d.invalidate receiver owner version).1

variable {d : LocalReceiverDirectory} {receiver : ReceiverAddress} {owner oldOwner newOwner : ProcessRef}
  {version : UInt64} {entry : ReceiverEntry}

/-- A call touches no other address. -/
theorem apply_of_ne (call : DirectoryCall) (h : receiver ≠ call.receiver) : call.apply d receiver = d receiver := by
  cases call with
  | bind r owner =>
      show (d.bind r owner).1 receiver = _
      unfold LocalReceiverDirectory.bind
      split
      · exact Function.update_of_ne h _ _
      · split
        · rfl
        · exact Function.update_of_ne h _ _
  | rebind r oldOwner newOwner =>
      show (d.rebind r oldOwner newOwner).1 receiver = _
      unfold LocalReceiverDirectory.rebind
      split
      · rfl
      · split
        · rfl
        · exact Function.update_of_ne h _ _
  | invalidate r owner version =>
      show (d.invalidate r owner version).1 receiver = _
      unfold LocalReceiverDirectory.invalidate
      split
      · rfl
      · split
        · rfl
        · split
          · rfl
          · exact Function.update_of_ne h _ _

theorem apply_bind_new (h : d receiver = none) : (bind receiver owner).apply d receiver = some ⟨owner, 1⟩ := by
  simp [apply, LocalReceiverDirectory.bind, h]

/-- Binding what is bound changes nothing. -/
theorem apply_bind_bound (h : d receiver = some entry) (hversion : entry.version ≠ 0) :
    (bind receiver owner).apply d receiver = some entry := by
  simp only [apply, LocalReceiverDirectory.bind, h]
  split
  · exact h
  · rename_i hsame
    have howner : entry.owner = owner := not_not.mp fun hne => hsame ⟨hversion, hne⟩
    simp [← howner]

theorem apply_rebind (oldOwner newOwner : ProcessRef) (h : d receiver = some entry) :
    (rebind receiver oldOwner newOwner).apply d receiver =
      if entry.owner = oldOwner then some ⟨newOwner, entry.version + 1⟩ else some entry := by
  simp only [apply, LocalReceiverDirectory.rebind, h]
  by_cases howner : entry.owner = oldOwner
  · simp [howner]
  · simp [howner, h]

theorem apply_rebind_unbound (h : d receiver = none) :
    (rebind receiver oldOwner newOwner).apply d receiver = none := by
  simp [apply, LocalReceiverDirectory.rebind, h]

/-- An invalidation leaves what there is, or nothing. -/
theorem apply_invalidate (d : LocalReceiverDirectory) (receiver : ReceiverAddress) (owner : ProcessRef)
    (version : UInt64) : (invalidate receiver owner version).apply d receiver = none ∨
    (invalidate receiver owner version).apply d receiver = d receiver := by
  simp only [apply, LocalReceiverDirectory.invalidate]
  split
  · exact .inr rfl
  · split
    · exact .inr rfl
    · split
      · exact .inr rfl
      · exact .inl (Function.update_self ..)

end DirectoryCall

/-- A directory, and the bindings that each address has had, the newest one first. -/
structure DirectoryHistory where
  directory : LocalReceiverDirectory
  bindings : ReceiverAddress → List ReceiverEntry

namespace DirectoryHistory

/-- A directory in which nothing has been bound. -/
def initial : DirectoryHistory := ⟨fun _ => none, fun _ => []⟩

/-- The bindings of an address that a call has perhaps given another one. -/
def bindingsAfter (bindings : List ReceiverEntry) (before : Option ReceiverEntry) :
    Option ReceiverEntry → List ReceiverEntry
  | none => bindings
  | some entry => if before = some entry then bindings else entry :: bindings

/-- One call. -/
def handle (x : DirectoryHistory) (call : DirectoryCall) : DirectoryHistory where
  directory := call.apply x.directory
  bindings := Function.update x.bindings call.receiver
    (bindingsAfter (x.bindings call.receiver) (x.directory call.receiver)
      (call.apply x.directory call.receiver))

/-- Every binding has a greater version than all that the address had before, and an invalidation with the
owner and the version of one of those changes nothing. -/
structure Growing (x : DirectoryHistory) : Prop where
  versions : ∀ receiver, (x.bindings receiver).Pairwise fun newer older => older.version < newer.version
  released : ∀ receiver, ∀ old ∈ (x.bindings receiver).tail,
    (x.directory.invalidate receiver old.owner old.version).1 = x.directory

/-- An address is bound once only, and moves only while its version can be counted on. -/
def Grows (x : DirectoryHistory) : DirectoryCall → Prop
  | .bind receiver _ => x.directory receiver = none → x.bindings receiver = []
  | .rebind receiver oldOwner _ => ∀ entry, x.directory receiver = some entry → entry.owner = oldOwner →
      entry.version.toNat + 1 < 2 ^ 64
  | .invalidate _ _ _ => True

/-- What the calls keep: a bound address has its newest binding, and no version is zero. -/
structure Ordered (x : DirectoryHistory) : Prop where
  newest : ∀ receiver entry, x.directory receiver = some entry → ∃ rest, x.bindings receiver = entry :: rest
  positive : ∀ receiver, ∀ entry ∈ x.bindings receiver, 0 < entry.version
  versions : ∀ receiver, (x.bindings receiver).Pairwise fun newer older => older.version < newer.version

variable {x : DirectoryHistory} {call : DirectoryCall} {receiver callee : ReceiverAddress}

/-- A version that is not the newest one releases nothing. -/
theorem Ordered.growing (h : x.Ordered) : x.Growing where
  versions := h.versions
  released := by
    intro receiver old hold
    unfold LocalReceiverDirectory.invalidate
    cases hentry : x.directory receiver with
    | none => rfl
    | some entry =>
        obtain ⟨rest, hrest⟩ := h.newest receiver entry hentry
        have hversions := h.versions receiver
        rw [hrest] at hold hversions
        have hlt : old.version < entry.version := (List.pairwise_cons.mp hversions).1 old hold
        dsimp only
        split
        · rfl
        · rw [if_pos (UInt64.ne_of_lt hlt).symm]

theorem handle_of_ne (h : receiver ≠ call.receiver) :
    (x.handle call).directory receiver = x.directory receiver ∧
      (x.handle call).bindings receiver = x.bindings receiver :=
  ⟨call.apply_of_ne h, Function.update_of_ne h _ _⟩

/-- The address of a call has what it had, or nothing, or a binding that is newer than all before. -/
theorem Ordered.handle (h : x.Ordered) (callee : ReceiverAddress) (hcallee : call.receiver = callee)
    (hcall : call.apply x.directory callee = x.directory callee ∨ call.apply x.directory callee = none ∨
      ∃ entry, call.apply x.directory callee = some entry ∧ 0 < entry.version ∧
        ∀ old ∈ x.bindings callee, old.version < entry.version) : (x.handle call).Ordered := by
  subst hcallee
  have hbindings : (x.handle call).bindings call.receiver =
      bindingsAfter (x.bindings call.receiver) (x.directory call.receiver)
        (call.apply x.directory call.receiver) := Function.update_self _ _ _
  -- what the call does to the list of bindings of its address
  have hcases : ((x.handle call).directory call.receiver = x.directory call.receiver ∨
        (x.handle call).directory call.receiver = none) ∧
        (x.handle call).bindings call.receiver = x.bindings call.receiver ∨
      ∃ entry, (x.handle call).directory call.receiver = some entry ∧
        (x.handle call).bindings call.receiver = entry :: x.bindings call.receiver ∧ 0 < entry.version ∧
        ∀ old ∈ x.bindings call.receiver, old.version < entry.version := by
    rcases hcall with hsame | hnone | ⟨entry, hentry, hpos, hnewer⟩
    · refine .inl ⟨.inl hsame, ?_⟩
      rw [hbindings, hsame]
      unfold bindingsAfter
      split
      · rfl
      · rename_i hentry
        rw [hentry, if_pos rfl]
    · refine .inl ⟨.inr hnone, ?_⟩
      rw [hbindings, hnone]
      rfl
    · refine .inr ⟨entry, hentry, ?_, hpos, hnewer⟩
      rw [hbindings, hentry]
      unfold bindingsAfter
      dsimp only
      rw [if_neg]
      intro hbefore
      obtain ⟨rest, hrest⟩ := h.newest _ _ hbefore
      exact UInt64.lt_irrefl _ (hnewer entry (hrest ▸ List.mem_cons_self))
  constructor
  · intro receiver entry hentry
    by_cases hreceiver : receiver = call.receiver
    · subst hreceiver
      rcases hcases with ⟨hsame | hnone, hkept⟩ | ⟨entry', hentry', hadded, -⟩
      · rw [hkept]
        exact h.newest _ _ (hsame ▸ hentry)
      · rw [hnone] at hentry
        cases hentry
      · rw [hentry'] at hentry
        cases hentry
        exact ⟨_, hadded⟩
    · obtain ⟨hdirectory, hkept⟩ := handle_of_ne (x := x) hreceiver
      rw [hkept]
      exact h.newest _ _ (hdirectory ▸ hentry)
  · intro receiver
    by_cases hreceiver : receiver = call.receiver
    · subst hreceiver
      rcases hcases with ⟨-, hkept⟩ | ⟨entry', -, hadded, hpos, -⟩
      · rw [hkept]
        exact h.positive _
      · rw [hadded]
        intro entry hmem
        rcases List.mem_cons.mp hmem with rfl | hmem
        · exact hpos
        · exact h.positive _ entry hmem
    · rw [(handle_of_ne (x := x) hreceiver).2]
      exact h.positive _
  · intro receiver
    by_cases hreceiver : receiver = call.receiver
    · subst hreceiver
      rcases hcases with ⟨-, hkept⟩ | ⟨entry', -, hadded, -, hnewer⟩
      · rw [hkept]
        exact h.versions _
      · rw [hadded]
        exact List.pairwise_cons.mpr ⟨hnewer, h.versions _⟩
    · rw [(handle_of_ne (x := x) hreceiver).2]
      exact h.versions _

theorem handle_bindings_of_new {entry : ReceiverEntry} (call : DirectoryCall) (callee : ReceiverAddress)
    (hcallee : call.receiver = callee)
    (hbefore : x.directory callee ≠ some entry) (hentry : call.apply x.directory callee = some entry) :
    (x.handle call).bindings callee = entry :: x.bindings callee := by
  subst hcallee
  have hbindings : (x.handle call).bindings call.receiver =
      bindingsAfter (x.bindings call.receiver) (x.directory call.receiver)
        (call.apply x.directory call.receiver) := Function.update_self _ _ _
  rw [hbindings, hentry]
  exact if_neg hbefore

/-- Calls that fit keep the versions growing. -/
theorem Ordered.fits (h : x.Ordered) (hfits : x.Grows call) : (x.handle call).Ordered := by
  cases call with
  | bind receiver owner =>
      apply h.handle receiver rfl
      cases hentry : x.directory receiver with
      -- a first binding: by the condition the address has had none before
      | none =>
          right; right
          refine ⟨⟨owner, 1⟩, DirectoryCall.apply_bind_new hentry, UInt64.lt_iff_toNat_lt.mpr Nat.one_pos, ?_⟩
          intro old hold
          rw [show x.bindings receiver = [] from hfits hentry] at hold
          cases hold
      | some entry =>
          left
          obtain ⟨rest, hrest⟩ := h.newest _ _ hentry
          have hpos := h.positive receiver entry (hrest ▸ List.mem_cons_self)
          exact DirectoryCall.apply_bind_bound hentry (UInt64.ne_of_lt hpos).symm
  | rebind receiver oldOwner newOwner =>
      apply h.handle receiver rfl
      cases hentry : x.directory receiver with
      | none => exact .inr (.inl (DirectoryCall.apply_rebind_unbound hentry))
      | some entry =>
          have happly := DirectoryCall.apply_rebind oldOwner newOwner hentry
          by_cases howner : entry.owner = oldOwner
          · right; right
            rw [if_pos howner] at happly
            have hlt : entry.version.toNat + 1 < 2 ^ 64 := hfits entry hentry howner
            -- the version is counted on without overflow
            have hnext : entry.version < entry.version + 1 := by
              rw [UInt64.lt_iff_toNat_lt, UInt64.toNat_add, UInt64.toNat_one, Nat.mod_eq_of_lt hlt]
              omega
            refine ⟨_, happly, UInt64.lt_of_le_of_lt (UInt64.zero_le) hnext, ?_⟩
            obtain ⟨rest, hrest⟩ := h.newest _ _ hentry
            intro old hold
            have hversions := h.versions receiver
            rw [hrest] at hold hversions
            rcases List.mem_cons.mp hold with rfl | hold
            · exact hnext
            · exact UInt64.lt_trans ((List.pairwise_cons.mp hversions).1 old hold) hnext
          · left
            rw [if_neg howner] at happly
            exact happly
  | invalidate receiver owner version =>
      apply h.handle receiver rfl
      rcases DirectoryCall.apply_invalidate x.directory receiver owner version with hnone | hsame
      · exact .inr (.inl hnone)
      · exact .inl hsame

/-- An address that is bound again starts with version one, and a version that cannot be counted on starts
with zero. -/
theorem Ordered.breaks (h : x.Ordered) (hfits : ¬ x.Grows call) : ¬ (x.handle call).Growing := by
  intro hG
  cases call with
  -- bound again after all bindings were gone: version one is not newer
  | bind receiver owner =>
      simp only [Grows, Classical.not_imp] at hfits
      obtain ⟨hentry, hbound⟩ := hfits
      obtain ⟨old, rest, hrest⟩ := List.exists_cons_of_ne_nil hbound
      have hversions := hG.versions receiver
      have hnew := handle_bindings_of_new (.bind receiver owner) receiver rfl (by simp [hentry])
        (DirectoryCall.apply_bind_new hentry)
      rw [hnew, hrest] at hversions
      have hlt : old.version < 1 := (List.pairwise_cons.mp hversions).1 old List.mem_cons_self
      have hpos := h.positive receiver old (hrest ▸ List.mem_cons_self)
      rw [UInt64.lt_iff_toNat_lt] at hlt hpos
      simp only [UInt64.toNat_one, UInt64.toNat_zero] at hlt hpos
      omega
  | rebind receiver oldOwner newOwner =>
      simp only [Grows, not_forall, Nat.not_lt] at hfits
      obtain ⟨entry, hentry, howner, hmax⟩ := hfits
      have happly := DirectoryCall.apply_rebind oldOwner newOwner hentry
      rw [if_pos howner] at happly
      -- the last version there is: the next one is zero
      have hlast : entry.version.toNat = 2 ^ 64 - 1 := by
        have := entry.version.toNat_lt
        omega
      have hzero : entry.version + 1 = 0 := by
        apply UInt64.toNat_inj.mp
        rw [UInt64.toNat_add, UInt64.toNat_one, hlast]
        rfl
      obtain ⟨rest, hrest⟩ := h.newest _ _ hentry
      have hversions := hG.versions receiver
      have hold : x.directory receiver ≠ some ⟨newOwner, entry.version + 1⟩ := by
        rw [hentry]
        intro hsame
        have hversion := congrArg ReceiverEntry.version (Option.some.inj hsame)
        rw [show ReceiverEntry.version ⟨newOwner, entry.version + 1⟩ = entry.version + 1 from rfl, hzero] at hversion
        rw [hversion] at hlast
        exact absurd hlast (by decide)
      have hnew := handle_bindings_of_new (.rebind receiver oldOwner newOwner) receiver rfl hold happly
      rw [hnew, hrest] at hversions
      have hlt : entry.version < entry.version + 1 := (List.pairwise_cons.mp hversions).1 entry List.mem_cons_self
      rw [hzero, UInt64.lt_iff_toNat_lt] at hlt
      exact absurd hlt (Nat.not_lt_zero _)
  | invalidate receiver owner version => exact hfits trivial

/-- **Ownership versions only grow** at all times, and no release with an outdated owner and version takes a
receiver away, exactly along the calls in which no address is bound again after it has been released, and no
version is the last one when its receiver moves. -/
theorem versions_grow (calls : List DirectoryCall) :
    Always handle Growing initial calls ↔ Admitted handle Grows initial calls := by
  apply always_iff_admitted (I := Ordered)
  · refine ⟨?_, ?_, ?_⟩
    · intro receiver entry hentry
      cases hentry
    · intro receiver entry hentry
      cases hentry
    · exact fun _ => List.Pairwise.nil
  · exact fun _ h => h.growing
  · exact fun x call h hfits => h.fits hfits
  · exact fun x call h hfits => h.breaks hfits

/-- A player whose receiver is bound, released and bound again by the same game. -/
def boundAgain : List DirectoryCall :=
  let game : ProcessRef := ⟨⟨10, 1⟩, 1⟩
  let player := playerReceiverAddress 7
  [.bind player game, .invalidate player game 1, .bind player game]

/-- The new binding has the version of the old one, and a release that was resolved before takes it away. -/
theorem versions_start_again :
    ((after handle initial boundAgain).bindings (playerReceiverAddress 7)).map ReceiverEntry.version = [1, 1] ∧
    (after handle initial boundAgain).directory (playerReceiverAddress 7) = some ⟨⟨⟨10, 1⟩, 1⟩, 1⟩ ∧
    ((after handle initial boundAgain).directory.invalidate (playerReceiverAddress 7) ⟨⟨10, 1⟩, 1⟩ 1).1
      (playerReceiverAddress 7) = none := by
  decide

end DirectoryHistory

end SomeServer
