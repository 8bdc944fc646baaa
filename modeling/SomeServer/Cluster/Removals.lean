/-
# SomeServer.Cluster.Removals — one account directory under several gates

`RemoveAccountIfMatches` reads an entry and deletes it with a second command. The mutex that it holds over
both belongs to its process: it keeps out the other threads of the same gate, and no other gate. Any
number of gates work on the directory here, each with a service of its own and any number of threads;
Redis executes one command after the other, or loses it. What a thread has decided to delete is written
down, and each deletion with the value that it has deleted.
-/
import SomeServer.Cluster.World
import SomeServer.Lib.Protocol

namespace SomeServer

open Lib

variable {G T : Type}

/-! ## Calls -/

/-- The functions of the service. -/
inductive AccountOp where
  | lookupAccount (accountId : String)
  | bindAccount (accountId : String) (owner : GateAccountOwner)
  | removeAccountIfMatches (accountId : String) (owner : GateAccountOwner)
deriving DecidableEq, Repr

abbrev AccountCall (α : Type) : Type := Prog AccountAct AccountAct.Reply α

/-- One section of the service. -/
abbrev accountCall (a : AccountAct) : AccountCall a.Reply := Prog.call a

/-- The program of a call. -/
def AccountOp.code : AccountOp → AccountCall Result
  | .lookupAccount accountId => do
      let _ ← accountCall (.lookupAccount accountId)
      return .success
  | .bindAccount accountId owner => accountCall (.bindAccount accountId owner)
  | .removeAccountIfMatches accountId owner => do
      match ← accountCall (.removeGet accountId owner) with
      | .done result => return result
      | .delete => accountCall (.removeDelete accountId)

/-- The sections of the directory, in a gate. -/
def accountActs : Translation AccountAct.Reply GateAct.Reply := ⟨.account, fun _ r => r⟩

/-- The handlers of a gate run this very program. -/
theorem removeAccountIfMatches_lift (accountId : String) (owner : GateAccountOwner) :
    removeAccountIfMatches accountId owner =
      (AccountOp.code (.removeAccountIfMatches accountId owner)).lift accountActs := by
  show Prog.act _ _ = Prog.act _ _
  congr 1
  funext decision
  cases decision <;> rfl

/-! ## The directory -/

/-- The services of the gates, and what Redis holds. -/
structure AccountDirectory (G T : Type) where
  services : G → GateAccountDirectoryService (G × T) := fun _ => {}
  owners : String → Option String := fun _ => none

namespace AccountDirectory

/-- The directory after a command of gate `g`, and the reply. -/
def served (g : G) (fault : Fault) (s : AccountDirectory G T) (a : AccountAct) :
    (String → Option String) × RedisReply String :=
  if (s.services g).redis then Cluster.serveAccount fault s.owners a else (s.owners, .nil)

variable [DecidableEq G]

/-- One section of a thread. -/
def exec (t : G × T) (fault : Fault) (s : AccountDirectory G T) (a : AccountAct) :
    Option (AccountDirectory G T × a.Reply) :=
  ((s.services t.1).exec t (s.served t.1 fault a).2 a).map fun x =>
    ({ services := Function.update s.services t.1 x.1, owners := (s.served t.1 fault a).1 }, x.2)

/-- The directory as a machine. -/
def machine : Machine (G × T) AccountAct AccountAct.Reply Fault (AccountDirectory G T) where
  exec t a fault s := s.exec t fault a

end AccountDirectory

/-! ## What is written down -/

/-- An entry that has been deleted, and the owner that the call was given. -/
structure Removal where
  accountId : String
  owner : GateAccountOwner
  value : String
deriving DecidableEq, Repr

/-- `matched` is the entry that a thread has found to name its owner, until it has sent its `DEL`. -/
structure RemovalLog (T : Type) where
  matched : T → Option (String × GateAccountOwner) := fun _ => none
  removals : List Removal := []

namespace RemovalLog

variable [DecidableEq T]

/-- What a thread is about to delete after a section. -/
def matchedNext (x : Option (String × GateAccountOwner)) : (a : AccountAct) → a.Reply →
    Option (String × GateAccountOwner)
  | .removeGet accountId owner, .delete => some (accountId, owner)
  | .removeDelete _, _ => none
  | _, _ => x

/-- The entry that a section takes out of the directory. -/
def removed (owners owners' : String → Option String) (x : Option (String × GateAccountOwner)) :
    AccountAct → List Removal
  | .removeDelete accountId =>
      match owners accountId, owners' accountId, x with
      | some value, none, some (_, owner) => [⟨accountId, owner, value⟩]
      | _, _, _ => []
  | _ => []

/-- What is written down about a section. -/
def record (t : T) (a : AccountAct) (owners owners' : String → Option String) (r : a.Reply)
    (log : RemovalLog T) : RemovalLog T where
  matched := Function.update log.matched t (matchedNext (log.matched t) a r)
  removals := removed owners owners' (log.matched t) a ++ log.removals

end RemovalLog

/-- The entry that a thread may be about to delete is the one that its call was given. -/
def removalProtocol (T : Type) :
    Protocol T AccountOp AccountAct AccountAct.Reply (Option (String × GateAccountOwner)) where
  fits _ o x a := match a with
    | .removeGet accountId owner => x = none ∧ o = .removeAccountIfMatches accountId owner
    | .removeDelete accountId => ∃ owner, x = some (accountId, owner) ∧
        o = .removeAccountIfMatches accountId owner
    | _ => x = none
  next _ x a r := RemovalLog.matchedNext x a r
  rest _ x := x = none

variable [DecidableEq G] [DecidableEq T]

/-- The directory with its history. -/
def removalMachine (G T : Type) [DecidableEq G] [DecidableEq T] :
    Machine (G × T) AccountAct AccountAct.Reply Fault (AccountDirectory G T × RemovalLog (G × T)) :=
  AccountDirectory.machine.withHistory fun t a _ s s' r log => log.record t a s.owners s'.owners r

abbrev RemovalPool (G T : Type) : Type :=
  Pool (G × T) AccountOp AccountAct AccountAct.Reply Result (AccountDirectory G T × RemovalLog (G × T))

/-- No `SET` of another owner is executed for an account while a thread of another gate, having found its
own owner there, has not yet sent its `DEL`. -/
def noNewOwner (c : RemovalPool G T) : Move (G × T) AccountOp Fault → Prop
  | .start _ _ => True
  | .act t fault => match c.pending t with
    | some (.bindAccount accountId owner) => (c.shared.1.services t.1).redis = true →
        fault.executes = true → ∀ u, u.1 ≠ t.1 →
          ∀ x ∈ c.shared.2.matched u, x.1 = accountId → x.2 = owner
    | _ => True

/-! ## One section -/

namespace RemovalLog

omit [DecidableEq T] in
/-- Every section but a `DEL` waits for the mutex, and leaves it free unless a `DEL` is to follow. -/
theorem exec_mutex {d d' : GateAccountDirectoryService T} {t : T} {reply : RedisReply String}
    {a : AccountAct} {r : a.Reply} (x : Option (String × GateAccountOwner))
    (h : d.exec t reply a = some (d', r)) :
    (∃ accountId, a = .removeDelete accountId ∧ matchedNext x a r = none) ∨
    d.mutex = none ∧ (matchedNext x a r = x ∨ ∃ accountId owner, a = .removeGet accountId owner ∧
      d'.mutex = some t ∧ matchedNext x a r = some (accountId, owner) ∧ d.redis = true ∧
        GateAccountDirectoryService.readOwner reply = some owner) := by
  cases a with
  | removeDelete accountId => exact .inl ⟨accountId, rfl, rfl⟩
  | lookupAccount _ | bindAccount _ _ =>
      simp only [GateAccountDirectoryService.exec, Option.ite_none_left_eq_some] at h
      exact .inr ⟨by simpa using h.1, .inl rfl⟩
  | removeGet accountId owner =>
      simp only [GateAccountDirectoryService.exec] at h
      split at h
      · cases h
      · rename_i hfree
        refine .inr ⟨by simpa using hfree, ?_⟩
        cases h
        unfold GateAccountDirectoryService.removeGet
        split
        · exact .inl rfl
        · rename_i hredis
          split
          · exact .inl rfl
          · split
            · rename_i howner
              exact .inr ⟨accountId, owner, rfl, rfl, rfl, by simpa using hredis, howner⟩
            · exact .inl rfl

end RemovalLog

/-- Between its two commands a thread has the mutex of its gate, and the entry, while there is one, names
the owner of the call. -/
structure Guarded (x : AccountDirectory G T × RemovalLog (G × T)) : Prop where
  held : ∀ t y, x.2.matched t = some y → (x.1.services t.1).mutex = some t
  named : ∀ t accountId owner, x.2.matched t = some (accountId, owner) →
    ∀ value, x.1.owners accountId = some value → GateAccountOwner.parseValue value = some owner
  removals : ∀ r ∈ x.2.removals, GateAccountOwner.parseValue r.value = some r.owner

section Section

variable {x : AccountDirectory G T × RemovalLog (G × T)} {t u : G × T} {o : AccountOp} {a : AccountAct}
  {r : a.Reply} {fault : Fault} {s : AccountDirectory G T}

omit [DecidableEq T] in
theorem exec_directory (h : x.1.exec t fault a = some (s, r)) : ∃ d,
    (x.1.services t.1).exec t (x.1.served t.1 fault a).2 a = some (d, r) ∧
      s = ⟨Function.update x.1.services t.1 d, (x.1.served t.1 fault a).1⟩ := by
  obtain ⟨⟨d, r'⟩, hd, heq⟩ := Option.map_eq_some_iff.mp h
  cases heq
  exact ⟨d, hd, rfl⟩

omit [DecidableEq T] in
/-- While a thread runs a section, no other thread of its gate is between its two commands. -/
theorem Guarded.alone (h : Guarded x) (hfits : (removalProtocol (G × T)).fits t o (x.2.matched t) a)
    (hexec : x.1.exec t fault a = some (s, r)) (hu : u ≠ t) (hgate : u.1 = t.1) :
    x.2.matched u = none := by
  apply Option.eq_none_iff_forall_ne_some.mpr
  intro y hy
  have hmutex := h.held u y hy
  rw [hgate] at hmutex
  obtain ⟨d, hd, -⟩ := exec_directory hexec
  rcases RemovalLog.exec_mutex none hd with ⟨accountId, rfl, -⟩ | ⟨hfree, -⟩
  · obtain ⟨owner, hown, -⟩ := hfits
    rw [h.held t _ hown] at hmutex
    exact hu (Option.some.inj hmutex).symm
  · rw [hfree] at hmutex
    cases hmutex

omit [DecidableEq T] in
/-- What an entry names after a section was there before, or the section has bound it. -/
theorem exec_owners (h : x.1.exec t fault a = some (s, r)) {accountId value : String}
    (hvalue : s.owners accountId = some value) : x.1.owners accountId = some value ∨
      ∃ owner, a = .bindAccount accountId owner ∧ (x.1.services t.1).redis = true ∧
        fault.executes = true ∧ value = GateAccountOwner.buildValue owner := by
  obtain ⟨d, -, rfl⟩ := exec_directory h
  simp only [AccountDirectory.served] at hvalue
  split at hvalue
  · rename_i hredis
    rcases Cluster.serveAccount_owners hvalue with hold | ⟨owner, ha, hexecutes, hbound⟩
    · exact .inl hold
    · exact .inr ⟨owner, ha, hredis, hexecutes, hbound⟩
  · exact .inl hvalue

/-- One section keeps the invariant. -/
theorem Guarded.exec (h : Guarded x) (hfits : (removalProtocol (G × T)).fits t o (x.2.matched t) a)
    (hbind : ∀ accountId owner, a = .bindAccount accountId owner →
      (x.1.services t.1).redis = true → fault.executes = true →
        ∀ u, u.1 ≠ t.1 → ∀ y ∈ x.2.matched u, y.1 = accountId → y.2 = owner)
    (hexec : x.1.exec t fault a = some (s, r)) :
    Guarded (s, x.2.record t a x.1.owners s.owners r) := by
  obtain ⟨d, hd, hs⟩ := exec_directory hexec
  -- the thread itself, when it has just found its owner in the directory
  have hself : ∀ y, RemovalLog.matchedNext (x.2.matched t) a r = some y → d.mutex = some t ∧
      ∀ value, s.owners y.1 = some value → GateAccountOwner.parseValue value = some y.2 := by
    intro y hy
    rcases RemovalLog.exec_mutex (x.2.matched t) hd with ⟨-, -, hnone⟩ | ⟨hfree, hsame | hget⟩
    · rw [hnone] at hy
      cases hy
    · rw [hsame] at hy
      have := h.held t y hy
      rw [hfree] at this
      cases this
    · obtain ⟨accountId, owner, rfl, hmutex, hnext, hredis, hread⟩ := hget
      rw [hnext] at hy
      cases hy
      refine ⟨hmutex, fun value hvalue => ?_⟩
      rcases exec_owners hexec hvalue with hold | ⟨_, hbound, -⟩
      · simp only [AccountDirectory.served, hredis, if_true] at hread
        obtain ⟨value', hvalue', hparse⟩ := Cluster.readOwner_serveAccount (.inr ⟨owner, rfl⟩) hread
        rw [hold] at hvalue'
        cases hvalue'
        exact hparse
      · cases hbound
  constructor
  · intro u y hy
    simp only [RemovalLog.record] at hy
    subst hs
    by_cases hu : u = t
    · subst hu
      rw [Function.update_self] at hy
      simpa using (hself y hy).1
    · rw [Function.update_of_ne hu] at hy
      have hgate : u.1 ≠ t.1 := by
        intro hgate
        rw [h.alone hfits hexec hu hgate] at hy
        cases hy
      simpa only [Function.update_of_ne hgate] using h.held u y hy
  · intro u accountId owner hy value hvalue
    simp only [RemovalLog.record] at hy
    by_cases hu : u = t
    · subst hu
      rw [Function.update_self] at hy
      exact (hself _ hy).2 value hvalue
    · rw [Function.update_of_ne hu] at hy
      rcases exec_owners hexec hvalue with hold | ⟨bound, ha, hredis, hexecutes, rfl⟩
      · exact h.named u accountId owner hy value hold
      · have hgate : u.1 ≠ t.1 := by
          intro hgate
          rw [h.alone hfits hexec hu hgate] at hy
          cases hy
        obtain rfl : owner = bound := hbind accountId bound ha hredis hexecutes u hgate _ hy rfl
        exact GateAccountOwner.parseValue_buildValue owner
  · intro removal hremoval
    simp only [RemovalLog.record, List.mem_append] at hremoval
    rcases hremoval with hnew | hold
    · cases a with
      | removeDelete accountId =>
          obtain ⟨owner, hown, -⟩ := hfits
          simp only [RemovalLog.removed, hown] at hnew
          split at hnew
          · rename_i value _ _ hvalue _ heq
            cases heq
            obtain rfl := List.mem_singleton.mp hnew
            exact h.named t accountId owner hown value hvalue
          · cases hnew
      | lookupAccount _ | bindAccount _ _ | removeGet _ _ => cases hnew
    · exact h.removals removal hold

end Section

/-! ## Runs -/

omit [DecidableEq T] in
/-- Every call keeps to the protocol. -/
theorem AccountOp.follows (t : T) (o : AccountOp) :
    (removalProtocol T).Follows t o (fun _ y => y = none) o.code none := by
  cases o with
  | lookupAccount _ | bindAccount _ _ => exact ⟨rfl, fun _ => rfl⟩
  | removeAccountIfMatches accountId owner =>
      refine ⟨⟨rfl, rfl⟩, fun decision => ?_⟩
      cases decision with
      | done _ => rfl
      | delete => exact ⟨⟨owner, rfl, rfl⟩, fun _ => rfl⟩

theorem removalMachine_exec {t : G × T} {a : AccountAct} {fault : Fault} {r : a.Reply}
    {x y : AccountDirectory G T × RemovalLog (G × T)}
    (h : (removalMachine G T).exec t a fault x = some (y, r)) :
    x.1.exec t fault a = some (y.1, r) ∧ y.2 = x.2.record t a x.1.owners y.1.owners r :=
  Machine.withHistory_exec h

section Runs

variable {services : G → GateAccountDirectoryService (G × T)} {owners : String → Option String}
  {guard : RemovalPool G T → Move (G × T) AccountOp Fault → Prop} {c : RemovalPool G T}

/-- The entry that a thread is about to delete. -/
def matchedBy (x : AccountDirectory G T × RemovalLog (G × T)) (t : G × T) :
    Option (String × GateAccountOwner) := x.2.matched t

omit [DecidableEq G] [DecidableEq T] in
theorem follows_matchedBy (c : RemovalPool G T) (t : G × T) (o : AccountOp)
    (hrest : (removalProtocol (G × T)).rest t (matchedBy c.shared t)) :
    (removalProtocol (G × T)).Follows t o (fun _ y => (removalProtocol (G × T)).rest t y) o.code
      (matchedBy c.shared t) := by
  rw [show matchedBy c.shared t = none from hrest]
  exact o.follows t

theorem matchedBy_exec (t : G × T) (a : AccountAct) (fault : Fault)
    (x y : AccountDirectory G T × RemovalLog (G × T)) (r : a.Reply)
    (hx : (removalMachine G T).exec t a fault x = some (y, r)) :
    matchedBy y = Function.update (matchedBy x) t
      ((removalProtocol (G × T)).next t (matchedBy x t) a r) := by
  show y.2.matched = _
  rw [(removalMachine_exec hx).2]
  rfl

/-- Every deletion is written down: the call of the thread that deletes an entry was given this account,
and its owner is noted beside the value. -/
theorem removal_recorded (h : Run (removalMachine G T) (fun _ => AccountOp.code) guard
      (Pool.initial (⟨services, owners⟩, {})) c)
    {c' : RemovalPool G T} {t : G × T} {fault : Fault}
    (hm : c.move (removalMachine G T) (fun _ => AccountOp.code) (.act t fault) = some c')
    {accountId value : String} (hwas : c.shared.1.owners accountId = some value)
    (hgone : c'.shared.1.owners accountId = none) :
    ∃ owner p, c.threads t = some (.removeAccountIfMatches accountId owner, p) ∧
      c'.shared.2.removals = ⟨accountId, owner, value⟩ :: c.shared.2.removals := by
  obtain ⟨o, a, k, y, r, ht, hx, rfl⟩ := Pool.move_act hm
  have hprog := Protocol.run_followed (fun c t o _ => follows_matchedBy c t o) matchedBy_exec
    (by exact fun _ => rfl) h t
  rw [ht] at hprog
  obtain ⟨hexec, hlog⟩ := removalMachine_exec hx
  obtain ⟨d, -, hs⟩ := exec_directory hexec
  have hserved : (c.shared.1.served t.1 fault a).1 accountId = none := by
    rw [← hgone, hs]
  have hchanged : a = .removeDelete accountId := by
    simp only [AccountDirectory.served] at hserved
    split at hserved
    · exact Cluster.serveAccount_none hwas hserved
    · exact absurd (hwas.symm.trans hserved) (Option.some_ne_none _)
  subst hchanged
  obtain ⟨owner, hown, rfl⟩ := hprog.1
  refine ⟨owner, _, ht, ?_⟩
  rw [hlog]
  simp only [RemovalLog.record, RemovalLog.removed]
  rw [hwas, show y.1.owners accountId = none from hgone,
    show c.shared.2.matched t = some (accountId, owner) from hown]
  rfl

/-- **A removal deletes the entry of its own owner**, in every run in which no other owner is bound to the
account by another gate between the comparison and the deletion. -/
theorem removals_match
    (h : Run (removalMachine G T) (fun _ => AccountOp.code) noNewOwner
      (Pool.initial (⟨services, owners⟩, {})) c) :
    ∀ removal ∈ c.shared.2.removals,
      GateAccountOwner.parseValue removal.value = some removal.owner := by
  have hguarded : Guarded c.shared := by
    refine Protocol.run_invariant (fun c t o _ => follows_matchedBy c t o) matchedBy_exec
      (by exact fun _ => rfl) ?_ ?_ h
    · refine ⟨fun t y hy => ?_, fun t accountId owner hy => ?_, fun removal hremoval => ?_⟩
      · cases hy
      · cases hy
      · cases hremoval
    · intro c t o a k fault y r hguard ht hfits hI hx
      obtain ⟨hexec, hlog⟩ := removalMachine_exec hx
      have hstep := hI.exec hfits ?_ hexec
      · rw [← hlog] at hstep
        exact hstep
      · rintro accountId owner rfl
        have hpending : c.pending t = some (.bindAccount accountId owner) :=
          Pool.pending_eq_some.mpr ⟨o, k, ht⟩
        simp only [noNewOwner, hpending] at hguard
        exact hguard
  exact hguarded.removals

end Runs

/-! ### Two gates -/

section TwoGates

/-- A gate session of gate `i`. -/
def seventhSession (i : UInt32) : GateAccountOwner := ⟨20, i, 7⟩

/-- Two gates with one thread each, and an empty directory. -/
def twoGates : RemovalPool Bool Unit := Pool.initial ({}, {})

/-- No `SET` while one of the two gates is about to send a `DEL`. -/
def nobodyMatched (c : RemovalPool Bool Unit) : Move (Bool × Unit) AccountOp Fault → Bool
  | .start _ _ => true
  | .act t _ => match c.pending t with
    | some (.bindAccount _ _) =>
        (c.shared.2.matched (false, ())).isNone && (c.shared.2.matched (true, ())).isNone
    | _ => true

theorem noNewOwner_of_nobodyMatched (c : RemovalPool Bool Unit) (m : Move (Bool × Unit) AccountOp Fault)
    (h : nobodyMatched c m = true) : noNewOwner c m := by
  cases m with
  | start t o => trivial
  | act t fault =>
      simp only [nobodyMatched] at h
      simp only [noNewOwner]
      split
      · rename_i accountId owner hpending
        rw [hpending] at h
        simp only [Bool.and_eq_true, Option.isNone_iff_eq_none] at h
        rintro - - ⟨g, ⟨⟩⟩ - y hy
        cases g with
        | false =>
            rw [h.1] at hy
            cases hy
        | true =>
            rw [h.2] at hy
            cases hy
      · trivial

/-- One gate binds the account and removes it, and then the other one binds it. -/
def oneAfterAnother : List (Move (Bool × Unit) AccountOp Fault) :=
  [.start (false, ()) (.bindAccount "a" (seventhSession 1)), .act (false, ()) .none,
    .start (false, ()) (.removeAccountIfMatches "a" (seventhSession 1)), .act (false, ()) .none,
    .act (false, ()) .none,
    .start (true, ()) (.bindAccount "a" (seventhSession 2)), .act (true, ()) .none]

theorem removals_match_after : ∃ c, twoGates.play (removalMachine Bool Unit) (fun _ => AccountOp.code)
      nobodyMatched oneAfterAnother = some c ∧
    c.shared.1.owners "a" = some (GateAccountOwner.buildValue (seventhSession 2)) ∧
    ∃ removal ∈ c.shared.2.removals, removal.owner = seventhSession 1 ∧
      GateAccountOwner.parseValue removal.value = some removal.owner := by
  have hend : (twoGates.play (removalMachine Bool Unit) (fun _ => AccountOp.code) nobodyMatched
      oneAfterAnother).map (fun c => (c.shared.1.owners "a", c.shared.2.removals)) =
      some (some (GateAccountOwner.buildValue (seventhSession 2)),
        [⟨"a", seventhSession 1, GateAccountOwner.buildValue (seventhSession 1)⟩]) := rfl
  obtain ⟨c, hc, hcs⟩ := Option.map_eq_some_iff.mp hend
  simp only [Prod.mk.injEq] at hcs
  obtain ⟨howner, hremovals⟩ := hcs
  have hrun := Run.refl.play noNewOwner_of_nobodyMatched hc
  refine ⟨c, hc, howner,
    ⟨"a", seventhSession 1, GateAccountOwner.buildValue (seventhSession 1)⟩, ?_, rfl,
    removals_match hrun _ ?_⟩
  · rw [hremovals]
    exact List.mem_singleton_self _
  · rw [hremovals]
    exact List.mem_singleton_self _

/-- The second gate binds the account between the two commands of the first one's removal. -/
def boundInBetween : List (Move (Bool × Unit) AccountOp Fault) :=
  [.start (false, ()) (.bindAccount "a" (seventhSession 1)), .act (false, ()) .none,
    .start (false, ()) (.removeAccountIfMatches "a" (seventhSession 1)), .act (false, ()) .none,
    .start (true, ()) (.bindAccount "a" (seventhSession 2)), .act (true, ()) .none,
    .act (false, ()) .none]

/-- No command is lost, and the newer owner's entry is gone. -/
theorem newer_owner_removed : ∃ c, Run (removalMachine Bool Unit) (fun _ => AccountOp.code)
      (fun _ _ => True) twoGates c ∧ c.shared.1.owners "a" = none ∧
    ∃ removal ∈ c.shared.2.removals, removal.owner = seventhSession 1 ∧
      GateAccountOwner.parseValue removal.value = some (seventhSession 2) := by
  have hend : (twoGates.play (removalMachine Bool Unit) (fun _ => AccountOp.code) (fun _ _ => true)
      boundInBetween).map (fun c => (c.shared.1.owners "a", c.shared.2.removals)) =
      some (none, [⟨"a", seventhSession 1, GateAccountOwner.buildValue (seventhSession 2)⟩]) := rfl
  obtain ⟨c, hc, hcs⟩ := Option.map_eq_some_iff.mp hend
  simp only [Prod.mk.injEq] at hcs
  obtain ⟨howner, hremovals⟩ := hcs
  refine ⟨c, Run.refl.play (fun _ _ _ => trivial) hc, howner,
    ⟨"a", seventhSession 1, GateAccountOwner.buildValue (seventhSession 2)⟩, ?_, rfl,
    GateAccountOwner.parseValue_buildValue _⟩
  rw [hremovals]
  exact List.mem_singleton_self _

end TwoGates

end SomeServer
