/-
# SomeServer.Fleet.Rows — the stored row of one player

MariaDB holds one row for each stored player. `rowAfter` says what a step of the fleet makes of it, and
`insert_reply` what the answer to an `INSERT` tells about it.
-/
import SomeServer.Fleet.World
import SomeServer.Game.Records

namespace SomeServer

open Lib

variable {G T : Type}

/-- What a step makes of the row of player `p`. -/
def rowAfter (p : PlayerId) (i : FleetInput) (row : Option Blob) : Act → Option Blob
  | .storage (.insert q value) => if q = p ∧ i.fault.executes then some value else row
  | _ => row

/-- What an executed command makes of the rows. -/
theorem World.execute_rows {nowMs : Nat} {w : World} {command : Command} :
    (w.execute nowMs command).1.rows = (match command with
      | .rowInsert q value => Function.update w.rows q (some value)
      | _ => w.rows) := by
  cases command <;> rfl

/-- A command changes what is stored only when it is executed. -/
theorem World.serve_stored {fault : Fault} {nowMs : Nat} {w : World} {command : Command} :
    (w.serve fault nowMs command).1 =
      if fault.executes then (w.execute nowMs command).1 else w := by
  cases fault <;> rfl

namespace Fleet

variable {cfg : G → GameConfiguration} {g : G} {i : FleetInput} {s : Fleet G T} {p : PlayerId}

/-- Rows are written by one section only. -/
theorem command_insert {a : Act} {q : PlayerId} {value : Blob}
    (h : s.command cfg g a i = some (.rowInsert q value)) : a = .storage (.insert q value) := by
  unfold Fleet.command at h
  cases a with
  | storage a =>
      cases a <;> simp only [GameProcess.command, Option.some.injEq, reduceCtorEq] at h
      cases h
      rfl
  | directory a => cases a <;> simp [GameProcess.command] at h
  | lease a | session a => cases a <;> simp [GameProcess.command, GameProcess.releaseCommand] at h
  | clock | repository a | runtime a | ipc a | persistence a => cases h

theorem served_row {a : Act} :
    (s.served cfg g a i).1.rows p = rowAfter p i (s.world.rows p) a := by
  by_cases ha : ∃ q value, a = .storage (.insert q value)
  · obtain ⟨q, value, rfl⟩ := ha
    show ((s.world.expire i.expired).serve i.fault i.serverMs (.rowInsert q value)).1.rows p = _
    rw [World.serve_stored]
    by_cases hq : q = p
    · subst hq
      cases hf : i.fault.executes <;> simp [rowAfter, hf, World.execute, World.expire]
    · cases hf : i.fault.executes <;>
        simp [rowAfter, hf, hq, World.execute, World.expire, Function.update_of_ne (Ne.symm hq)]
  · have hsame : rowAfter p i (s.world.rows p) a = s.world.rows p := by
      unfold rowAfter
      split
      · exact absurd ⟨_, _, rfl⟩ ha
      · rfl
    rw [hsame, served]
    cases hc : s.command cfg g a i with
    | none => rfl
    | some command =>
        show ((s.world.expire i.expired).serve i.fault i.serverMs command).1.rows p = _
        rw [World.serve_stored]
        split
        · rw [World.execute_rows]
          split
          · rename_i q value
            exact absurd ⟨q, value, command_insert hc⟩ ha
          · rfl
        · rfl

/-! ## Replies -/

variable {t : G × T} {s' : Fleet G T} [DecidableEq G]

/-- An `INSERT` that is reported as done has been executed. -/
theorem insert_reply {value : Blob} {r : Result}
    (h : s.exec cfg t (.storage (.insert p value)) i = some (s', r)) (hok : r.ok = true) :
    i.fault.executes = true := by
  obtain ⟨-, hr⟩ := GameProcess.exec_storage (exec_eq h).1
  rw [hr] at hok
  cases hf : i.fault with
  | none => rfl
  | replyLost => rfl
  | dropped =>
      simp [served, Fleet.command, GameProcess.command, World.serve, hf, lostAnswer, FleetInput.env,
        StorageAct.answer, mariaInsert] at hok
  | unavailable =>
      simp [served, Fleet.command, GameProcess.command, World.serve, hf, Command.unavailableAnswer,
        lostAnswer, FleetInput.env, StorageAct.answer, mariaInsert] at hok

end Fleet

end SomeServer
