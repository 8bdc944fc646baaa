/-
# SomeServer.Gate.Wires — `Send`, and the clients behind the descriptors

`GateConnectionService::Send` copies the descriptor of a connection under the mutex and writes to it without: a
header and then a payload, each with as many `send` calls as it takes. Meanwhile another thread may close the
connection, and the system may give the number to the next client that is accepted. Here the look-up and each `send`
call are sections of their own and the other sections are those of `GateProcess`; `GateWires` has the descriptor of
each connection and the client behind each descriptor.

A program of the gate is one with finer sections when each `Send` is taken apart (`wire`), and a protocol of its
sections is one of the finer ones, in which a thread may be writing (`wiredProtocol`).
-/
import SomeServer.Gate.Sections
import SomeServer.Lib.Protocol

namespace SomeServer

open Lib

/-! ## Descriptors -/

/-- `fds` is `mSocketByConnectionId`; `clients` are the connections behind the descriptors that were accepted and are
open. Behind any other number is no client: it is closed, or something else of the process. -/
structure GateWires where
  fds : ConnectionId → Option Int := fun _ => none
  clients : Int → Option ConnectionId := fun _ => none
  wired : ∀ connectionId fd, fds connectionId = some fd → clients fd = some connectionId := by simp

namespace GateWires

/-- A client is accepted with a descriptor that has none. -/
def accept (w : GateWires) (connectionId : ConnectionId) (fd : Int) (hfree : w.clients fd = none) : GateWires where
  fds := Function.update w.fds connectionId (some fd)
  clients := Function.update w.clients fd (some connectionId)
  wired connectionId' fd' h := by
    by_cases hid : connectionId' = connectionId
    · subst hid
      rw [Function.update_self] at h
      cases h
      exact Function.update_self ..
    · rw [Function.update_of_ne hid] at h
      have hfd : fd' ≠ fd := by
        rintro rfl
        have hclient := w.wired connectionId' fd' h
        rw [hfree] at hclient
        cases hclient
      rw [Function.update_of_ne hfd]
      exact w.wired connectionId' fd' h

/-- `CloseSocketLocked`. -/
def closeSocket (w : GateWires) (connectionId : ConnectionId) : GateWires :=
  match hfd : w.fds connectionId with
  | none => w
  | some fd =>
      { fds := Function.update w.fds connectionId none
        clients := Function.update w.clients fd none
        wired := by
          intro connectionId' fd' h
          by_cases hid : connectionId' = connectionId
          · subst hid
            rw [Function.update_self] at h
            cases h
          · rw [Function.update_of_ne hid] at h
            have hclient := w.wired connectionId' fd' h
            have hne : fd' ≠ fd := by
              rintro rfl
              exact hid (Option.some.inj (hclient.symm.trans (w.wired connectionId fd' hfd)))
            rw [Function.update_of_ne hne]
            exact hclient }

/-- What a section of the gate does to the descriptors; `accept` brings a number behind which there is no client. -/
def after (w : GateWires) (fd : Int) (s : GateConnectionService) : GateAct → Option GateWires
  | .connection .acceptReadySocket =>
      if h : w.clients fd = none then some (w.accept s.nextConnectionId fd h) else none
  | .connection (.closeEnter connectionId) =>
      some (if (s.connections connectionId).isSome then w.closeSocket connectionId else w)
  | .connection (.finalize connectionId) => some (w.closeSocket connectionId)
  | _ => some w

variable {w w' : GateWires} {connectionId : ConnectionId} {fd fd' : Int}

theorem closeSocket_fds : (w.closeSocket connectionId).fds = Function.update w.fds connectionId none := by
  unfold closeSocket
  split
  · rename_i hnone
    rw [← hnone, Function.update_eq_self]
  · rfl

/-- A descriptor keeps its client, or has none any more. -/
theorem closeSocket_clients : (w.closeSocket connectionId).clients fd = w.clients fd ∨
    (w.closeSocket connectionId).clients fd = none := by
  unfold closeSocket
  split
  · exact .inl rfl
  · rename_i fd' _
    by_cases hfd : fd = fd'
    · subst hfd
      exact .inr (Function.update_self ..)
    · exact .inl (Function.update_of_ne hfd ..)

/-- Only a client that is accepted comes behind a number. -/
theorem after_clients {s : GateConnectionService} {a : GateAct} (h : w.after fd s a = some w')
    (hfd : a = .connection .acceptReadySocket → fd' ≠ fd) :
    w'.clients fd' = w.clients fd' ∨ w'.clients fd' = none := by
  unfold after at h
  split at h
  · split at h
    · cases h
      exact .inl (Function.update_of_ne (hfd rfl) ..)
    · cases h
  · cases h
    split
    · exact closeSocket_clients
    · exact .inl rfl
  · cases h
    exact closeSocket_clients
  · cases h
    exact .inl rfl

end GateWires

/-! ## Sections -/

/-- A section of the gate, or a part of `Send`: the look-up, and a `send` call for what is left of the frame. -/
inductive WiredAct where
  | gate (a : GateAct)
  | lookUp (connectionId : ConnectionId) (message : ClientMessage)
  | write (connectionId : ConnectionId) (fd : Int) (message : ClientMessage)

/-- A look-up brings the descriptor, and how many `send` calls the frame will take beyond the first. -/
@[reducible] def WiredAct.Reply : WiredAct → Type
  | .gate a => a.Reply
  | .lookUp _ _ => Option (Int × Nat)
  | .write _ _ _ => Result

/-- What the outside decides for a section, and the number of a new descriptor and of the `send` calls. -/
structure WiredInput extends GateEnv where
  fd : Int := -1
  calls : Nat := 0

/-- A gate with its descriptors. -/
structure WiredGate (T : Type) where
  gate : GateProcess T := {}
  wires : GateWires := {}

namespace WiredGate

variable {T : Type}

def exec (t : T) (i : WiredInput) (s : WiredGate T) : (a : WiredAct) → Option (WiredGate T × a.Reply)
  | .gate a => (s.wires.after i.fd s.gate.connection a).bind fun wires =>
      (s.gate.exec t i.toGateEnv a).map fun x => (⟨x.1, wires⟩, x.2)
  | .lookUp connectionId _ => some (s, (s.wires.fds connectionId).map fun fd => (fd, i.calls))
  | .write _ _ _ => some (s, i.written)

/-- The gate and the system as a machine. -/
def machine : Machine T WiredAct WiredAct.Reply WiredInput (WiredGate T) where
  exec t a i s := s.exec t i a

variable {t : T} {i : WiredInput} {s s' : WiredGate T}

theorem exec_gate {a : GateAct} {r : a.Reply} (h : s.exec t i (.gate a) = some (s', r)) :
    s.wires.after i.fd s.gate.connection a = some s'.wires ∧ s.gate.exec t i.toGateEnv a = some (s'.gate, r) := by
  obtain ⟨wires, hwires, hmap⟩ := Option.bind_eq_some_iff.mp h
  obtain ⟨x, hexec, heq⟩ := Option.map_eq_some_iff.mp hmap
  cases heq
  exact ⟨hwires, hexec⟩

/-- The connections that have a descriptor are those that the gate has a socket for. -/
def Keyed (s : WiredGate T) : Prop :=
  ∀ connectionId, (s.wires.fds connectionId).isSome = s.gate.connection.sockets connectionId

/-- A section of the connection service opens and closes the same connections on both sides. -/
theorem Keyed.connection {a : ConnectionAct} {w : GateWires} (hkeyed : s.Keyed)
    (hwires : s.wires.after i.fd s.gate.connection (.connection a) = some w) (connectionId : ConnectionId) :
    (w.fds connectionId).isSome = (s.gate.connection.exec i.toGateEnv a).1.sockets connectionId := by
  have hclose : ∀ connectionId connectionId', ((s.wires.closeSocket connectionId).fds connectionId').isSome =
      Function.update s.gate.connection.sockets connectionId false connectionId' := by
    intro connectionId connectionId'
    rw [GateWires.closeSocket_fds]
    by_cases hid : connectionId' = connectionId
    · subst hid
      rw [Function.update_self, Function.update_self]
      rfl
    · rw [Function.update_of_ne hid, Function.update_of_ne hid]
      exact hkeyed connectionId'
  cases a with
  | acceptReadySocket =>
      simp only [GateWires.after, Option.dite_none_right_eq_some] at hwires
      obtain ⟨hfree, hwires⟩ := hwires
      rw [← Option.some.inj hwires]
      by_cases hid : connectionId = s.gate.connection.nextConnectionId
      · subst hid
        simp [GateWires.accept, GateConnectionService.exec, GateConnectionService.acceptReadySocket]
      · simpa [GateWires.accept, GateConnectionService.exec, GateConnectionService.acceptReadySocket, hid]
          using hkeyed connectionId
  | closeEnter closing =>
      rw [← Option.some.inj hwires]
      simp only [GateConnectionService.exec, GateConnectionService.closeEnter]
      split
      · exact hclose closing connectionId
      · exact hkeyed connectionId
  | finalize closing =>
      rw [← Option.some.inj hwires]
      simp only [GateConnectionService.exec, GateConnectionService.finalize]
      split
      · exact hclose closing connectionId
      · exact hclose closing connectionId
  | accept marked | markAnonymous marked | markBound marked =>
      rw [← Option.some.inj hwires]
      simp only [GateConnectionService.exec, GateConnectionService.accept, GateConnectionService.mark]
      split
      · exact hkeyed connectionId
      · exact hkeyed connectionId
  | send receiver message =>
      rw [← Option.some.inj hwires]
      exact hkeyed connectionId

theorem Keyed.exec {a : WiredAct} {r : a.Reply} (hkeyed : s.Keyed) (h : s.exec t i a = some (s', r)) : s'.Keyed := by
  cases a with
  | lookUp connectionId message | write connectionId fd message =>
      cases h
      exact hkeyed
  | gate a =>
      obtain ⟨hwires, hexec⟩ := exec_gate h
      cases a with
      | connection a =>
          rw [Keyed, (GateProcess.exec_connection hexec).1]
          exact hkeyed.connection hwires
      | session _ | routing _ | account _ | pending _ | sendProcessPayload _ _ =>
          have hsame := (GateProcess.exec_connections hexec).resolve_right (by simp)
          rw [Keyed, hsame, ← Option.some.inj hwires]
          exact hkeyed

end WiredGate

/-! ## Programs -/

abbrev WiredCall := Prog WiredAct WiredAct.Reply

def wired (a : WiredAct) : WiredCall a.Reply := Prog.call a

/-- `WriteExact`, for header and payload: one `send` call after the other, until one fails. -/
def WiredGate.writeExact (connectionId : ConnectionId) (fd : Int) (message : ClientMessage) :
    (calls : Nat) → WiredCall Result
  | 0 => wired (.write connectionId fd message)
  | calls + 1 => do
      let written ← wired (.write connectionId fd message)
      if written.ok then writeExact connectionId fd message calls else return written

/-- `GateConnectionService::Send`. -/
def sendFrame (connectionId : ConnectionId) (message : ClientMessage) : WiredCall Result := do
  match ← wired (.lookUp connectionId message) with
  | none => return .failure "connection socket does not exist"
  | some (fd, calls) => WiredGate.writeExact connectionId fd message calls

/-- A section of the gate; `Send` is taken apart. -/
def wireAct : (a : GateAct) → WiredCall a.Reply
  | .connection (.send connectionId message) => sendFrame connectionId message
  | a => wired (.gate a)

/-- A program of the gate, with its `Send`s taken apart. -/
def wire {α : Type} (p : GateCall α) : WiredCall α := p.refine wireAct

/-! ## Protocols -/

/-- What a thread writes: to a connection, by the descriptor that it has looked up, with so many `send` calls
to come after the next. -/
structure Writing where
  connectionId : ConnectionId
  fd : Int
  left : Nat
deriving DecidableEq, Repr

section

variable {T P α : Type} (L : Protocol T GateOp GateAct GateAct.Reply P)

/-- A protocol of the gate's sections, with the points within a `Send`. -/
def wiredProtocol : Protocol T GateOp WiredAct WiredAct.Reply (P × Option Writing) where
  fits t o x
    | .gate a => x.2 = none ∧ (∀ connectionId message, a ≠ .connection (.send connectionId message)) ∧
        L.fits t o x.1 a
    | .lookUp connectionId message => x.2 = none ∧ L.fits t o x.1 (.connection (.send connectionId message))
    | .write connectionId fd message => (∃ left, x.2 = some ⟨connectionId, fd, left⟩) ∧
        L.fits t o x.1 (.connection (.send connectionId message))
  next t x
    | .gate a, r => (L.next t x.1 a r, none)
    | .lookUp connectionId _, some (fd, calls) => (x.1, some ⟨connectionId, fd, calls⟩)
    | .lookUp connectionId message, none =>
        (L.next t x.1 (.connection (.send connectionId message)) (.failure "connection socket does not exist"), none)
    | .write connectionId fd message, r =>
        match x.2, r.ok with
        | some ⟨_, _, left + 1⟩, true => (x.1, some ⟨connectionId, fd, left⟩)
        | _, _ => (L.next t x.1 (.connection (.send connectionId message)) r, none)
  rest t x := x.2 = none ∧ L.rest t x.1

variable {L} {t : T} {o : GateOp} {x : P}

theorem writeExact_follows {connectionId : ConnectionId} {fd : Int} {message : ClientMessage}
    (hfits : L.fits t o x (.connection (.send connectionId message))) (calls : Nat) :
    (wiredProtocol L).Follows t o
      (fun r y => y = (L.next t x (.connection (.send connectionId message)) r, none))
      (WiredGate.writeExact connectionId fd message calls) (x, some ⟨connectionId, fd, calls⟩) := by
  induction calls with
  | zero => exact ⟨⟨⟨0, rfl⟩, hfits⟩, fun r => rfl⟩
  | succ calls ih =>
      refine Protocol.follows_seq ⟨⟨calls + 1, rfl⟩, hfits⟩ fun r => ?_
      show (wiredProtocol L).Follows t o _ (if r.ok then _ else _) _
      cases hok : r.ok with
      | true =>
          simp only [wiredProtocol, hok, if_true]
          exact ih
      | false =>
          simp only [wiredProtocol, hok]
          exact Protocol.follows_ret rfl

theorem wireAct_follows {a : GateAct} (hfits : L.fits t o x a) :
    (wiredProtocol L).Follows t o (fun r y => y = (L.next t x a r, none)) (wireAct a) (x, none) := by
  have hgate : (∀ connectionId message, a ≠ .connection (.send connectionId message)) →
      (wiredProtocol L).Follows t o (fun r y => y = (L.next t x a r, none)) (wired (.gate a)) (x, none) :=
    fun hne => ⟨⟨rfl, hne, hfits⟩, fun _ => rfl⟩
  cases a with
  | connection a =>
      cases a with
      | send connectionId message =>
          refine Protocol.follows_seq ⟨rfl, hfits⟩ fun found => ?_
          cases found with
          | none => exact Protocol.follows_ret rfl
          | some found => exact writeExact_follows hfits found.2
      | acceptReadySocket | accept _ | markAnonymous _ | markBound _ | closeEnter _ | finalize _ =>
          exact hgate (by simp)
  | session _ | routing _ | account _ | pending _ | sendProcessPayload _ _ => exact hgate (by simp)

/-- A program that keeps to a protocol keeps to it when its `Send`s are taken apart. -/
theorem wire_follows {Q : α → P → Prop} {p : GateCall α} (h : L.Follows t o Q p x) :
    (wiredProtocol L).Follows t o (fun a y => y.2 = none ∧ Q a y.1) (wire p) (x, none) := by
  have hrefined : (wiredProtocol L).Follows t o (fun a y => ∃ x', y = (x', none) ∧ Q a x') (wire p) (x, none) :=
    Protocol.Follows.refine (g := fun x => (x, none)) (fun _ _ hfits => wireAct_follows hfits) h
  refine hrefined.mono ?_
  rintro a y ⟨x', rfl, hQ⟩
  exact ⟨rfl, hQ⟩

end

end SomeServer
