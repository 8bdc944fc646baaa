/-
# SomeServer.Client.Sends — what the simulated client writes, and the gate reads

`SendFrame` holds the mutex until the whole of a message is written, and nobody closes the socket meanwhile. So the
bytes of a socket are the messages that were sent over it, and a part of the next one, as long as no send has failed;
after a failed send the socket stays, and the next message is written behind the part of the last. The gate reads
the same messages from these bytes.
-/
import SomeServer.Client.Frames

namespace SomeServer

open Lib

/-! ## Messages that are sent -/

/-- The bytes of a message that `SendFrame` is given. -/
def messageBytes (order : ByteOrder) (message : UInt32 × ByteBuffer) : ByteBuffer :=
  (SendOp.message 0 message.1 message.2).bytes order

/-- What has been written of the message that the task is at. -/
def ClientTask.Wrote (order : ByteOrder) (written : ByteBuffer) : ClientTask → Prop
  | send _ part buffer messageId payload => buffer ≠ [] ∧ match part with
    | .header => written ++ buffer ++ payload = messageBytes order (messageId, payload)
    | .payload => written ++ buffer = messageBytes order (messageId, payload)
  | _ => written = []

/-- The socket that the task writes to. -/
def ClientTask.sending : ClientTask → Option Int
  | send fd _ _ _ _ => some fd
  | _ => none

/-- The mutex is held while a message is written to the socket of the service; and as long as no send has failed,
what has been written to a socket are the messages that were sent over it, and a part of the next one. -/
structure Sending (order : ByteOrder) (c : ClientCrew) : Prop where
  locked : ∀ k ∈ c.tasks .control, ∀ fd, k.sending = some fd →
    c.shared.locked = true ∧ c.shared.socketFd = some fd
  underway : ∀ k ∈ c.tasks .control, ∀ fd n, k.sending = some fd → c.shared.descriptors fd = some (.own n) →
    c.shared.log.cutOff n = false → ∃ written,
      c.shared.log.written n = (c.shared.log.sent n).flatMap (messageBytes order) ++ written ∧ k.Wrote order written
  whole : ∀ n, (∀ k ∈ c.tasks .control, ∀ fd, k.sending = some fd → c.shared.descriptors fd ≠ some (.own n)) →
    c.shared.log.cutOff n = false → c.shared.log.written n = (c.shared.log.sent n).flatMap (messageBytes order)

/-- Nothing has been written or sent. -/
structure SameWritten (s' s : ClientProcess) : Prop where
  written : s'.log.written = s.log.written
  sent : s'.log.sent = s.log.sent
  cutOff : s'.log.cutOff = s.log.cutOff

namespace Sending

variable {c : ClientCrew} {t : ClientThread} {k : ClientTask} {order : ByteOrder} {i : ClientInput}
  {p : ClientPerformed} {n : Nat}

/-- Only `SendFrame` writes. -/
theorem perform_written {free : ClientThread → Bool} {s : ClientProcess} (hk : k.sending = none)
    (hp : k.perform order free i s = some p) : SameWritten p.shared s := by
  cases k with
  | send => cases hk
  | leave n =>
      cases hp
      dsimp only
      split <;> exact ⟨rfl, rfl, rfl⟩
  | _ =>
      simp only [ClientTask.perform] at hp
      repeat' split at hp
      all_goals first
        | contradiction
        | (cases hp; exact ⟨rfl, rfl, rfl⟩)

/-- A task of another thread, or one that is not about a message, finds no message underway or leaves it alone. -/
theorem keeps {c' : ClientCrew} (h : Sending order c) (hwritten : SameWritten c'.shared c.shared)
    (htasks : ∀ k ∈ c'.tasks .control, ∀ fd, k.sending = some fd → k ∈ c.tasks .control ∧
      c'.shared.locked = c.shared.locked ∧ c'.shared.socketFd = c.shared.socketFd ∧
      ∀ n, c'.shared.descriptors fd = some (.own n) ↔ c.shared.descriptors fd = some (.own n))
    (hwas : ∀ k ∈ c.tasks .control, ∀ fd, k.sending = some fd → k ∈ c'.tasks .control) : Sending order c' := by
  refine ⟨fun k hk fd hfd => ?_, fun k hk fd n hfd hown hcut => ?_, fun n hnone hcut => ?_⟩
  · obtain ⟨hold, hlocked, hsocket, -⟩ := htasks k hk fd hfd
    rw [hlocked, hsocket]
    exact h.locked k hold fd hfd
  · obtain ⟨hold, -, -, hsame⟩ := htasks k hk fd hfd
    rw [hwritten.cutOff] at hcut
    rw [hwritten.written, hwritten.sent]
    exact h.underway k hold fd n hfd ((hsame n).mp hown) hcut
  · rw [hwritten.cutOff] at hcut
    rw [hwritten.written, hwritten.sent]
    refine h.whole n (fun k hk fd hfd hown => ?_) hcut
    obtain ⟨-, -, -, hsame⟩ := htasks k (hwas k hk fd hfd) fd hfd
    exact hnone k (hwas k hk fd hfd) fd hfd ((hsame n).mpr hown)

theorem start {o : ClientOp} (h : Sending order c) (ht : c.tasks t = []) : Sending order (c.begun t [o.task]) := by
  have hno : o.task.sending = none := by cases o <;> rfl
  refine h.keeps ⟨rfl, rfl, rfl⟩ (fun k hk fd hfd => ?_) fun k hk fd hfd => ?_
  · rcases Crew.mem_begun hk with ⟨-, hnew⟩ | ⟨-, hold⟩
    · rw [List.mem_singleton.mp hnew, hno] at hfd
      cases hfd
    · exact ⟨hold, rfl, rfl, fun _ => Iff.rfl⟩
  · have hne : ClientThread.control ≠ t := by
      rintro rfl
      rw [ht] at hk
      cases hk
    rw [Crew.begun_tasks_of_ne hne]
    exact hk

/-- What need not wait for the mutex leaves the socket of the service alone. -/
theorem perform_unlocked {free : ClientThread → Bool} {s : ClientProcess} (hk : k.thread ≠ .control)
    (hlocks : k.locks = false) (hp : k.perform order free i s = some p) : p.shared.locked = s.locked ∧
      p.shared.socketFd = s.socketFd ∧
      ∀ fd n, p.shared.descriptors fd = some (.own n) ↔ s.descriptors fd = some (.own n) := by
  -- a number that was nobody's socket, and is nobody's still
  have hupdate : ∀ fd' (value : Option ClientDescriptor), (∀ n, s.descriptors fd' ≠ some (.own n)) →
      (∀ n, value ≠ some (.own n)) → ∀ fd n, Function.update s.descriptors fd' value fd = some (.own n) ↔
        s.descriptors fd = some (.own n) := by
    intro fd' value hbefore hafter fd n
    by_cases heq : fd = fd'
    · subst heq
      rw [Function.update_self]
      exact iff_of_false (hafter n) (hbefore n)
    · rw [Function.update_of_ne heq]
  cases k with
  | readHeader | readPayload =>
      simp only [ClientTask.perform] at hp
      repeat' split at hp
      all_goals first
        | contradiction
        | (cases hp; exact ⟨rfl, rfl, fun _ _ => Iff.rfl⟩)
  | handle =>
      cases hp
      exact ⟨rfl, rfl, fun _ _ => Iff.rfl⟩
  | openOther =>
      simp only [ClientTask.perform, Option.ite_none_right_eq_some, Option.some.injEq] at hp
      obtain ⟨⟨-, hfree⟩, rfl⟩ := hp
      exact ⟨rfl, rfl, hupdate _ _ (by simp [hfree]) (by simp)⟩
  | closeOther fd =>
      simp only [ClientTask.perform] at hp
      split at hp
      · rename_i hother
        cases hp
        exact ⟨rfl, rfl, hupdate _ _ (by simp [hother]) (by simp)⟩
      · cases hp
        exact ⟨rfl, rfl, fun _ _ => Iff.rfl⟩
  | loopHead | count | leave => cases hlocks
  | _ => exact absurd rfl hk

/-- `SendFrame` takes the mutex, or finds no connection. -/
theorem enters {messageId : UInt32} {payload : ByteBuffer} (h : Sending order c)
    (ht : c.tasks .control = [.sendEnter messageId payload])
    (hp : ClientTask.perform order c.free i c.shared (.sendEnter messageId payload) = some p) :
    Sending order (c.after .control [] p) := by
  have hcontrol : (c.after .control [] p).tasks .control = p.tasks := Crewed.control_after hp
  have hwhole : ∀ n, c.shared.log.cutOff n = false →
      c.shared.log.written n = (c.shared.log.sent n).flatMap (messageBytes order) := by
    refine fun n => h.whole n fun k hk fd hfd => ?_
    rw [ht] at hk
    rw [List.mem_singleton.mp hk] at hfd
    cases hfd
  simp only [ClientTask.perform] at hp
  split at hp
  · cases hp
    refine ⟨fun k hk => ?_, fun k hk => ?_, fun n _ => hwhole n⟩
    · rw [hcontrol] at hk
      cases hk
    · rw [hcontrol] at hk
      cases hk
  · rename_i fd hsome
    cases hp
    refine ⟨fun k hk fd' hfd => ?_, fun k hk fd' n hfd _ hcut => ⟨[], ?_, ?_⟩, fun n _ => hwhole n⟩
    · rw [hcontrol] at hk
      rw [List.mem_singleton.mp hk] at hfd
      cases hfd
      exact ⟨rfl, hsome⟩
    · rw [List.append_nil]
      exact hwhole n hcut
    · rw [hcontrol] at hk
      rw [List.mem_singleton.mp hk]
      refine ⟨fun hnil => ?_, rfl⟩
      have hlength := congrArg List.length hnil
      simp at hlength

/-- A `send` takes some of the bytes, or fails. -/
theorem sends {fd : Int} {part : FramePart} {buffer : ByteBuffer} {messageId : UInt32} {payload : ByteBuffer}
    (hcrew : Crewed c) (h : Sending order c) (ht : c.tasks .control = [.send fd part buffer messageId payload])
    (hp : ClientTask.perform order c.free i c.shared (.send fd part buffer messageId payload) = some p) :
    Sending order (c.after .control [] p) := by
  have hcontrol : (c.after .control [] p).tasks .control = p.tasks := Crewed.control_after hp
  have hmem : ClientTask.send fd part buffer messageId payload ∈ c.tasks .control := by
    rw [ht]
    exact List.mem_cons_self
  obtain ⟨hlocked, hsocket⟩ := h.locked _ hmem fd rfl
  obtain ⟨n, -, hown⟩ := hcrew.sound.held fd (.inl hsocket)
  have hsocketOf : c.shared.socketOf fd = some n := by
    rw [ClientProcess.socketOf, hown]
  -- of the other sockets nothing is underway
  have hothers : ∀ m, m ≠ n → c.shared.log.cutOff m = false →
      c.shared.log.written m = (c.shared.log.sent m).flatMap (messageBytes order) := by
    refine fun m hm => h.whole m fun k hk fd' hfd hm' => ?_
    rw [ht] at hk
    rw [List.mem_singleton.mp hk] at hfd
    cases hfd
    rw [hown] at hm'
    cases hm'
    exact hm rfl
  have hself := h.underway _ hmem fd n rfl hown
  have hwrites : ∀ bytes, c.shared.writes fd bytes = { c.shared with log := { c.shared.log with
      written := Function.update c.shared.log.written n (c.shared.log.written n ++ bytes) } } := by
    intro bytes
    simp only [ClientProcess.writes, hsocketOf]
  -- more of the message is written, and another part is to come
  have hmore : ∀ k' bytes, ClientTask.sending k' = some fd →
      (∀ written, ClientTask.Wrote order written (.send fd part buffer messageId payload) →
        ClientTask.Wrote order (written ++ bytes) k') →
      p.shared = c.shared.writes fd bytes → p.tasks = [k'] → Sending order (c.after .control [] p) := by
    intro k' bytes hk' hwrote hshared htasks
    rw [hwrites bytes] at hshared
    rw [htasks] at hcontrol
    refine ⟨fun k hk fd' hfd => ?_, fun k hk fd' m hfd hm hcut => ?_, fun m hnone hcut => ?_⟩
    · rw [hcontrol] at hk
      rw [List.mem_singleton.mp hk, hk'] at hfd
      cases hfd
      rw [Crew.after_shared, hshared]
      exact ⟨hlocked, hsocket⟩
    · rw [hcontrol] at hk
      obtain rfl := List.mem_singleton.mp hk
      rw [hk'] at hfd
      cases hfd
      rw [Crew.after_shared, hshared] at hm hcut
      rw [Crew.after_shared, hshared]
      obtain rfl : n = m := by
        rw [show c.shared.descriptors fd = some (.own n) from hown] at hm
        cases hm
        rfl
      obtain ⟨written, hwritten, hbefore⟩ := hself hcut
      refine ⟨written ++ bytes, ?_, hwrote written hbefore⟩
      show Function.update c.shared.log.written n _ n = _
      rw [Function.update_self, hwritten, List.append_assoc]
    · have hm : m ≠ n := by
        rintro rfl
        refine hnone k' (by rw [hcontrol]; exact List.mem_cons_self) fd hk' ?_
        rw [Crew.after_shared, hshared]
        exact hown
      rw [Crew.after_shared, hshared] at hcut ⊢
      show Function.update c.shared.log.written n _ m = _
      rw [Function.update_of_ne hm]
      exact hothers m hm hcut
  simp only [ClientTask.perform] at hp
  split at hp
  · -- the message is cut off
    cases hp
    refine ⟨fun k hk => ?_, fun k hk => ?_, fun m _ hcut => ?_⟩
    · rw [hcontrol] at hk
      cases hk
    · rw [hcontrol] at hk
      cases hk
    · simp only [Crew.after_shared, ClientProcess.cutsOff, ClientProcess.socketOf, hown] at hcut ⊢
      by_cases hm : m = n
      · rw [hm, Function.update_self] at hcut
        cases hcut
      · rw [Function.update_of_ne hm] at hcut
        exact hothers m hm hcut
  · split at hp
    · rename_i hless
      cases hp
      refine hmore _ (buffer.take i.rc.toNat) rfl (fun written hwrote => ?_) rfl rfl
      obtain ⟨-, hbytes⟩ := hwrote
      have hsplit : buffer.take i.rc.toNat ++ buffer.drop i.rc.toNat = buffer := List.take_append_drop _ _
      refine ⟨fun hnil => ?_, ?_⟩
      · have hlength := congrArg List.length hnil
        rw [List.length_drop, List.length_nil] at hlength
        omega
      · cases part with
        | header =>
            show written ++ buffer.take i.rc.toNat ++ buffer.drop i.rc.toNat ++ payload = _
            rw [List.append_assoc written, hsplit]
            exact hbytes
        | payload =>
            show written ++ buffer.take i.rc.toNat ++ buffer.drop i.rc.toNat = _
            rw [List.append_assoc written, hsplit]
            exact hbytes
    · split at hp
      · split at hp
        · rename_i hheader
          obtain ⟨rfl, hpayload⟩ := hheader
          cases hp
          exact hmore (.send fd .payload payload messageId payload) buffer rfl
            (fun written hwrote => ⟨hpayload, hwrote.2⟩) rfl rfl
        · -- the whole of it is written
          rename_i hlast
          cases hp
          have hmessage : ∀ written, ClientTask.Wrote order written (.send fd part buffer messageId payload) →
              written ++ buffer = messageBytes order (messageId, payload) := by
            rintro written ⟨-, hbytes⟩
            cases part with
            | header =>
                have hempty : payload = [] := by
                  by_contra hpayload
                  exact hlast ⟨rfl, hpayload⟩
                have hbytes : written ++ buffer ++ payload = messageBytes order (messageId, payload) := hbytes
                rw [hempty, List.append_nil] at hbytes
                rw [hbytes, hempty]
            | payload => exact hbytes
          refine ⟨fun k hk => ?_, fun k hk => ?_, fun m _ hcut => ?_⟩
          · rw [hcontrol] at hk
            cases hk
          · rw [hcontrol] at hk
            cases hk
          · simp only [Crew.after_shared, hwrites, ClientProcess.sends, ClientProcess.socketOf, hown] at hcut ⊢
            by_cases hm : m = n
            · subst hm
              obtain ⟨written, hwritten, hbefore⟩ := hself hcut
              rw [Function.update_self, Function.update_self, List.flatMap_append, hwritten, List.append_assoc,
                hmessage written hbefore, List.flatMap_cons, List.flatMap_nil, List.append_nil]
            · rw [Function.update_of_ne hm, Function.update_of_ne hm]
              exact hothers m hm hcut
      · cases hp

/-- One task. -/
theorem act {rest : List ClientTask} (hcrew : Crewed c) (h : Sending order c) (ht : c.tasks t = k :: rest)
    (hunlocked : (k.locks && c.shared.locked) = false) (hp : k.perform order c.free i c.shared = some p) :
    Sending order (c.after t rest p) := by
  obtain rfl := hcrew.rest_nil ht
  have hk : k.thread = t := hcrew.own t k (by rw [ht]; exact List.mem_cons_self)
  have hcontrol : (c.after t [] p).tasks .control = if t = .control then p.tasks else c.tasks .control :=
    Crewed.control_after hp
  by_cases ht' : t = .control
  · subst ht'
    rw [if_pos rfl] at hcontrol
    cases k with
    | sendEnter messageId payload => exact h.enters ht hp
    | send fd part buffer messageId payload => exact h.sends hcrew ht hp
    | loopHead | readHeader | readPayload | count | handle | leave | openOther | closeOther => cases hk
    | _ =>
        have hnone : ∀ k' ∈ p.tasks, k'.sending = none := by
          simp only [ClientTask.perform] at hp
          repeat' split at hp
          all_goals first
            | contradiction
            | (cases hp; simp [ClientTask.sending])
        refine h.keeps (perform_written rfl hp) (fun k' hk' fd hfd => ?_) fun k' hk' fd hfd => ?_
        · rw [hcontrol] at hk'
          rw [hnone k' hk'] at hfd
          cases hfd
        · rw [ht] at hk'
          rw [List.mem_singleton.mp hk'] at hfd
          cases hfd
  · rw [if_neg ht'] at hcontrol
    have hnot : k.thread ≠ .control := by
      rw [hk]
      exact ht'
    have hno : k.sending = none := by
      cases k <;> first | rfl | exact absurd rfl hnot
    refine h.keeps (perform_written hno hp) (fun k' hk' fd hfd => ?_) fun k' hk' fd hfd => ?_
    · rw [hcontrol] at hk'
      have hlocked := (h.locked k' hk' fd hfd).1
      rw [hlocked, Bool.and_true] at hunlocked
      obtain ⟨hsame, hsocket, hdescriptors⟩ := perform_unlocked hnot hunlocked hp
      exact ⟨hk', hsame, hsocket, fun n => hdescriptors fd n⟩
    · rw [hcontrol]
      exact hk'

end Sending

/-! ## Runs -/

/-- Every payload that is sent has a size that its header can say. -/
def sizesFit (_ : ClientCrew) : Move ClientThread ClientOp ClientInput → Prop
  | .start _ (.sendFrame _ payload) => payload.length < 2 ^ 32
  | _ => True

/-- The payload that the task is about fits. -/
def ClientTask.Fits : ClientTask → Prop
  | sendEnter _ payload | send _ _ _ _ payload => payload.length < 2 ^ 32
  | _ => True

/-- What is sent, and has been, fits. -/
structure Fitting (c : ClientCrew) : Prop where
  tasks : ∀ t, ∀ k ∈ c.tasks t, k.Fits
  sent : ∀ n, ∀ message ∈ c.shared.log.sent n, message.2.length < 2 ^ 32

namespace Fitting

variable {c : ClientCrew} {t : ClientThread} {k : ClientTask} {rest : List ClientTask} {order : ByteOrder}
  {i : ClientInput} {p : ClientPerformed}

theorem mem_sends {s : ClientProcess} {fd : Int} {message message' : UInt32 × ByteBuffer} {m : Nat}
    (h : message' ∈ (s.sends fd message).log.sent m) : message' = message ∨ message' ∈ s.log.sent m := by
  unfold ClientProcess.sends at h
  dsimp only at h
  split at h
  · exact .inr h
  · rename_i n hn
    change message' ∈ Function.update s.log.sent n (s.log.sent n ++ [message]) m at h
    by_cases hm : m = n
    · subst hm
      rw [Function.update_self] at h
      rcases List.mem_append.mp h with hold | hnew
      · exact .inr hold
      · exact .inl (List.mem_singleton.mp hnew)
    · rw [Function.update_of_ne hm] at h
      exact .inr h

theorem start {o : ClientOp} (h : Fitting c) (hguard : sizesFit c (.start t o)) : Fitting (c.begun t [o.task]) := by
  refine ⟨fun u k hk => ?_, h.sent⟩
  rcases Crew.mem_begun hk with ⟨-, hnew⟩ | ⟨-, hold⟩
  · rw [List.mem_singleton.mp hnew]
    cases o <;> exact hguard
  · exact h.tasks u k hold

theorem act (h : Fitting c) (ht : c.tasks t = k :: rest) (hp : k.perform order c.free i c.shared = some p) :
    Fitting (c.after t rest p) := by
  have hk : k.Fits := h.tasks t k (by rw [ht]; exact List.mem_cons_self)
  have hstep : (∀ k' ∈ p.tasks, k'.Fits) ∧ ∀ n, ∀ message ∈ p.shared.log.sent n, message.2.length < 2 ^ 32 := by
    by_cases hsending : k.sending = none
    · refine ⟨?_, by rw [(Sending.perform_written hsending hp).sent]; exact h.sent⟩
      cases k with
      | send => cases hsending
      | sendEnter messageId payload =>
          simp only [ClientTask.perform] at hp
          split at hp
          · cases hp
            simp
          · cases hp
            intro k' hk'
            rw [List.mem_singleton.mp hk']
            exact hk
      | readHeader n fd handler buffer =>
          intro k' hk'
          have hthread := (perform_tasks hp).2 k' hk'
          cases k' <;> trivial
      | readPayload n fd handler header buffer =>
          intro k' hk'
          have hthread := (perform_tasks hp).2 k' hk'
          cases k' <;> trivial
      | _ =>
          simp only [ClientTask.perform] at hp
          repeat' split at hp
          all_goals first
            | contradiction
            | (cases hp; simp [ClientTask.Fits])
    · cases k with
      | send fd part buffer messageId payload =>
          have hwrites : ∀ bytes, (c.shared.writes fd bytes).log.sent = c.shared.log.sent := by
            intro bytes
            unfold ClientProcess.writes
            split <;> rfl
          simp only [ClientTask.perform] at hp
          repeat' split at hp
          all_goals first
            | contradiction
            | cases hp
          · refine ⟨by simp, ?_⟩
            unfold ClientProcess.cutsOff
            dsimp only
            split <;> exact h.sent
          · refine ⟨fun k' hk' => ?_, by rw [hwrites]; exact h.sent⟩
            rw [List.mem_singleton.mp hk']
            exact hk
          · refine ⟨fun k' hk' => ?_, by rw [hwrites]; exact h.sent⟩
            rw [List.mem_singleton.mp hk']
            exact hk
          · refine ⟨by simp, fun m message hmem => ?_⟩
            rcases mem_sends hmem with rfl | hold
            · exact hk
            · rw [hwrites] at hold
              exact h.sent m message hold
      | _ => exact absurd rfl hsending
  refine ⟨fun u k' hk' => ?_, hstep.2⟩
  rcases Crew.mem_after hk' with ⟨rfl, hnew | hold⟩ | ⟨-, hold⟩ | ⟨first, hfirst, hin⟩
  · exact hstep.1 k' hnew
  · exact h.tasks u k' (by rw [ht]; exact List.mem_cons_of_mem _ hold)
  · exact h.tasks u k' hold
  · rcases clientPerform_started hp with hnone | ⟨fd, n, -, hsome⟩
    · rw [hnone] at hfirst
      cases hfirst
    · rw [hsome] at hfirst
      cases hfirst
      rw [List.mem_singleton.mp hin]
      trivial

end Fitting

section Senders

variable {order : ByteOrder} {host : String} {port : UInt32} {others : Int → Bool} {c : ClientCrew}

theorem Sending.initial : Sending order (newClient host port others) := by
  refine ⟨fun k hk => ?_, fun k hk => ?_, fun _ _ _ => rfl⟩
  · cases hk
  · cases hk

theorem Fitting.initial : Fitting (newClient host port others) := by
  refine ⟨fun t k hk => ?_, fun n message hmem => ?_⟩
  · cases hk
  · cases hmem

theorem sending_run (h : Crew.Run (clientWork order) sizesFit (newClient host port others) c) :
    Crewed c ∧ Sending order c ∧ Fitting c := by
  have h₀ : Crewed (newClient host port others) ∧ Sending order (newClient host port others) ∧
      Fitting (newClient host port others) := ⟨Crewed.initial, Sending.initial, Fitting.initial⟩
  refine Crew.Run.invariant (I := fun c => Crewed c ∧ Sending order c ∧ Fitting c) h₀
    (fun c t o ks hc hguard ht hks => ?_) (fun c t k rest i p hc _ ht hp => ?_) h
  · simp only [clientWork, Option.ite_none_right_eq_some, Option.some.injEq] at hks
    obtain ⟨ho, rfl⟩ := hks
    exact ⟨hc.1.start ht ho, hc.2.1.start ht, hc.2.2.start hguard⟩
  · simp only [clientWork, Option.ite_none_left_eq_some, Bool.or_eq_true, not_or, Bool.not_eq_true] at hp
    exact ⟨hc.1.act ht hp.2, hc.2.1.act hc.1 ht hp.1.2 hp.2, hc.2.2.act ht hp.2⟩

/-- Less than a message has been written of the one that is underway. -/
theorem ClientTask.Wrote.incomplete {k : ClientTask} {written : ByteBuffer} (h : k.Wrote order written) (hk : k.Fits) :
    (clientCode order).Incomplete written := by
  cases k with
  | send fd part buffer messageId payload =>
      obtain ⟨hbuffer, hbytes⟩ := h
      have hproper : ∃ later, later ≠ [] ∧ written ++ later = messageBytes order (messageId, payload) := by
        cases part with
        | header =>
            refine ⟨buffer ++ payload, fun hnil => hbuffer (List.append_eq_nil_iff.mp hnil).1, ?_⟩
            rw [← List.append_assoc]
            exact hbytes
        | payload => exact ⟨buffer, hbuffer, hbytes⟩
      obtain ⟨later, hlater, hmessage⟩ := hproper
      intro message hfront
      -- the message that begins so is the one that is sent
      obtain rfl : message = ⟨messageId, payload, hk⟩ := by
        refine WireMessage.eq_of_prefix (hfront.trans (List.prefix_append written later)) ?_
        rw [hmessage]
        exact List.prefix_rfl
      have hle := hfront.length_le
      have hlength := congrArg List.length hmessage
      rw [List.length_append] at hlength
      have hpos : 0 < later.length := List.length_pos_iff.mpr hlater
      rw [show (clientCode order).word ⟨messageId, payload, hk⟩ = messageBytes order (messageId, payload) from rfl] at hle
      omega
  | _ =>
      obtain rfl : written = [] := h
      exact PrefixCode.incomplete_nil

/-- The bytes of a socket are those of the messages that were sent over it, and less than a message. -/
theorem written_of_sent (h : Crew.Run (clientWork order) sizesFit (newClient host port others) c) {n : Nat}
    (hcut : c.shared.log.cutOff n = false) :
    ∃ messages rest, c.shared.log.written n = (clientCode order).text messages ++ rest ∧
      (clientCode order).Incomplete rest ∧ c.shared.log.sent n = messages.map WireMessage.raw := by
  obtain ⟨-, hsending, hfitting⟩ := sending_run h
  have hmessages : ∃ messages : List WireMessage, c.shared.log.sent n = messages.map WireMessage.raw := by
    have hfits := hfitting.sent n
    generalize c.shared.log.sent n = sent at hfits
    induction sent with
    | nil => exact ⟨[], rfl⟩
    | cons message sent ih =>
        obtain ⟨messages, hmessages⟩ := ih fun m hm => hfits m (List.mem_cons_of_mem _ hm)
        have hfit := hfits message List.mem_cons_self
        exact ⟨⟨message.1, message.2, hfit⟩ :: messages, congrArg (message :: ·) hmessages⟩
  obtain ⟨messages, hmessages⟩ := hmessages
  have htext : (c.shared.log.sent n).flatMap (messageBytes order) = (clientCode order).text messages := by
    rw [hmessages, List.flatMap_map]
    rfl
  by_cases hnone : ∀ k ∈ c.tasks .control, ∀ fd, k.sending = some fd → c.shared.descriptors fd ≠ some (.own n)
  · refine ⟨messages, [], ?_, PrefixCode.incomplete_nil, hmessages⟩
    rw [List.append_nil, ← htext]
    exact hsending.whole n hnone hcut
  · simp only [not_forall, not_not] at hnone
    obtain ⟨k, hk, fd, hfd, hown⟩ := hnone
    obtain ⟨written, hwritten, hwrote⟩ := hsending.underway k hk fd n hfd hown hcut
    refine ⟨messages, written, ?_, hwrote.incomplete (hfitting.tasks _ k hk), hmessages⟩
    rw [← htext]
    exact hwritten

/-- **From the client to the gate's handlers**: in every run of the client and every run of the gate with one worker,
if the gate has read for a connection no other bytes than those that were written to a socket, and no send over the
socket has failed, it has dispatched no other messages than those that were sent, in their order; and once it has
read them all, it has dispatched all of them or is about to dispatch the last. -/
theorem dispatched_of_sent {T : Type} [DecidableEq T] {worker : T} {s₀ : GateSockets} {g : InboundPool T}
    (hclient : Crew.Run (clientWork order) sizesFit (newClient host port others) c)
    (hgate : Run (inboundMachine T) (fun _ => WorkerOp.code order) (oneWorker worker) (Pool.initial (s₀, {})) g)
    {n : Nat} {connectionId : ConnectionId} (hcut : c.shared.log.cutOff n = false)
    (hreceived : (g.shared.2.streams connectionId).received <+: c.shared.log.written n) :
    (g.shared.2.streams connectionId).dispatched ++ aboutToDispatch g worker connectionId <+: c.shared.log.sent n ∧
    ((g.shared.2.streams connectionId).received = c.shared.log.written n →
      (g.shared.2.streams connectionId).dispatched ++ aboutToDispatch g worker connectionId = c.shared.log.sent n) := by
  obtain ⟨sent, part, hwritten, hpart, hsent⟩ := written_of_sent hclient hcut
  obtain ⟨messages, rest, hread, hrest, hdispatched⟩ := parsed_run hgate connectionId
  rw [hdispatched, hsent, hwritten]
  rw [hwritten] at hreceived
  refine ⟨(PrefixCode.prefix_of_received hread.symm hreceived hpart).map _, fun hall => ?_⟩
  rw [(PrefixCode.text_unique (hread.symm.trans hall) hrest hpart).1]

end Senders

/-- Message 7 is sent in two pieces. -/
def sendsInTwo : List (Move ClientThread ClientOp ClientInput) :=
  connectsOnFive ++ [.start .control (.sendFrame 7 []), .act .control {}, .act .control { rc := 3 },
    .act .control { rc := 5 }]

/-- Whether the size of what is sent fits. -/
def sizesFitOf (_ : ClientCrew) : Move ClientThread ClientOp ClientInput → Bool
  | .start _ (.sendFrame _ payload) => payload.length < 2 ^ 32
  | _ => true

theorem sizesFit_of_sizesFitOf (c : ClientCrew) (m : Move ClientThread ClientOp ClientInput)
    (h : sizesFitOf c m = true) : sizesFit c m := by
  cases m with
  | start t o => cases o <;> simp_all [sizesFitOf, sizesFit]
  | act t i => trivial

theorem dispatched_of_sent_after : ∃ c g,
    Crew.play (clientWork .little) sizesFitOf sendsInTwo (newClient "127.0.0.1" 9000 fun fd => fd = 3) = some c ∧
    (Pool.initial (listeningGate, {})).play (inboundMachine Bool) (fun _ => WorkerOp.code .little) falseWorks
      (acceptsOnFive ++ readsInTwo) = some g ∧
    c.shared.log.sent 0 = [(7, [])] ∧ (g.shared.2.streams 1).received = c.shared.log.written 0 ∧
    (g.shared.2.streams 1).dispatched ++ aboutToDispatch g false 1 <+: c.shared.log.sent 0 ∧
    ((g.shared.2.streams 1).received = c.shared.log.written 0 →
      (g.shared.2.streams 1).dispatched ++ aboutToDispatch g false 1 = c.shared.log.sent 0) := by
  have hclient : (Crew.play (clientWork .little) sizesFitOf sendsInTwo
      (newClient "127.0.0.1" 9000 fun fd => fd = 3)).map
        (fun c => (c.shared.log.sent 0, c.shared.log.written 0, c.shared.log.cutOff 0)) =
      some ([(7, [])], seventhMessage, false) := rfl
  have hgate : ((Pool.initial (listeningGate, {})).play (inboundMachine Bool) (fun _ => WorkerOp.code .little)
      falseWorks (acceptsOnFive ++ readsInTwo)).map (fun g => (g.shared.2.streams 1).received) =
      some seventhMessage := rfl
  obtain ⟨c, hc, hcs⟩ := Option.map_eq_some_iff.mp hclient
  obtain ⟨g, hg, hgs⟩ := Option.map_eq_some_iff.mp hgate
  simp only [Prod.mk.injEq] at hcs
  obtain ⟨hsent, hwritten, hcut⟩ := hcs
  have hsame : (g.shared.2.streams 1).received = c.shared.log.written 0 := hgs.trans hwritten.symm
  have hrun : Crew.Run (clientWork .little) sizesFit (newClient "127.0.0.1" 9000 fun fd => fd = 3) c :=
    Crew.Run.refl.play sizesFit_of_sizesFitOf hc
  have hdispatched := dispatched_of_sent hrun (Run.refl.play oneWorker_of_falseWorks hg) hcut
    (by rw [hsame])
  exact ⟨c, g, hc, hg, hsent, hsame, hdispatched⟩

end SomeServer
