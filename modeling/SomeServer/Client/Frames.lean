/-
# SomeServer.Client.Frames — what the simulated client reads

A reader takes the messages of its socket one by one, and comes to the message handler with each. It keeps the
number of its descriptor while it waits: `Disconnect` closes the descriptor before the reader has ended, and if
another part of the process opens one in between, the reader reads from that.
-/
import SomeServer.Client.Sockets

namespace SomeServer

open Lib

/-! ## Messages that are read -/

/-- What a reader has received, and come to its handler with. -/
def ClientLog.stream (log : ClientLog) (n : Nat) : InboundStream where
  received := log.received n
  dispatched := (log.handled n).map Prod.fst

namespace ClientTask

/-- The bytes that have come of the message that a reader is at. -/
def Taken (order : ByteOrder) (rest : ByteBuffer) : ClientTask → Prop
  | readHeader _ _ _ buffer => rest = buffer ∧ buffer.length < kClientHeaderSize
  | readPayload _ _ _ header buffer => header.length = kClientHeaderSize ∧ rest = header ++ buffer ∧
      buffer.length < clientPayloadSize order header
  | count _ _ messageId payload | handle _ _ messageId payload => Complete order rest messageId payload
  | leave _ => (clientCode order).Incomplete rest
  | _ => rest = []

/-- The same of its thread; a reader that has ended has left less than a message. -/
def Takes (order : ByteOrder) (rest : ByteBuffer) : List ClientTask → Prop
  | [] => (clientCode order).Incomplete rest
  | k :: _ => k.Taken order rest

variable {order : ByteOrder} {rest : ByteBuffer} {k : ClientTask} {n : Nat} {free : ClientThread → Bool}
  {i : ClientInput} {s : ClientProcess} {p : ClientPerformed}

theorem recv_bounds {fd : Int} {size : Nat} {received : Option ByteBuffer} {bytes : ByteBuffer}
    (h : s.recv fd size received = some (some bytes)) : 0 < bytes.length ∧ bytes.length ≤ size := by
  unfold ClientProcess.recv at h
  split at h
  · split at h
    · cases h
      assumption
    · cases h
  · cases h

/-- The message that a reader has and has not come to its handler with. -/
def message : ClientTask → Option (UInt32 × ByteBuffer)
  | count _ _ messageId payload | handle _ _ messageId payload => some (messageId, payload)
  | _ => none

theorem Taken.complete {message : UInt32 × ByteBuffer} (h : k.Taken order rest) (hk : k.message = some message) :
    Complete order rest message.1 message.2 := by
  cases k <;> cases hk <;> exact h

/-- Before its end, less than a message has come. -/
theorem Taken.incomplete (h : k.Taken order rest) (hk : k.message = none) : (clientCode order).Incomplete rest := by
  cases k with
  | readHeader n fd handler buffer =>
      obtain ⟨rfl, hlength⟩ : rest = buffer ∧ buffer.length < kClientHeaderSize := h
      have hunderway : Underway order rest .header rest (kClientHeaderSize - rest.length) :=
        ⟨rfl, by omega, by omega⟩
      exact hunderway.incomplete
  | readPayload n fd handler header buffer =>
      obtain ⟨hheader, rfl, hlength⟩ : header.length = kClientHeaderSize ∧ rest = header ++ buffer ∧
        buffer.length < clientPayloadSize order header := h
      have hunderway : Underway order (header ++ buffer) .payload buffer
          (clientPayloadSize order header - buffer.length) := ⟨header, hheader, rfl, by omega, by omega⟩
      exact hunderway.incomplete
  | leave n => exact h
  | count | handle => cases hk
  | _ =>
      obtain rfl : rest = [] := h
      exact PrefixCode.incomplete_nil

/-- A reader goes on with what its bytes say. -/
theorem takes (hk : k.thread = .reader n) (hp : k.perform order free i s = some p)
    (hparsed : (s.log.stream n).Parsed order rest) (htaken : k.Taken order rest) :
    ∃ rest', (p.shared.log.stream n).Parsed order rest' ∧ Takes order rest' p.tasks := by
  have hreads : ∀ fd bytes, ((s.reads n fd bytes).log.stream n).Parsed order (rest ++ bytes) := by
    intro fd bytes
    have hstream : (s.reads n fd bytes).log.stream n =
        { s.log.stream n with received := (s.log.stream n).received ++ bytes } := by
      simp [ClientLog.stream, ClientProcess.reads]
    rw [hstream]
    exact hparsed.receives bytes
  cases k with
  | loopHead m =>
      cases hk
      obtain rfl : rest = [] := htaken
      simp only [perform] at hp
      split at hp
      · cases hp
        exact ⟨[], hparsed, PrefixCode.incomplete_nil⟩
      · cases hp
        exact ⟨[], hparsed, rfl, by decide⟩
  | readHeader m fd handler buffer =>
      cases hk
      obtain ⟨rfl, hlength⟩ : rest = buffer ∧ buffer.length < kClientHeaderSize := htaken
      simp only [perform] at hp
      split at hp
      · cases hp
      · cases hp
        refine ⟨_, hreads fd [], ?_⟩
        show (clientCode order).Incomplete (rest ++ [])
        rw [List.append_nil]
        exact Taken.incomplete (show Taken order rest (.readHeader n fd handler rest) from ⟨rfl, hlength⟩) rfl
      · rename_i bytes hrecv
        obtain ⟨-, hle⟩ := recv_bounds hrecv
        cases hp
        refine ⟨_, hreads fd bytes, ?_⟩
        show Taken order (rest ++ bytes) (if (rest ++ bytes).length < kClientHeaderSize then _ else _)
        split
        · rename_i hmore
          exact ⟨rfl, hmore⟩
        · rename_i hall
          have htotal : (rest ++ bytes).length = kClientHeaderSize := by
            rw [List.length_append] at hall ⊢
            omega
          unfold afterHeader
          split
          · rename_i hempty
            exact ⟨rest ++ bytes, htotal, (List.append_nil _).symm, rfl, hempty.symm⟩
          · rename_i hsome
            exact ⟨htotal, (List.append_nil _).symm, Nat.pos_of_ne_zero hsome⟩
  | readPayload m fd handler header buffer =>
      cases hk
      obtain ⟨hheader, rfl, hlength⟩ : header.length = kClientHeaderSize ∧ rest = header ++ buffer ∧
        buffer.length < clientPayloadSize order header := htaken
      simp only [perform] at hp
      split at hp
      · cases hp
      · cases hp
        refine ⟨_, hreads fd [], ?_⟩
        show (clientCode order).Incomplete (header ++ buffer ++ [])
        rw [List.append_nil]
        exact Taken.incomplete (show Taken order (header ++ buffer) (.readPayload n fd handler header buffer) from
          ⟨hheader, rfl, hlength⟩) rfl
      · rename_i bytes hrecv
        obtain ⟨-, hle⟩ := recv_bounds hrecv
        cases hp
        refine ⟨_, hreads fd bytes, ?_⟩
        show Taken order (header ++ buffer ++ bytes)
          (if (buffer ++ bytes).length < clientPayloadSize order header then _ else _)
        split
        · rename_i hmore
          exact ⟨hheader, List.append_assoc _ _ _, hmore⟩
        · rename_i hall
          refine ⟨header, hheader, List.append_assoc _ _ _, rfl, ?_⟩
          rw [List.length_append] at hall ⊢
          omega
  | count m handler messageId payload =>
      cases hk
      cases hp
      exact ⟨rest, hparsed, htaken⟩
  | handle m handler messageId payload =>
      cases hk
      cases hp
      refine ⟨[], ?_, rfl⟩
      have hstream : (s.handles n (messageId, payload) handler).log.stream n =
          { s.log.stream n with dispatched := (s.log.stream n).dispatched ++ [(messageId, payload)] } := by
        simp [ClientLog.stream, ClientProcess.handles]
      rw [hstream]
      exact hparsed.dispatches htaken
  | leave m =>
      cases hk
      cases hp
      refine ⟨rest, ?_, htaken⟩
      dsimp only
      split <;> exact hparsed
  | _ => cases hk

theorem stream_writes {m : Nat} {fd : Int} {bytes : ByteBuffer} :
    (s.writes fd bytes).log.stream m = s.log.stream m := by
  unfold ClientProcess.writes
  split <;> rfl

theorem stream_sends {m : Nat} {fd : Int} {message : UInt32 × ByteBuffer} :
    (s.sends fd message).log.stream m = s.log.stream m := by
  unfold ClientProcess.sends
  dsimp only
  split <;> rfl

theorem stream_cutsOff {m : Nat} {fd : Int} {part : FramePart} :
    (s.cutsOff fd part).log.stream m = s.log.stream m := by
  unfold ClientProcess.cutsOff
  dsimp only
  split <;> rfl

/-- Only a reader adds to what it has read. -/
theorem perform_stream {m : Nat} (hk : k.thread ≠ .reader m) (hp : k.perform order free i s = some p) :
    p.shared.log.stream m = s.log.stream m := by
  have hreads : ∀ n fd bytes, n ≠ m → (s.reads n fd bytes).log.stream m = s.log.stream m := by
    intro n fd bytes hne
    simp [ClientLog.stream, ClientProcess.reads, Function.update_of_ne (Ne.symm hne)]
  cases k with
  | readHeader n fd handler buffer | readPayload n fd handler header buffer =>
      have hne : n ≠ m := by
        rintro rfl
        exact hk rfl
      simp only [perform] at hp
      split at hp
      · cases hp
      · cases hp
        exact hreads n fd [] hne
      · cases hp
        exact hreads n fd _ hne
  | handle n handler messageId payload =>
      have hne : m ≠ n := by
        rintro rfl
        exact hk rfl
      cases hp
      simp [ClientLog.stream, ClientProcess.handles, Function.update_of_ne hne]
  | send fd part buffer messageId payload =>
      simp only [perform] at hp
      repeat' split at hp
      all_goals first
        | cases hp
      · exact stream_cutsOff
      · exact stream_writes
      · exact stream_writes
      · exact stream_sends.trans stream_writes
  | leave n =>
      cases hp
      dsimp only
      split <;> rfl
  | _ =>
      simp only [perform] at hp
      repeat' split at hp
      all_goals first
        | (cases hp; rfl)
        | cases hp

end ClientTask

/-- What each reader has received is what it has come to its handler with, and what it is at; and a socket that has
no reader yet has received nothing. -/
structure Reading (order : ByteOrder) (c : ClientCrew) : Prop where
  parsed : ∀ n, ∃ rest, (c.shared.log.stream n).Parsed order rest ∧ ClientTask.Takes order rest (c.tasks (.reader n))
  fresh : ∀ n, c.shared.sockets ≤ n ∨ (∃ k ∈ c.tasks .control, k.number = some n) → c.shared.log.stream n = {}
  below : ∀ n, c.tasks (.reader n) ≠ [] → n < c.shared.sockets

namespace Reading

variable {c : ClientCrew} {t : ClientThread} {k : ClientTask} {rest : List ClientTask} {order : ByteOrder}
  {i : ClientInput} {p : ClientPerformed}

theorem start {o : ClientOp} (h : Reading order c) (ho : t = o.thread) :
    Reading order (c.begun t [o.task]) := by
  have hreader : ∀ n, (c.begun t [o.task]).tasks (.reader n) = c.tasks (.reader n) := by
    intro n
    apply Crew.begun_tasks_of_ne
    rintro heq
    rw [← heq] at ho
    cases o <;> cases ho
  refine ⟨?_, fun n hn => h.fresh n (hn.imp_right ?_), ?_⟩
  · simp only [hreader]
    exact h.parsed
  · rintro ⟨k, hk, hnumber⟩
    rcases Crew.mem_begun hk with ⟨-, hnew⟩ | ⟨-, hold⟩
    · rw [List.mem_singleton.mp hnew] at hnumber
      cases o <;> cases hnumber
    · exact ⟨k, hold, hnumber⟩
  · simp only [hreader]
    exact h.below

/-- A new socket has the next number, which only its own connection takes. -/
theorem perform_sockets {free : ClientThread → Bool} {s : ClientProcess} (hk : k.thread = .control)
    (hp : k.perform order free i s = some p) : s.sockets ≤ p.shared.sockets ∧
      ∀ k' ∈ p.tasks, ∀ n, k'.number = some n → k.number = some n ∨ s.sockets ≤ n := by
  cases k with
  | openSocket =>
      simp only [ClientTask.perform] at hp
      split at hp
      · cases hp
        exact ⟨Nat.le_refl _, by simp⟩
      · simp only [Option.ite_none_right_eq_some, Option.some.injEq] at hp
        obtain ⟨-, rfl⟩ := hp
        refine ⟨Nat.le_succ _, fun k' hk' n hn => .inr ?_⟩
        obtain rfl := List.mem_singleton.mp hk'
        cases hn
        exact Nat.le_refl _
  | dial fd n =>
      simp only [ClientTask.perform] at hp
      repeat' split at hp
      all_goals
        cases hp
        refine ⟨Nat.le_refl _, fun k' hk' m hm => .inl ?_⟩
        obtain rfl := List.mem_singleton.mp hk'
        cases hm
      rfl
  | send fd part buffer messageId payload =>
      simp only [ClientTask.perform] at hp
      repeat' split at hp
      all_goals first
        | contradiction
        | cases hp
      · exact ⟨(SameSockets.cutsOff fd part).sockets.ge, by simp⟩
      · exact ⟨(SameSockets.writes fd _).sockets.ge, by simp [ClientTask.number]⟩
      · exact ⟨(SameSockets.writes fd _).sockets.ge, by simp [ClientTask.number]⟩
      · exact ⟨((SameSockets.sends fd _).trans (.writes fd _)).sockets.ge, by simp⟩
  | loopHead | readHeader | readPayload | count | handle | leave | openOther | closeOther => cases hk
  | _ =>
      simp only [ClientTask.perform] at hp
      repeat' split at hp
      all_goals first
        | contradiction
        | (cases hp; exact ⟨Nat.le_refl _, by simp [ClientTask.number]⟩)

theorem perform_sockets_of_ne {free : ClientThread → Bool} {s : ClientProcess} (hk : k.thread ≠ .control)
    (hp : k.perform order free i s = some p) : p.shared.sockets = s.sockets := by
  cases k with
  | leave n =>
      cases hp
      dsimp only
      split <;> rfl
  | loopHead | readHeader | readPayload | count | handle | openOther | closeOther =>
      simp only [ClientTask.perform] at hp
      repeat' split at hp
      all_goals first
        | contradiction
        | (cases hp; rfl)
  | _ => exact absurd rfl hk

theorem act (hcrew : Crewed c) (h : Reading order c) (ht : c.tasks t = k :: rest)
    (hp : k.perform order c.free i c.shared = some p) : Reading order (c.after t rest p) := by
  obtain rfl := hcrew.rest_nil ht
  have hk : k.thread = t := hcrew.own t k (by rw [ht]; exact List.mem_cons_self)
  obtain ⟨-, hthreads⟩ := perform_tasks hp
  have hmem : k ∈ c.tasks t := by
    rw [ht]
    exact List.mem_cons_self
  have hcases := hcrew.reader_after ht hp
  have hsockets : c.shared.sockets ≤ p.shared.sockets := by
    by_cases hcontrol : k.thread = .control
    · exact (perform_sockets hcontrol hp).1
    · exact (perform_sockets_of_ne hcontrol hp).ge
  refine ⟨fun n => ?_, fun n hn => ?_, fun n hn => ?_⟩
  · obtain ⟨rest, hparsed, htakes⟩ := h.parsed n
    rcases hcases n with ⟨rfl, hself⟩ | ⟨hne, hother⟩ | ⟨rfl, hnumber, hstarted⟩
    · rw [hself]
      rw [ht] at htakes
      exact ClientTask.takes hk hp hparsed htakes
    · rw [hother]
      refine ⟨rest, ?_, htakes⟩
      rw [Crew.after_shared, ClientTask.perform_stream (by rw [hk]; exact hne) hp]
      exact hparsed
    · rw [hstarted]
      refine ⟨[], ?_, rfl⟩
      rw [Crew.after_shared, ClientTask.perform_stream (by rw [hk]; simp) hp, h.fresh n (.inr ⟨k, hmem, hnumber⟩)]
      exact ⟨[], rfl, rfl⟩
  · -- a number that is free now was so before, and its reader is not at work
    have hbefore : c.shared.sockets ≤ n ∨ ∃ k ∈ c.tasks .control, k.number = some n := by
      rcases hn with hle | ⟨k', hk', hnumber⟩
      · exact .inl (hsockets.trans hle)
      · rcases Crew.mem_after hk' with ⟨rfl, hnew | hrest⟩ | ⟨-, hold⟩ | ⟨first, hfirst, -⟩
        · rcases (perform_sockets hk hp).2 k' hnew n hnumber with hsame | hle
          · exact .inr ⟨k, hmem, hsame⟩
          · exact .inl hle
        · cases hrest
        · exact .inr ⟨k', hold, hnumber⟩
        · rcases clientPerform_started hp with hnone | ⟨fd, m, rfl, hsome⟩
          · rw [hnone] at hfirst
            cases hfirst
          · rw [hsome] at hfirst
            cases hfirst
    rw [Crew.after_shared, ClientTask.perform_stream ?_ hp]
    · exact h.fresh n hbefore
    · rintro hreader
      have hbusy : c.tasks (.reader n) ≠ [] := by
        rw [← hreader, hk, ht]
        simp
      rcases hbefore with hle | ⟨k', hk', hnumber⟩
      · exact Nat.lt_irrefl n (Nat.lt_of_lt_of_le (h.below n hbusy) hle)
      · exact hbusy (hcrew.nobody_reads hk' hnumber)
  · show n < p.shared.sockets
    rcases hcases n with ⟨rfl, -⟩ | ⟨-, hother⟩ | ⟨rfl, hnumber, -⟩
    · exact Nat.lt_of_lt_of_le (h.below n (by rw [ht]; simp)) hsockets
    · rw [hother] at hn
      exact Nat.lt_of_lt_of_le (h.below n hn) hsockets
    · have hsound := hcrew.sound
      rw [ht] at hsound
      have hlt : n < c.shared.sockets := by
        have hnext := hsound.numbered k rfl n hnumber
        omega
      exact Nat.lt_of_lt_of_le hlt hsockets

end Reading

/-! ## Where the bytes come from -/

/-- The descriptor that a reader has read, and waits on. -/
def ClientTask.reading : ClientTask → Option Int
  | readHeader _ fd _ _ | readPayload _ fd _ _ _ => some fd
  | _ => none

/-- No other part of the process is given the number that a reader which is being joined waits on. -/
def keepsNumber (c : ClientCrew) : Move ClientThread ClientOp ClientInput → Prop
  | .start _ _ => True
  | .act t i => ∀ n, c.tasks t = [.openOther] → c.tasks .control = [.joinReader n] →
      ∀ k ∈ c.tasks (.reader n), k.reading ≠ some i.fd

/-- A reader waits on its own socket, or on a number that nothing has had since the socket was closed. -/
structure ReadsOwn (c : ClientCrew) : Prop where
  reading : ∀ n, ∀ k ∈ c.tasks (.reader n), ∀ fd, k.reading = some fd →
    c.shared.descriptors fd = some (.own n) ∨ c.shared.descriptors fd = none ∧ c.tasks .control = [.joinReader n]
  reads : ∀ read ∈ c.shared.log.reads, read.2 = some (.own read.1) ∨ read.2 = none

namespace ReadsOwn

variable {c : ClientCrew} {t : ClientThread} {k : ClientTask} {order : ByteOrder} {i : ClientInput}
  {p : ClientPerformed} {n : Nat}

theorem start {o : ClientOp} (h : ReadsOwn c) (ht : c.tasks t = []) (ho : t = o.thread) :
    ReadsOwn (c.begun t [o.task]) := by
  refine ⟨fun n k hk fd hfd => ?_, h.reads⟩
  have hold : k ∈ c.tasks (.reader n) := by
    rcases Crew.mem_begun hk with ⟨rfl, -⟩ | ⟨-, hold⟩
    · cases o <;> cases ho
    · exact hold
  refine (h.reading n k hold fd hfd).imp_right fun hclosed => ⟨hclosed.1, ?_⟩
  have hne : ClientThread.control ≠ t := by
    rintro rfl
    rw [ht] at hclosed
    cases hclosed.2
  rw [Crew.begun_tasks_of_ne hne]
  exact hclosed.2

/-- What a reader does: what it reads is written down, and where it goes on. -/
theorem reader_step (hcrew : Crewed c) (h : ReadsOwn c) (ht : c.tasks (.reader n) = [k])
    (hp : k.perform order c.free i c.shared = some p) :
    (∀ k' ∈ p.tasks, ∀ fd, k'.reading = some fd →
      p.shared.descriptors fd = some (.own n) ∨ p.shared.descriptors fd = none ∧ c.tasks .control = [.joinReader n]) ∧
    (∀ read ∈ p.shared.log.reads, read.2 = some (.own read.1) ∨ read.2 = none) := by
  have hk : k.thread = .reader n := hcrew.own _ k (by rw [ht]; exact List.mem_cons_self)
  have hreading := h.reading n k (by rw [ht]; exact List.mem_cons_self)
  have hreads : ∀ fd bytes, k.reading = some fd → ∀ read ∈ (c.shared.reads n fd bytes).log.reads,
      read.2 = some (.own read.1) ∨ read.2 = none := by
    intro fd bytes hfd read hread
    rcases List.mem_cons.mp hread with rfl | hold
    · exact (hreading fd hfd).imp_right And.left
    · exact h.reads read hold
  cases k with
  | loopHead m =>
      cases hk
      simp only [ClientTask.perform] at hp
      split at hp
      · cases hp
        exact ⟨by simp, h.reads⟩
      · rename_i fd hsome
        cases hp
        refine ⟨fun k' hk' fd' hfd' => .inl ?_, h.reads⟩
        obtain rfl := List.mem_singleton.mp hk'
        cases hfd'
        -- the socket of the service is the one of the reader that is not joined yet
        obtain ⟨m, hm, hopen⟩ := hcrew.sound.held fd (.inl hsome)
        obtain ⟨m', hthread, hm'⟩ := hcrew.sound.reader fd hsome
        have hjoined := hcrew.sound.busy n (by rw [ht]; simp)
        obtain rfl : n = m' := hcrew.sound.joined_unique hjoined (.inl hthread)
        obtain rfl : m = n := by omega
        exact hopen
  | readHeader m fd handler buffer =>
      cases hk
      simp only [ClientTask.perform] at hp
      split at hp
      · cases hp
      · cases hp
        exact ⟨by simp [ClientTask.reading], hreads fd [] rfl⟩
      · cases hp
        refine ⟨fun k' hk' fd' hfd' => hreading fd' ?_, hreads fd _ rfl⟩
        rw [List.mem_singleton.mp hk'] at hfd'
        unfold ClientTask.afterHeader at hfd'
        repeat' split at hfd'
        all_goals first
          | exact hfd'
          | cases hfd'
  | readPayload m fd handler header buffer =>
      cases hk
      simp only [ClientTask.perform] at hp
      split at hp
      · cases hp
      · cases hp
        exact ⟨by simp [ClientTask.reading], hreads fd [] rfl⟩
      · cases hp
        refine ⟨fun k' hk' fd' hfd' => hreading fd' ?_, hreads fd _ rfl⟩
        rw [List.mem_singleton.mp hk'] at hfd'
        repeat' split at hfd'
        all_goals first
          | exact hfd'
          | cases hfd'
  | count m handler messageId payload =>
      cases hp
      exact ⟨by simp [ClientTask.reading], h.reads⟩
  | handle m handler messageId payload =>
      cases hp
      exact ⟨by simp [ClientTask.reading], h.reads⟩
  | leave m =>
      cases hp
      refine ⟨by simp, ?_⟩
      dsimp only
      split <;> exact h.reads
  | _ => cases hk

/-- What the console's thread does to a socket that a reader waits on, which it may close and then joins the reader;
and no reader that waits has been joined. -/
theorem control_step (hcrew : Crewed c) (ht : c.tasks .control = [k]) (hbusy : c.tasks (.reader n) ≠ [])
    (hp : k.perform order c.free i c.shared = some p) {fd : Int}
    (hown : c.shared.descriptors fd = some (.own n) ∨ c.shared.descriptors fd = none ∧ k = .joinReader n) :
    p.shared.descriptors fd = some (.own n) ∨ p.shared.descriptors fd = none ∧ p.tasks = [.joinReader n] := by
  have hsound := hcrew.sound
  rw [ht] at hsound
  rcases hown with hown | ⟨-, rfl⟩
  · have hsame : p.shared.descriptors = c.shared.descriptors →
        p.shared.descriptors fd = some (.own n) ∨ p.shared.descriptors fd = none ∧ p.tasks = [.joinReader n] := by
      intro heq
      rw [heq]
      exact .inl hown
    cases k with
    | openSocket => exact absurd (hsound.busy_joins rfl hbusy) (by simp [ClientTask.joins])
    | dropSocket fd' error => exact absurd (hsound.busy_joins rfl hbusy) (by simp [ClientTask.joins])
    | closeSocket fd' reader =>
        have hreader : reader = some n := hsound.busy_joins rfl hbusy
        subst hreader
        cases hp
        by_cases heq : fd = fd'
        · subst heq
          exact .inr ⟨Function.update_self _ _ _, rfl⟩
        · exact .inl ((Function.update_of_ne heq _ _).trans hown)
    | send fd' part buffer messageId payload =>
        apply hsame
        simp only [ClientTask.perform] at hp
        repeat' split at hp
        all_goals first
          | contradiction
          | cases hp
        · exact (SameSockets.cutsOff fd' part).descriptors
        · exact (SameSockets.writes fd' _).descriptors
        · exact (SameSockets.writes fd' _).descriptors
        · exact ((SameSockets.sends fd' _).trans (.writes fd' _)).descriptors
    | loopHead | readHeader | readPayload | count | handle | leave | openOther | closeOther =>
        cases hcrew.own .control _ (by rw [ht]; exact List.mem_cons_self)
    | _ =>
        apply hsame
        simp only [ClientTask.perform] at hp
        repeat' split at hp
        all_goals first
          | contradiction
          | (cases hp; rfl)
  · simp only [ClientTask.perform, Option.ite_none_right_eq_some] at hp
    exact absurd (Crew.free_iff.mp hp.1) hbusy

/-- Only a reader writes down what it reads. -/
theorem reads_of_ne (hk : ∀ n, k.thread ≠ .reader n) {s : ClientProcess} {free : ClientThread → Bool}
    (hp : k.perform order free i s = some p) : p.shared.log.reads = s.log.reads := by
  have hwrites : ∀ fd bytes, (s.writes fd bytes).log.reads = s.log.reads := by
    intro fd bytes
    unfold ClientProcess.writes
    split <;> rfl
  cases k with
  | loopHead n | readHeader n _ _ _ | readPayload n _ _ _ _ | count n _ _ _ | handle n _ _ _ | leave n =>
      exact absurd rfl (hk n)
  | send fd part buffer messageId payload =>
      simp only [ClientTask.perform] at hp
      repeat' split at hp
      all_goals first
        | contradiction
        | cases hp
      · unfold ClientProcess.cutsOff
        dsimp only
        split <;> rfl
      · exact hwrites _ _
      · exact hwrites _ _
      · rw [← hwrites fd buffer]
        unfold ClientProcess.sends
        dsimp only
        split <;> rfl
  | _ =>
      simp only [ClientTask.perform] at hp
      repeat' split at hp
      all_goals first
        | contradiction
        | (cases hp; rfl)

theorem act {rest : List ClientTask} (hcrew : Crewed c) (h : ReadsOwn c) (hkeeps : keepsNumber c (.act t i))
    (ht : c.tasks t = k :: rest) (hp : k.perform order c.free i c.shared = some p) :
    ReadsOwn (c.after t rest p) := by
  obtain rfl := hcrew.rest_nil ht
  have hmem : k ∈ c.tasks t := by
    rw [ht]
    exact List.mem_cons_self
  have hk : k.thread = t := hcrew.own t k hmem
  have hcontrol : (c.after t [] p).tasks .control = if t = .control then p.tasks else c.tasks .control :=
    Crewed.control_after hp
  refine ⟨fun n k' hk' fd hfd => ?_, ?_⟩
  · rcases hcrew.reader_after ht hp n with ⟨rfl, hself⟩ | ⟨hne, hother⟩ | ⟨rfl, -, hstarted⟩
    · rw [hself] at hk'
      rw [hcontrol, if_neg (by simp)]
      exact (reader_step hcrew h ht hp).1 k' hk' fd hfd
    · rw [hother] at hk'
      have hbusy : c.tasks (.reader n) ≠ [] := List.ne_nil_of_mem hk'
      have hold := h.reading n k' hk' fd hfd
      rw [hcontrol, Crew.after_shared]
      cases t with
      | control =>
          rw [if_pos rfl]
          refine control_step hcrew ht hbusy hp (hold.imp_right fun hclosed => ⟨hclosed.1, ?_⟩)
          exact List.singleton_inj.mp (ht.symm.trans hclosed.2)
      | reader m =>
          -- no two readers are at work
          have hsame := hcrew.sound.joined_unique (hcrew.sound.busy m (by rw [ht]; simp)) (hcrew.sound.busy n hbusy)
          rw [hsame] at hne
          exact absurd rfl hne
      | rest =>
          rw [if_neg (by simp)]
          cases k with
          | openOther =>
              simp only [ClientTask.perform, Option.ite_none_right_eq_some, Option.some.injEq] at hp
              obtain ⟨⟨-, hfree⟩, rfl⟩ := hp
              have hother : fd ≠ i.fd := by
                rintro rfl
                rcases hold with hown | ⟨-, hjoining⟩
                · rw [hfree] at hown
                  cases hown
                · exact hkeeps n ht hjoining k' hk' hfd
              simp only [Function.update_of_ne hother]
              exact hold
          | closeOther fd' =>
              simp only [ClientTask.perform] at hp
              split at hp
              · rename_i hotherfd
                cases hp
                have hdifferent : fd ≠ fd' := by
                  rintro rfl
                  rcases hold with hown | ⟨hclosed, -⟩
                  · rw [hotherfd] at hown
                    cases hown
                  · rw [hotherfd] at hclosed
                    cases hclosed
                simp only [Function.update_of_ne hdifferent]
                exact hold
              · cases hp
                exact hold
          | _ => cases hk
    · rw [hstarted] at hk'
      rw [List.mem_singleton.mp hk'] at hfd
      cases hfd
  · by_cases hreader : ∃ n, t = .reader n
    · obtain ⟨n, rfl⟩ := hreader
      exact (reader_step hcrew h ht hp).2
    · rw [Crew.after_shared, reads_of_ne (fun n hn => hreader ⟨n, hk.symm.trans hn⟩) hp]
      exact h.reads

end ReadsOwn

/-! ## Runs of readers -/

/-- The message that a reader has and has not come to its handler with. -/
def aboutToHandle (c : ClientCrew) (n : Nat) : List (UInt32 × ByteBuffer) :=
  ((c.tasks (.reader n)).head?.bind ClientTask.message).toList

section Readers

variable {order : ByteOrder} {host : String} {port : UInt32} {others : Int → Bool}
  {guard : ClientCrew → Move ClientThread ClientOp ClientInput → Prop} {c : ClientCrew}

theorem Reading.initial : Reading order (newClient host port others) where
  parsed _ := ⟨[], ⟨[], rfl, rfl⟩, PrefixCode.incomplete_nil⟩
  fresh _ _ := rfl
  below _ hn := absurd rfl hn

theorem reading_run (h : Crew.Run (clientWork order) guard (newClient host port others) c) :
    Crewed c ∧ Reading order c := by
  have h₀ : Crewed (newClient host port others) ∧ Reading order (newClient host port others) :=
    ⟨Crewed.initial, Reading.initial⟩
  refine Crew.Run.invariant (I := fun c => Crewed c ∧ Reading order c) h₀ (fun c t o ks hc _ ht hks => ?_)
    (fun c t k rest i p hc _ ht hp => ?_) h
  · simp only [clientWork, Option.ite_none_right_eq_some, Option.some.injEq] at hks
    obtain ⟨ho, rfl⟩ := hks
    exact ⟨hc.1.start ht ho, hc.2.start ho⟩
  · simp only [clientWork, Option.ite_none_left_eq_some] at hp
    exact ⟨hc.1.act ht hp.2, hc.2.act hc.1 ht hp.2⟩

/-- **What the handler is called with is what the socket said**: in every run, the bytes that a reader has received
are those of the messages that it has come to its handler with, of the one that it is about to, and less than a
message. -/
theorem handled_of_received (h : Crew.Run (clientWork order) guard (newClient host port others) c) (n : Nat) :
    ∃ messages rest, c.shared.log.received n = (clientCode order).text messages ++ rest ∧
      (clientCode order).Incomplete rest ∧
      (c.shared.log.handled n).map Prod.fst ++ aboutToHandle c n = messages.map WireMessage.raw := by
  obtain ⟨rest, ⟨messages, hreceived, hhandled⟩, htakes⟩ := (reading_run h).2.parsed n
  cases hmessage : (c.tasks (.reader n)).head?.bind ClientTask.message with
  | none =>
      refine ⟨messages, rest, hreceived, ?_, ?_⟩
      · cases htasks : c.tasks (.reader n) with
        | nil =>
            rw [htasks] at htakes
            exact htakes
        | cons k ks =>
            rw [htasks] at htakes hmessage
            exact ClientTask.Taken.incomplete htakes hmessage
      · rw [aboutToHandle, hmessage, Option.toList_none, List.append_nil]
        exact hhandled
  | some raw =>
      obtain ⟨k, hhead, hk⟩ := Option.bind_eq_some_iff.mp hmessage
      obtain ⟨ks, htasks⟩ := List.head?_eq_some_iff.mp hhead
      rw [htasks] at htakes
      obtain ⟨message, hraw, htaken⟩ := (ClientTask.Taken.complete htakes hk).message
      refine ⟨messages ++ [message], [], ?_, PrefixCode.incomplete_nil, ?_⟩
      · rw [PrefixCode.text_append, PrefixCode.text_singleton, List.append_nil]
        show _ = (clientCode order).text messages ++ message.bytes order
        rw [← htaken]
        exact hreceived
      · rw [aboutToHandle, hmessage, List.map_append, List.map_singleton, hraw]
        exact congrArg (· ++ [raw]) hhandled

theorem ReadsOwn.initial : ReadsOwn (newClient host port others) := by
  refine ⟨fun n k hk => ?_, fun read hread => ?_⟩
  · cases hk
  · cases hread

/-- **A reader reads from its own socket**, or from a number that is closed, in every run in which nothing else is
given the number of a reader that is being joined. -/
theorem reads_own (h : Crew.Run (clientWork order) keepsNumber (newClient host port others) c) :
    ∀ read ∈ c.shared.log.reads, read.2 = some (.own read.1) ∨ read.2 = none := by
  suffices hboth : Crewed c ∧ ReadsOwn c from hboth.2.reads
  have h₀ : Crewed (newClient host port others) ∧ ReadsOwn (newClient host port others) :=
    ⟨Crewed.initial, ReadsOwn.initial⟩
  refine Crew.Run.invariant (I := fun c => Crewed c ∧ ReadsOwn c) h₀ (fun c t o ks hc _ ht hks => ?_)
    (fun c t k rest i p hc hguard ht hp => ?_) h
  · simp only [clientWork, Option.ite_none_right_eq_some, Option.some.injEq] at hks
    obtain ⟨ho, rfl⟩ := hks
    exact ⟨hc.1.start ht ho, hc.2.start ht ho⟩
  · simp only [clientWork, Option.ite_none_left_eq_some] at hp
    exact ⟨hc.1.act ht hp.2, hc.2.act hc.1 hguard ht hp.2⟩

end Readers

/-! ### A message in two pieces -/

/-- A connection is made with descriptor 5. -/
def connectsOnFive : List (Move ClientThread ClientOp ClientInput) :=
  [.start .control .setMessageHandler, .act .control {}, .start .control .connect, .act .control {},
    .act .control { fd := 5 }, .act .control {}, .act .control {}]

/-- Message 7 comes over it. -/
def hearsInTwo : List (Move ClientThread ClientOp ClientInput) :=
  connectsOnFive ++ [.act (.reader 0) {}, .act (.reader 0) { received := some (seventhMessage.take 3) },
    .act (.reader 0) { received := some (seventhMessage.drop 3) }, .act (.reader 0) {}, .act (.reader 0) {}]

theorem handled_of_received_after : ∃ c, Crew.play (clientWork .little) (fun _ _ => true) hearsInTwo
      (newClient "127.0.0.1" 9000 fun fd => fd = 3) = some c ∧
    c.shared.log.received 0 = seventhMessage ∧ c.shared.log.handled 0 = [((7, []), true)] ∧
    ∃ messages rest, c.shared.log.received 0 = (clientCode .little).text messages ++ rest ∧
      (clientCode .little).Incomplete rest ∧
      (c.shared.log.handled 0).map Prod.fst ++ aboutToHandle c 0 = messages.map WireMessage.raw := by
  have hend : (Crew.play (clientWork .little) (fun _ _ => true) hearsInTwo
      (newClient "127.0.0.1" 9000 fun fd => fd = 3)).map
        (fun c => (c.shared.log.received 0, c.shared.log.handled 0)) = some (seventhMessage, [((7, []), true)]) := rfl
  obtain ⟨c, hc, hcs⟩ := Option.map_eq_some_iff.mp hend
  simp only [Prod.mk.injEq] at hcs
  have hrun : Crew.Run (clientWork .little) (fun _ _ => True) (newClient "127.0.0.1" 9000 fun fd => fd = 3) c :=
    Crew.Run.refl.play (fun _ _ _ => trivial) hc
  exact ⟨c, hc, hcs.1, hcs.2, handled_of_received hrun 0⟩

/-- Whether the number of a reader that is joined is kept. -/
def keepsNumberOf (c : ClientCrew) : Move ClientThread ClientOp ClientInput → Bool
  | .start _ _ => true
  | .act t i => match c.tasks t, c.tasks .control with
    | [.openOther], [.joinReader n] => (c.tasks (.reader n)).all fun k => k.reading ≠ some i.fd
    | _, _ => true

theorem keepsNumber_of_keepsNumberOf (c : ClientCrew) (m : Move ClientThread ClientOp ClientInput)
    (h : keepsNumberOf c m = true) : keepsNumber c m := by
  cases m with
  | start t o => trivial
  | act t i =>
      intro n hopen hjoin k hk
      simp only [keepsNumberOf, hopen, hjoin, List.all_eq_true] at h
      exact of_decide_eq_true (h k hk)

/-- The reader has half a header of descriptor 5 and waits for the rest of it while `Disconnect` closes it; another
part of the process opens descriptor `fd`, before the reader reads again. -/
def opensWhileJoined (fd : Int) (received : Option ByteBuffer) : List (Move ClientThread ClientOp ClientInput) :=
  connectsOnFive ++ [.act (.reader 0) {}, .act (.reader 0) { received := some (seventhMessage.take 3) },
    .start .control .disconnect, .act .control {}, .act .control {}, .start .rest .openOther, .act .rest { fd },
    .act (.reader 0) { received }]

theorem reads_own_after : ∃ c, Crew.play (clientWork .little) keepsNumberOf (opensWhileJoined 6 none)
      (newClient "127.0.0.1" 9000 fun fd => fd = 3) = some c ∧
    c.shared.log.reads = [(0, none), (0, some (.own 0))] ∧
    ∀ read ∈ c.shared.log.reads, read.2 = some (.own read.1) ∨ read.2 = none := by
  have hend : (Crew.play (clientWork .little) keepsNumberOf (opensWhileJoined 6 none)
      (newClient "127.0.0.1" 9000 fun fd => fd = 3)).map (fun c => c.shared.log.reads) =
        some [(0, none), (0, some (.own 0))] := rfl
  obtain ⟨c, hc, hcs⟩ := Option.map_eq_some_iff.mp hend
  exact ⟨c, hc, hcs, reads_own (Crew.Run.refl.play keepsNumber_of_keepsNumberOf hc)⟩

/-- Where it is given number 5, the rest of the message comes from another socket, and the reader comes to the handler
with it. -/
theorem handles_another : ∃ c, Crew.Run (clientWork .little) (fun _ _ => True)
      (newClient "127.0.0.1" 9000 fun fd => fd = 3) c ∧
    c.shared.log.reads = [(0, some .other), (0, some (.own 0))] ∧ c.shared.log.handled 0 = [((7, []), true)] := by
  have hend : (Crew.play (clientWork .little) (fun _ _ => true)
      (opensWhileJoined 5 (some (seventhMessage.drop 3)) ++ [.act (.reader 0) {}, .act (.reader 0) {}])
      (newClient "127.0.0.1" 9000 fun fd => fd = 3)).map
        (fun c => (c.shared.log.reads, c.shared.log.handled 0)) =
          some ([(0, some .other), (0, some (.own 0))], [((7, []), true)]) := rfl
  obtain ⟨c, hc, hcs⟩ := Option.map_eq_some_iff.mp hend
  simp only [Prod.mk.injEq] at hcs
  exact ⟨c, Crew.Run.refl.play (fun _ _ _ => trivial) hc, hcs⟩

end SomeServer
