/-
# SomeServer.Client.Sockets — the sockets of the simulated client are closed once

`Disconnect` and `Stop` take the descriptor out of the service before they close it, and `ReaderLoop` closes what it
still finds there, under the mutex; `Connect` waits for the last reader before it makes a socket. So nobody closes a
number that has been given away, no two sockets are open at a time, and no reader is started while another one has
not been joined, which would end the process.
-/
import SomeServer.Client.Connection

namespace SomeServer

open Lib

namespace ClientTask

/-- Who performs the task. -/
def thread : ClientTask → ClientThread
  | loopHead n | readHeader n _ _ _ | readPayload n _ _ _ _ | count n _ _ _ | handle n _ _ _ | leave n => .reader n
  | openOther | closeOther _ => .rest
  | _ => .control

/-- The descriptor that the task has in its hands. -/
def holds : ClientTask → Option Int
  | dial fd _ | dropSocket fd _ | publish fd _ | closeSocket fd _ => some fd
  | _ => none

/-- The number of that socket. -/
def number : ClientTask → Option Nat
  | dial _ n | publish _ n => some n
  | _ => none

/-- The reader that is to be joined. -/
def joins : ClientTask → Option Nat
  | joinStale n | joinReader n => some n
  | closeSocket _ reader => reader
  | _ => none

/-- Whether the task comes while the service has neither a socket nor a reader. -/
def between : ClientTask → Bool
  | joinStale _ | openSocket | dial _ _ | dropSocket _ _ | publish _ _ | closeSocket _ _ | joinReader _ => true
  | _ => false

end ClientTask

/-- The descriptor is the service's, or in the hands of the console's thread. -/
def ClientProcess.Held (s : ClientProcess) (control : Option ClientTask) (fd : Int) : Prop :=
  s.socketFd = some fd ∨ ∃ k ∈ control, k.holds = some fd

/-- The reader can be joined, or is waited for. -/
def ClientProcess.Joined (s : ClientProcess) (control : Option ClientTask) (n : Nat) : Prop :=
  s.readerThread = some n ∨ ∃ k ∈ control, k.joins = some n

/-- The sockets of the service are those that are open, the last one if any; and whoever reads is joined. -/
structure Sound (s : ClientProcess) (control : Option ClientTask) (busy : Nat → Prop) : Prop where
  alive : s.terminated = false
  held : ∀ fd, s.Held control fd → ∃ n, n + 1 = s.sockets ∧ s.descriptors fd = some (.own n)
  known : ∀ fd n, s.descriptors fd = some (.own n) → s.Held control fd
  between : ∀ k ∈ control, k.between = true → s.socketFd = none ∧ s.readerThread = none
  numbered : ∀ k ∈ control, ∀ n, k.number = some n → n + 1 = s.sockets
  reader : ∀ fd, s.socketFd = some fd → ∃ n, s.readerThread = some n ∧ n + 1 = s.sockets
  busy : ∀ n, busy n → s.Joined control n
  connected : s.snapshot.connected = s.socketFd.isSome
  closed : ∃ ns : List Nat, s.log.closed = ns.map (fun n => some (.own n)) ∧ ns.Nodup ∧
    ∀ n ∈ ns, n < s.sockets ∧ ∀ fd, s.descriptors fd ≠ some (.own n)

/-- Nothing has been done about the sockets and the readers. -/
structure SameSockets (s' s : ClientProcess) : Prop where
  socketFd : s'.socketFd = s.socketFd
  readerThread : s'.readerThread = s.readerThread
  descriptors : s'.descriptors = s.descriptors
  sockets : s'.sockets = s.sockets
  terminated : s'.terminated = s.terminated
  connected : s'.snapshot.connected = s.snapshot.connected
  closed : s'.log.closed = s.log.closed

namespace SameSockets

variable {s s' s'' : ClientProcess}

theorem trans (h : SameSockets s'' s') (h' : SameSockets s' s) : SameSockets s'' s :=
  ⟨h.socketFd.trans h'.socketFd, h.readerThread.trans h'.readerThread, h.descriptors.trans h'.descriptors,
    h.sockets.trans h'.sockets, h.terminated.trans h'.terminated, h.connected.trans h'.connected,
    h.closed.trans h'.closed⟩

theorem writes (fd : Int) (bytes : ByteBuffer) : SameSockets (s.writes fd bytes) s := by
  unfold ClientProcess.writes
  split <;> exact ⟨rfl, rfl, rfl, rfl, rfl, rfl, rfl⟩

theorem sends (fd : Int) (message : UInt32 × ByteBuffer) : SameSockets (s.sends fd message) s := by
  unfold ClientProcess.sends
  dsimp only
  split <;> exact ⟨rfl, rfl, rfl, rfl, rfl, rfl, rfl⟩

theorem cutsOff (fd : Int) (part : FramePart) : SameSockets (s.cutsOff fd part) s := by
  unfold ClientProcess.cutsOff
  dsimp only
  split <;> exact ⟨rfl, rfl, rfl, rfl, rfl, rfl, rfl⟩

end SameSockets

namespace Sound

variable {s s' : ClientProcess} {control control' : Option ClientTask} {busy busy' : Nat → Prop} {k k' : ClientTask}
  {fd : Int} {n : Nat}

theorem exists_some {P : ClientTask → Prop} : (∃ k' ∈ some k, P k') ↔ P k := by simp

theorem exists_none {P : ClientTask → Prop} : ¬∃ k ∈ (none : Option ClientTask), P k := by simp

theorem between_of_holds (h : k.holds = some fd) : k.between = true := by
  cases k <;> first | rfl | cases h

theorem between_of_joins (h : k.joins = some n) : k.between = true := by
  cases k <;> first | rfl | cases h

/-- A descriptor is not held twice. -/
theorem held_unique (h : Sound s control busy) {fd' : Int} (hfd : s.Held control fd) (hfd' : s.Held control fd') :
    fd = fd' := by
  have hnone : ∀ fd, (∃ k ∈ control, k.holds = some fd) → s.socketFd = none := by
    rintro fd ⟨k, hk, hholds⟩
    exact (h.between k hk (between_of_holds hholds)).1
  rcases hfd with hsocket | ⟨k, hk, hholds⟩ <;> rcases hfd' with hsocket' | ⟨k', hk', hholds'⟩
  · exact Option.some.inj (hsocket.symm.trans hsocket')
  · rw [hnone fd' ⟨k', hk', hholds'⟩] at hsocket
    cases hsocket
  · rw [hnone fd ⟨k, hk, hholds⟩] at hsocket'
    cases hsocket'
  · cases Option.mem_unique hk hk'
    exact Option.some.inj (hholds.symm.trans hholds')

/-- And no two readers are to be joined. -/
theorem joined_unique (h : Sound s control busy) {n' : Nat} (hn : s.Joined control n) (hn' : s.Joined control n') :
    n = n' := by
  have hnone : ∀ n, (∃ k ∈ control, k.joins = some n) → s.readerThread = none := by
    rintro n ⟨k, hk, hjoins⟩
    exact (h.between k hk (between_of_joins hjoins)).2
  rcases hn with hthread | ⟨k, hk, hjoins⟩ <;> rcases hn' with hthread' | ⟨k', hk', hjoins'⟩
  · exact Option.some.inj (hthread.symm.trans hthread')
  · rw [hnone n' ⟨k', hk', hjoins'⟩] at hthread
    cases hthread
  · rw [hnone n ⟨k, hk, hjoins⟩] at hthread'
    cases hthread'
  · cases Option.mem_unique hk hk'
    exact Option.some.inj (hjoins.symm.trans hjoins')

/-- One open socket is all there is. -/
theorem unique (h : Sound s control busy) {fd' : Int} {n' : Nat} (hfd : s.descriptors fd = some (.own n))
    (hfd' : s.descriptors fd' = some (.own n')) : fd = fd' ∧ n = n' := by
  obtain rfl := h.held_unique (h.known fd n hfd) (h.known fd' n' hfd')
  rw [hfd] at hfd'
  cases hfd'
  exact ⟨rfl, rfl⟩

/-- The socket that is held is closed, and no other one is open. -/
theorem close (h : Sound s control busy) (hfd : s.Held control fd)
    (hdescriptors : s'.descriptors = Function.update s.descriptors fd none)
    (hclosed : s'.log.closed = s.descriptors fd :: s.log.closed)
    (hsockets : s'.sockets = s.sockets) (halive : s'.terminated = s.terminated) (hsocket : s'.socketFd = none)
    (hconnected : s'.snapshot.connected = false)
    (hcontrol : ∀ k ∈ control', k.holds = none ∧ k.number = none ∧ (k.between = true → s'.readerThread = none))
    (hbusy : ∀ n, busy' n → s'.Joined control' n) : Sound s' control' busy' := by
  obtain ⟨n, hn, hown⟩ := h.held fd hfd
  have hnothing : ∀ fd' n', s'.descriptors fd' ≠ some (.own n') := by
    intro fd' n' hopen
    rw [hdescriptors] at hopen
    by_cases heq : fd' = fd
    · rw [heq, Function.update_self] at hopen
      cases hopen
    · rw [Function.update_of_ne heq] at hopen
      exact heq (h.unique hopen hown).1
  have hfree : ∀ fd', ¬s'.Held control' fd' := by
    rintro fd' (hsome | ⟨k, hk, hholds⟩)
    · rw [hsocket] at hsome
      cases hsome
    · rw [(hcontrol k hk).1] at hholds
      cases hholds
  obtain ⟨ns, hns, hnodup, hgone⟩ := h.closed
  refine ⟨halive.trans h.alive, fun fd' hheld => absurd hheld (hfree fd'),
    fun fd' n' hopen => absurd hopen (hnothing fd' n'),
    fun k hk hbetween => ⟨hsocket, (hcontrol k hk).2.2 hbetween⟩, fun k hk n hnumber => ?_, fun fd' hsome => ?_, hbusy,
    ?_, n :: ns, ?_, ?_, fun n' hn' => ⟨?_, fun fd' => hnothing fd' n'⟩⟩
  · rw [(hcontrol k hk).2.1] at hnumber
    cases hnumber
  · rw [hsocket] at hsome
    cases hsome
  · rw [hconnected, hsocket]
    rfl
  · rw [hclosed, hns, hown]
    rfl
  · exact List.nodup_cons.mpr ⟨fun hmem => (hgone n hmem).2 fd hown, hnodup⟩
  · rw [hsockets]
    rcases List.mem_cons.mp hn' with rfl | hold
    · omega
    · exact (hgone n' hold).1

/-- The sockets stay as they are, and the console's thread has the same in its hands. -/
theorem keeps (h : Sound s control busy) (hdescriptors : s'.descriptors = s.descriptors)
    (hclosed : s'.log.closed = s.log.closed) (hsockets : s'.sockets = s.sockets) (halive : s'.terminated = s.terminated)
    (hheld : ∀ fd, s'.Held control' fd ↔ s.Held control fd)
    (hbetween : ∀ k ∈ control', k.between = true → s'.socketFd = none ∧ s'.readerThread = none)
    (hnumbered : ∀ k' ∈ control', ∀ n, k'.number = some n → ∃ k ∈ control, k.number = some n)
    (hreader : ∀ fd, s'.socketFd = some fd → ∃ n, s'.readerThread = some n ∧ n + 1 = s.sockets)
    (hbusy : ∀ n, busy' n → s'.Joined control' n) (hconnected : s'.snapshot.connected = s'.socketFd.isSome) :
    Sound s' control' busy' := by
  refine ⟨halive.trans h.alive, ?_, ?_, hbetween, ?_, ?_, hbusy, hconnected, ?_⟩
  · rw [hdescriptors, hsockets]
    exact fun fd hfd => h.held fd ((hheld fd).mp hfd)
  · rw [hdescriptors]
    exact fun fd n hfd => (hheld fd).mpr (h.known fd n hfd)
  · rw [hsockets]
    intro k' hk' n hn
    obtain ⟨k, hk, hnumber⟩ := hnumbered k' hk' n hn
    exact h.numbered k hk n hnumber
  · rw [hsockets]
    exact hreader
  · rw [hdescriptors, hclosed, hsockets]
    exact h.closed

/-- `Connect` has made a socket. -/
theorem opens (h : Sound s control busy) (hfree : s.descriptors fd = none) (hnothing : ∀ fd, ¬s.Held control fd)
    (hcontrol : control' = some (.dial fd s.sockets)) (hsocket : s.socketFd = none) (hreader : s.readerThread = none)
    (hbusy : ∀ n, ¬busy' n) : Sound (s.openSocket fd) control' busy' := by
  subst hcontrol
  have hheld : ∀ fd', (s.openSocket fd).Held (some (.dial fd s.sockets)) fd' ↔ fd' = fd := by
    intro fd'
    constructor
    · rintro (hsome | ⟨k, hk, hholds⟩)
      · rw [show (s.openSocket fd).socketFd = none from hsocket] at hsome
        cases hsome
      · cases hk
        exact (Option.some.inj hholds).symm
    · rintro rfl
      exact .inr ⟨_, rfl, rfl⟩
  obtain ⟨ns, hns, hnodup, hgone⟩ := h.closed
  refine ⟨h.alive, fun fd' hfd' => ?_, fun fd' n hopen => (hheld fd').mpr ?_, fun _ _ _ => ⟨hsocket, hreader⟩,
    fun k hk n hn => ?_, fun fd' hsome => ?_, fun n hn => absurd hn (hbusy n), h.connected, ns, hns, hnodup,
    fun n hn => ⟨?_, fun fd' => ?_⟩⟩
  · obtain rfl := (hheld fd').mp hfd'
    exact ⟨s.sockets, rfl, Function.update_self _ _ _⟩
  · by_contra hne
    have hold : s.descriptors fd' = some (.own n) := by
      rw [← hopen]
      exact (Function.update_of_ne hne _ _).symm
    exact hnothing fd' (h.known fd' n hold)
  · cases hk
    cases hn
    rfl
  · rw [show (s.openSocket fd).socketFd = none from hsocket] at hsome
    cases hsome
  · exact Nat.lt_succ_of_lt (hgone n hn).1
  · by_cases heq : fd' = fd
    · subst heq
      rw [show (s.openSocket fd').descriptors fd' = some (.own s.sockets) from Function.update_self _ _ _]
      intro hsame
      cases hsame
      exact Nat.lt_irrefl _ (hgone _ hn).1
    · rw [show (s.openSocket fd).descriptors fd' = s.descriptors fd' from Function.update_of_ne heq _ _]
      exact (hgone n hn).2 fd'

/-- The rest of the process opens a descriptor, or closes one of its own. -/
theorem others (h : Sound s control busy) {value : Option ClientDescriptor}
    (hfd : ∀ n, s.descriptors fd ≠ some (.own n)) (hvalue : ∀ n, value ≠ some (.own n)) :
    Sound { s with descriptors := Function.update s.descriptors fd value } control busy := by
  have hsame : ∀ fd' n, Function.update s.descriptors fd value fd' = some (.own n) ↔
      s.descriptors fd' = some (.own n) := by
    intro fd' n
    by_cases heq : fd' = fd
    · subst heq
      rw [Function.update_self]
      exact iff_of_false (hvalue n) (hfd n)
    · rw [Function.update_of_ne heq]
  obtain ⟨ns, hns, hnodup, hgone⟩ := h.closed
  refine ⟨h.alive, fun fd' hfd' => ?_, fun fd' n hopen => h.known fd' n ((hsame fd' n).mp hopen), h.between, h.numbered,
    h.reader, h.busy, h.connected, ns, hns, hnodup, fun n hn => ⟨(hgone n hn).1, fun fd' hopen => ?_⟩⟩
  · obtain ⟨n, hn, hopen⟩ := h.held fd' hfd'
    exact ⟨n, hn, (hsame fd' n).mpr hopen⟩
  · exact (hgone n hn).2 fd' ((hsame fd' n).mp hopen)

/-! ### One task -/

variable {order : ByteOrder} {free : ClientThread → Bool} {i : ClientInput} {p : ClientPerformed}

/-- A task that leaves the sockets alone and leads to none that is about them. -/
theorem plain (h : Sound s (some k) busy) (hsame : SameSockets s' s)
    (hk : k.holds = none ∧ k.joins = none)
    (hcontrol : ∀ k' ∈ control', k'.holds = none ∧ k'.joins = none ∧ k'.number = none ∧
      (k'.between = true → s.socketFd = none ∧ s.readerThread = none)) : Sound s' control' busy := by
  obtain ⟨hsocket, hreader, hdescriptors, hsockets, halive, hconnected, hclosed⟩ := hsame
  refine h.keeps hdescriptors hclosed hsockets halive (fun fd => ?_) (fun k' hk' hbetween => ?_)
    (fun k' hk' n hn => ?_) ?_ (fun n hn => ?_) ?_
  · have hleft : ¬∃ k' ∈ control', k'.holds = some fd := by
      rintro ⟨k', hk', hholds⟩
      rw [(hcontrol k' hk').1] at hholds
      cases hholds
    have hright : ¬∃ k' ∈ some k, k'.holds = some fd := by
      rintro ⟨k', hk', hholds⟩
      cases hk'
      rw [hk.1] at hholds
      cases hholds
    rw [ClientProcess.Held, ClientProcess.Held, hsocket, or_iff_left hleft, or_iff_left hright]
  · rw [hsocket, hreader]
    exact (hcontrol k' hk').2.2.2 hbetween
  · rw [(hcontrol k' hk').2.2.1] at hn
    cases hn
  · rw [hsocket, hreader]
    exact h.reader
  · rcases h.busy n hn with hthread | ⟨k', hk', hjoins⟩
    · exact .inl (hreader.trans hthread)
    · cases hk'
      rw [hk.2] at hjoins
      cases hjoins
  · rw [hconnected, hsocket]
    exact h.connected

/-- Between two connections the console's thread goes on with what it has in its hands. -/
theorem passes (h : Sound s (some k) busy) (hk : k.between = true) (hsame : SameSockets s' s)
    (hholds : ∀ fd, (∃ k' ∈ control', k'.holds = some fd) ↔ k.holds = some fd)
    (hnumber : ∀ k' ∈ control', ∀ n, k'.number = some n → k.number = some n)
    (hbusy : ∀ n, busy' n → ∃ k' ∈ control', k'.joins = some n) : Sound s' control' busy' := by
  obtain ⟨hsocket, hreader, hdescriptors, hsockets, halive, hconnected, hclosed⟩ := hsame
  obtain ⟨hnosocket, hnoreader⟩ := h.between k rfl hk
  refine h.keeps hdescriptors hclosed hsockets halive (fun fd => or_congr ?_ ?_) (fun _ _ _ => ?_)
    (fun k' hk' n hn => ⟨k, rfl, hnumber k' hk' n hn⟩) (fun fd hsome => ?_) (fun n hn => .inr (hbusy n hn)) ?_
  · rw [hsocket]
  · rw [hholds]
    exact ⟨fun hfd => ⟨k, rfl, hfd⟩, fun ⟨k', hk', hfd⟩ => Option.some.inj hk' ▸ hfd⟩
  · rw [hsocket, hreader]
    exact ⟨hnosocket, hnoreader⟩
  · rw [hsocket, hnosocket] at hsome
    cases hsome
  · rw [hconnected, hsocket]
    exact h.connected

/-- Who is busy is the reader that is to be joined. -/
theorem busy_joins (h : Sound s (some k) busy) (hk : k.between = true) (hn : busy n) : k.joins = some n := by
  rcases h.busy n hn with hthread | ⟨k', hk', hjoins⟩
  · rw [(h.between k rfl hk).2] at hthread
    cases hthread
  · cases hk'
    exact hjoins

/-- `Connect` begins. -/
theorem connectEnter (h : Sound s (some .connectEnter) busy)
    (hp : ClientTask.perform order free i s .connectEnter = some p) :
    Sound p.shared p.tasks.head? busy ∧ p.started = none := by
  simp only [ClientTask.perform] at hp
  split at hp
  · cases hp
    exact ⟨h.plain ⟨rfl, rfl, rfl, rfl, rfl, rfl, rfl⟩ ⟨rfl, rfl⟩ (by simp), rfl⟩
  · rename_i hsocket
    have hnone : s.socketFd = none := Option.not_isSome_iff_eq_none.mp hsocket
    split at hp
    · -- the last reader has to be waited for
      rename_i n hreader
      cases hp
      refine ⟨h.keeps rfl rfl rfl rfl (fun fd => ?_) (fun _ _ _ => ⟨hnone, rfl⟩) (by simp [ClientTask.number])
        (fun fd hsome => ?_) (fun m hm => ?_) h.connected, rfl⟩
      · exact or_congr Iff.rfl (by simp [ClientTask.holds])
      · exact absurd (hnone.symm.trans hsome) (by simp)
      · rcases h.busy m hm with hthread | hjoins
        · exact .inr (exists_some.mpr (hreader.symm.trans hthread))
        · exact absurd (exists_some.mp hjoins) (by simp [ClientTask.joins])
    · rename_i hreader
      cases hp
      exact ⟨h.plain ⟨rfl, rfl, rfl, rfl, rfl, rfl, rfl⟩ ⟨rfl, rfl⟩
        (by simpa [ClientTask.holds, ClientTask.joins, ClientTask.number] using fun _ => ⟨hnone, hreader⟩), rfl⟩

/-- A reader is waited for. -/
theorem joins (h : Sound s (some k) busy) (hk : k = .joinStale n ∨ k = .joinReader n)
    (hfree : ∀ n, free (.reader n) = true → ¬busy n) (hp : k.perform order free i s = some p) :
    Sound p.shared p.tasks.head? busy ∧ p.started = none := by
  have hbetween : k.between = true := by rcases hk with rfl | rfl <;> rfl
  have hnobody : free (.reader n) = true → ∀ m, ¬busy m := by
    rintro hn m hm
    have hjoins : k.joins = some m := h.busy_joins hbetween hm
    obtain rfl : n = m := by rcases hk with rfl | rfl <;> exact Option.some.inj hjoins
    exact hfree n hn hm
  rcases hk with rfl | rfl
  · simp only [ClientTask.perform, Option.ite_none_right_eq_some, Option.some.injEq] at hp
    obtain ⟨hn, rfl⟩ := hp
    exact ⟨h.passes hbetween ⟨rfl, rfl, rfl, rfl, rfl, rfl, rfl⟩ (fun fd => exists_some) (by simp [ClientTask.number])
      fun m hm => absurd hm (hnobody hn m), rfl⟩
  · simp only [ClientTask.perform, Option.ite_none_right_eq_some, Option.some.injEq] at hp
    obtain ⟨hn, rfl⟩ := hp
    exact ⟨h.passes hbetween ⟨rfl, rfl, rfl, rfl, rfl, rfl, rfl⟩
      (fun fd => iff_of_false exists_none (by simp [ClientTask.holds])) (by simp)
      fun m hm => absurd hm (hnobody hn m), rfl⟩

/-- A socket is made, or cannot be. -/
theorem openSocket (h : Sound s (some .openSocket) busy)
    (hp : ClientTask.perform order free i s .openSocket = some p) :
    Sound p.shared p.tasks.head? busy ∧ p.started = none := by
  obtain ⟨hsocket, hreader⟩ := h.between _ rfl rfl
  have hnobody : ∀ n, ¬busy n := fun n hn => absurd (h.busy_joins rfl hn) (by simp [ClientTask.joins])
  have hnothing : ∀ fd, ¬s.Held (some .openSocket) fd := by
    rintro fd (hsome | hholds)
    · exact absurd (hsocket.symm.trans hsome) (by simp)
    · exact absurd (exists_some.mp hholds) (by simp [ClientTask.holds])
  simp only [ClientTask.perform] at hp
  split at hp
  · cases hp
    exact ⟨h.plain ⟨rfl, rfl, rfl, rfl, rfl, rfl, rfl⟩ ⟨rfl, rfl⟩ (by simp), rfl⟩
  · simp only [Option.ite_none_right_eq_some, Option.some.injEq] at hp
    obtain ⟨hfree, rfl⟩ := hp
    exact ⟨h.opens hfree hnothing rfl hsocket hreader hnobody, rfl⟩

/-- The new socket is dialled. -/
theorem dial (h : Sound s (some (.dial fd n)) busy) (hp : ClientTask.perform order free i s (.dial fd n) = some p) :
    Sound p.shared p.tasks.head? busy ∧ p.started = none := by
  have hnobody : ∀ n, ¬busy n := fun n hn => absurd (h.busy_joins rfl hn) (by simp [ClientTask.joins])
  have hon : ∀ k', k'.holds = some fd → (∀ m, k'.number = some m → m = n) → Sound s (some k') busy := by
    intro k' hholds hnumber
    refine h.passes rfl ⟨rfl, rfl, rfl, rfl, rfl, rfl, rfl⟩ (fun fd' => ?_) (fun k hk m hm => ?_)
      fun m hm => absurd hm (hnobody m)
    · rw [exists_some, hholds]
      exact Iff.rfl
    · cases hk
      rw [hnumber m hm]
      rfl
  simp only [ClientTask.perform] at hp
  split at hp
  · cases hp
    exact ⟨hon (.dropSocket fd _) rfl (by simp [ClientTask.number]), rfl⟩
  · split at hp
    · cases hp
      exact ⟨hon (.dropSocket fd _) rfl (by simp [ClientTask.number]), rfl⟩
    · cases hp
      exact ⟨hon (.publish fd n) rfl fun m hm => (Option.some.inj hm).symm, rfl⟩

/-- The connection is made; there is no reader yet whose thread would be assigned to. -/
theorem publish (h : Sound s (some (.publish fd n)) busy)
    (hp : ClientTask.perform order free i s (.publish fd n) = some p) :
    Sound p.shared p.tasks.head? (fun m => busy m ∨ m = n) ∧ p.started = some (.reader n, [.loopHead n]) := by
  obtain ⟨hsocket, hreader⟩ := h.between _ rfl rfl
  have hnobody : ∀ n, ¬busy n := fun n hn => absurd (h.busy_joins rfl hn) (by simp [ClientTask.joins])
  simp only [ClientTask.perform, hreader, Option.isSome_none, Bool.false_eq_true, if_false, Option.some.injEq] at hp
  subst hp
  refine ⟨h.keeps rfl rfl rfl rfl (fun fd' => ?_) (by simp) (by simp) (fun fd' hsome => ?_) (fun m hm => ?_) rfl, rfl⟩
  · rw [ClientProcess.Held, ClientProcess.Held, hsocket, exists_some]
    simp [ClientProcess.publish, ClientProcess.returns, ClientTask.holds]
  · exact ⟨n, rfl, h.numbered _ rfl n rfl⟩
  · rcases hm with hold | rfl
    · exact absurd hold (hnobody m)
    · exact .inl rfl

/-- The socket and its reader are taken out of the service. -/
theorem takeSocket (h : Sound s (some k) busy) (hk : k.holds = none ∧ k.joins = none) (hsome : s.socketFd = some fd)
    (hsame : s'.socketFd = none ∧ s'.readerThread = none ∧ s'.descriptors = s.descriptors ∧ s'.sockets = s.sockets ∧
      s'.terminated = s.terminated ∧ s'.snapshot.connected = false ∧ s'.log.closed = s.log.closed) :
    Sound s' (some (.closeSocket fd s.readerThread)) busy := by
  obtain ⟨hsocket, hreader, hdescriptors, hsockets, halive, hconnected, hclosed⟩ := hsame
  refine h.keeps hdescriptors hclosed hsockets halive (fun fd' => ?_) (fun _ _ _ => ⟨hsocket, hreader⟩)
    (by simp [ClientTask.number]) (fun fd' h' => ?_) (fun m hm => .inr ?_) ?_
  · rw [ClientProcess.Held, ClientProcess.Held, hsocket, hsome, exists_some, exists_some, hk.1]
    simp [ClientTask.holds]
  · rw [hsocket] at h'
    cases h'
  · rcases h.busy m hm with hthread | hjoins
    · exact exists_some.mpr hthread
    · rw [exists_some, hk.2] at hjoins
      cases hjoins
  · rw [hconnected, hsocket]
    rfl

theorem disconnectEnter (h : Sound s (some .disconnectEnter) busy)
    (hp : ClientTask.perform order free i s .disconnectEnter = some p) :
    Sound p.shared p.tasks.head? busy ∧ p.started = none := by
  simp only [ClientTask.perform] at hp
  split at hp
  · cases hp
    exact ⟨h.plain ⟨rfl, rfl, rfl, rfl, rfl, rfl, rfl⟩ ⟨rfl, rfl⟩ (by simp), rfl⟩
  · rename_i fd hsome
    cases hp
    exact ⟨h.takeSocket ⟨rfl, rfl⟩ hsome ⟨rfl, rfl, rfl, rfl, rfl, rfl, rfl⟩, rfl⟩

theorem stopEnter (h : Sound s (some .stopEnter) busy) (hp : ClientTask.perform order free i s .stopEnter = some p) :
    Sound p.shared p.tasks.head? busy ∧ p.started = none := by
  -- without a socket there is nothing to close
  have hwithout : s.socketFd = none → ∀ control', (∀ k ∈ control', k.holds = none ∧ k.number = none) →
      (∀ n, s.readerThread = some n → ∃ k ∈ control', k.joins = some n) → ∀ s', s'.socketFd = none ∧
        s'.readerThread = none ∧ s'.descriptors = s.descriptors ∧ s'.sockets = s.sockets ∧
        s'.terminated = s.terminated ∧ s'.snapshot.connected = false ∧ s'.log.closed = s.log.closed →
      Sound s' control' busy := by
    rintro hnone control' hcontrol hjoins s' ⟨hsocket, hreader, hdescriptors, hsockets, halive, hconnected, hclosed⟩
    refine h.keeps hdescriptors hclosed hsockets halive (fun fd => or_congr ?_ ?_) (fun _ _ _ => ⟨hsocket, hreader⟩)
      (fun k hk n hn => ?_) (fun fd hsome => ?_) (fun n hn => .inr ?_) ?_
    · rw [hsocket, hnone]
    · refine iff_of_false ?_ (by simp [ClientTask.holds])
      rintro ⟨k, hk, hholds⟩
      rw [(hcontrol k hk).1] at hholds
      cases hholds
    · rw [(hcontrol k hk).2] at hn
      cases hn
    · rw [hsocket] at hsome
      cases hsome
    · rcases h.busy n hn with hthread | hold
      · exact hjoins n hthread
      · exact absurd (exists_some.mp hold) (by simp [ClientTask.joins])
    · rw [hconnected, hsocket]
      rfl
  simp only [ClientTask.perform] at hp
  split at hp
  · rename_i fd reader hsome
    cases hp
    exact ⟨h.takeSocket ⟨rfl, rfl⟩ hsome ⟨rfl, rfl, rfl, rfl, rfl, rfl, rfl⟩, rfl⟩
  · rename_i n hnone hreader
    cases hp
    refine ⟨hwithout hnone _ (by simp [ClientTask.holds, ClientTask.number]) (fun m hm => ?_) _
      ⟨rfl, rfl, rfl, rfl, rfl, rfl, rfl⟩, rfl⟩
    exact exists_some.mpr (hreader.symm.trans hm)
  · rename_i hnone hreader
    cases hp
    refine ⟨hwithout hnone _ (by simp) (fun m hm => ?_) _ ⟨rfl, rfl, rfl, rfl, rfl, rfl, rfl⟩, rfl⟩
    rw [hreader] at hm
    cases hm

/-- A descriptor that was in the hands of the console's thread is closed. -/
theorem closes (h : Sound s (some k) busy) (hholds : k.holds = some fd) (hp : k.perform order free i s = some p)
    (hk : (∃ error, k = .dropSocket fd error) ∨ ∃ reader, k = .closeSocket fd reader) :
    Sound p.shared p.tasks.head? busy ∧ p.started = none := by
  obtain ⟨hsocket, hreader⟩ := h.between k rfl (between_of_holds hholds)
  have hheld : s.Held (some k) fd := .inr (exists_some.mpr hholds)
  have hconnected : s.snapshot.connected = false := by
    rw [h.connected, hsocket]
    rfl
  have hjoins : ∀ n, busy n → k.joins = some n := fun n => h.busy_joins (between_of_holds hholds)
  obtain ⟨error, rfl⟩ | ⟨reader, rfl⟩ := hk
  · simp only [ClientTask.perform, Option.some.injEq] at hp
    subst hp
    exact ⟨h.close hheld rfl rfl rfl rfl hsocket hconnected (by simp)
      fun n hn => absurd (hjoins n hn) (by simp [ClientTask.joins]), rfl⟩
  · simp only [ClientTask.perform] at hp
    split at hp
    · cases hp
      refine ⟨h.close hheld rfl rfl rfl rfl hsocket hconnected (fun k hk => ?_)
        fun n hn => .inr (exists_some.mpr (hjoins n hn)), rfl⟩
      cases hk
      exact ⟨rfl, rfl, fun _ => hreader⟩
    · cases hp
      exact ⟨h.close hheld rfl rfl rfl rfl hsocket hconnected (by simp)
        fun n hn => absurd (hjoins n hn) (by simp [ClientTask.joins]), rfl⟩

/-- Nothing is done about the sockets. -/
theorem same (h : Sound s control busy) (hsame : SameSockets s' s) : Sound s' control busy := by
  obtain ⟨hsocket, hreader, hdescriptors, hsockets, halive, hconnected, hclosed⟩ := hsame
  refine h.keeps hdescriptors hclosed hsockets halive (fun fd => ?_) ?_ (fun k hk n hn => ⟨k, hk, hn⟩) ?_
    (fun n hn => (h.busy n hn).imp_left hreader.trans) ?_
  · rw [ClientProcess.Held, ClientProcess.Held, hsocket]
  · rw [hsocket, hreader]
    exact h.between
  · rw [hsocket, hreader]
    exact h.reader
  · rw [hconnected, hsocket]
    exact h.connected

theorem fewer (h : Sound s control busy) (hbusy : ∀ n, busy' n → busy n) : Sound s control busy' :=
  ⟨h.alive, h.held, h.known, h.between, h.numbered, h.reader, fun n hn => h.busy n (hbusy n hn), h.connected, h.closed⟩

/-- A reader leaves its loop, and closes the socket unless somebody has taken it. -/
theorem leave (h : Sound s control busy) (hp : ClientTask.perform order free i s (.leave n) = some p) :
    Sound p.shared control busy ∧ p.started = none := by
  simp only [ClientTask.perform, Option.some.injEq] at hp
  subst hp
  refine ⟨?_, rfl⟩
  split
  · rename_i fd hsome
    have hnot : ∀ k ∈ control, k.between = false := by
      intro k hk
      by_contra hbetween
      rw [(h.between k hk (by simpa using hbetween)).1] at hsome
      cases hsome
    refine h.close (.inl hsome) rfl rfl rfl rfl rfl rfl (fun k hk => ⟨?_, ?_, ?_⟩) fun n hn => ?_
    · cases hholds : k.holds with
      | none => rfl
      | some fd' => exact absurd ((hnot k hk).symm.trans (between_of_holds hholds)) Bool.false_ne_true
    · have hk' := hnot k hk
      cases k <;> first | rfl | cases hk'
    · intro hbetween
      exact absurd ((hnot k hk).symm.trans hbetween) Bool.false_ne_true
    · exact h.busy n hn
  · rename_i hnone
    refine h.same ⟨rfl, rfl, rfl, rfl, rfl, ?_, rfl⟩
    rw [h.connected, hnone]
    rfl

/-- What a reader does. -/
theorem reads (h : Sound s control busy) (hk : k.thread = .reader n) (hp : k.perform order free i s = some p) :
    Sound p.shared control busy ∧ p.started = none := by
  cases k with
  | loopHead m =>
      simp only [ClientTask.perform] at hp
      split at hp
      · cases hp
        exact ⟨h, rfl⟩
      · cases hp
        exact ⟨h, rfl⟩
  | readHeader m fd handler buffer =>
      simp only [ClientTask.perform] at hp
      split at hp
      · cases hp
      · cases hp
        exact ⟨h.same ⟨rfl, rfl, rfl, rfl, rfl, rfl, rfl⟩, rfl⟩
      · cases hp
        exact ⟨h.same ⟨rfl, rfl, rfl, rfl, rfl, rfl, rfl⟩, rfl⟩
  | readPayload m fd handler header buffer =>
      simp only [ClientTask.perform] at hp
      split at hp
      · cases hp
      · cases hp
        exact ⟨h.same ⟨rfl, rfl, rfl, rfl, rfl, rfl, rfl⟩, rfl⟩
      · cases hp
        exact ⟨h.same ⟨rfl, rfl, rfl, rfl, rfl, rfl, rfl⟩, rfl⟩
  | count m handler messageId payload =>
      cases hp
      exact ⟨h.same ⟨rfl, rfl, rfl, rfl, rfl, rfl, rfl⟩, rfl⟩
  | handle m handler messageId payload =>
      cases hp
      exact ⟨h.same ⟨rfl, rfl, rfl, rfl, rfl, rfl, rfl⟩, rfl⟩
  | leave m => exact h.leave hp
  | _ => cases hk

/-- What the rest of the process does. -/
theorem rests (h : Sound s control busy) (hk : k.thread = .rest) (hp : k.perform order free i s = some p) :
    Sound p.shared control busy ∧ p.started = none := by
  cases k with
  | openOther =>
      simp only [ClientTask.perform, Option.ite_none_right_eq_some, Option.some.injEq] at hp
      obtain ⟨⟨-, hfree⟩, rfl⟩ := hp
      exact ⟨h.others (by simp [hfree]) (by simp), rfl⟩
  | closeOther fd =>
      simp only [ClientTask.perform] at hp
      split at hp
      · rename_i hother
        cases hp
        exact ⟨h.others (by simp [hother]) (by simp), rfl⟩
      · cases hp
        exact ⟨h, rfl⟩
  | _ => cases hk

/-- `SendFrame` writes to the socket while nobody can close it, and does no more about it. -/
theorem sends (h : Sound s (some k) busy) (hp : k.perform order free i s = some p)
    (hk : (∃ messageId payload, k = .sendEnter messageId payload) ∨
      ∃ fd part buffer messageId payload, k = .send fd part buffer messageId payload) :
    Sound p.shared p.tasks.head? busy ∧ p.started = none := by
  have hplain : ∀ {s' control'}, (SameSockets s' s) →
      (∀ k' ∈ control', k'.holds = none ∧ k'.joins = none ∧ k'.number = none ∧ k'.between = false) →
      Sound s' control' busy := by
    intro s' control' hsame hcontrol
    have hkeep : k.holds = none ∧ k.joins = none := by
      rcases hk with ⟨_, _, rfl⟩ | ⟨_, _, _, _, _, rfl⟩ <;> exact ⟨rfl, rfl⟩
    refine h.plain hsame hkeep fun k' hk' => ?_
    obtain ⟨hholds, hjoins, hnumber, hbetween⟩ := hcontrol k' hk'
    exact ⟨hholds, hjoins, hnumber, fun htrue => absurd (hbetween.symm.trans htrue) Bool.false_ne_true⟩
  have hone : ∀ fd part buffer messageId payload, ∀ k' ∈ some (ClientTask.send fd part buffer messageId payload),
      k'.holds = none ∧ k'.joins = none ∧ k'.number = none ∧ k'.between = false := by
    intro fd part buffer messageId payload k' hk'
    cases hk'
    exact ⟨rfl, rfl, rfl, rfl⟩
  have hnone : ∀ k' ∈ (none : Option ClientTask),
      k'.holds = none ∧ k'.joins = none ∧ k'.number = none ∧ k'.between = false := by simp
  obtain ⟨messageId, payload, rfl⟩ | ⟨fd, part, buffer, messageId, payload, rfl⟩ := hk
  · simp only [ClientTask.perform] at hp
    split at hp
    · cases hp
      exact ⟨hplain ⟨rfl, rfl, rfl, rfl, rfl, rfl, rfl⟩ hnone, rfl⟩
    · cases hp
      exact ⟨hplain ⟨rfl, rfl, rfl, rfl, rfl, rfl, rfl⟩ (hone _ _ _ _ _), rfl⟩
  · simp only [ClientTask.perform] at hp
    split at hp
    · cases hp
      exact ⟨hplain (.cutsOff fd part) hnone, rfl⟩
    · split at hp
      · cases hp
        exact ⟨hplain (.writes fd _) (hone _ _ _ _ _), rfl⟩
      · split at hp
        · split at hp
          · cases hp
            exact ⟨hplain (.writes fd _) (hone _ _ _ _ _), rfl⟩
          · cases hp
            exact ⟨hplain ((SameSockets.sends fd _).trans (.writes fd _)) hnone, rfl⟩
        · cases hp

/-- What the console's thread does; a connection starts its reader. -/
theorem controls (h : Sound s (some k) busy) (hk : k.thread = .control)
    (hfree : ∀ n, free (.reader n) = true → ¬busy n) (hp : k.perform order free i s = some p) :
    (Sound p.shared p.tasks.head? busy ∧ p.started = none) ∨
      ∃ n, Sound p.shared p.tasks.head? (fun m => busy m ∨ m = n) ∧ p.started = some (.reader n, [.loopHead n]) := by
  cases k with
  | connectEnter => exact .inl (h.connectEnter hp)
  | joinStale n => exact .inl (h.joins (.inl rfl) hfree hp)
  | openSocket => exact .inl (h.openSocket hp)
  | dial fd n => exact .inl (h.dial hp)
  | dropSocket fd error => exact .inl (h.closes rfl hp (.inl ⟨error, rfl⟩))
  | publish fd n => exact .inr ⟨n, h.publish hp⟩
  | disconnectEnter => exact .inl (h.disconnectEnter hp)
  | stopEnter => exact .inl (h.stopEnter hp)
  | closeSocket fd reader => exact .inl (h.closes rfl hp (.inr ⟨reader, rfl⟩))
  | joinReader n => exact .inl (h.joins (.inr rfl) hfree hp)
  | sendEnter messageId payload => exact .inl (h.sends hp (.inl ⟨messageId, payload, rfl⟩))
  | send fd part buffer messageId payload => exact .inl (h.sends hp (.inr ⟨fd, part, buffer, messageId, payload, rfl⟩))
  | setMessageHandler =>
      cases hp
      exact .inl ⟨h.plain ⟨rfl, rfl, rfl, rfl, rfl, rfl, rfl⟩ ⟨rfl, rfl⟩ (by simp), rfl⟩
  | _ => cases hk

end Sound

/-! ## Runs -/

theorem afterHeader_thread {order : ByteOrder} {n : Nat} {fd : Int} {handler : Bool} {header : ByteBuffer} :
    (ClientTask.afterHeader order n fd handler header).thread = .reader n := by
  unfold ClientTask.afterHeader
  split <;> rfl

/-- A task leads to one other task at most, of the same thread. -/
theorem perform_tasks {order : ByteOrder} {free : ClientThread → Bool} {i : ClientInput} {s : ClientProcess}
    {k : ClientTask} {p : ClientPerformed} (hp : k.perform order free i s = some p) :
    p.tasks.tail = [] ∧ ∀ k' ∈ p.tasks, k'.thread = k.thread := by
  cases k with
  | readHeader n fd handler buffer =>
      simp only [ClientTask.perform] at hp
      split at hp
      · cases hp
      · cases hp
        exact ⟨rfl, by simp [ClientTask.thread]⟩
      · cases hp
        refine ⟨rfl, fun k' hk' => ?_⟩
        obtain rfl := List.mem_singleton.mp hk'
        split
        · rfl
        · exact afterHeader_thread
  | _ =>
      simp only [ClientTask.perform] at hp
      repeat' split at hp
      all_goals first
        | contradiction
        | (cases hp; exact ⟨rfl, by simp [ClientTask.thread]⟩)

/-- Only a new connection starts a thread. -/
theorem clientPerform_started {order : ByteOrder} {free : ClientThread → Bool} {i : ClientInput} {s : ClientProcess}
    {k : ClientTask} {p : ClientPerformed} (hp : k.perform order free i s = some p) :
    p.started = none ∨ ∃ fd n, k = .publish fd n ∧ p.started = some (.reader n, [.loopHead n]) := by
  cases k with
  | publish fd n =>
      simp only [ClientTask.perform] at hp
      split at hp
      · cases hp
        exact .inl rfl
      · cases hp
        exact .inr ⟨fd, n, rfl, rfl⟩
  | _ =>
      simp only [ClientTask.perform] at hp
      repeat' split at hp
      all_goals first
        | contradiction
        | (cases hp; exact .inl rfl)

/-- Each thread has one task at most, of its own kind; and the sockets are in order. -/
structure Crewed (c : ClientCrew) : Prop where
  own : ∀ t, ∀ k ∈ c.tasks t, k.thread = t
  one : ∀ t, (c.tasks t).tail = []
  sound : Sound c.shared (c.tasks .control).head? fun n => c.tasks (.reader n) ≠ []

namespace Crewed

variable {c : ClientCrew} {t : ClientThread} {k : ClientTask} {rest : List ClientTask} {order : ByteOrder}
  {i : ClientInput} {p : ClientPerformed}

theorem rest_nil (h : Crewed c) (ht : c.tasks t = k :: rest) : rest = [] := by
  have hone := h.one t
  rw [ht] at hone
  exact hone

theorem tasks_eq (h : Crewed c) (hk : k ∈ c.tasks t) : c.tasks t = [k] := by
  have hone := h.one t
  cases htasks : c.tasks t with
  | nil =>
      rw [htasks] at hk
      cases hk
  | cons k' ks =>
      rw [htasks] at hone hk
      obtain rfl : ks = [] := hone
      rw [List.mem_singleton.mp hk]

/-- While `Connect` has a new socket there is no reader. -/
theorem nobody_reads {n m : Nat} (h : Crewed c) (hk : k ∈ c.tasks .control) (hn : k.number = some n) :
    c.tasks (.reader m) = [] := by
  by_contra hbusy
  have hsound := h.sound
  rw [h.tasks_eq hk] at hsound
  have hplace : k.between = true ∧ k.joins = none := by
    cases k <;> first | exact ⟨rfl, rfl⟩ | cases hn
  have hjoins := hsound.busy_joins hplace.1 hbusy
  rw [hplace.2] at hjoins
  cases hjoins

theorem start {o : ClientOp} (h : Crewed c) (ht : c.tasks t = []) (ho : t = o.thread) :
    Crewed (c.begun t [o.task]) := by
  have hthread : o.task.thread = o.thread := by cases o <;> rfl
  refine ⟨fun u k hk => ?_, fun u => ?_, ?_⟩
  · rcases Crew.mem_begun hk with ⟨rfl, hnew⟩ | ⟨-, hold⟩
    · rw [List.mem_singleton.mp hnew, hthread, ho]
    · exact h.own u k hold
  · by_cases hu : u = t
    · subst hu
      rw [Crew.begun_tasks_self]
      rfl
    · rw [Crew.begun_tasks_of_ne hu]
      exact h.one u
  · have hreader : ∀ n, (c.begun t [o.task]).tasks (.reader n) = c.tasks (.reader n) := by
      intro n
      apply Crew.begun_tasks_of_ne
      rintro heq
      rw [← heq] at ho
      cases o <;> cases ho
    simp only [hreader, Crew.begun_shared]
    by_cases hcontrol : t = .control
    · subst hcontrol
      rw [Crew.begun_tasks_self]
      have hsound := h.sound
      rw [ht] at hsound
      -- the thread had nothing in its hands, and has nothing yet
      have hplain : o.task.holds = none ∧ o.task.joins = none ∧ o.task.number = none ∧ o.task.between = false := by
        cases o <;> exact ⟨rfl, rfl, rfl, rfl⟩
      obtain ⟨hholds, hjoins, hnumber, hbetween⟩ := hplain
      refine hsound.keeps rfl rfl rfl rfl (fun fd => ?_) (by simp [hbetween]) (by simp [hnumber]) hsound.reader
        (fun n hn => ?_) hsound.connected
      · exact or_congr Iff.rfl (by simp [hholds])
      · refine (hsound.busy n hn).imp_right fun hjoined => ?_
        exact absurd hjoined Sound.exists_none
    · rw [Crew.begun_tasks_of_ne (Ne.symm hcontrol)]
      exact h.sound

theorem act (h : Crewed c) (ht : c.tasks t = k :: rest) (hp : k.perform order c.free i c.shared = some p) :
    Crewed (c.after t rest p) := by
  obtain rfl := h.rest_nil ht
  have hk : k.thread = t := h.own t k (by rw [ht]; exact List.mem_cons_self)
  obtain ⟨htail, hthreads⟩ := perform_tasks hp
  have hsound := h.sound
  have hfree : ∀ n, c.free (.reader n) = true → ¬c.tasks (.reader n) ≠ [] :=
    fun n hn => not_not.mpr (Crew.free_iff.mp hn)
  -- without a start, only the tasks of this thread are others
  have hquiet : p.started = none → Sound p.shared
      (if t = .control then p.tasks.head? else (c.tasks .control).head?) (fun n => c.tasks (.reader n) ≠ []) →
      (∀ n, t = .reader n → c.tasks (.reader n) ≠ []) → Crewed (c.after t [] p) := by
    intro hstart hs hbusy
    have hself : (c.after t [] p).tasks t = p.tasks := by
      rw [Crew.after_tasks_self (by simp [hstart]), List.append_nil]
    have hother : ∀ u, u ≠ t → (c.after t [] p).tasks u = c.tasks u :=
      fun u hu => Crew.after_tasks_of_ne hu (by simp [hstart])
    refine ⟨fun u k' hk' => ?_, fun u => ?_, ?_⟩
    · by_cases hu : u = t
      · subst hu
        rw [hself] at hk'
        exact (hthreads k' hk').trans hk
      · rw [hother u hu] at hk'
        exact h.own u k' hk'
    · by_cases hu : u = t
      · subst hu
        rw [hself]
        exact htail
      · rw [hother u hu]
        exact h.one u
    · have hcontrol : ((c.after t [] p).tasks .control).head? =
          if t = .control then p.tasks.head? else (c.tasks .control).head? := by
        split
        · rename_i heq
          subst heq
          rw [hself]
        · rename_i hne
          rw [hother _ (Ne.symm hne)]
      rw [hcontrol]
      refine hs.fewer fun n hn => ?_
      by_cases hu : .reader n = t
      · exact hbusy n hu.symm
      · rw [hother _ hu] at hn
        exact hn
  cases t with
  | control =>
      rw [ht] at hsound
      rcases hsound.controls hk hfree hp with ⟨hs, hstart⟩ | ⟨n, hs, hstart⟩
      · exact hquiet hstart (by rw [if_pos rfl]; exact hs) (by simp)
      · have hself : (c.after .control [] p).tasks .control = p.tasks := by
          rw [Crew.after_tasks_self (by simp [hstart]), List.append_nil]
        have hstarted : (c.after .control [] p).tasks (.reader n) = [.loopHead n] := Crew.after_tasks_started hstart
        have hother : ∀ u, u ≠ .control → u ≠ .reader n → (c.after .control [] p).tasks u = c.tasks u := by
          intro u hu hn
          refine Crew.after_tasks_of_ne hu fun first hfirst => ?_
          rw [hstart] at hfirst
          cases hfirst
          exact hn rfl
        refine ⟨fun u k' hk' => ?_, fun u => ?_, ?_⟩
        · by_cases hu : u = .control
          · subst hu
            rw [hself] at hk'
            exact (hthreads k' hk').trans hk
          · by_cases hn : u = .reader n
            · subst hn
              rw [hstarted] at hk'
              rw [List.mem_singleton.mp hk']
              rfl
            · rw [hother u hu hn] at hk'
              exact h.own u k' hk'
        · by_cases hu : u = .control
          · subst hu
            rw [hself]
            exact htail
          · by_cases hn : u = .reader n
            · subst hn
              rw [hstarted]
              rfl
            · rw [hother u hu hn]
              exact h.one u
        · rw [hself]
          refine hs.fewer fun m hm => ?_
          by_cases hn : m = n
          · exact .inr hn
          · rw [hother _ (by simp) (by simpa using hn)] at hm
            exact .inl hm
  | reader n =>
      obtain ⟨hs, hstart⟩ := hsound.reads hk hp
      refine hquiet hstart hs fun m hm => ?_
      cases hm
      rw [ht]
      simp
  | rest =>
      obtain ⟨hs, hstart⟩ := hsound.rests hk hp
      exact hquiet hstart hs (by simp)

/-- After a step, a reader is further on, it is where it was, or it is new. -/
theorem reader_after (h : Crewed c) (ht : c.tasks t = [k]) (hp : k.perform order c.free i c.shared = some p)
    (n : Nat) : (t = .reader n ∧ (c.after t [] p).tasks (.reader n) = p.tasks) ∨
      (t ≠ .reader n ∧ (c.after t [] p).tasks (.reader n) = c.tasks (.reader n)) ∨
      (t = .control ∧ k.number = some n ∧ (c.after t [] p).tasks (.reader n) = [.loopHead n]) := by
  have hk : k.thread = t := h.own t k (by rw [ht]; exact List.mem_cons_self)
  rcases clientPerform_started hp with hnone | ⟨fd, m, rfl, hsome⟩
  · by_cases hn : t = .reader n
    · subst hn
      exact .inl ⟨rfl, by rw [Crew.after_tasks_self (by simp [hnone]), List.append_nil]⟩
    · exact .inr (.inl ⟨hn, Crew.after_tasks_of_ne (Ne.symm hn) (by simp [hnone])⟩)
  · obtain rfl : .control = t := hk
    by_cases hn : m = n
    · subst hn
      exact .inr (.inr ⟨rfl, rfl, Crew.after_tasks_started hsome⟩)
    · refine .inr (.inl ⟨by simp, Crew.after_tasks_of_ne (by simp) fun first hfirst => ?_⟩)
      rw [hsome] at hfirst
      cases hfirst
      exact hn rfl

/-- And the console's thread is further on, or where it was. -/
theorem control_after (hp : k.perform order c.free i c.shared = some p) :
    (c.after t [] p).tasks .control = if t = .control then p.tasks else c.tasks .control := by
  have hstart : ∀ first, p.started ≠ some (.control, first) := by
    intro first hfirst
    rcases clientPerform_started hp with hnone | ⟨fd, m, -, hsome⟩
    · rw [hnone] at hfirst
      cases hfirst
    · rw [hsome] at hfirst
      cases hfirst
  split
  · rename_i heq
    subst heq
    rw [Crew.after_tasks_self hstart, List.append_nil]
  · rename_i hne
    exact Crew.after_tasks_of_ne (Ne.symm hne) hstart

end Crewed

section Runs

variable {order : ByteOrder} {host : String} {port : UInt32} {others : Int → Bool}
  {guard : ClientCrew → Move ClientThread ClientOp ClientInput → Prop} {c : ClientCrew}

theorem Crewed.initial : Crewed (newClient host port others) := by
  have hnothing : ∀ fd n, (newClient host port others).shared.descriptors fd ≠ some (.own n) := by
    intro fd n
    simp only [newClient]
    split <;> simp
  refine ⟨fun t k hk => ?_, fun _ => rfl, rfl, fun fd hheld => ?_, fun fd n hopen => absurd hopen (hnothing fd n),
    fun k hk => ?_, fun k hk => ?_, fun fd hsome => ?_, fun n hn => absurd rfl hn, rfl, [], rfl, List.nodup_nil,
    fun n hn => ?_⟩
  · cases hk
  · rcases hheld with hsome | hholds
    · cases hsome
    · exact absurd hholds Sound.exists_none
  · cases hk
  · cases hk
  · cases hsome
  · cases hn

/-- The client is in order in every run. -/
theorem crewed (h : Crew.Run (clientWork order) guard (newClient host port others) c) : Crewed c := by
  refine Crew.Run.invariant Crewed.initial (fun c t o ks hc _ ht hks => ?_) (fun c t k rest i p hc _ ht hp => ?_) h
  · simp only [clientWork, Option.ite_none_right_eq_some, Option.some.injEq] at hks
    obtain ⟨ho, rfl⟩ := hks
    exact hc.start ht ho
  · simp only [clientWork, Option.ite_none_left_eq_some] at hp
    exact hc.act ht hp.2

/-- **The sockets of the client**, in every run: the process is not ended by a thread that nobody joined; whatever
is closed was a socket of the service, and no socket is closed twice; no two are open, and no two readers at work; the
service knows the socket that is open, and says so; and when the console's thread is done and there is no
connection, nothing is left open. -/
theorem sockets_closed_once (h : Crew.Run (clientWork order) guard (newClient host port others) c) :
    c.shared.terminated = false ∧
    (∃ ns : List Nat, c.shared.log.closed = ns.map (fun n => some (.own n)) ∧ ns.Nodup) ∧
    (∀ fd fd' n n', c.shared.descriptors fd = some (.own n) → c.shared.descriptors fd' = some (.own n') →
      fd = fd' ∧ n = n') ∧
    (∀ n n', c.tasks (.reader n) ≠ [] → c.tasks (.reader n') ≠ [] → n = n') ∧
    (∀ fd, c.shared.socketFd = some fd → ∃ n, c.shared.descriptors fd = some (.own n)) ∧
    c.shared.snapshot.connected = c.shared.socketFd.isSome ∧
    (c.free .control = true → c.shared.socketFd = none → ∀ fd n, c.shared.descriptors fd ≠ some (.own n)) := by
  have hsound := (crewed h).sound
  refine ⟨hsound.alive, ?_, fun fd fd' n n' => hsound.unique, fun n n' hn hn' => ?_, fun fd hsome => ?_,
    hsound.connected, fun hfree hnone fd n hopen => ?_⟩
  · obtain ⟨ns, hns, hnodup, -⟩ := hsound.closed
    exact ⟨ns, hns, hnodup⟩
  · exact hsound.joined_unique (hsound.busy n hn) (hsound.busy n' hn')
  · obtain ⟨n, -, hopen⟩ := hsound.held fd (.inl hsome)
    exact ⟨n, hopen⟩
  · rcases hsound.known fd n hopen with hsome | hholds
    · exact absurd (hnone.symm.trans hsome) (by simp)
    · rw [Crew.free_iff.mp hfree] at hholds
      exact Sound.exists_none hholds

/-- `Disconnect` takes the descriptor while its reader leaves the loop. -/
def disconnectsWhileLeaving : List (Move ClientThread ClientOp ClientInput) :=
  [.start .control .connect, .act .control {}, .act .control { fd := 5 }, .act .control {}, .act .control {},
    .act (.reader 0) {}, .act (.reader 0) {}, .start .control .disconnect, .act .control {}, .act (.reader 0) {},
    .act .control {}, .act .control {}]

theorem sockets_closed_once_after : ∃ c, Crew.play (clientWork .little) (fun _ _ => true) disconnectsWhileLeaving
      (newClient "127.0.0.1" 9000 fun fd => fd = 3) = some c ∧
    c.shared.log.closed = [some (.own 0)] ∧ c.shared.snapshot.disconnectCount = 2 ∧
    c.shared.terminated = false ∧
    (∃ ns : List Nat, c.shared.log.closed = ns.map (fun n => some (.own n)) ∧ ns.Nodup) ∧
    (∀ fd fd' n n', c.shared.descriptors fd = some (.own n) → c.shared.descriptors fd' = some (.own n') →
      fd = fd' ∧ n = n') ∧
    (∀ n n', c.tasks (.reader n) ≠ [] → c.tasks (.reader n') ≠ [] → n = n') ∧
    (∀ fd, c.shared.socketFd = some fd → ∃ n, c.shared.descriptors fd = some (.own n)) ∧
    c.shared.snapshot.connected = c.shared.socketFd.isSome ∧
    (c.free .control = true → c.shared.socketFd = none → ∀ fd n, c.shared.descriptors fd ≠ some (.own n)) := by
  have hend : (Crew.play (clientWork .little) (fun _ _ => true) disconnectsWhileLeaving
      (newClient "127.0.0.1" 9000 fun fd => fd = 3)).map
        (fun c => (c.shared.log.closed, c.shared.snapshot.disconnectCount)) = some ([some (.own 0)], 2) := rfl
  obtain ⟨c, hc, hcs⟩ := Option.map_eq_some_iff.mp hend
  simp only [Prod.mk.injEq] at hcs
  have hrun : Crew.Run (clientWork .little) (fun _ _ => True) (newClient "127.0.0.1" 9000 fun fd => fd = 3) c :=
    Crew.Run.refl.play (fun _ _ _ => trivial) hc
  exact ⟨c, hc, hcs.1, hcs.2, sockets_closed_once hrun⟩

end Runs

end SomeServer
