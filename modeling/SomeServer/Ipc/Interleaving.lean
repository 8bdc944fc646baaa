/-
# SomeServer.Ipc.Interleaving — sends of several threads

Nothing in a send keeps other threads from writing between its `send` calls. The account of `Lib.Writers`
is written down beside the sockets, and with it the condition under which the sends of all threads come
out whole: no `send` is called on a connection while another thread has written a part of a frame there
and not yet the rest.
-/
import SomeServer.Ipc.Sends

namespace SomeServer

open Lib

variable {T : Type} [DecidableEq T]

/-! ## The threads -/

/-- The program of a send. -/
def SendOp.code (order : ByteOrder) : SendOp → SocketCall Result
  | .frame f => TcpTransport.send order f
  | .message connectionId messageId payload => GateConnectionService.sendBytes order connectionId messageId payload

/-- What is written down of a step: a send that has found its socket begins, and the bytes that a `send`
has taken are counted. -/
def recordSend (order : ByteOrder) (t : T) (e : SocketAct) (r : e.Reply) (w : Writers T SendOp) :
    Writers T SendOp :=
  match e, r with
  | .find op, some _ => w.begins t op
  | .send _ _, some count =>
      match w.current t with
      | some op => w.advances t op (op.bytes order).length count.1
      | none => w
  | _, _ => w

/-- The sockets of a process whose threads send, and the account of what they have written. -/
def sendMachine (order : ByteOrder) (T : Type) [DecidableEq T] :
    Machine T SocketAct SocketAct.Reply SocketInput (Sockets × Writers T SendOp) :=
  (socketMachine T).withHistory fun t e _ _ _ r w => recordSend order t e r w

abbrev SendPool (T : Type) : Type :=
  Pool T SendOp SocketAct SocketAct.Reply Result (Sockets × Writers T SendOp)

/-- Every `send` takes some of its buffer. -/
def takesSome (c : SendPool T) : Move T SendOp SocketInput → Bool
  | .start _ _ => true
  | .act t i => match c.pending t with
    | some (.send _ buffer) => 0 < i.rc && i.rc ≤ buffer.length
    | _ => true

/-- No thread but this one is in the middle of a frame on the connection that this one is writing to. -/
def alone (w : Writers T SendOp) (t : T) : Bool :=
  w.writing.all fun own => own.1 ≠ t || w.writing.all fun other =>
    other.2.endpoint ≠ own.2.endpoint || other.1 = t || w.written other.1 = 0

/-- Every `send` takes some of its buffer, and is called when no other thread is in the middle of a frame
on the connection. -/
def oneAtATime (c : SendPool T) (m : Move T SendOp SocketInput) : Bool :=
  takesSome c m && match m with
    | .start _ _ => true
    | .act t _ => match c.pending t with
      | some (.send _ _) => alone c.shared.2 t
      | _ => true

theorem alone_iff {w : Writers T SendOp} {t : T} : alone w t = true ↔
    ∀ op u other, (t, op) ∈ w.writing → (u, other) ∈ w.writing → other.endpoint = op.endpoint → u ≠ t →
      w.written u = 0 := by
  unfold alone
  rw [List.all_eq_true]
  constructor
  · intro h op u other hop hother hsame hu
    have h := h (t, op) hop
    simp only [ne_eq, not_true_eq_false, decide_false, Bool.false_or, List.all_eq_true] at h
    simpa [hsame, hu] using h (u, other) hother
  · rintro h ⟨t', op⟩ hop
    by_cases ht : t' = t
    · subst ht
      simp only [ne_eq, not_true_eq_false, decide_false, Bool.false_or, List.all_eq_true]
      rintro ⟨u, other⟩ hother
      by_cases hsame : other.endpoint = op.endpoint
      · by_cases hu : u = t'
        · simp [hu]
        · simp [h op u other hop hother hsame hu]
      · simp [hsame]
    · simp [ht]

/-! ## One send -/

/-- The stream of a connection. -/
def Sockets.streamOf (s : Sockets) (e : Endpoint) : ByteBuffer := (s.socketOf e).elim [] s.streams

/-- The writer is at this frame, with so many bytes written, or has finished it. -/
def SendAt (order : ByteOrder) (t : T) (op : SendOp) (count : Nat) (x : Sockets × Writers T SendOp) : Prop :=
  if count < (op.bytes order).length then (t, op) ∈ x.2.writing ∧ x.2.written t = count
  else ∀ other, (t, other) ∉ x.2.writing

/-- What other threads leave as it is: the sockets, and the frame of this thread. -/
structure Untouched (t : T) (x y : Sockets × Writers T SendOp) : Prop where
  socketOf : y.1.socketOf = x.1.socketOf
  writing : ∀ op, (t, op) ∈ y.2.writing ↔ (t, op) ∈ x.2.writing
  written : y.2.written t = x.2.written t

/-- The outline of a send. -/
def sendOutline (order : ByteOrder) (T : Type) [DecidableEq T] :
    Outline T SendOp SocketAct SocketInput (Sockets × Writers T SendOp) where
  inv x := x.1.Distinct ∧ x.2.Sound (SendOp.bytes order) SendOp.endpoint x.1.streamOf
  rest t x := ∀ op, (t, op) ∉ x.2.writing
  start _ _ _ := True
  ok t _ e i x := TakesSome e i x.1 ∧ ∀ fd buffer, e = .send fd buffer →
    ∀ op u other, (t, op) ∈ x.2.writing → (u, other) ∈ x.2.writing →
      other.endpoint = op.endpoint → u ≠ t → x.2.written u = 0
  event t _ _ _ x y := ∀ u, u ≠ t → Untouched u x y
  rely t _ x y := Untouched t x y
  rely_refl _ _ _ := ⟨rfl, fun _ => Iff.rfl, rfl⟩
  rely_trans _ _ _ _ _ h h' := ⟨h'.socketOf.trans h.socketOf,
    fun op => (h'.writing op).trans (h.writing op), h'.written.trans h.written⟩
  rest_rely _ _ _ h hrest op hmem := hrest op ((h.writing op).mp hmem)

variable {order : ByteOrder} {t : T} {op : SendOp}

omit [DecidableEq T] in
theorem Untouched.sendAt {x y : Sockets × Writers T SendOp} {count : Nat} (h : Untouched t x y)
    (hat : SendAt order t op count x) : SendAt order t op count y := by
  unfold SendAt at hat ⊢
  split
  · rename_i hmore
    rw [if_pos hmore] at hat
    exact ⟨(h.writing op).mpr hat.1, h.written.trans hat.2⟩
  · rename_i hdone
    rw [if_neg hdone] at hat
    exact fun other hmem => hat other ((h.writing other).mp hmem)

theorem streamOf_append {s : Sockets} {e e' : Endpoint} {fd : Int} {data : ByteBuffer}
    (hdistinct : s.Distinct) (hfd : s.socketOf e = some fd) :
    (s.append fd data).streamOf e' = if e' = e then s.streamOf e ++ data else s.streamOf e' := by
  unfold Sockets.streamOf
  rw [Sockets.append_socketOf, Sockets.append_streams]
  split
  · rename_i heq
    subst heq
    rw [hfd]
    exact Function.update_self _ _ _
  · rename_i hne
    cases hfd' : s.socketOf e' with
    | none => rfl
    | some fd' =>
        have hfd'' : fd' ≠ fd := by
          rintro rfl
          exact hne (hdistinct e' e fd' hfd' hfd)
        exact Function.update_of_ne hfd'' _ _

/-- One `send` of a writer. -/
theorem exec_send_record (order : ByteOrder) {x : Sockets × Writers T SendOp} {fd : Int}
    {buffer : ByteBuffer} {i : SocketInput}
    (hsome : TakesSome (.send fd buffer) i x.1) (hkeys : (x.2.writing.map Prod.fst).Nodup)
    (hmem : (t, op) ∈ x.2.writing) :
    ∃ count : {count : Nat // 0 < count ∧ count ≤ buffer.length},
      (sendMachine order T).exec t (.send fd buffer) i x =
        some ((x.1.append fd (buffer.take count.1), x.2.advances t op (op.bytes order).length count.1),
          some count) := by
  obtain ⟨count, hexec⟩ := exec_send (T := T) (t := t) hsome
  refine ⟨count, ?_⟩
  show ((socketMachine T).exec t (.send fd buffer) i x.1).map _ = _
  rw [hexec, Option.map_some]
  show some ((_, recordSend order t (.send fd buffer) (some count) x.2), _) = _
  rw [recordSend, Writers.current_eq hkeys hmem]

/-- Writing a part of a frame, piece by piece. -/
theorem writeExact_safe {fd : Int} {Q : Bool → Sockets × Writers T SendOp → Prop} {buffer : ByteBuffer}
    (after : ByteBuffer) {count : Nat} (hbytes : (op.bytes order).drop count = buffer ++ after)
    (hQ : ∀ y, y.1.socketOf op.endpoint = some fd → SendAt order t op (count + buffer.length) y → Q true y)
    {x : Sockets × Writers T SendOp} (hfd : x.1.socketOf op.endpoint = some fd)
    (hat : SendAt order t op count x) :
    (sendOutline order T).Safe (sendMachine order T) t op Q (writeExact fd buffer) x := by
  obtain ⟨size, hsize⟩ : ∃ size, size = buffer.length := ⟨_, rfl⟩
  -- induction on what is left of the part: every `send` writes a byte at least
  induction size using Nat.strong_induction_on generalizing buffer count x with
  | _ size ih =>
      by_cases hbuffer : buffer = []
      · subst hbuffer
        exact hQ x hfd hat
      rw [writeExact_act fd hbuffer, Outline.safe_act]
      rintro x₁ hrely ⟨hdistinct, hsound⟩ i x₂ r ⟨hsome, halone⟩ hexec
      have hlength : (op.bytes order).length - count = buffer.length + after.length := by
        rw [← List.length_drop, hbytes, List.length_append]
      have hnonempty : 0 < buffer.length := List.length_pos_iff.mpr hbuffer
      have hat₁ := hrely.sendAt hat
      unfold SendAt at hat₁
      rw [if_pos (by omega)] at hat₁
      obtain ⟨hmem, hwritten⟩ := hat₁
      have hfd₁ : x₁.1.socketOf op.endpoint = some fd := by
        rw [hrely.socketOf]
        exact hfd
      obtain ⟨n, hexec'⟩ := exec_send_record order hsome hsound.keys hmem
      rw [hexec'] at hexec
      cases hexec
      have hn := n.2
      have hpiece : ((op.bytes order).drop (x₁.2.written t)).take n.1 = buffer.take n.1 := by
        rw [hwritten, hbytes, List.take_append_of_le_length hn.2]
      have hrest : (op.bytes order).drop (count + n.1) = buffer.drop n.1 ++ after := by
        rw [← List.drop_drop, hbytes, List.drop_append_of_le_length hn.2]
      refine ⟨?_, ⟨?_, ?_⟩, ?_⟩
      · -- the other threads do not see the piece
        intro u hu
        exact ⟨Sockets.append_socketOf _ _ _, fun _ => Writers.advances_writing_of_ne hu,
          Writers.advances_written_of_ne hu⟩
      · intro e e' fd' he he'
        rw [Sockets.append_socketOf] at he he'
        exact hdistinct e e' fd' he he'
      -- no other thread is in the middle of a frame on this stream
      · refine hsound.advances hmem hn.1 (by omega) (fun u g hg hsame hu =>
          halone fd buffer rfl op u g hmem hg hsame hu) ?_ ?_
        · rw [streamOf_append hdistinct hfd₁, if_pos rfl, hpiece]
        · intro e he
          rw [streamOf_append hdistinct hfd₁, if_neg he]
      · -- what is left of the part is one call further
        have hless : (buffer.drop n.1).length < size := by
          rw [List.length_drop]
          omega
        refine ih _ hless hrest ?_ ?_ ?_ rfl
        · intro y hy hat'
          refine hQ y hy ?_
          rw [List.length_drop, Nat.add_assoc, Nat.add_sub_cancel' hn.2] at hat'
          exact hat'
        · rw [Sockets.append_socketOf]
          exact hfd₁
        · unfold SendAt
          split
          · rename_i hmore
            obtain ⟨hwriting, hcount⟩ := Writers.advances_more (f := op) (w := x₁.2) (hwritten.symm ▸ hmore)
            exact ⟨hwriting.symm ▸ hmem, hcount.trans (by rw [hwritten])⟩
          · rename_i hdone
            intro other
            exact Writers.advances_done (hwritten.symm ▸ hdone) hsound.keys hmem

omit [DecidableEq T] in
/-- A writer that has written all of its frame is at none. -/
theorem SendAt.all {count : Nat} {x : Sockets × Writers T SendOp} (h : SendAt order t op count x)
    (hcount : (op.bytes order).length ≤ count) (other : SendOp) : (t, other) ∉ x.2.writing := by
  unfold SendAt at h
  rw [if_neg (by omega)] at h
  exact h other

/-- Writing a frame that has been begun. -/
theorem writeFrame_safe (op : SendOp) {fd : Int} {Q : Option FramePart → Sockets × Writers T SendOp → Prop}
    (hQ : ∀ y, (∀ other, (t, other) ∉ y.2.writing) → Q none y) {x : Sockets × Writers T SendOp}
    (hfd : x.1.socketOf op.endpoint = some fd) (hat : SendAt order t op 0 x) :
    (sendOutline order T).Safe (sendMachine order T) t op Q (writeFrame fd (op.header order) op.payload) x := by
  refine Outline.Safe.bind (writeExact_safe op.payload (by rw [List.drop_zero, SendOp.bytes]) ?_ hfd hat)
  intro y hfd hat
  rw [Nat.zero_add] at hat
  have hsize : (op.bytes order).length = (op.header order).length + op.payload.length :=
    List.length_append
  show Outline.Safe _ _ _ _ _ (if op.payload = [] then _ else _) _
  split
  · rename_i hempty
    refine hQ y (hat.all ?_)
    rw [hsize, hempty]
    exact Nat.le_refl _
  · refine Outline.Safe.bind (writeExact_safe [] ?_ ?_ hfd hat)
    · rw [SendOp.bytes, List.drop_left, List.append_nil]
    · intro z _ hat
      exact hQ z (hat.all (Nat.le_of_eq hsize))

/-- The lookup of a send, and what follows it. -/
theorem find_safe {k : Option Int → SocketCall Result} {x : Sockets × Writers T SendOp}
    (hrest : ∀ other, (t, other) ∉ x.2.writing)
    (hnone : ∀ y, (∀ other, (t, other) ∉ y.2.writing) →
      (sendOutline order T).Safe (sendMachine order T) t op
        (fun _ z => True ∧ (sendOutline order T).rest t z) (k none) y)
    (hsome : ∀ y fd, y.1.socketOf op.endpoint = some fd → SendAt order t op 0 y →
      (sendOutline order T).Safe (sendMachine order T) t op
        (fun _ z => True ∧ (sendOutline order T).rest t z) (k (some fd)) y) :
    (sendOutline order T).Safe (sendMachine order T) t op
      (fun _ z => True ∧ (sendOutline order T).rest t z) (.act (.find op) k) x := by
  rintro x₁ hrely ⟨hdistinct, hsound⟩ i x₂ r - hexec
  have hrest₁ : ∀ other, (t, other) ∉ x₁.2.writing := fun other hmem =>
    hrest other ((hrely.writing other).mp hmem)
  cases hfd : x₁.1.socketOf op.endpoint with
  | none =>
      have hexec' : (sendMachine order T).exec t (.find op) i x₁ = some (x₁, none) := by
        show some ((x₁.1, recordSend order t (.find op) (x₁.1.socketOf op.endpoint) x₁.2),
          x₁.1.socketOf op.endpoint) = _
        rw [hfd]
        rfl
      rw [hexec'] at hexec
      cases hexec
      exact ⟨fun u _ => ⟨rfl, fun _ => Iff.rfl, rfl⟩, ⟨hdistinct, hsound⟩, hnone x₁ hrest₁⟩
  -- the send begins here, with nothing written
  | some fd =>
      have hexec' : (sendMachine order T).exec t (.find op) i x₁ =
          some ((x₁.1, x₁.2.begins t op), some fd) := by
        show some ((x₁.1, recordSend order t (.find op) (x₁.1.socketOf op.endpoint) x₁.2),
          x₁.1.socketOf op.endpoint) = _
        rw [hfd]
        rfl
      rw [hexec'] at hexec
      cases hexec
      have hpos : 0 < (op.bytes order).length := by
        have := op.header_pos order
        rw [SendOp.bytes, List.length_append]
        omega
      refine ⟨?_, ⟨hdistinct, hsound.begins hrest₁ hpos⟩, hsome _ fd hfd ?_⟩
      · intro u hu
        exact ⟨rfl, fun _ => Writers.begins_writing_of_ne hu, Writers.begins_written_of_ne hu⟩
      · unfold SendAt
        rw [if_pos hpos]
        exact ⟨List.mem_cons_self, Function.update_self _ _ _⟩

/-- A send is safe, of a frame and of a message. -/
theorem code_safe (t : T) (op : SendOp) {x : Sockets × Writers T SendOp}
    (hrest : ∀ other, (t, other) ∉ x.2.writing) :
    (sendOutline order T).Safe (sendMachine order T) t op
      (fun _ z => True ∧ (sendOutline order T).rest t z) (op.code order) x := by
  cases op with
  | frame f =>
      refine find_safe hrest ?_ ?_
      · exact fun y hy => ⟨trivial, hy⟩
      · intro y fd hfd hat
        show Outline.Safe _ _ _ _ _
          (Prog.bind (writeFrame fd ((SendOp.frame f).header order) (SendOp.frame f).payload) _) y
        refine Outline.Safe.bind (writeFrame_safe (.frame f) ?_ hfd hat)
        exact fun z hz => ⟨trivial, hz⟩
  | message connectionId messageId payload =>
      refine find_safe hrest ?_ ?_
      · exact fun y hy => ⟨trivial, hy⟩
      · intro y fd hfd hat
        show Outline.Safe _ _ _ _ _
          (Prog.bind (writeFrame fd ((SendOp.message connectionId messageId payload).header order)
            (SendOp.message connectionId messageId payload).payload) _) y
        refine Outline.Safe.bind (writeFrame_safe (.message connectionId messageId payload) ?_ hfd hat)
        exact fun z hz => ⟨trivial, hz⟩

/-- The obligations of the outline. -/
theorem send_proved (order : ByteOrder) (T : Type) [DecidableEq T] :
    (sendOutline order T).Proved (sendMachine order T) (fun _ => SendOp.code order)
      (fun c m => oneAtATime c m = true) fun _ _ _ _ => True where
  start _ _ _ _ _ := trivial
  ok c t op e k i hguard hgood ht := by
    have hpending : c.pending t = some e := Pool.pending_eq_some.mpr ⟨op, k, ht⟩
    obtain ⟨htakes, halone⟩ := Bool.and_eq_true_iff.mp hguard
    constructor
    · rintro fd buffer rfl
      simp only [takesSome, hpending] at htakes
      simpa using htakes
    · rintro fd buffer rfl
      simp only [hpending] at halone
      exact alone_iff.mp halone
  safe t op x _ hrest _ := code_safe t op hrest
  compatible _ _ _ _ _ _ _ _ _ _ _ _ hevent u hu := hevent u hu

/-! ## The streams -/

theorem flatMap_frames (order : ByteOrder) (frames : List RawFrame) :
    (frames.map SendOp.frame).flatMap (SendOp.bytes order) = frameBytes order frames := by
  rw [List.flatMap_map]
  rfl

/-- **Frames do not mix** in any run in which no `send` is called while another thread is in the middle of
a frame on the connection: a stream is the finished frames, and a first part of at most one more; and when
all sends have returned it is the frames that were sent, in some order, and the peer's reader hands over
every one of them. -/
theorem sends_do_not_mix (order : ByteOrder) {s₀ : Sockets} (hdistinct : s₀.Distinct)
    (hempty : ∀ fd, s₀.streams fd = []) {c : SendPool T}
    (h : Run (sendMachine order T) (fun _ => SendOp.code order) (fun c m => oneAtATime c m = true)
      (Pool.initial (s₀, {})) c) {e : Endpoint} {fd : Int} (hfd : c.shared.1.socketOf e = some fd) :
    (∃ tail, c.shared.1.streams fd = (c.shared.2.finished.filter fun op => op.endpoint = e).flatMap
        (SendOp.bytes order) ++ tail ∧ (tail = [] ∨ ∃ t op, (t, op) ∈ c.shared.2.writing ∧
          op.endpoint = e ∧ tail <+: op.bytes order)) ∧
    ((∀ t, c.idle t = true) → ∃ sent : List SendOp,
      sent.Perm (c.shared.2.begun.filter fun op => op.endpoint = e) ∧
      c.shared.1.streams fd = sent.flatMap (SendOp.bytes order) ∧
      ∀ frames : List RawFrame, sent = frames.map .frame → (∀ frame ∈ frames, frame.Valid) →
        ∀ (reader : TcpTransport) (id : ConnectionId) (stream : Stream), reader.Serves id →
          stream.rest = c.shared.1.streams fd → reader.readerLoop order id stream =
            outcome reader id (frames.map (RawFrame.on id)) stream.ended) := by
  have hstart : (sendOutline order T).Good (sendMachine order T) (fun _ _ _ _ => True)
      (Pool.initial (s₀, {}) : SendPool T) := by
    refine Outline.good_initial ⟨hdistinct, ?_⟩ fun t op => List.not_mem_nil
    have hstreams : s₀.streamOf = fun _ => [] := by
      funext e
      unfold Sockets.streamOf
      cases s₀.socketOf e with
      | none => rfl
      | some fd => exact hempty fd
    rw [hstreams]
    exact Writers.sound_initial
  have hgood := (send_proved order T).sound hstart h
  obtain ⟨⟨-, hsound⟩, -⟩ := id hgood
  have hstream : c.shared.1.streamOf e = c.shared.1.streams fd := by
    unfold Sockets.streamOf
    rw [hfd]
    rfl
  have hholds := hsound.holds e
  rw [hstream] at hholds
  -- a stream is whole, or one thread is in the middle of a frame
  constructor
  · rcases hholds with ⟨-, hwhole⟩ | ⟨t, op, hmem, hendpoint, -, -, hwhole⟩
    · exact ⟨[], by rw [List.append_nil]; exact hwhole, .inl rfl⟩
    · exact ⟨_, hwhole, .inr ⟨t, op, hmem, hendpoint, List.take_prefix _ _⟩⟩
  · intro hidle
    have hnobody : ∀ t op, (t, op) ∉ c.shared.2.writing := fun t op => hgood.rest_of_idle (hidle t) op
    have hnone : c.shared.2.writing = [] := List.eq_nil_iff_forall_not_mem.mpr fun x => hnobody x.1 x.2
    have haccounted := hsound.accounted
    rw [hnone, List.map_nil, List.append_nil] at haccounted
    have hwhole : c.shared.1.streams fd = (c.shared.2.finished.filter fun op => op.endpoint = e).flatMap
        (SendOp.bytes order) := by
      rcases hholds with ⟨-, hwhole⟩ | ⟨t, op, hmem, -⟩
      · exact hwhole
      · exact absurd hmem (hnobody t op)
    refine ⟨_, (haccounted.filter _).symm, hwhole, ?_⟩
    intro frames hframes hvalid reader id stream hreader hrest
    refine readerLoop_frames hreader hvalid ?_
    rw [hrest, hwhole, hframes, flatMap_frames]

/-! ### Two senders on one link -/

section TwoSenders

def ping : RawFrame := ⟨7, ⟨kFrameMagic, kFrameVersion, .data, 1⟩, [1]⟩

def pong : RawFrame := ⟨7, ⟨kFrameMagic, kFrameVersion, .data, 1⟩, [2]⟩

/-- A process with one link, over which nothing has been sent. -/
def oneLink : Sockets where
  transport := oneConnection
  socketByConnectionId _ := none
  streams _ := []

theorem oneLink_distinct : oneLink.Distinct := by
  have hlink : ∀ e fd, oneLink.socketOf e = some fd → e = .link 7 := by
    intro e fd h
    cases e with
    | client id => cases h
    | link id =>
        by_cases hid : id = 7
        · rw [hid]
        · have hnone : oneLink.transport.connections id = none := by
            show Function.update (fun _ => none) 7 _ id = none
            exact Function.update_of_ne hid _ _
          simp [Sockets.socketOf, hnone] at h
  intro e e' fd h h'
  rw [hlink e fd h, hlink e' fd h']

def twoSenders : SendPool Bool := Pool.initial (oneLink, {})

/-- The `send` calls take this many bytes. -/
def takes (t : Bool) (counts : List Int) : List (Move Bool SendOp SocketInput) :=
  counts.map fun count => .act t ⟨count, ""⟩

/-- One sender and then the other one; the lookup takes no bytes. -/
def pingThenPong : List (Move Bool SendOp SocketInput) :=
  .start false (.frame ping) :: takes false [0, 5, 7, 1] ++
    .start true (.frame pong) :: takes true [0, 12, 1]

theorem sends_do_not_mix_after : ∃ c, twoSenders.play (sendMachine .little Bool)
      (fun _ => SendOp.code .little) oneAtATime pingThenPong = some c ∧
    ∃ sent : List SendOp, sent.Perm [.frame ping, .frame pong] ∧
      c.shared.1.streams 5 = sent.flatMap (SendOp.bytes .little) := by
  have hend : (twoSenders.play (sendMachine .little Bool) (fun _ => SendOp.code .little) oneAtATime
      pingThenPong).map (fun c => (c.idle true, c.idle false, c.shared.1.socketOf (.link 7),
        c.shared.2.begun)) =
      some (true, true, some 5, [.frame ping, .frame pong]) := rfl
  obtain ⟨c, hc, hcs⟩ := Option.map_eq_some_iff.mp hend
  simp only [Prod.mk.injEq] at hcs
  obtain ⟨htrue, hfalse, hfd, hbegun⟩ := hcs
  have hidle : ∀ t, c.idle t = true := by
    intro t
    cases t with
    | true => exact htrue
    | false => exact hfalse
  obtain ⟨-, hsent⟩ := sends_do_not_mix .little oneLink_distinct (fun _ => rfl)
    (Run.refl.play (fun _ _ h => h) hc) hfd
  obtain ⟨sent, hperm, hstream, -⟩ := hsent hidle
  rw [hbegun] at hperm
  exact ⟨c, hc, sent, hperm, hstream⟩

/-- Both senders write their headers, and then their payloads. -/
def pingAndPong : List (Move Bool SendOp SocketInput) :=
  .start false (.frame ping) :: .start true (.frame pong) :: takes false [0] ++ takes true [0] ++
    takes false [12] ++ takes true [12] ++ takes false [1] ++ takes true [1]

/-- Every `send` takes what it is given, and the stream is not the frames in any order. -/
theorem sends_mix : ∃ c, Run (sendMachine .little Bool) (fun _ => SendOp.code .little)
      (fun c m => takesSome c m = true) twoSenders c ∧ (∀ t, c.idle t = true) ∧
    ∀ sent : List SendOp, sent.Perm c.shared.2.begun →
      c.shared.1.streams 5 ≠ sent.flatMap (SendOp.bytes .little) := by
  have hend : (twoSenders.play (sendMachine .little Bool) (fun _ => SendOp.code .little) takesSome
      pingAndPong).map (fun c => (c.idle true, c.idle false, c.shared.2.begun, c.shared.1.streams 5)) =
      some (true, true, [.frame ping, .frame pong], serializeFrameHeader .little ping.header ++
        serializeFrameHeader .little pong.header ++ [1, 2]) := rfl
  obtain ⟨c, hc, hcs⟩ := Option.map_eq_some_iff.mp hend
  simp only [Prod.mk.injEq] at hcs
  obtain ⟨htrue, hfalse, hbegun, hstream⟩ := hcs
  refine ⟨c, Run.refl.play (fun _ _ h => h) hc, ?_, ?_⟩
  · intro t
    cases t with
    | true => exact htrue
    | false => exact hfalse
  · intro sent hperm
    rw [hbegun] at hperm
    rw [hstream]
    intro hmixed
    cases sent with
    | nil => exact absurd hperm.length_eq (by decide)
    | cons first rest =>
        -- the stream does not begin with either of the two frames
        have hfront : ∀ op : SendOp, (op.bytes .little).length = 13 →
            (op.bytes .little ++ rest.flatMap (SendOp.bytes .little)).take 13 = op.bytes .little := by
          intro op hlength
          rw [← hlength, List.take_left]
        have hfirst := congrArg (List.take 13) hmixed
        rw [List.flatMap_cons] at hfirst
        rcases List.mem_pair.mp (hperm.subset List.mem_cons_self) with rfl | rfl
        · rw [hfront _ rfl] at hfirst
          exact absurd hfirst (by decide)
        · rw [hfront _ rfl] at hfirst
          exact absurd hfirst (by decide)

end TwoSenders

end SomeServer
