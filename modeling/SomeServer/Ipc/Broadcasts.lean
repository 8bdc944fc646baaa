/-
# SomeServer.Ipc.Broadcasts — a broadcast, and the order in which the members are listed

A membership view is a hash map, and a broadcast goes through the members in the order in which the map is
walked. `SendEnvelope` ends a fan-out with the first hop that fails, so who gets a broadcast depends on who is
listed before a member that it cannot be delivered to. Here are two runs of one broadcast, on views that list
the same members in different orders.
-/
import SomeServer.Ipc.Delivery
import Mathlib.Data.List.TakeWhile

namespace SomeServer

open Lib

/-! ## Loops that end with a failure -/

section

variable {α : Type} {p : α → Bool} {l : List α}

/-- What comes after a failure is not reached: all that does not fail is reached if nothing else comes
before it. -/
theorem takeWhile_complete_iff (h : l.Nodup) :
    (∀ a ∈ l, p a = true → a ∈ l.takeWhile p) ↔ l.Pairwise fun a b => p b = true → p a = true := by
  induction l with
  | nil => simp
  | cons a l ih =>
      rw [List.nodup_cons] at h
      rw [List.pairwise_cons, ← ih h.2]
      by_cases hpa : p a = true
      · rw [List.takeWhile_cons_of_pos hpa]
        constructor
        · intro hall
          refine ⟨fun b _ _ => hpa, fun b hb hpb => ?_⟩
          have hmem := hall b (List.mem_cons_of_mem _ hb) hpb
          rcases List.mem_cons.1 hmem with rfl | hmem
          · exact absurd hb h.1
          · exact hmem
        · rintro ⟨-, hall⟩ b hb hpb
          rcases List.mem_cons.1 hb with rfl | hb
          · exact List.mem_cons_self
          · exact List.mem_cons_of_mem _ (hall b hb hpb)
      · rw [List.takeWhile_cons_of_neg hpa]
        constructor
        · intro hall
          have hnone : ∀ b ∈ l, ¬p b = true := by
            intro b hb hpb
            exact absurd (hall b (List.mem_cons_of_mem _ hb) hpb) List.not_mem_nil
          exact ⟨fun b hb hpb => absurd hpb (hnone b hb), fun b hb hpb => absurd hpb (hnone b hb)⟩
        · rintro ⟨hbefore, -⟩ b hb hpb
          rcases List.mem_cons.1 hb with rfl | hb
          · exact absurd hpb hpa
          · exact absurd (hbefore b hb hpb) hpa

end

/-! ## One delivery -/

def SendAct.envelope : SendAct → Envelope
  | dispatch _ envelope => envelope
  | transport _ envelope => envelope

namespace Messenger

/-- The messenger, with this view of the members. -/
def seeing (m : Messenger) (view : MembershipView) : Messenger := { m with membership := some view }

/-- The envelope of a broadcast to a receiver. -/
def broadcastOf (m : Messenger) (target : ReceiverAddress) (scope : BroadcastScope) (message : Message) :
    Envelope :=
  let envelope := m.envelopeFor target message
  { envelope with
    header := { envelope.header with semantic := .broadcast }
    broadcastScope := { scope with serviceType := some target.keyHi.toUInt32 } }

/-- The members that the broadcast is for; one that is refused is for nobody. -/
def audienceFor (m : Messenger) (target : ReceiverAddress) (scope : BroadcastScope) (view : MembershipView) :
    List ProcessDescriptor :=
  if target.type ≠ .service then []
  else if scope.serviceType.any (· ≠ target.keyHi.toUInt32) then []
  else audienceOf m.self view target.keyHi.toUInt32 scope

/-- What is done for one member. -/
def deliver (m : Messenger) (broadcast : Envelope) (member : ProcessDescriptor) : SendCall Result :=
  m.sendEnvelope (broadcast.forHop ⟨member.process, member.process = m.self⟩) (some (.single member.process))

/-- The delivery to the member, by itself, does not fail. -/
def delivers (m : Messenger) (reply : (a : SendAct) → a.Reply) (broadcast : Envelope)
    (member : ProcessDescriptor) : Bool :=
  ((m.deliver broadcast member).trace reply).2.ok

/-- An envelope for the process has been sent, and this did not fail. -/
def Receives (reply : (a : SendAct) → a.Reply) (broadcast : Envelope) (process : ProcessRef)
    (call : SendCall Result) : Prop :=
  ∃ a ∈ (call.trace reply).1, (reply a).ok = true ∧ a.envelope = envelopeTo broadcast process

variable {m : Messenger} {broadcast : Envelope} {member : ProcessDescriptor} {members : List ProcessDescriptor}
  {reply : (a : SendAct) → a.Reply} {process : ProcessRef}

/-- A delivery is one send, or fails before it. -/
theorem deliver_cases (member : ProcessDescriptor) (hservice : broadcast.header.targetReceiver.type ≠ .process) :
    (∃ text, m.deliver broadcast member = .ret (.failure text)) ∨
      ∃ a, m.deliver broadcast member = sendCall a ∧ a.envelope = envelopeTo broadcast member.process := by
  have hresolve := forHop_resolveTo hservice ⟨member.process, member.process = m.self⟩
  have hnext := m.plan_forHop broadcast ⟨member.process, member.process = m.self⟩ member.process
  unfold deliver
  cases hplan : m.plan ((broadcast.forHop ⟨member.process, member.process = m.self⟩).resolveTo
      (some (.single member.process))) (some (.single member.process)) with
  | localDelivery =>
      rw [sendEnvelope_local hplan, hresolve, dispatchLocal]
      split
      · exact .inl ⟨_, rfl⟩
      · exact .inr ⟨_, rfl, rfl⟩
  | singleNextHop hop =>
      cases hsender : m.remoteSender with
      | none =>
          left
          rw [sendEnvelope]
          split <;> simp_all
      | some links =>
          rw [sendEnvelope_single hsender hplan, hresolve, LinkTable.send]
          split
          · exact .inl ⟨_, rfl⟩
          · exact .inr ⟨_, rfl, rfl⟩
  | multiNextHop hops => exact absurd hplan (hnext hops)
  | unreachable => exact .inl ⟨_, sendEnvelope_unreachable hplan⟩
  | drop => exact .inl ⟨_, sendEnvelope_drop hplan⟩

/-- An envelope tells whom it is for. -/
theorem envelopeTo_injective {process' : ProcessRef}
    (h : envelopeTo broadcast process = envelopeTo broadcast process') : process = process' :=
  Option.some.inj (congrArg (fun envelope => envelope.header.resolvedTargetProcess) h)

/-! ## The loop -/

/-- The next member is delivered to, and if this fails it was the last one. -/
theorem receives_cons (hservice : broadcast.header.targetReceiver.type ≠ .process) (hops : List RouteHop) :
    Receives reply broadcast process (m.sendHops broadcast
        (⟨member.process, member.process = m.self⟩ :: hops)) ↔
      m.delivers reply broadcast member = true ∧
        (member.process = process ∨ Receives reply broadcast process (m.sendHops broadcast hops)) := by
  have hloop : m.sendHops broadcast (⟨member.process, member.process = m.self⟩ :: hops) = (do
      let result ← m.deliver broadcast member
      if !result.ok then return result
      m.sendHops broadcast hops) := by
    rw [sendHops]
    rfl
  rw [hloop, delivers]
  rcases m.deliver_cases member hservice with ⟨text, hfails⟩ | ⟨a, hsends, henvelope⟩
  · rw [hfails]
    refine iff_of_false ?_ ?_
    · rintro ⟨a, ha, -⟩
      cases ha
    · rintro ⟨hok, -⟩
      cases hok
  · rw [hsends]
    have htrace : ((sendCall a).trace reply).2 = reply a := rfl
    rw [htrace]
    by_cases hok : (reply a).ok = true
    · have hrest : ((do
          let result ← sendCall a
          if !result.ok then return result
          m.sendHops broadcast hops).trace reply).1 = a :: ((m.sendHops broadcast hops).trace reply).1 := by
        simp [Prog.trace, hok]
      unfold Receives
      rw [hrest]
      constructor
      · rintro ⟨a', ha', hok', heq⟩
        rcases List.mem_cons.1 ha' with rfl | ha'
        · exact ⟨hok, .inl (envelopeTo_injective (henvelope.symm.trans heq))⟩
        · exact ⟨hok, .inr ⟨a', ha', hok', heq⟩⟩
      · rintro ⟨-, rfl | ⟨a', ha', hok', heq⟩⟩
        · exact ⟨a, List.mem_cons_self, hok, henvelope⟩
        · exact ⟨a', List.mem_cons_of_mem _ ha', hok', heq⟩
    · have hend : ((do
          let result ← sendCall a
          if !result.ok then return result
          m.sendHops broadcast hops).trace reply).1 = [a] := by
        simp [Prog.trace, hok]
      refine iff_of_false ?_ fun h => hok h.1
      rintro ⟨a', ha', hok', -⟩
      rw [hend] at ha'
      obtain rfl := List.mem_singleton.1 ha'
      exact hok hok'

/-- The loop reaches the members before the first one that it fails for. -/
theorem receives_sendHops (hservice : broadcast.header.targetReceiver.type ≠ .process) :
    Receives reply broadcast process (m.sendHops broadcast (members.map fun member =>
        ⟨member.process, member.process = m.self⟩)) ↔
      ∃ member ∈ members.takeWhile (m.delivers reply broadcast), member.process = process := by
  induction members with
  | nil =>
      rw [List.map_nil, sendHops]
      refine iff_of_false ?_ ?_
      · rintro ⟨a, ha, -⟩
        cases ha
      · rintro ⟨member, hmember, -⟩
        cases hmember
  | cons member members ih =>
      rw [List.map_cons, receives_cons hservice, ih]
      by_cases hdelivers : m.delivers reply broadcast member = true
      · rw [List.takeWhile_cons_of_pos hdelivers]
        simp [hdelivers]
      · rw [List.takeWhile_cons_of_neg hdelivers]
        simp [hdelivers]

section

variable {target : ReceiverAddress} {scope : BroadcastScope} {message : Message} {view : MembershipView}

/-- A broadcast goes through its audience, and one that has none fails. -/
theorem broadcastToReceiver_eq (m : Messenger) (view : MembershipView) :
    (∃ text, (m.seeing view).broadcastToReceiver target scope message = .ret (.failure text) ∧
      m.audienceFor target scope view = []) ∨
    (target.type = .service ∧ (m.seeing view).broadcastToReceiver target scope message =
      (m.seeing view).sendHops (m.broadcastOf target scope message) ((m.audienceFor target scope view).map
        fun member => ⟨member.process, member.process = m.self⟩)) := by
  unfold broadcastToReceiver audienceFor
  by_cases htype : target.type = .service
  · rw [if_neg (not_not_intro htype), if_neg (not_not_intro htype)]
    by_cases hscope : scope.serviceType.any (· ≠ target.keyHi.toUInt32) = true
    · rw [if_pos hscope, if_pos hscope]
      exact .inl ⟨_, rfl, rfl⟩
    · rw [if_neg hscope, if_neg hscope]
      have hplan : (m.seeing view).plan ((m.broadcastOf target scope message).resolveTo none) none =
          if audienceOf m.self view target.keyHi.toUInt32 scope = [] then .drop
          else .multiNextHop ((audienceOf m.self view target.keyHi.toUInt32 scope).map fun member =>
            ⟨member.process, member.process = m.self⟩) := by
        rw [Envelope.resolveTo_none, plan, RelayFirstPolicy.resolve]
        exact resolveBroadcast_service rfl htype rfl
      by_cases haudience : audienceOf m.self view target.keyHi.toUInt32 scope = []
      · rw [if_pos haudience] at hplan
        exact .inl ⟨_, sendEnvelope_drop hplan, haudience⟩
      · rw [if_neg haudience] at hplan
        exact .inr ⟨htype, sendEnvelope_multi hplan⟩
  · rw [if_pos htype, if_pos htype]
    exact .inl ⟨_, rfl, rfl⟩

/-- A broadcast reaches the members of its audience that are listed before the first one that it fails for. -/
theorem receives_broadcast : Receives reply (m.broadcastOf target scope message) process
      ((m.seeing view).broadcastToReceiver target scope message) ↔
    ∃ member ∈ (m.audienceFor target scope view).takeWhile
      ((m.seeing view).delivers reply (m.broadcastOf target scope message)), member.process = process := by
  rcases broadcastToReceiver_eq m view with ⟨text, hrefused, haudience⟩ | ⟨hservice, hsent⟩
  · rw [hrefused, haudience]
    refine iff_of_false ?_ ?_
    · rintro ⟨a, ha, -⟩
      cases ha
    · rintro ⟨member, hmember, -⟩
      cases hmember
  · rw [hsent]
    apply receives_sendHops (m := m.seeing view)
    show target.type ≠ .process
    rw [hservice]
    decide

/-- Nobody is twice in an audience. -/
theorem audienceFor_distinct (target : ReceiverAddress) (scope : BroadcastScope) (view : MembershipView) :
    ((m.audienceFor target scope view).map ProcessDescriptor.process).Nodup := by
  unfold audienceFor
  split
  · exact List.nodup_nil
  · split
    · exact List.nodup_nil
    · apply List.Nodup.of_map ProcessRef.processId
      rw [List.map_map]
      exact view.distinct.sublist ((List.filter_sublist.trans List.filter_sublist).map _)

theorem mem_audienceFor_of_perm {other : MembershipView} (h : view.members.Perm other.members) :
    member ∈ m.audienceFor target scope view ↔ member ∈ m.audienceFor target scope other := by
  unfold audienceFor
  split
  · exact Iff.rfl
  · split
    · exact Iff.rfl
    · exact ((h.filter _).filter _).mem_iff

end

/-! ## Two orders -/

section

variable (m : Messenger) (target : ReceiverAddress) (scope : BroadcastScope) (message : Message)
  (view other : MembershipView) (reply reply' : (a : SendAct) → a.Reply)

/-- The broadcast reaches a member that it is for exactly if the delivery to it, by itself, does not fail. -/
def ReachesAll : Prop :=
  ∀ member ∈ m.audienceFor target scope view,
    (m.seeing view).delivers reply (m.broadcastOf target scope message) member = true →
      Receives reply (m.broadcastOf target scope message) member.process
        ((m.seeing view).broadcastToReceiver target scope message)

/-- The same processes receive the broadcast in both runs, and these are all for which it does not fail. -/
structure OrderFree : Prop where
  same : ∀ process, Receives reply (m.broadcastOf target scope message) process
      ((m.seeing view).broadcastToReceiver target scope message) ↔
    Receives reply' (m.broadcastOf target scope message) process
      ((m.seeing other).broadcastToReceiver target scope message)
  all : m.ReachesAll target scope message view reply

/-- The members for which the broadcast fails are listed after all others that it is for. -/
def FailuresLast : Prop :=
  (m.audienceFor target scope view).Pairwise fun before member =>
    (m.seeing view).delivers reply (m.broadcastOf target scope message) member = true →
      (m.seeing view).delivers reply (m.broadcastOf target scope message) before = true

variable {m target scope message view other reply reply'}

theorem reachesAll_iff : m.ReachesAll target scope message view reply ↔
    m.FailuresLast target scope message view reply := by
  have hdistinct := m.audienceFor_distinct target scope view
  rw [FailuresLast, ← takeWhile_complete_iff hdistinct.of_map]
  apply forall₂_congr
  intro member hmember
  apply imp_congr_right
  intro _
  rw [receives_broadcast]
  constructor
  · rintro ⟨member', hmember', hsame⟩
    rw [← List.inj_on_of_nodup_map hdistinct ((List.takeWhile_prefix _).subset hmember') hmember hsame]
    exact hmember'
  · exact fun hreached => ⟨member, hreached, rfl⟩

/-- Nobody receives a broadcast but members for which it does not fail. -/
theorem member_of_receives (h : Receives reply (m.broadcastOf target scope message) process
    ((m.seeing view).broadcastToReceiver target scope message)) :
    ∃ member ∈ m.audienceFor target scope view,
      (m.seeing view).delivers reply (m.broadcastOf target scope message) member = true ∧
        member.process = process := by
  obtain ⟨member, hmember, hprocess⟩ := receives_broadcast.1 h
  exact ⟨member, (List.takeWhile_prefix _).subset hmember, List.mem_takeWhile_imp hmember, hprocess⟩

/-- **A broadcast does not depend on the order of the members** exactly if both views list the members for which
it fails after all others that it is for. -/
theorem broadcast_order_free (hmembers : view.members.Perm other.members)
    (hfails : ∀ member ∈ view.members,
      (m.seeing view).delivers reply (m.broadcastOf target scope message) member =
        (m.seeing other).delivers reply' (m.broadcastOf target scope message) member) :
    m.OrderFree target scope message view other reply reply' ↔
      m.FailuresLast target scope message view reply ∧ m.FailuresLast target scope message other reply' := by
  have hmem : ∀ {member}, member ∈ m.audienceFor target scope view → member ∈ view.members := by
    intro member hmember
    unfold audienceFor at hmember
    split at hmember
    · cases hmember
    · split at hmember
      · cases hmember
      · exact (List.mem_filter.1 (List.mem_filter.1 hmember).1).1
  constructor
  · intro h
    refine ⟨reachesAll_iff.1 h.all, reachesAll_iff.1 ?_⟩
    intro member hmember hdelivers
    rw [← mem_audienceFor_of_perm hmembers] at hmember
    rw [← hfails member (hmem hmember)] at hdelivers
    exact (h.same member.process).1 (h.all member hmember hdelivers)
  · rintro ⟨hlast, hlast'⟩
    refine ⟨fun process => ⟨fun h => ?_, fun h => ?_⟩, reachesAll_iff.2 hlast⟩
    · obtain ⟨member, hmember, hdelivers, rfl⟩ := member_of_receives h
      rw [hfails member (hmem hmember)] at hdelivers
      exact reachesAll_iff.2 hlast' member ((mem_audienceFor_of_perm hmembers).1 hmember) hdelivers
    · obtain ⟨member, hmember, hdelivers, rfl⟩ := member_of_receives h
      rw [← mem_audienceFor_of_perm hmembers] at hmember
      rw [← hfails member (hmem hmember)] at hdelivers
      exact reachesAll_iff.2 hlast member hmember hdelivers

end

/-! ### Games that a relay is linked to -/

/-- The delivery to a linked member is what the transport makes of it. -/
theorem delivers_linked {self : ProcessRef} {policy : RelayFirstPolicy}
    {directory : ReceiverAddress → ReceiverLocation} {registered : String → Bool} {view : MembershipView}
    {links : LinkTable} (connectionId : UInt64) (hservice : broadcast.header.targetReceiver.type ≠ .process)
    (hother : member.process ≠ self) (hlinked : links.findConnection member.process = some connectionId) :
    (node self policy directory registered view links).delivers reply broadcast member =
      (reply (.transport connectionId (envelopeTo broadcast member.process))).ok := by
  have hhealthy : links.hasHealthyDirectLink member.process = true := by
    rw [← LinkTable.findConnection_isSome, hlinked]
    rfl
  have hresolve := forHop_resolveTo hservice ⟨member.process, member.process = self⟩
  have hplan : (node self policy directory registered view links).plan
      ((broadcast.forHop ⟨member.process, member.process = self⟩).resolveTo (some (.single member.process)))
      (some (.single member.process)) = .singleNextHop ⟨member.process, true⟩ := by
    rw [hresolve]
    refine (plan_single rfl member.process [] 1).trans ?_
    show policy.resolveSingleTarget ⟨self, _, _, some view, some links⟩ member.process = _
    rw [resolveSingleTarget_node hother, if_pos hhealthy]
  have hsends : (node self policy directory registered view links).deliver broadcast member =
      sendCall (.transport connectionId (envelopeTo broadcast member.process)) := by
    show sendEnvelope _ (broadcast.forHop ⟨member.process, member.process = self⟩) _ = _
    rw [sendEnvelope_single rfl hplan, hresolve, LinkTable.send, hlinked]
  rw [delivers, hsends]
  rfl

def game (instanceId : UInt32) : ProcessDescriptor := ⟨⟨⟨10, instanceId⟩, 1⟩, []⟩

/-- A relay that is linked to three games. -/
def linkedRelay (view : MembershipView) : Messenger :=
  node ⟨⟨99, 1⟩, 901⟩ ⟨99⟩ (fun _ => {}) (fun _ => true) view
    [⟨1, (game 1).process, .active⟩, ⟨2, (game 2).process, .active⟩, ⟨3, (game 3).process, .active⟩]

/-- The link to the third game is broken. -/
def thirdFails : (a : SendAct) → a.Reply
  | .transport 3 _ => .failure "connection closed"
  | _ => .success

def gamesTarget : ReceiverAddress := ⟨.service, 10, 1⟩

/-- The third game is listed last. -/
def thirdLast : MembershipView := ⟨[game 1, game 2, game 3], by decide⟩

/-- It is, and the others are listed the other way round. -/
def thirdLastToo : MembershipView := ⟨[game 2, game 1, game 3], by decide⟩

/-- The third game is listed between the others. -/
def thirdBetween : MembershipView := ⟨[game 2, game 3, game 1], by decide⟩

/-- The relay can deliver to two of the games, whatever it sees. -/
theorem linkedRelay_delivers (view : MembershipView) {broadcast : Envelope}
    (hservice : broadcast.header.targetReceiver.type ≠ .process) :
    (linkedRelay view).delivers thirdFails broadcast (game 1) = true ∧
      (linkedRelay view).delivers thirdFails broadcast (game 2) = true ∧
      (linkedRelay view).delivers thirdFails broadcast (game 3) = false :=
  ⟨delivers_linked 1 hservice (by decide) rfl,
    delivers_linked 2 hservice (by decide) rfl,
    delivers_linked 3 hservice (by decide) rfl⟩

/-- With the third game last, the two others receive the broadcast in either order. -/
theorem broadcast_order_free_thirdLast : (linkedRelay thirdLast).OrderFree gamesTarget {} helloGames thirdLast
    thirdLastToo thirdFails thirdFails := by
  have hservice : ((linkedRelay thirdLast).broadcastOf gamesTarget {} helloGames).header.targetReceiver.type ≠
      .process := by decide
  have hlast := linkedRelay_delivers thirdLast hservice
  have hlastToo := linkedRelay_delivers thirdLastToo hservice
  refine (broadcast_order_free (.swap _ _ _) ?_).2 ⟨?_, ?_⟩
  · intro member hmember
    simp only [thirdLast, List.mem_cons, List.not_mem_nil, or_false] at hmember
    rcases hmember with rfl | rfl | rfl
    · exact hlast.1.trans hlastToo.1.symm
    · exact hlast.2.1.trans hlastToo.2.1.symm
    · exact hlast.2.2.trans hlastToo.2.2.symm
  · have haudience : (linkedRelay thirdLast).audienceFor gamesTarget {} thirdLast = [game 1, game 2, game 3] := by
      decide
    rw [FailuresLast, haudience]
    simp [show (linkedRelay thirdLast).seeing thirdLast = linkedRelay thirdLast from rfl, hlast]
  · have haudience : (linkedRelay thirdLast).audienceFor gamesTarget {} thirdLastToo =
        [game 2, game 1, game 3] := by decide
    rw [FailuresLast, haudience]
    simp [show (linkedRelay thirdLast).seeing thirdLastToo = linkedRelay thirdLastToo from rfl, hlastToo]

/-- With the third game between the others, the first one receives nothing. -/
theorem broadcast_order_matters : ¬∀ (m : Messenger) (target : ReceiverAddress) (scope : BroadcastScope)
    (message : Message) (view other : MembershipView) (reply reply' : (a : SendAct) → a.Reply),
    view.members.Perm other.members →
      (∀ member ∈ view.members,
        (m.seeing view).delivers reply (m.broadcastOf target scope message) member =
          (m.seeing other).delivers reply' (m.broadcastOf target scope message) member) →
      m.OrderFree target scope message view other reply reply' := by
  intro h
  have hservice : ((linkedRelay thirdLast).broadcastOf gamesTarget {} helloGames).header.targetReceiver.type ≠
      .process := by decide
  have hbetween := linkedRelay_delivers thirdBetween hservice
  have hlast := linkedRelay_delivers thirdLast hservice
  have hfree := h (linkedRelay thirdLast) gamesTarget {} helloGames thirdBetween thirdLast thirdFails thirdFails
    (by decide) (by
      intro member hmember
      simp only [thirdBetween, List.mem_cons, List.not_mem_nil, or_false] at hmember
      rcases hmember with rfl | rfl | rfl
      · exact hbetween.2.1.trans hlast.2.1.symm
      · exact hbetween.2.2.trans hlast.2.2.symm
      · exact hbetween.1.trans hlast.1.symm)
  have haudience : (linkedRelay thirdLast).audienceFor gamesTarget {} thirdBetween = [game 2, game 3, game 1] := by
    decide
  have hfailures := reachesAll_iff.1 hfree.all
  rw [FailuresLast, haudience] at hfailures
  simp [show (linkedRelay thirdLast).seeing thirdBetween = linkedRelay thirdBetween from rfl, hbetween] at hfailures

end Messenger

end SomeServer
