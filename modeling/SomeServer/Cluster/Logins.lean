/-
# SomeServer.Cluster.Logins — one live session per account

In every run in which the logins of an account go on one by one (`Takeover.OneByOne`), at most one session
is left on which the account is active once no message is on its way: the one that the directory names,
and that the game has in its record of the player. `two_sessions` is a run of two logins that both look the
account up before either of them is named; nobody is kicked, and both sessions stay.
-/
import SomeServer.Cluster.Takeover

namespace SomeServer

open Lib

namespace Takeover

variable {T : Type} [DecidableEq T] {cfg : GameConfiguration} {account : String} {t : ClusterThread T}
  {i : ClusterInput} {o : ClusterOp} {s s' : Takeover T} {g : UInt32} {k : GateSessionId} {p : PlayerId}
  {requestId : RequestId}

/-! ## What a section beside the newest login leaves -/

omit [DecidableEq T] in
/-- A session that the newest login has dealt with had been dealt with before, when its thread has not moved
on as a login. -/
theorem overtaken_before (hhistory : s'.2 = s.2) (hrequests : s'.1.2.requests = s.1.2.requests)
    (hpoint : ∀ u, (s'.1.2.points u).login = true → s'.1.2.points u = s.1.2.points u)
    (hover : s'.Overtaken g k) : s.Overtaken g k := by
  cases hl : s.2.latest with
  | none => exact absurd hover (not_overtaken_none (by rw [hhistory, hl]))
  | asked g' q =>
      refine (overtaken_asked hl).mpr ?_
      have hnot := (overtaken_asked (by rw [hhistory, hl])).mp hover
      unfold Asks at hnot
      rwa [hrequests] at hnot
  | looked u =>
      obtain ⟨hlogin, hspares⟩ := (overtaken_looked (by rw [hhistory, hl])).mp hover
      have hsame := hpoint u hlogin
      rw [hsame] at hlogin hspares
      exact (overtaken_looked hl).mpr ⟨hlogin, hspares⟩

omit [DecidableEq T] in
/-- An answer that was there before answers a request. -/
theorem answered_before (hG : s.Grounded account) (hold : s.Answered g requestId p) :
    (∃ k, s.Asks g k requestId) ∧
      (s.Answered g requestId p ∨ ∀ k, s.Asks g k requestId → s'.Recorded g k p) :=
  ⟨hG.answered g requestId p hold, .inl hold⟩

/-! ## One section of the game -/

/-- What is known of one section of the game. -/
structure GameTurn (cfg : GameConfiguration) (account : String) (t : ClusterThread T) (i : ClusterInput)
    (a : Act) (r : a.Reply) (s s' : Takeover T) : Prop where
  move : Passage.GameMove cfg t i a r s.1 s'.1
  history : s'.2 = s.2
  ok : OneByOne account t (.game a) i s

namespace GameTurn

variable {a : Act} {r : a.Reply} (h : GameTurn cfg account t i a r s s')
include h

/-- The game accepts a player for the newest login only. -/
theorem accepts_newest (hL : s.1.Linked) {gate : GateSession} (ha : a.accepts r = some (p, gate)) :
    ∃ g k requestId message, (s.1.2.points t).work = .serving message ∧
      (s'.1.2.points t).work = .accepted message p ∧ message.source = ⟨kGateServiceType, g⟩ ∧
      (∃ platform accountId areaId,
        message.payload = .loginPlayerRequest requestId gate platform accountId areaId) ∧
      s.2.latest = .asked g requestId ∧ s.Asks g k requestId ∧
        gate = (gateConfiguration g).gateSession k ∧ s'.Recorded g k p := by
  obtain ⟨u, hu⟩ := h.move.step.thread
  rcases h.move.point_cases with ⟨-, hnone, -⟩ |
    ⟨gate', q, message, requestId, platform, accountId, areaId, hpoint, hpayload, hsome, hnext, -⟩ |
    ⟨_, _, _, _, -, hnone, -⟩
  · rw [hnone] at ha
    cases ha
  -- the thread serves a login request and accepts its player
  · rw [hsome] at ha
    cases ha
    have hserving : (s.1.2.points t).work = .serving message := by rw [hpoint]
    have htraced := (hL.serving u message (by rw [← hu, hserving])).2
    obtain ⟨g, k, hsource, hgate, hasks⟩ := htraced requestId gate platform accountId areaId hpayload
    -- the condition: only the newest login is accepted
    have hlatest : s.2.latest = .asked g requestId := by
      have hok := h.ok
      cases a with
      | session b =>
          cases b with
          | activateEnter | activateResume | activateInsert =>
              have hnewest := hok.2 rfl message requestId gate platform accountId areaId hserving hpayload
              rwa [hsource] at hnewest
          | _ => cases hsome
      | _ => cases hsome
    obtain ⟨record, hrecord, hstate, hrgate⟩ := GameProcess.accepted_online h.move.step.exec hsome
    exact ⟨g, k, requestId, message, hserving, by rw [h.move.self, hnext], hsource,
      ⟨platform, accountId, areaId, hpayload⟩, hlatest, hasks, hgate, record, hrecord, hstate,
      hrgate.trans hgate⟩
  · rw [hnone] at ha
    cases ha

/-- A session stays in the game's record, unless it is over or the newest login takes the player over. -/
theorem recorded (hL : s.1.Linked) (hG : s.Grounded account) (hrecorded : s.Recorded g k p) :
    s'.Recorded g k p ∨ s.1.Gone g k ∨ s.Overtaken g k := by
  obtain ⟨record, hrecord, hstate, hgate⟩ := hrecorded
  rcases GameProcess.record_kept h.move.step.exec hrecord with hsame | ⟨gate, haccepts⟩ | htaken
  · exact .inl ⟨record, hsame, hstate, hgate⟩
  · obtain ⟨g', k', r', _, -, -, -, -, hlatest, hasks, rfl, hrecorded⟩ := h.accepts_newest hL haccepts
    by_cases hself : g' = g ∧ s.Asks g k r'
    · obtain ⟨rfl, hasks'⟩ := hself
      obtain rfl : k' = k := Option.some.inj (hasks.symm.trans hasks')
      exact .inl hrecorded
    · exact .inr (.inr ((overtaken_asked hlatest).mpr hself))
  · have hok := h.ok
    have hfits := h.move.fits
    cases a with
    | session b =>
        cases b with
        | detachFrom q gate =>
            -- A gate tells the game about a session that is over.
            obtain ⟨rfl, rfl⟩ := htaken
            obtain ⟨u, hu⟩ := h.move.step.thread
            obtain ⟨message, hpoint, hpayload⟩ := hfits
            obtain ⟨g', k', heq, hgone⟩ := hG.left message q record.gate
              (.inr ⟨u, by rw [← hu, hpoint]⟩) hpayload
            obtain ⟨rfl, rfl⟩ := Passage.gateSession_inj.mp (hgate.symm.trans heq)
            exact .inr (.inl hgone)
        | _ => exact absurd hstate (hok.1 p record.gate record htaken hrecord)
    | _ => cases htaken

theorem gate_points (g : UInt32) (life : Nat) (u : T) :
    s'.1.2.points (.gate g life u) = s.1.2.points (.gate g life u) := by
  obtain ⟨v, hv⟩ := h.move.step.thread
  exact h.move.other (by rw [hv]; exact fun heq => by cases heq)

/-- An answer that is sent is about the player that has been accepted. -/
theorem answers (hG : s.Grounded account) {target : ProcessId} {payload : Payload}
    {response : LoginPlayerResponse} (ha : a = .ipc (.sendProcessPayload target payload))
    (hg : gateOf target = some g)
    (hmessage : payload.toGate (s.1.1.answering t) = some (.loginPlayerResponse response))
    (hcode : response.code = .ok) : s.Answered g response.requestId response.playerId := by
  obtain ⟨u, hu⟩ := h.move.step.thread
  have hfits := h.move.fits
  subst ha
  unfold Payload.toGate at hmessage
  split at hmessage
  · split at hmessage
    · rename_i q code text source asked gate platform accountId areaId hanswering
      cases hmessage
      rw [hu] at hanswering hfits
      rcases hG.answering u _ asked gate platform accountId areaId hanswering rfl with hw | ⟨p', hw⟩
      -- a request that has not been accepted is not answered `ok`
      · exact absurd hcode (hfits.2 _ hw).2
      · obtain ⟨htarget, rfl, -⟩ := hfits.1 _ _ hw
        refine .accepted u _ gate platform accountId areaId hw ?_ rfl
        subst htarget
        unfold gateOf at hg
        split at hg
        · rename_i hservice
          cases hg
          rw [← hservice]
        · cases hg
    · cases hmessage
  · split at hmessage <;> cases hmessage
  · cases hmessage
  · cases hmessage

theorem answered (hL : s.1.Linked) (hG : s.Grounded account) (hanswered : s'.Answered g requestId p) :
    (∃ k, s.Asks g k requestId) ∧
      (s.Answered g requestId p ∨ ∀ k, s.Asks g k requestId → s'.Recorded g k p) := by
  cases hanswered with
  | accepted u message gate platform accountId areaId hwork hsource hpayload =>
      by_cases hu : .game u = t
      case neg =>
        rw [h.move.other hu] at hwork
        exact answered_before hG (.accepted u message gate platform accountId areaId hwork hsource hpayload)
      rw [hu, h.move.self] at hwork
      rcases h.move.point_cases with ⟨hsame, -⟩ | ⟨gate', q, m, r', _, _, _, -, -, hsome, hnext, -⟩ |
        ⟨_, _, _, _, -, -, hnext⟩
      · rw [hsame, ← hu] at hwork
        exact answered_before hG (.accepted u message gate platform accountId areaId hwork hsource hpayload)
      -- this step accepts the player, for the newest login
      · rw [hnext] at hwork
        cases hwork
        obtain ⟨g', k', r'', m', -, haccepted, hsource', ⟨_, _, _, hpayload'⟩, -, hasks, -, hrecorded⟩ :=
          h.accepts_newest hL hsome
        rw [h.move.self, hnext] at haccepted
        cases haccepted
        rw [hsource] at hsource'
        cases hsource'
        rw [hpayload] at hpayload'
        cases hpayload'
        refine ⟨⟨k', hasks⟩, .inr fun k hk => ?_⟩
        obtain rfl : k' = k := Option.some.inj (hasks.symm.trans hk)
        exact hrecorded
      · rw [hnext] at hwork
        cases hwork
  | sent response hin hcode hr hp =>
      rcases h.move.step.inbox g _ hin with hin | ⟨target, payload, ha, hg, hmessage⟩
      -- the response was on its way, or is sent now
      · exact answered_before hG (.sent response hin hcode hr hp)
      · subst hr hp
        exact answered_before hG (h.answers hG ha hg hmessage hcode)
  | received response hat hcode hr hp =>
      obtain ⟨life, u, hw⟩ := hat
      rw [h.gate_points] at hw
      exact answered_before hG (.received response ⟨life, u, hw⟩ hcode hr hp)
  | activating life u pending response hwork hr hp =>
      rw [h.gate_points] at hwork
      rw [h.history] at hr
      exact answered_before hG (.activating life u pending response hwork hr hp)

theorem beside (hL : s.1.Linked) (hG : s.Grounded account) : Beside account s s' where
  elsewhere := h.move.elsewhere
  history := h.history
  doomed g k hdoomed := by
    cases hdoomed with
    | posted reason hin => exact .posted reason (h.move.step.keeps g _ hin)
    | received life u reason hpoint => exact .received life u reason (by rw [h.gate_points, hpoint])
    | kicking life u hpoint => exact .kicking life u (by rw [h.gate_points, hpoint])
    | closing hat => exact .closing ((h.move.elsewhere.at_iff rfl).mpr hat)
  overtaken g k hover := by
    refine overtaken_before h.history h.move.elsewhere.requests (fun u hlogin => ?_) hover
    by_cases hu : u = t
    case neg => exact h.move.other hu
    -- a game's thread that moves on is at work on a request, and no login
    subst hu
    rw [h.move.self] at hlogin ⊢
    rcases h.move.point_cases with ⟨hsame, -⟩ | ⟨_, _, _, _, _, _, _, -, -, -, hnext, -⟩ |
      ⟨_, _, _, _, -, -, hnext⟩
    · exact hsame
    · rw [hnext] at hlogin
      cases hlogin
    · rw [hnext] at hlogin
      cases hlogin
  recorded _ _ _ := h.recorded hL hG
  answered _ _ _ := h.answered hL hG
  left message hm := by
    rw [h.move.step.gameInbox] at hm
    refine hm.imp_right fun ⟨u, hw⟩ => ⟨u, ?_⟩
    by_cases hu : .game u = t
    case neg => rwa [h.move.other hu] at hw
    rw [hu, h.move.self] at hw
    rcases h.move.point_cases with ⟨hsame, -⟩ | ⟨_, _, _, _, _, _, _, -, -, -, hnext, -⟩ |
      ⟨_, _, _, _, -, -, hnext⟩
    · rwa [hsame, ← hu] at hw
    · rw [hnext] at hw
      cases hw
    · rw [hnext] at hw
      cases hw
  answering u message requestId gate platform accountId areaId hm hpayload := by
    by_cases hu : t = .game u
    case neg =>
      rw [h.move.answering u fun heq => absurd heq hu] at hm
      rw [h.move.other fun heq => hu heq.symm]
      exact hG.answering u message requestId gate platform accountId areaId hm hpayload
    have hsend : ∀ target payload, a ≠ .ipc (.sendProcessPayload target payload) := by
      rintro target payload rfl
      have hnone := h.move.step.answering
      rw [hnone, ← hu] at hm
      simp only [Function.update_self] at hm
      cases hm
    rw [h.move.answering u fun _ => hsend] at hm
    have hold := hG.answering u message requestId gate platform accountId areaId hm hpayload
    rw [← hu] at hold ⊢
    rw [h.move.self]
    rcases h.move.point_cases with ⟨hsame, -⟩ | ⟨_, q, m, _, _, _, _, hpoint, -, -, hnext, -⟩ |
      ⟨_, _, _, _, ha, -⟩
    · rw [hsame]
      exact hold
    · rw [hpoint] at hold
      rcases hold with heq | ⟨_, heq⟩ <;> cases heq
      exact .inr ⟨q, by rw [hnext]⟩
    · exact absurd ha (hsend _ _)

end GameTurn

/-! ## The readers -/

theorem GateFetch.beside {life : Nat} {v : T} {r : GateMessage} (h : Passage.GateFetch i g life v r s.1 s'.1)
    (hhistory : s'.2 = s.2) (hG : s.Grounded account) : Beside account s s' where
  elsewhere := h.elsewhere
  history := hhistory
  doomed j k hdoomed := by
    cases hdoomed with
    | posted reason hin =>
        rcases h.stays hin with hin | ⟨rfl, rfl⟩
        · exact .posted reason hin
        · exact .received life v reason h.self
    -- the thread that fetches was at rest, and was none of these
    | received life' u reason hpoint =>
        refine .received life' u reason ?_
        rw [h.other _ fun hu => ?_, hpoint]
        rw [hu, h.before] at hpoint
        cases hpoint
    | kicking life' u hpoint =>
        refine .kicking life' u ?_
        rw [h.other _ fun hu => ?_, hpoint]
        rw [hu, h.before] at hpoint
        cases hpoint
    | closing hat => exact .closing ((h.elsewhere.at_iff rfl).mpr hat)
  overtaken j k hover := by
    refine overtaken_before hhistory h.elsewhere.requests (fun u hlogin => ?_) hover
    by_cases hu : u = .gate g life v
    -- a handler that has just fetched is no login
    · subst hu
      rw [h.self] at hlogin
      cases r <;> cases hlogin
    · exact h.other _ hu
  recorded j k p hrecorded := by
    left
    unfold Recorded
    rwa [h.state]
  answered j requestId p hanswered := by
    cases hanswered with
    | accepted u message gate platform accountId areaId hwork hsource hpayload =>
        rw [h.game_points] at hwork
        exact answered_before hG (.accepted u message gate platform accountId areaId hwork hsource hpayload)
    | sent response hin hcode hr hp => exact answered_before hG (.sent response (h.inbox hin) hcode hr hp)
    | received response hat hcode hr hp =>
        rcases h.received_new hat with hat | hin
        · exact answered_before hG (.received response hat hcode hr hp)
        · exact answered_before hG (.sent response hin hcode hr hp)
    | activating life' u pending response hwork hr hp =>
        rw [hhistory] at hr
        have hbefore := (h.elsewhere.points _ _ _ _ rfl).mp hwork
        exact answered_before hG (.activating life' u pending response hbefore hr hp)
  left message hm := by
    rw [show s'.1.1.gameInbox = s.1.1.gameInbox by rw [h.state]] at hm
    exact hm.imp_right fun ⟨u, hw⟩ => ⟨u, by rwa [h.game_points] at hw⟩
  answering u message requestId gate platform accountId areaId hm hpayload := by
    rw [show s'.1.1.answering = s.1.1.answering by rw [h.state]] at hm
    rw [h.game_points]
    exact hG.answering u message requestId gate platform accountId areaId hm hpayload

theorem GameFetch.beside {v : T} {r : GameMessage} (h : Passage.GameFetch i v r s.1 s'.1)
    (hhistory : s'.2 = s.2) (hG : s.Grounded account) : Beside account s s' where
  elsewhere := h.elsewhere
  history := hhistory
  doomed j k hdoomed := by
    cases hdoomed with
    | posted reason hin => exact .posted reason (by rw [h.state]; exact hin)
    | received life u reason hpoint => exact .received life u reason (by rw [h.gate_points, hpoint])
    | kicking life u hpoint => exact .kicking life u (by rw [h.gate_points, hpoint])
    | closing hat => exact .closing (h.at_iff.mpr hat)
  overtaken j k hover := by
    refine overtaken_before hhistory h.elsewhere.requests (fun u hlogin => ?_) hover
    by_cases hu : u = .game v
    -- a thread of the game is no login
    · subst hu
      rw [h.self] at hlogin
      simp only [ClusterPoint.next] at hlogin
      split at hlogin <;> cases hlogin
    · exact h.other _ hu
  recorded j k p hrecorded := by
    left
    unfold Recorded
    rwa [h.state]
  answered j requestId p hanswered := by
    cases hanswered with
    | accepted u message gate platform accountId areaId hwork hsource hpayload =>
        by_cases hu : u = v
        · subst hu
          exact absurd hwork h.not_accepted.1
        · rw [h.other _ fun heq => hu (by cases heq; rfl)] at hwork
          exact answered_before hG (.accepted u message gate platform accountId areaId hwork hsource hpayload)
    | sent response hin hcode hr hp =>
        rw [h.state] at hin
        exact answered_before hG (.sent response hin hcode hr hp)
    | received response hat hcode hr hp => exact answered_before hG (.received response (h.at_iff.mp hat) hcode hr hp)
    | activating life u pending response hwork hr hp =>
        rw [h.gate_points] at hwork
        rw [hhistory] at hr
        exact answered_before hG (.activating life u pending response hwork hr hp)
  left message hm := by
    rcases hm with hm | ⟨u, hw⟩
    · rw [h.state] at hm
      exact .inl (List.mem_of_mem_eraseIdx hm)
    · by_cases hu : u = v
      · subst hu
        obtain rfl := h.serving_self hw
        exact .inl h.taken
      · rw [h.other _ fun heq => hu (by cases heq; rfl)] at hw
        exact .inr ⟨u, hw⟩
  answering u message requestId gate platform accountId areaId hm hpayload := by
    by_cases hu : u = v
    · subst hu
      left
      rw [show s'.1.1.answering (.game u) = some r by rw [h.state]; exact Function.update_self ..] at hm
      obtain rfl := Option.some.inj hm
      rw [h.self]
      simp only [ClusterPoint.next, hpayload]
    · rw [h.answering hu] at hm
      rw [h.other _ fun heq => hu (by cases heq; rfl)]
      exact hG.answering u message requestId gate platform accountId areaId hm hpayload

/-! ## Every section -/

/-- What is known after a section. -/
structure Kept (account : String) (s : Takeover T) : Prop where
  lively : s.1.Lively
  linked : s.1.Linked
  grounded : s.Grounded account
  single : s.Single account

/-- **One section keeps what is known**, if it meets the condition. -/
theorem Kept.exec {a : ClusterAct} {r : a.Reply} (h : s.Kept account)
    (hfits : (clusterProtocol T).fits t o (s.1.2.points t) a) (hpaced : Passage.Paced t a s.1)
    (hok : OneByOne account t a i s)
    (hlogs : ∀ k platform accountId, o.asks = some (k, platform, accountId) → accountId = account)
    (hx : (machine cfg).exec t a i s = some (s', r)) : s'.Kept account := by
  obtain ⟨hT, hL, hG, hS⟩ := h
  obtain ⟨hpassage, hlog⟩ := machine_exec hx
  have hbeside : s'.1.Lively → s'.1.Linked → Beside account s s' → s'.Kept account :=
    fun hT hL h => ⟨hT, hL, h.grounded hG, h.single hS⟩
  cases a with
  -- a section of a gate is the one that moves logins on
  | gate a =>
      obtain ⟨hexec, hrecord⟩ := Passage.machine_exec hpassage
      have hmove : Passage.GateMove t i o a r s.1 s'.1 := by
        refine ⟨Cluster.gateStep_of_exec hexec, hrecord, hfits, hpaced, ?_⟩
        rintro k accountId p game rfl old hold
        obtain ⟨record, hget, hstate, haccount⟩ := GateSessions.ofActive_eq_some.mp hold
        obtain ⟨pending, response, hpoint, -, rfl, -⟩ := hfits
        obtain ⟨u, hu⟩ := (Cluster.gateStep_of_exec hexec).thread
        rw [← haccount, hG.active _ k record hget hstate]
        exact (hG.logsIn t.gateId _ u pending (by rw [← hu, hpoint]; rfl)).1.symm
      have h : GateTurn account t i o a r s s' := ⟨hmove, hlog, hok, hlogs⟩
      exact ⟨hmove.lively hT, hmove.linked hL, h.grounded hT hL hG, h.single hT hG hS⟩
  -- the game, and the readers, stand beside
  | game a =>
      obtain ⟨hexec, hrecord⟩ := Passage.machine_exec hpassage
      have hmove : Passage.GameMove cfg t i a r s.1 s'.1 :=
        ⟨Cluster.gameStep_of_exec hexec, hrecord, hfits⟩
      exact hbeside (hmove.elsewhere.lively hT) (hmove.linked hL)
        (GameTurn.beside ⟨hmove, hlog, hok⟩ hL hG)
  | gateReceive =>
      obtain ⟨g, life, v, rfl, h⟩ := Passage.gateFetch_of_exec hfits hpassage
      exact hbeside (h.elsewhere.lively hT) (h.linked hL) (GateFetch.beside h hlog hG)
  | gameReceive =>
      obtain ⟨v, rfl, h⟩ := Passage.gameFetch_of_exec hfits hpassage
      exact hbeside (h.elsewhere.lively hT) (h.linked hL) (GameFetch.beside h hlog hG)
  | restart g => exact hpaced.elim

/-! ## Runs -/

abbrev TakeoverPool (T : Type) : Type :=
  Pool (ClusterThread T) ClusterOp ClusterAct ClusterAct.Reply Unit (Takeover T)

/-- Threads start what is theirs to start, all logins are of the account, and sections meet the
condition. -/
def guard (account : String) (c : TakeoverPool T) :
    Move (ClusterThread T) ClusterOp ClusterInput → Prop
  | .start t o => o.Started (c.shared.1.2.points t)
  | .act t i => ∀ o a k, c.threads t = some (o, .act a k) →
      (∀ k platform accountId, o.asks = some (k, platform, accountId) → accountId = account) ∧
        Passage.Paced t a c.shared.1 ∧ OneByOne account t a i c.shared

/-- No thread is at work, and no message is on its way. -/
def Calm (c : TakeoverPool T) : Prop :=
  (∀ t, c.idle t = true) ∧ (∀ g, c.shared.1.1.gateInbox g = []) ∧ c.shared.1.1.gameInbox = []

section Runs

variable {fuel : Nat} {s₀ : Cluster T} {c : TakeoverPool T}

/-- The points of the threads. -/
def pointOf (s : Takeover T) : ClusterThread T → ClusterPoint := s.1.2.points

theorem pointOf_exec (t : ClusterThread T) (a : ClusterAct) (i : ClusterInput) (s s' : Takeover T)
    (r : a.Reply) (hx : (machine cfg).exec t a i s = some (s', r)) :
    pointOf s' = Function.update (pointOf s) t ((clusterProtocol T).next t (pointOf s t) a r) :=
  Passage.pointOf_exec t a i s.1 s'.1 r (machine_exec hx).1

omit [DecidableEq T] in
theorem kept_initial (hgates : ∀ g, s₀.gates g = {}) (howners : s₀.owners account = none)
    (hinbox : ∀ g, s₀.gateInbox g = []) (hgame : s₀.gameInbox = [])
    (hanswering : ∀ t, s₀.answering t = none) :
    Kept account ((s₀, ({} : PassageLog T)), ({} : LoginLog T)) := by
  have hactive : ∀ g k p, ¬ Passage.Active (s₀, ({} : PassageLog T)) g k p account := by
    rintro g k p ⟨record, hget, -⟩
    rw [hgates] at hget
    cases hget
  have hanswered : ∀ g requestId p,
      ¬ Answered ((s₀, ({} : PassageLog T)), ({} : LoginLog T)) g requestId p := by
    rintro g requestId p (⟨_, _, _, _, _, _, hw, -⟩ | ⟨_, hin, -⟩ | ⟨_, hat, -⟩ | ⟨_, _, _, _, hw, -⟩)
    · cases hw
    · rw [hinbox] at hin
      cases hin
    · cases Passage.at_initial hat
    · cases hw
  -- nothing is there yet, so nothing has to be known of it
  refine ⟨Passage.lively_initial hgates, Passage.linked_initial hgates hinbox hgame, ?_, ?_⟩
  · refine ⟨fun g k hsocket => ?_, fun g r pending hp => ?_, fun g life u pending hw => ?_,
      fun g k record hget => ?_, fun value hvalue => ?_, fun g life u owner hw => ?_,
      fun message p gate hm => ?_, fun u message _ _ _ _ _ hm => ?_, fun g r hlatest => ?_,
      fun g r p h => absurd h (hanswered g r p)⟩
    · rw [hgates] at hsocket
      cases hsocket
    · rw [hgates] at hp
      cases hp
    · cases hw
    · rw [hgates] at hget
      cases hget
    · rw [howners] at hvalue
      cases hvalue
    · cases hw
    · rw [hgame] at hm
      rcases hm with hm | ⟨u, hw⟩
      · cases hm
      · cases hw
    · rw [hanswering] at hm
      cases hm
    · cases hlatest
  · exact ⟨fun g k p h => absurd h (hactive g k p), fun g k p h => absurd h (hactive g k p),
      fun g k p r _ _ h => absurd h (hactive g k p), fun g k p r _ _ h => absurd h (hanswered g r p)⟩

theorem run_kept (hgates : ∀ g, s₀.gates g = {}) (howners : s₀.owners account = none)
    (hinbox : ∀ g, s₀.gateInbox g = []) (hgame : s₀.gameInbox = [])
    (hanswering : ∀ t, s₀.answering t = none)
    (h : Run (machine cfg) (fun t o => o.code cfg fuel t) (guard account)
      (Pool.initial ((s₀, {}), {})) c) :
    c.shared.Kept account ∧ (clusterProtocol T).Followed pointOf c := by
  have hcode : ∀ (c : TakeoverPool T) (t : ClusterThread T) (o : ClusterOp),
      guard account c (.start t o) → (clusterProtocol T).rest t (pointOf c.shared t) →
        (clusterProtocol T).Follows t o (fun _ y => (clusterProtocol T).rest t y) (o.code cfg fuel t)
          (pointOf c.shared t) := fun c t o hstart hrest => code_follows fuel hstart hrest
  refine ⟨Protocol.run_invariant hcode pointOf_exec (by exact fun _ => .inl rfl)
      (kept_initial hgates howners hinbox hgame hanswering) ?_ h,
    Protocol.run_followed hcode pointOf_exec (by exact fun _ => .inl rfl) h⟩
  intro c t o a k i s r hguard ht hfits hkept hx
  obtain ⟨hlogs, hpaced, hok⟩ := hguard o a k ht
  exact hkept.exec hfits hpaced hok hlogs hx

/-- **One live session per account**, in every run in which the logins of the account go on one by one:
once no message is on its way, a session on which the account is active is the one that the directory
names and the one in the game's record of the player, and there is no other. -/
theorem one_session (hgates : ∀ g, s₀.gates g = {}) (howners : s₀.owners account = none)
    (hinbox : ∀ g, s₀.gateInbox g = []) (hgame : s₀.gameInbox = [])
    (hanswering : ∀ t, s₀.answering t = none)
    (h : Run (machine cfg) (fun t o => o.code cfg fuel t) (guard account)
      (Pool.initial ((s₀, {}), {})) c) (hcalm : Calm c)
    (hactive : c.shared.1.Active g k p account) :
    (∃ value, c.shared.1.1.owners account = some value ∧
      GateAccountOwner.parseValue value = some ((gateConfiguration g).gateSession k)) ∧
    (∃ record, c.shared.1.1.game.sessions p = some record ∧ record.state = .online ∧
      record.gate = (gateConfiguration g).gateSession k) ∧
    ∀ g' k' p', c.shared.1.Active g' k' p' account → g' = g ∧ k' = k := by
  obtain ⟨⟨-, -, -, hS⟩, hfollowed⟩ := run_kept hgates howners hinbox hgame hanswering h
  obtain ⟨hidle, hinboxes, -⟩ := hcalm
  have hpoint : ∀ g life u, c.shared.1.2.points (.gate g life u) = {} := by
    intro g life u
    rcases hfollowed.rest (hidle (.gate g life u)) with hpoint | ⟨_, _, hu, -⟩
    · exact hpoint
    · cases hu
  -- once it is calm nothing is on its way, so no session is still to be closed
  have hdoomed : ∀ g k, ¬ c.shared.Doomed account g k := by
    rintro g k (⟨reason, hin⟩ | ⟨life, u, reason, hw⟩ | ⟨life, u, hw⟩ | ⟨life, u, hw⟩)
    · rw [hinboxes] at hin
      cases hin
    all_goals
      rw [hpoint] at hw
      cases hw
  have hsettled : ∀ g k p, c.shared.1.Active g k p account →
      c.shared.Recorded g k p ∧ c.shared.Named account g k := by
    intro g k p hactive
    rcases hS.claimed g k p hactive with hd | ⟨r, life, u, pending, hw, -⟩ | hsettled
    · exact absurd hd (hdoomed g k)
    · rw [hpoint] at hw
      cases hw
    · exact hsettled
  obtain ⟨hrecorded, hnamed⟩ := hsettled g k p hactive
  refine ⟨⟨_, hnamed, GateAccountOwner.parseValue_buildValue _⟩, hrecorded, fun g' k' p' hother => ?_⟩
  -- the directory names one session only
  have hvalue := Option.some.inj ((hsettled g' k' p' hother).2.symm.trans hnamed)
  exact Passage.gateSession_inj.mp (GateAccountOwner.buildValue_inj.mp hvalue)

end Runs

/-! ### The next login -/

open Cluster (gateThread gateRuns connects connectsElsewhere firstLogin answered gameRuns)

/-- A computable condition that is enough for `OneByOne`. -/
def oneByOneNow (t : ClusterThread Unit) (a : ClusterAct) (i : ClusterInput) (s : Takeover Unit) : Bool :=
  match a with
  | .gate (.account (.lookupAccount _)) => i.fault = .none
  | .gate (.account (.bindAccount _ _)) =>
      i.fault.executes && s.2.latest = .asked t.gateId (s.2.taken t)
  | .gate (.account (.removeDelete _)) => false
  | .gate (.session (.activate _ _ _ _)) => s.2.latest = .asked t.gateId (s.2.taken t)
  | .gate (.connection (.send _ (.kickNotification _))) => i.gate.written.ok
  | .game (.session (.detachFrom _ _)) => true
  | .game (.session b) => activates b && match (s.1.2.points t).work with
      | .serving ⟨source, .loginPlayerRequest requestId _ _ _ _⟩ =>
          decide (s.2.latest = .asked source.instanceId requestId)
      | _ => true
  | _ => true

theorem oneByOne_of_now {t : ClusterThread Unit} {a : ClusterAct} {i : ClusterInput} {s : Takeover Unit}
    (h : oneByOneNow t a i s = true) : OneByOne account t a i s := by
  unfold OneByOne
  unfold oneByOneNow at h
  split
  · exact of_decide_eq_true h
  · simpa only [Bool.and_eq_true, decide_eq_true_eq] using h
  · cases h
  · exact of_decide_eq_true h
  · exact h
  · exact trivial
  -- the sections of the game that change a session record
  · rename_i b hb
    have hnow : activates b = true ∧ (match (s.1.2.points t).work with
      | .serving ⟨source, .loginPlayerRequest requestId _ _ _ _⟩ =>
          decide (s.2.latest = .asked source.instanceId requestId)
      | _ => true) = true := by
      cases b <;> first | exact absurd rfl (hb _ _) | simpa only [Bool.and_eq_true] using h
    refine ⟨fun p gate record htaken => ?_, fun _ message requestId gate platform accountId areaId hw hp => ?_⟩
    · cases b <;> first | exact htaken.elim | cases hnow.1
    · obtain ⟨source, payload⟩ := message
      obtain rfl : payload = _ := hp
      have hlatest := hnow.2
      rw [hw] at hlatest
      exact of_decide_eq_true hlatest
  · exact trivial

/-- Threads start what is theirs to start. -/
def started (c : TakeoverPool Unit) : Move (ClusterThread Unit) ClusterOp ClusterInput → Bool
  | .start t o => Passage.startedNow t o c.shared.1
  | .act _ _ => true

/-- A computable condition that is enough, for logins of account "a". -/
def inTurn (c : TakeoverPool Unit) : Move (ClusterThread Unit) ClusterOp ClusterInput → Bool
  | .start t o => Passage.startedNow t o c.shared.1
  | .act t i =>
      match c.threads t with
      | some (o, .act a _) => (o.asks.all fun x => x.2.2 = "a") &&
          (Passage.pacedNow t a c.shared.1 && oneByOneNow t a i c.shared)
      | _ => true

theorem guard_of_inTurn (c : TakeoverPool Unit) (m : Move (ClusterThread Unit) ClusterOp ClusterInput)
    (h : inTurn c m = true) : guard "a" c m := by
  cases m with
  | start t o =>
      simp only [inTurn] at h
      cases o with
      | gate op => simpa [guard, ClusterOp.Started, Passage.startedNow] using h
      | game op => simpa [guard, ClusterOp.Started, Passage.startedNow] using h
      | _ => exact trivial
  | act t i =>
      intro o a k ht
      simp only [inTurn, ht, Bool.and_eq_true] at h
      obtain ⟨hlogs, hpaced, hok⟩ := h
      refine ⟨fun k platform accountId hasks => ?_, Passage.paced_of_pacedNow hpaced, oneByOne_of_now hok⟩
      simpa [hasks] using hlogs

/-- A cluster, before anything has happened. -/
def freshCluster : TakeoverPool Unit :=
  Pool.initial (({ game := { ipc := { self := some ⟨gameProcess, 1⟩ } } }, {}), {})

/-- The game handles a login of the player that it has. -/
def handlesLogin : List (Move (ClusterThread Unit) ClusterOp ClusterInput) :=
  .start (.game ()) .gameDeliver :: gameRuns 5 .nil 0

/-- The client of gate 1 is kicked, and the game hears of it. -/
def handlesKick : List (Move (ClusterThread Unit) ClusterOp ClusterInput) :=
  .start (gateThread 1) .gateDeliver :: gateRuns 1 9 [1] ++
    .start (.game ()) .gameDeliver :: gameRuns 2 .nil 0

/-- The account is logged in at gate 1, and then at gate 2. -/
def movesOver : List (Move (ClusterThread Unit) ClusterOp ClusterInput) :=
  connects 1 ++ firstLogin ++ answered 1 ++ connectsElsewhere ++ handlesLogin ++ answered 2 ++ handlesKick

/-- Both gates look the account up before either of them is told of its player. -/
def crosses : List (Move (ClusterThread Unit) ClusterOp ClusterInput) :=
  connects 1 ++ connects 2 ++ firstLogin ++ handlesLogin ++ answered 1 ++ answered 2

/-- The threads of the first gates and of the game. -/
def threads : List (ClusterThread Unit) := [gateThread 1, gateThread 2, .game ()]

/-- When only these threads have been at work, the others rest. -/
theorem calm_of_play {guard : TakeoverPool Unit → Move (ClusterThread Unit) ClusterOp ClusterInput → Bool}
    {ms : List (Move (ClusterThread Unit) ClusterOp ClusterInput)} {c : TakeoverPool Unit}
    (hms : (ms.all fun m => decide (m.thread ∈ threads)) = true)
    (hplay : freshCluster.play (machine GameProcess.soloGame)
      (fun t o => o.code GameProcess.soloGame 8 t) guard ms = some c)
    (hthreads : (threads.all fun t => c.idle t) = true) (hinbox : ∀ g, c.shared.1.1.gateInbox g = [])
    (hgame : c.shared.1.1.gameInbox = []) : Calm c := by
  refine ⟨fun t => ?_, hinbox, hgame⟩
  by_cases ht : t ∈ threads
  · exact List.all_eq_true.mp hthreads t ht
  · have hnone : c.threads t = none := by
      refine (Pool.play_other (fun m hm heq => ht ?_) hplay).trans rfl
      rw [← heq]
      exact of_decide_eq_true (List.all_eq_true.mp hms m hm)
    simp [Pool.idle, hnone]

/-- After the account has moved from gate 1 to gate 2 it is active at gate 2 alone. -/
theorem one_session_moved : ∃ c, freshCluster.play (machine GameProcess.soloGame)
      (fun t o => o.code GameProcess.soloGame 8 t) inTurn movesOver = some c ∧ Calm c ∧
    c.shared.1.1.owners "a" = some "20:2:1" ∧ c.shared.1.Active 2 1 100001 "a" ∧
    ∀ g k p, c.shared.1.Active g k p "a" → g = 2 ∧ k = 1 := by
  have hend : (freshCluster.play (machine GameProcess.soloGame)
      (fun t o => o.code GameProcess.soloGame 8 t) inTurn movesOver).map (fun c =>
        (threads.all fun t => c.idle t, c.shared.1.1.gameInbox,
          ((c.shared.1.1.gates 2).sessions.get 1).map fun record =>
            (record.state, record.playerId, record.accountId), c.shared.1.1.owners "a")) =
      some (true, [], some (.active, 100001, "a"), some "20:2:1") := rfl
  -- the run is evaluated; the inboxes are functions, and are compared apart
  obtain ⟨c, hc, hcs⟩ := Option.map_eq_some_iff.mp hend
  simp only [Prod.mk.injEq] at hcs
  obtain ⟨hthreads, hgame, hsession, howner⟩ := hcs
  have hinboxes : ∃ m m' m'', (freshCluster.play (machine GameProcess.soloGame)
      (fun t o => o.code GameProcess.soloGame 8 t) inTurn movesOver).map (fun c =>
        c.shared.1.1.gateInbox) = some (Function.update (Function.update (Function.update
          (Function.update (Function.update (Function.update (fun _ => []) 1 [m]) 1 []) 1 [m']) 2 [m''])
          2 []) 1 []) := ⟨_, _, _, rfl⟩
  obtain ⟨m, m', m'', hinboxes⟩ := hinboxes
  rw [hc, Option.map_some, Option.some.injEq] at hinboxes
  have hinbox : ∀ g, c.shared.1.1.gateInbox g = [] := by
    intro g
    rw [hinboxes]
    by_cases h1 : g = 1
    · simp [h1]
    · by_cases h2 : g = 2 <;> simp [h1, h2]
  have hcalm : Calm c := calm_of_play rfl hc hthreads hinbox hgame
  obtain ⟨record, hget, hrecord⟩ := Option.map_eq_some_iff.mp hsession
  simp only [Prod.mk.injEq] at hrecord
  have hactive : c.shared.1.Active 2 1 100001 "a" := ⟨record, hget, hrecord.1, hrecord.2.1, hrecord.2.2⟩
  obtain ⟨-, -, hother⟩ := one_session (fun _ => rfl) rfl (fun _ => rfl) rfl (fun _ => rfl)
    (Run.refl.play guard_of_inTurn hc) hcalm hactive
  exact ⟨c, hc, hcalm, howner, hactive, hother⟩

/-- No message is on its way, and the account is active at both gates. -/
theorem two_sessions : ∃ c, freshCluster.play (machine GameProcess.soloGame)
      (fun t o => o.code GameProcess.soloGame 8 t) started crosses = some c ∧ Calm c ∧
    c.shared.1.Active 1 1 100001 "a" ∧ c.shared.1.Active 2 1 100001 "a" ∧
    c.shared.1.1.owners "a" = some "20:2:1" ∧
    (c.shared.1.1.game.sessions 100001).map PlayerSessionRecord.gate = some ⟨20, 2, 1⟩ := by
  have hend : (freshCluster.play (machine GameProcess.soloGame)
      (fun t o => o.code GameProcess.soloGame 8 t) started crosses).map (fun c =>
        (threads.all fun t => c.idle t, c.shared.1.1.gameInbox,
          ((c.shared.1.1.gates 1).sessions.get 1).map fun record =>
            (record.state, record.playerId, record.accountId),
          ((c.shared.1.1.gates 2).sessions.get 1).map fun record =>
            (record.state, record.playerId, record.accountId), c.shared.1.1.owners "a",
          (c.shared.1.1.game.sessions 100001).map PlayerSessionRecord.gate)) =
      some (true, [], some (.active, 100001, "a"), some (.active, 100001, "a"), some "20:2:1",
        some ⟨20, 2, 1⟩) := rfl
  obtain ⟨c, hc, hcs⟩ := Option.map_eq_some_iff.mp hend
  simp only [Prod.mk.injEq] at hcs
  obtain ⟨hthreads, hgame, hfirst, hsecond, howner, hgate⟩ := hcs
  have hinboxes : ∃ m m', (freshCluster.play (machine GameProcess.soloGame)
      (fun t o => o.code GameProcess.soloGame 8 t) started crosses).map (fun c =>
        c.shared.1.1.gateInbox) = some (Function.update (Function.update (Function.update
          (Function.update (fun _ => []) 1 [m]) 2 [m']) 1 []) 2 []) := ⟨_, _, rfl⟩
  obtain ⟨m, m', hinboxes⟩ := hinboxes
  rw [hc, Option.map_some, Option.some.injEq] at hinboxes
  have hinbox : ∀ g, c.shared.1.1.gateInbox g = [] := by
    intro g
    rw [hinboxes]
    by_cases h1 : g = 1
    · simp [h1]
    · by_cases h2 : g = 2 <;> simp [h1, h2]
  obtain ⟨first, hget, hr⟩ := Option.map_eq_some_iff.mp hfirst
  obtain ⟨second, hget', hr'⟩ := Option.map_eq_some_iff.mp hsecond
  simp only [Prod.mk.injEq] at hr hr'
  exact ⟨c, hc, calm_of_play rfl hc hthreads hinbox hgame, ⟨first, hget, hr.1, hr.2.1, hr.2.2⟩,
    ⟨second, hget', hr'.1, hr'.2.1, hr'.2.2⟩, howner, hgate⟩

end Takeover

end SomeServer
