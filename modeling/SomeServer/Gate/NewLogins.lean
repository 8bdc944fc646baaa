/-
# SomeServer.Gate.NewLogins — a login on a new connection

A client that logs in on a new connection takes over: the old session of its account is closed, and a game is
asked for the login. `HandleClientLogin` first looks for the old session and tells its client that it is kicked,
and whatever fails there is the result of the login. The application drops this result, so the new client hears
nothing. Here are the courses of such a login, whatever the other threads do meanwhile and whatever comes of
its sends.
-/
import SomeServer.Gate.Sections
import SomeServer.Lib.Courses

namespace SomeServer

open Lib

/-- A section that a call of the gate has performed. -/
abbrev GateDid (T : Type) : Type := Did GateAct GateAct.Reply GateEnv (GateProcess T)

/-- What leads from a program of the gate to its end. -/
abbrev GateCourse {T α : Type} (t : T) (p : GateCall α) (l : List (GateDid T)) (a : α) : Prop :=
  Prog.Course (GateProcess.machine (T := T)) t p l (.ret a)

namespace GateProcess

variable {T : Type}

/-- A session on which the account is logged in, other than those of this connection. -/
def OldSession (s : GateProcess T) (connectionId : ConnectionId) (accountId : String) (old : GateSessionRecord) :
    Prop :=
  (∃ k, s.sessions.get k = some old) ∧ old.accountId = accountId ∧ (old.state = .active ∨ old.state = .loggingIn) ∧
    old.connectionId ≠ connectionId

/-- The session of this gate that the directory names, or one on which the account is logged in if the directory
has no entry. -/
def namedSession (cfg : GateConfiguration) (owner : Option GateAccountOwner) (order : List GateSessionId)
    (accountId : String) (s : GateProcess T) : Option GateSessionRecord :=
  match owner with
  | none => s.sessions.findByAccount order accountId
  | some owner => if owner.instanceId = cfg.instanceId then s.sessions.get owner.sessionId else none

end GateProcess

/-! ## What is asked of a login -/

section

variable {T : Type}

/-- The section closes this connection. -/
def Shuts (connectionId : ConnectionId) (d : GateDid T) : Prop := d.act = .connection (.finalize connectionId)

/-- The section sends the request of the login to the game, or tells the client that it is refused. -/
inductive Answers (cfg : GateConfiguration) (connectionId : ConnectionId) : GateAct → Prop
  | asks (requestId : RequestId) (platform accountId : String) (areaId : UInt32) :
      Answers cfg connectionId (.sendProcessPayload ⟨kGameServiceType, 1⟩
        (.loginPlayerRequest requestId (cfg.gateSession connectionId) platform accountId areaId))
  | refuses (code : ClientErrorCode) (message : String) : code ≠ .ok →
      Answers cfg connectionId (.connection (.send connectionId (.loginResponse 0 false code message)))

/-- The new login wins: the sessions that the account has on other connections, when the directory has been
asked for it, are closed, and the login is not left without an answer. -/
structure Wins (cfg : GateConfiguration) (connectionId : ConnectionId) (accountId : String)
    (l : List (GateDid T)) : Prop where
  closes : ∀ d, l[1]? = some d → ∀ old, d.before.OldSession connectionId accountId old →
    ∃ d' ∈ l, Shuts old.connectionId d'
  answers : ∃ d ∈ l, Answers cfg connectionId d.act

/-- The section does not fail, as far as this is a failure of the login. -/
def Works (d : GateDid T) : Prop :=
  match d.act with
  | .connection (.send connectionId (.kickNotification _)) =>
      d.before.connection.sockets connectionId = true ∧ d.input.written.ok = true
  | .connection (.closeEnter connectionId) | .connection (.markAnonymous connectionId) =>
      (d.before.connection.connections connectionId).isSome = true
  | .sendProcessPayload _ (.kickAccountSession _ _ _ _ _) => d.input.sent.ok = true
  | .session (.openAnonymous gateSessionId _) => d.before.sessions.get gateSessionId = none
  | _ => True

/-- Nothing is in the way of the login: nothing fails that it does to the old session and for the new one, and the
account has no old session but the one that it finds. -/
structure Unhindered (cfg : GateConfiguration) (connectionId : ConnectionId) (accountId : String)
    (l : List (GateDid T)) : Prop where
  works : ∀ d ∈ l, Works d
  found : ∀ d₀ d₁ rest, l = d₀ :: d₁ :: rest → ∀ old, d₁.before.OldSession connectionId accountId old →
    ∃ named, d₁.before.namedSession cfg (d₀.before.accounts.lookupAccount d₀.input.redis) d₁.input.order accountId =
      some named ∧ old.connectionId = named.connectionId

end

/-! ## The sections of a kick -/

section

variable {T : Type} {t : T} {cfg : GateConfiguration} {connectionId x : ConnectionId} {l : List (GateDid T)}
  {d : GateDid T} {result : Result} {s s' : GateProcess T} {env : GateEnv} {α : Type}

/-- A section that neither closes a connection nor fails nor answers. -/
def Aside : GateAct → Prop
  | .connection _ => False
  | .session (.openAnonymous _ _) => False
  | .sendProcessPayload _ (.playerDisconnected _ _) => True
  | .sendProcessPayload _ _ => False
  | _ => True

theorem works_of_aside (h : Aside d.act) : Works d := by
  obtain ⟨a, i, s, r⟩ := d
  cases a with
  | connection a => exact h.elim
  | session a =>
      cases a with
      | openAnonymous _ _ => exact h.elim
      | _ => trivial
  | sendProcessPayload _ payload =>
      cases payload with
      | kickAccountSession _ _ _ _ _ => exact h.elim
      | _ => trivial
  | _ => trivial

theorem not_shuts_of_aside (h : Aside d.act) : ¬Shuts x d := by
  intro hcloses
  rw [hcloses] at h
  exact h

theorem not_answers_of_aside {a : GateAct} (h : Aside a) : ¬Answers cfg connectionId a := by
  rintro (⟨requestId, platform, accountId, areaId⟩ | ⟨code, message, -⟩)
  · exact h
  · exact h

theorem handleSessionDisconnected_aside (session : GateSessionRecord) :
    (handleSessionDisconnected cfg session).All Aside := by
  unfold handleSessionDisconnected
  split
  · trivial
  · refine ⟨trivial, fun send => ?_⟩
    show Prog.All _ (if !send.ok then Prog.ret send else _)
    split
    · trivial
    · have hremove : ∀ accountId owner, (removeAccountIfMatches accountId owner).All Aside := by
        refine fun accountId owner => ⟨trivial, fun decision => ?_⟩
        cases decision with
        | done _ => trivial
        | delete => exact ⟨trivial, fun _ => trivial⟩
      exact ⟨trivial, fun _ => (hremove _ _).bind fun _ => trivial⟩

theorem disconnectHandler_aside (x : ConnectionId) : (disconnectHandler cfg x).All Aside := by
  refine ⟨trivial, fun removed => ?_⟩
  cases removed with
  | none => trivial
  | some session => exact (handleSessionDisconnected_aside session).bind fun _ => trivial

/-- What comes behind the check of a result. -/
theorem course_checked {r : Result} {rest : GateCall Result} :
    GateCourse t (if !r.ok then Prog.ret r else rest) l result ↔
      (r.ok = false ∧ l = [] ∧ result = r) ∨ (r.ok = true ∧ GateCourse t rest l result) := by
  cases hok : r.ok with
  | true => simp
  | false =>
      rw [Bool.not_false, if_pos rfl, GateCourse, Prog.course_ret]
      simp

/-! ### What a section replies -/

theorem closeEnter_works {r : Result} (h : s.exec t env (.connection (.closeEnter x)) = some (s', r)) :
    r.ok = true ↔ Works (T := T) ⟨.connection (.closeEnter x), env, s, r⟩ := by
  obtain ⟨-, rfl⟩ := GateProcess.exec_connection h
  show (GateConnectionService.closeEnter x s.connection).2.ok = true ↔ (s.connection.connections x).isSome = true
  unfold GateConnectionService.closeEnter
  split <;> simp_all [Result.success, Result.failure]

theorem markAnonymous_works {r : Result} (h : s.exec t env (.connection (.markAnonymous x)) = some (s', r)) :
    r.ok = true ↔ Works (T := T) ⟨.connection (.markAnonymous x), env, s, r⟩ := by
  obtain ⟨-, rfl⟩ := GateProcess.exec_connection h
  show (GateConnectionService.mark .anonymous x s.connection).2.ok = true ↔
    (s.connection.connections x).isSome = true
  unfold GateConnectionService.mark
  split <;> simp_all [Result.success, Result.failure]

theorem kickNotification_works {r : Result} {reason : String}
    (h : s.exec t env (.connection (.send x (.kickNotification reason))) = some (s', r)) :
    r.ok = true ↔ Works (T := T) ⟨.connection (.send x (.kickNotification reason)), env, s, r⟩ := by
  obtain ⟨-, rfl⟩ := GateProcess.exec_connection h
  show (GateConnectionService.send env.written x s.connection).ok = true ↔
    s.connection.sockets x = true ∧ env.written.ok = true
  unfold GateConnectionService.send
  split <;> simp_all [Result.failure]

theorem openAnonymous_works {r : Result} {k : GateSessionId}
    (h : s.exec t env (.session (.openAnonymous k x)) = some (s', r)) :
    r.ok = true ↔ Works (T := T) ⟨.session (.openAnonymous k x), env, s, r⟩ := by
  obtain ⟨m, hm, -⟩ := GateProcess.exec_session h
  obtain rfl := (congrArg Prod.snd (Option.some.inj hm)).symm
  show (GateSessions.openAnonymous k x s.sessions).2.ok = true ↔ s.sessions.get k = none
  unfold GateSessions.openAnonymous
  cases s.sessions.get k with
  | none => exact iff_of_true rfl rfl
  | some record => exact iff_of_false Bool.false_ne_true nofun

/-! ### The kick -/

/-- What a part of the kick has done that is to close this connection, if there is one. -/
structure Kicked (cfg : GateConfiguration) (connectionId : ConnectionId) (target : Option ConnectionId)
    (l : List (GateDid T)) (result : Result) : Prop where
  works : result.ok = true ↔ ∀ d ∈ l, Works d
  closes : result.ok = true → ∀ x, target = some x → ∃ d ∈ l, Shuts x d
  only : ∀ x, (∃ d ∈ l, Shuts x d) → target = some x
  silent : ∀ d ∈ l, ¬Answers cfg connectionId d.act

/-- There is nothing to close. -/
theorem Kicked.none_of_aside (h : ∀ d ∈ l, Aside d.act) (hok : result.ok = true) :
    Kicked cfg connectionId none l result := by
  refine ⟨iff_of_true hok fun d hd => works_of_aside (h d hd), nofun, ?_, ?_⟩
  · rintro x ⟨d, hd, hcloses⟩
    exact absurd hcloses (not_shuts_of_aside (h d hd))
  · exact fun d hd => not_answers_of_aside (h d hd)

/-- A section before the rest of a kick, which has worked. -/
theorem Kicked.cons {target : Option ConnectionId} (h : Kicked cfg connectionId target l result) (hworks : Works d)
    (hcloses : ∀ x, ¬Shuts x d) (hanswers : ¬Answers cfg connectionId d.act) :
    Kicked cfg connectionId target (d :: l) result := by
  refine ⟨?_, ?_, ?_, ?_⟩
  · rw [List.forall_mem_cons, h.works]
    exact (and_iff_right hworks).symm
  · intro hok x hx
    obtain ⟨d', hd', hcloses'⟩ := h.closes hok x hx
    exact ⟨d', List.mem_cons_of_mem _ hd', hcloses'⟩
  · rintro x ⟨d', hd', hcloses'⟩
    rcases List.mem_cons.1 hd' with rfl | hd'
    · exact absurd hcloses' (hcloses x)
    · exact h.only x ⟨d', hd', hcloses'⟩
  · rw [List.forall_mem_cons]
    exact ⟨hanswers, h.silent⟩

theorem Kicked.aside {target : Option ConnectionId} (h : Kicked cfg connectionId target l result)
    (haside : Aside d.act) : Kicked cfg connectionId target (d :: l) result :=
  h.cons (works_of_aside haside) (fun _ => not_shuts_of_aside haside) (not_answers_of_aside haside)

/-- A section that ends a kick because it has failed. -/
theorem Kicked.failed {target : Option ConnectionId} (hresult : result.ok = false) (hworks : ¬Works d)
    (hcloses : ∀ x, ¬Shuts x d) (hanswers : ¬Answers cfg connectionId d.act) :
    Kicked cfg connectionId target [d] result := by
  have hnot : ¬result.ok = true := by simp [hresult]
  refine ⟨iff_of_false hnot fun h => hworks (h d List.mem_cons_self), fun hok => absurd hok hnot, ?_, ?_⟩
  · rintro x ⟨d', hd', hcloses'⟩
    rw [List.mem_singleton.1 hd'] at hcloses'
    exact absurd hcloses' (hcloses x)
  · intro d' hd'
    rw [List.mem_singleton.1 hd']
    exact hanswers

theorem closeConnection_kicked (h : GateCourse t (closeConnection cfg x) l result) :
    Kicked cfg connectionId (some x) l result := by
  obtain ⟨i, s, s', enter, l, rfl, hexec, hrest⟩ := Prog.course_act.1 h
  have hworks := closeEnter_works (t := t) hexec
  have hcloses : ∀ y, ¬Shuts y (⟨.connection (.closeEnter x), i, s, enter⟩ : GateDid T) := fun _ heq => nomatch heq
  have hanswers : ¬Answers cfg connectionId (.connection (.closeEnter x)) := nofun
  rcases course_checked.1 hrest with ⟨hok, rfl, rfl⟩ | ⟨hok, hrest⟩
  · apply Kicked.failed hok _ hcloses hanswers
    rw [← hworks, hok]
    exact Bool.false_ne_true
  · refine Kicked.cons ?_ (hworks.1 hok) hcloses hanswers
    -- the connection is finalized, and the end of its session is none of the login's
    obtain ⟨l₁, ⟨⟩, l₂, rfl, hfinalize, hend⟩ := Prog.course_bind.1 hrest
    obtain ⟨rfl, hresult⟩ := Prog.course_ret.1 hend
    obtain rfl : result = .success := Prog.ret.inj hresult
    obtain ⟨i', u, u', ⟨⟩, l₁, rfl, -, hdisconnect⟩ := Prog.course_act.1 hfinalize
    have haside := hdisconnect.all (disconnectHandler_aside x)
    rw [List.append_nil]
    refine ⟨iff_of_true rfl ?_, ?_, ?_, ?_⟩
    · rw [List.forall_mem_cons]
      exact ⟨trivial, fun d hd => works_of_aside (haside d hd)⟩
    · rintro - y hy
      cases hy
      exact ⟨_, List.mem_cons_self, rfl⟩
    · rintro y ⟨d, hd, hcloses⟩
      rcases List.mem_cons.1 hd with rfl | hd
      · cases hcloses
        rfl
      · exact absurd hcloses (not_shuts_of_aside (haside d hd))
    · rw [List.forall_mem_cons]
      exact ⟨nofun, fun d hd => not_answers_of_aside (haside d hd)⟩

theorem kickConnection_kicked {reason : String} (h : GateCourse t (kickConnection cfg x reason) l result) :
    Kicked cfg connectionId (some x) l result := by
  obtain ⟨i, s, s', send, l, rfl, hexec, hrest⟩ := Prog.course_act.1 h
  have hworks := kickNotification_works (t := t) hexec
  have hcloses : ∀ y, ¬Shuts y (⟨.connection (.send x (.kickNotification reason)), i, s, send⟩ : GateDid T) :=
    fun _ heq => nomatch heq
  have hanswers : ¬Answers cfg connectionId (.connection (.send x (.kickNotification reason))) := nofun
  rcases course_checked.1 hrest with ⟨hok, rfl, rfl⟩ | ⟨hok, hrest⟩
  · apply Kicked.failed hok _ hcloses hanswers
    rw [← hworks, hok]
    exact Bool.false_ne_true
  · exact (closeConnection_kicked hrest).cons (hworks.1 hok) hcloses hanswers

theorem kickExisting_kicked {existing : Option GateSessionRecord}
    (h : GateCourse t (kickExisting cfg existing connectionId) l result) :
    Kicked cfg connectionId
      ((existing.filter fun old => old.connectionId ≠ connectionId).map GateSessionRecord.connectionId) l result := by
  unfold kickExisting at h
  cases existing with
  | none =>
      obtain ⟨rfl, hresult⟩ := Prog.course_ret.1 h
      obtain rfl : result = .success := Prog.ret.inj hresult
      exact .none_of_aside (fun _ hd => absurd hd List.not_mem_nil) rfl
  | some old =>
      dsimp only at h
      split at h
      · rename_i hsame
        obtain ⟨rfl, hresult⟩ := Prog.course_ret.1 h
        obtain rfl : result = .success := Prog.ret.inj hresult
        rw [Option.filter_some_neg (by simpa using hsame)]
        exact .none_of_aside (fun _ hd => absurd hd List.not_mem_nil) rfl
      · rename_i hother
        rw [Option.filter_some_pos (by simpa using hother)]
        exact kickConnection_kicked h

/-- The connection that the kick closes, as the directory and the sessions have it. -/
def kickTarget (cfg : GateConfiguration) (connectionId : ConnectionId) (accountId : String) (d₀ d₁ : GateDid T) :
    Option ConnectionId :=
  ((d₁.before.namedSession cfg (d₀.before.accounts.lookupAccount d₀.input.redis) d₁.input.order
    accountId).filter fun old => old.connectionId ≠ connectionId).map GateSessionRecord.connectionId

theorem lookupAccount_reply {accountId : String} {owner : Option GateAccountOwner}
    (h : s.exec t env (.account (.lookupAccount accountId)) = some (s', owner)) :
    owner = s.accounts.lookupAccount env.redis := by
  obtain ⟨accounts, haccounts, -⟩ := GateProcess.exec_account h
  simp only [GateAccountDirectoryService.exec] at haccounts
  split at haccounts
  · cases haccounts
  · exact (congrArg Prod.snd (Option.some.inj haccounts)).symm

theorem findByAccount_reply {accountId : String} {existing : Option GateSessionRecord}
    (h : s.exec t env (.session (.findByAccount accountId)) = some (s', existing)) :
    existing = s.sessions.findByAccount env.order accountId := by
  obtain ⟨m, hm, -⟩ := GateProcess.exec_session h
  simp only [GateSessions.exec] at hm
  split at hm
  · exact (congrArg Prod.snd (Option.some.inj hm)).symm
  · cases hm

theorem snapshot_reply {k : GateSessionId} {existing : Option GateSessionRecord}
    (h : s.exec t env (.session (.snapshot k)) = some (s', existing)) : existing = s.sessions.get k := by
  obtain ⟨m, hm, -⟩ := GateProcess.exec_session h
  exact (congrArg Prod.snd (Option.some.inj hm)).symm

theorem kickExistingAccountSession_kicked {accountId : String}
    (h : GateCourse t (kickExistingAccountSession cfg accountId connectionId) l result) :
    ∃ d₀ d₁ rest, l = d₀ :: d₁ :: rest ∧
      Kicked cfg connectionId (kickTarget cfg connectionId accountId d₀ d₁) l result := by
  obtain ⟨i₀, s₀, s₀', owner, l, rfl, hlookup, h⟩ := Prog.course_act.1 h
  have howner := lookupAccount_reply (t := t) hlookup
  cases owner with
  | none =>
      obtain ⟨i₁, s₁, s₁', existing, l, rfl, hfind, h⟩ := Prog.course_act.1 h
      refine ⟨_, _, l, rfl, Kicked.aside (Kicked.aside ?_ trivial) trivial⟩
      simp only [kickTarget, ← howner, GateProcess.namedSession]
      rw [← findByAccount_reply (t := t) hfind]
      exact kickExisting_kicked h
  | some owner =>
      have h : GateCourse t (if owner.instanceId = cfg.instanceId then _ else _) l result := h
      split at h
      · rename_i hhere
        obtain ⟨i₁, s₁, s₁', existing, l, rfl, hfind, h⟩ := Prog.course_act.1 h
        refine ⟨_, _, l, rfl, Kicked.aside (Kicked.aside ?_ trivial) trivial⟩
        simp only [kickTarget, ← howner, GateProcess.namedSession, if_pos hhere]
        have hget : s₁.exec t i₁ (.session (.snapshot owner.sessionId)) = some (s₁', existing) := hfind
        rw [← snapshot_reply hget]
        exact kickExisting_kicked h
      · rename_i helsewhere
        obtain ⟨i₁, s₁, s₁', requestId, l, rfl, -, h⟩ := Prog.course_act.1 h
        refine ⟨_, _, l, rfl, Kicked.aside (Kicked.aside ?_ trivial) trivial⟩
        simp only [kickTarget, ← howner, GateProcess.namedSession, if_neg helsewhere, Option.filter_none,
          Option.map_none]
        -- the gate of the old session is told, and nothing is closed here
        obtain ⟨i₂, s₂, s₂', send, l, rfl, hsend, h⟩ := Prog.course_act.1 h
        obtain ⟨-, hsent⟩ := GateProcess.exec_send (t := t) hsend
        have hanswers : ¬Answers cfg connectionId (.sendProcessPayload ⟨owner.serviceType, owner.instanceId⟩
            (.kickAccountSession requestId accountId owner cfg.processId sameAccountReason)) := by
          generalize (⟨owner.serviceType, owner.instanceId⟩ : ProcessId) = target
          rintro ⟨⟩
        rcases course_checked.1 h with ⟨hok, rfl, rfl⟩ | ⟨hok, h⟩
        · refine Kicked.failed hok ?_ nofun hanswers
          show ¬i₂.sent.ok = true
          rw [← hsent, hok]
          exact Bool.false_ne_true
        · obtain ⟨rfl, hresult⟩ := Prog.course_ret.1 h
          obtain rfl : result = .success := Prog.ret.inj hresult
          refine Kicked.cons (.none_of_aside (fun _ hd => absurd hd List.not_mem_nil) rfl) ?_ nofun hanswers
          show i₂.sent.ok = true
          rw [← hsent]
          exact hok

/-! ### The new session -/

/-- A part that closes nothing, after one that has not failed. -/
theorem Kicked.append {target : Option ConnectionId} {r : Result} {l₁ l₂ : List (GateDid T)}
    (h : Kicked cfg connectionId target l₁ r) (hok : r.ok = true) (h₂ : Kicked cfg connectionId none l₂ result) :
    Kicked cfg connectionId target (l₁ ++ l₂) result := by
  refine ⟨?_, ?_, ?_, ?_⟩
  · rw [List.forall_mem_append, h₂.works]
    exact (and_iff_right (h.works.1 hok)).symm
  · intro _ x hx
    obtain ⟨d, hd, hcloses⟩ := h.closes hok x hx
    exact ⟨d, List.mem_append_left _ hd, hcloses⟩
  · rintro x ⟨d, hd, hcloses⟩
    rcases List.mem_append.1 hd with hd | hd
    · exact h.only x ⟨d, hd, hcloses⟩
    · exact nomatch h₂.only x ⟨d, hd, hcloses⟩
  · rw [List.forall_mem_append]
    exact ⟨h.silent, h₂.silent⟩

theorem openSession_kicked {k : GateSessionId} (h : GateCourse t (openSession k x) l result) :
    Kicked cfg connectionId none l result := by
  obtain ⟨i, s, s', session, l, rfl, -, h⟩ := Prog.course_act.1 h
  refine Kicked.aside ?_ trivial
  have h : GateCourse t (if Option.isSome session then Prog.ret Result.success
      else gateCall (.session (.openAnonymous k x))) l result := h
  split at h
  · obtain ⟨rfl, hresult⟩ := Prog.course_ret.1 h
    obtain rfl : result = .success := Prog.ret.inj hresult
    exact .none_of_aside (fun _ hd => absurd hd List.not_mem_nil) rfl
  · obtain ⟨i', u, u', rfl, hopen⟩ := Prog.course_call.1 h
    have hexec : u.exec t i' (.session (.openAnonymous k x)) = some (u', result) := hopen
    have hworks := openAnonymous_works hexec
    cases hok : result.ok with
    | true => exact Kicked.cons (.none_of_aside (fun _ hd => absurd hd List.not_mem_nil) hok) (hworks.1 hok) nofun nofun
    | false =>
        refine Kicked.failed hok ?_ nofun nofun
        rw [← hworks, hok]
        exact Bool.false_ne_true

theorem markAnonymous_kicked (h : GateCourse t (gateCall (.connection (.markAnonymous x))) l result) :
    Kicked cfg connectionId none l result := by
  obtain ⟨i, s, s', rfl, hmark⟩ := Prog.course_call.1 h
  have hworks := markAnonymous_works (t := t) hmark
  cases hok : result.ok with
  | true => exact Kicked.cons (.none_of_aside (fun _ hd => absurd hd List.not_mem_nil) hok) (hworks.1 hok) nofun nofun
  | false =>
      refine Kicked.failed hok ?_ nofun nofun
      rw [← hworks, hok]
      exact Bool.false_ne_true

/-- The request is sent, whatever comes of it. -/
theorem requestLogin_asks {platform accountId : String} {areaId : UInt32}
    (h : GateCourse t (requestLogin cfg 1 connectionId connectionId platform accountId areaId) l result) :
    (∃ d ∈ l, Answers cfg connectionId d.act) ∧ (∀ d ∈ l, Works d) ∧ ∀ y, ∀ d ∈ l, ¬Shuts y d := by
  obtain ⟨i, s, s', requestId, l, rfl, -, h⟩ := Prog.course_act.1 h
  obtain ⟨i', u, u', send, l, rfl, -, h⟩ := Prog.course_act.1 h
  have hrest : ∀ d ∈ l, ∃ requestId pending, d.act = .pending (.registerLogin requestId pending) := by
    rcases course_checked.1 h with ⟨-, rfl, -⟩ | ⟨-, h⟩
    · exact fun d hd => absurd hd List.not_mem_nil
    · obtain ⟨i'', v, v', ⟨⟩, l, rfl, -, h⟩ := Prog.course_act.1 h
      obtain ⟨rfl, -⟩ := Prog.course_ret.1 h
      intro d hd
      rw [List.mem_singleton.1 hd]
      exact ⟨_, _, rfl⟩
  refine ⟨⟨_, List.mem_cons_of_mem _ List.mem_cons_self, .asks requestId platform accountId areaId⟩, ?_, ?_⟩
  · rw [List.forall_mem_cons, List.forall_mem_cons]
    refine ⟨trivial, trivial, fun d hd => ?_⟩
    obtain ⟨requestId', pending, hact⟩ := hrest d hd
    apply works_of_aside
    rw [hact]
    trivial
  · intro y
    rw [List.forall_mem_cons, List.forall_mem_cons]
    refine ⟨nofun, nofun, fun d hd => ?_⟩
    obtain ⟨requestId', pending, hact⟩ := hrest d hd
    apply not_shuts_of_aside
    rw [hact]
    trivial

/-! ## The whole login -/

variable {accountId : String}

/-- A login that ends before the request is sent has neither won nor been unhindered. -/
theorem Kicked.lost {target : Option ConnectionId} (h : Kicked cfg connectionId target l result)
    (hfailed : result.ok = false) :
    Wins cfg connectionId accountId l ↔ Unhindered cfg connectionId accountId l := by
  refine iff_of_false ?_ ?_
  · intro hwins
    obtain ⟨d, hd, hanswers⟩ := hwins.answers
    exact h.silent d hd hanswers
  · intro hunhindered
    have hok := h.works.2 hunhindered.works
    rw [hfailed] at hok
    cases hok

/-- A login whose request is sent has won if it has closed all old sessions. -/
theorem Kicked.won {d₀ d₁ : GateDid T} {rest l₂ : List (GateDid T)}
    (h : Kicked cfg connectionId (kickTarget cfg connectionId accountId d₀ d₁) (d₀ :: d₁ :: rest) result)
    (hok : result.ok = true) (hasks : ∃ d ∈ l₂, Answers cfg connectionId d.act) (hworks : ∀ d ∈ l₂, Works d)
    (hcloses : ∀ y, ∀ d ∈ l₂, ¬Shuts y d) :
    Wins cfg connectionId accountId (d₀ :: d₁ :: rest ++ l₂) ↔
      Unhindered cfg connectionId accountId (d₀ :: d₁ :: rest ++ l₂) := by
  have hclosed : ∀ y, (∃ d ∈ d₀ :: d₁ :: rest ++ l₂, Shuts y d) ↔
      kickTarget cfg connectionId accountId d₀ d₁ = some y := by
    intro y
    constructor
    · rintro ⟨d, hd, hcloses'⟩
      rcases List.mem_append.1 hd with hd | hd
      · exact h.only y ⟨d, hd, hcloses'⟩
      · exact absurd hcloses' (hcloses y d hd)
    · intro htarget
      obtain ⟨d, hd, hcloses'⟩ := h.closes hok y htarget
      exact ⟨d, List.mem_append_left _ hd, hcloses'⟩
  -- what is closed is the session that is found, so each old one has to be that
  have hfound : ∀ old, d₁.before.OldSession connectionId accountId old →
      ((∃ d ∈ d₀ :: d₁ :: rest ++ l₂, Shuts old.connectionId d) ↔
        ∃ named, d₁.before.namedSession cfg (d₀.before.accounts.lookupAccount d₀.input.redis) d₁.input.order
          accountId = some named ∧ old.connectionId = named.connectionId) := by
    intro old hold
    rw [hclosed, kickTarget, Option.map_eq_some_iff]
    constructor
    · rintro ⟨named, hnamed, hsame⟩
      exact ⟨named, (Option.filter_eq_some_iff.1 hnamed).1, hsame.symm⟩
    · rintro ⟨named, hnamed, hsame⟩
      refine ⟨named, Option.filter_eq_some_iff.2 ⟨hnamed, ?_⟩, hsame.symm⟩
      rw [decide_eq_true_eq, ← hsame]
      exact hold.2.2.2
  constructor
  · intro hwins
    constructor
    · rw [List.forall_mem_append]
      exact ⟨h.works.1 hok, hworks⟩
    · intro d₀' d₁' rest' heq old hold
      cases heq
      exact (hfound old hold).1 (hwins.closes d₁ rfl old hold)
  · intro hunhindered
    constructor
    · intro d hd old hold
      cases hd
      exact (hfound old hold).2 (hunhindered.found d₀ d₁ _ rfl old hold)
    · obtain ⟨d, hd, hanswers⟩ := hasks
      exact ⟨d, List.mem_append_right _ hd, hanswers⟩

theorem handleClientLogin_wins_iff {platform credential : String} (hvalid : validate platform accountId credential = none)
    (h : GateCourse t (handleClientLogin cfg connectionId platform accountId credential) l result) :
    Wins cfg connectionId accountId l ↔ Unhindered cfg connectionId accountId l := by
  unfold handleClientLogin at h
  rw [hvalid] at h
  dsimp only at h
  obtain ⟨l₁, kick, l₂, rfl, hkick, h₁⟩ := Prog.course_bind.1 h
  obtain ⟨d₀, d₁, rest, rfl, hkicked⟩ := kickExistingAccountSession_kicked hkick
  rcases course_checked.1 h₁ with ⟨hok, rfl, rfl⟩ | ⟨hok, h₁⟩
  · rw [List.append_nil]
    exact hkicked.lost hok
  · obtain ⟨l₂, opened, l₃, rfl, hopen, h₂⟩ := Prog.course_bind.1 h₁
    have hopened := hkicked.append hok (openSession_kicked hopen)
    rw [← List.append_assoc]
    rcases course_checked.1 h₂ with ⟨hok, rfl, rfl⟩ | ⟨hok, h₂⟩
    · rw [List.append_nil]
      exact hopened.lost hok
    · obtain ⟨l₃, anonymous, l₄, rfl, hmark, h₃⟩ := Prog.course_bind.1 h₂
      have hmarked := hopened.append hok (markAnonymous_kicked hmark)
      rw [← List.append_assoc]
      rcases course_checked.1 h₃ with ⟨hok, rfl, rfl⟩ | ⟨hok, h₃⟩
      · rw [List.append_nil]
        exact hmarked.lost hok
      · obtain ⟨hasks, hworks, hcloses⟩ := requestLogin_asks h₃
        exact hmarked.won hok hasks hworks hcloses

end

/-- **A new login wins** exactly if nothing is in its way: every login with valid credentials that returns, in
every run of a gate and whatever comes of its sends, has closed the old sessions of its account and asked the
game, or answered the client, if and only if the notification of the old client, the close of its connection, the
message to the gate that owns the account and the set-up of the new session have worked, and the account has no
other old session here than the one that the directory names, or that is found if it has no entry. -/
theorem new_login_wins {T : Type} [DecidableEq T] {cfg : GateConfiguration} {s₀ : GateProcess T}
    {guard : Pool T GateOp GateAct GateAct.Reply Result (GateProcess T) → Move T GateOp GateEnv → Prop} {t : T}
    {connectionId : ConnectionId} {platform accountId credential : String} {l : List (GateDid T)}
    {c : Pool T GateOp GateAct GateAct.Reply Result (GateProcess T)} {result : Result}
    (hvalid : validate platform accountId credential = none)
    (hcall : Pool.Calls GateProcess.machine (fun _ => GateOp.code cfg) guard (Pool.initial s₀) t
      (.clientLogin connectionId platform accountId credential) l c)
    (hreturned : c.returned t = some (.clientLogin connectionId platform accountId credential, result)) :
    Wins cfg connectionId accountId l ↔ Unhindered cfg connectionId accountId l :=
  handleClientLogin_wins_iff hvalid (hcall.returned_course (Pool.returned_eq_some.1 hreturned))

/-! ### Two logins of one account -/

abbrev GatePool : Type := Pool Unit GateOp GateAct GateAct.Reply Result (GateProcess Unit)

instance (d : GateDid Unit) : Decidable (Works d) := by
  unfold Works
  split <;> infer_instance

/-- A client connects. -/
def clientConnects : List (Move Unit GateOp GateEnv) := [.start () .acceptReadySocket, .act () {}]

def aliceOn (connectionId : ConnectionId) : GateOp := .clientLogin connectionId "steam" "alice" "secret"

/-- Alice logs in on the first connection, and is answered by the game. -/
def aliceLogsIn : List (Move Unit GateOp GateEnv) :=
  clientConnects ++ [.start () (aliceOn 1)] ++ List.replicate 8 (.act () {}) ++
    [.start () (.loginResponse ⟨1, 7, ⟨10, 1⟩, .ok, false, ""⟩)] ++ List.replicate 6 (.act () {})

/-- The call of a login after some moves, and what it performs in so many sections. -/
def played (ms : List (Move Unit GateOp GateEnv)) (connectionId : ConnectionId) (ms' : List (Move Unit GateOp GateEnv)) :
    Option (List (GateDid Unit) × GatePool) :=
  ((Pool.initial {} : GatePool).play GateProcess.machine (fun _ => GateOp.code ⟨1⟩) (fun _ _ => true) ms).bind fun c =>
    (c.move GateProcess.machine (fun _ => GateOp.code ⟨1⟩) (.start () (aliceOn connectionId))).bind fun d =>
      Pool.playOn GateProcess.machine (fun _ => GateOp.code ⟨1⟩) () ms' [] d

/-- The first login of an account finds nothing in its way. -/
theorem new_login_wins_first : ∃ (l : List (GateDid Unit)) (c : GatePool),
    Pool.Calls GateProcess.machine (fun _ => GateOp.code ⟨1⟩) (fun _ _ => True) (Pool.initial {}) () (aliceOn 1) l c ∧
      Wins ⟨1⟩ 1 "alice" l := by
  have hplay : (played clientConnects 1 (List.replicate 8 (.act () {}))).map (fun x =>
      (x.1.all fun d => Works d, x.1[1]?.map fun d => d.before.sessions.get, x.2.returned ())) =
    some (true, some fun _ => none, some (aliceOn 1, .success)) := rfl
  obtain ⟨l, c, hcall, hfacts⟩ := Pool.Calls.exists_of_play (fun _ _ => trivial) hplay
  simp only [Prod.mk.injEq] at hfacts
  refine ⟨l, c, hcall, (new_login_wins rfl hcall hfacts.2.2).2 ⟨?_, ?_⟩⟩
  · intro d hd
    exact of_decide_eq_true (List.all_eq_true.1 hfacts.1 d hd)
  · rintro d₀ d₁ rest rfl old ⟨⟨k, hget⟩, -⟩
    have hempty := Option.some.inj hfacts.2.1
    rw [show d₁.before.sessions.get = fun _ => none from hempty] at hget
    cases hget

/-- The second one kicks the first, whose client has lost its connection: the notification is not written, and the
new client hears nothing. -/
theorem new_login_dropped : ¬∀ (l : List (GateDid Unit)) (c : GatePool) (result : Result),
    Pool.Calls GateProcess.machine (fun _ => GateOp.code ⟨1⟩) (fun _ _ => True) (Pool.initial {}) () (aliceOn 2) l c →
      c.returned () = some (aliceOn 2, result) → Wins ⟨1⟩ 2 "alice" l := by
  intro h
  have hplay : (played (aliceLogsIn ++ clientConnects) 2 [.act () { redis := .string "20:1:1" }, .act () {},
      .act () { written := .failure "failed to send frame header" }]).map (fun x =>
        (x.1.map Did.act, x.2.returned ())) =
    some ([.account (.lookupAccount "alice"), .session (.snapshot 1),
      .connection (.send 1 (.kickNotification sameAccountReason))],
        some (aliceOn 2, .failure "failed to send frame header")) := rfl
  obtain ⟨l, c, hcall, hfacts⟩ := Pool.Calls.exists_of_play (fun _ _ => trivial) hplay
  simp only [Prod.mk.injEq] at hfacts
  obtain ⟨d, hd, hanswers⟩ := (h l c _ hcall hfacts.2).answers
  have hact := List.mem_map_of_mem (f := Did.act) hd
  rw [hfacts.1] at hact
  simp only [List.mem_cons, List.not_mem_nil, or_false] at hact
  rcases hact with hact | hact | hact
  · rw [hact] at hanswers
    cases hanswers
  · rw [hact] at hanswers
    cases hanswers
  · rw [hact] at hanswers
    cases hanswers

end SomeServer
