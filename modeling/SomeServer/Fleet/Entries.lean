/-
# SomeServer.Fleet.Entries — the texts that a directory call reads

One call of `ResolveOrCreate` or `Lookup` against one behaviour of the outside (`Meanwhile`): before each of its
commands other processes and operators do to Redis what they like, and the command may fail. The bytes of a stored
value are the characters of a text.

The parse of the counter is guarded and nothing depends on its text. The parses of an entry are not: a call ends
with the exception of `std::stoull`, or with an id that the entry does not spell, exactly when it reads an entry
that is not an unsigned 64-bit decimal number. A `GET` that brings no text sends `ResolveOrCreate` into its loop, and
it comes back if there are finitely many (`directory_returns`).
-/
import SomeServer.Fleet.Resolution
import SomeServer.Game.Footprint

namespace SomeServer

open Lib Lib.Decimal

variable {G T : Type}

/-! ## What a call reads and how it ends -/

/-- The text that Redis has for the `GET` of an entry, when its answer arrives. -/
def Meanwhile.entryText (m : Meanwhile) (w : World) (key : String) : Option String :=
  match m.input.fault, (m.others w).entries key with
  | .none, some (.text text) => some text
  | _, _ => none

/-- What the `GET`s of entries have brought: these texts, and so many times none. -/
structure EntryReads where
  texts : List String := []
  unread : Nat := 0

namespace EntryReads

def note (g : EntryReads) : Option String → EntryReads
  | some text => { g with texts := g.texts ++ [text] }
  | none => { g with unread := g.unread + 1 }

/-- After a section: a `GET` of an entry has brought what Redis has for it. -/
def after (g : EntryReads) (m : Meanwhile) (w : World) : Act → EntryReads
  | .directory (.getEntry key) => g.note (m.entryText w key)
  | _ => g

end EntryReads

/-- The fleet with other processes at work on its servers; what Redis has for the `GET`s of entries is written
down. -/
def Fleet.reading [DecidableEq G] (cfg : G → GameConfiguration) :
    Machine (G × T) Act Act.Reply Meanwhile (Fleet G T × EntryReads) :=
  (Fleet.meddled cfg).withHistory fun _ a m s _ _ g => g.after m s.world a

/-- The operations that ask the directory for an account. -/
inductive AsksDirectory : Op → String → Prop
  | resolve (platform accountId : String) (areaId : UInt32) :
      AsksDirectory (.resolve platform accountId areaId) (makeKey platform accountId areaId)
  | lookup (platform accountId : String) (areaId : UInt32) :
      AsksDirectory (.lookup platform accountId areaId) (makeKey platform accountId areaId)

/-- What a directory call has come to; `none` is `std::nullopt`. -/
def OpResult.answer : OpResult → Option ResolveOutcome
  | .resolved outcome => some outcome
  | .looked outcome => outcome
  | _ => none

/-- A normal end of a call: it has left its loop, `std::stoull` has not thrown, and an entry that is no unsigned 64-bit
decimal number has been treated as an error, not as an id. -/
structure NormalEnd (answer : Option ResolveOutcome) (reads : EntryReads) : Prop where
  leaves : answer ≠ some .spinning
  returns : answer ≠ some .threw
  refuses : ∀ text ∈ reads.texts, isUnsigned64 text = false → ∀ playerId, answer ≠ some (.resolved ⟨playerId, false⟩)

section

variable [DecidableEq G] (cfg : G → GameConfiguration) (t : G × T) (o : Op) (turns : Nat → Meanwhile) (s : Fleet G T)

/-- With enough fuel the call comes to a normal end. -/
def ReturnsNormally : Prop :=
  ∃ fuel, (o.code (cfg t.1) fuel).Fed (Fleet.reading cfg) t turns (fun r _ s' => NormalEnd r.answer s'.2) 0 (s, {})

/-- However far it is followed, every entry that the call reads is an unsigned 64-bit decimal number. -/
def ReadsNumbers : Prop :=
  ∀ fuel, (o.code (cfg t.1) fuel).Fed (Fleet.reading cfg) t turns
    (fun _ _ s' => ∀ text ∈ s'.2.texts, isUnsigned64 text = true) 0 (s, {})

/-- However far it is followed, at most so many of its `GET`s of the entry bring no text. -/
def ReadsInTheEnd : Prop :=
  ∃ N, ∀ fuel, (o.code (cfg t.1) fuel).Fed (Fleet.reading cfg) t turns (fun _ _ s' => s'.2.unread ≤ N) 0 (s, {})

end

/-! ## What decides the answer -/

/-- What `std::stoull` makes of the text of an entry. -/
def entryOutcome (text : String) : ResolveOutcome :=
  match stoull text with
  | none => .threw
  | some playerId => .resolved ⟨playerId, false⟩

theorem entryOutcome_ne_spinning (text : String) : entryOutcome text ≠ .spinning := by
  unfold entryOutcome
  cases stoull text with
  | none => simp
  | some playerId => simp

/-- What a call makes of its `GET`s of the entry, of which at most `budget` bring no text: it ends as the one text
says that it reads, or it reads none and does not throw; and it is in its loop as long as none has brought one. -/
structure EntryDecides (budget : Nat) (g : EntryReads) (answer : Option ResolveOutcome) (g' : EntryReads) : Prop where
  text : g'.texts = g.texts ∧ answer ≠ some .threw ∨
    ∃ text, g'.texts = g.texts ++ [text] ∧ answer = some (entryOutcome text)
  unread : g'.unread ≤ g.unread + budget
  spins : answer = some .spinning → g'.unread = g.unread + budget

namespace EntryDecides

variable {budget : Nat} {g g' : EntryReads} {answer : Option ResolveOutcome}

/-- No `GET` of the entry. -/
theorem of_none (hthrew : answer ≠ some .threw) (hspins : answer ≠ some .spinning) :
    EntryDecides budget g answer g where
  text := .inl ⟨rfl, hthrew⟩
  unread := Nat.le_add_right _ _
  spins h := absurd h hspins

/-- A `GET` that brings a text. -/
theorem of_text (text : String) : EntryDecides budget g (some (entryOutcome text)) (g.note (some text)) where
  text := .inr ⟨text, rfl, rfl⟩
  unread := Nat.le_add_right _ _
  spins h := absurd (Option.some.inj h) (entryOutcome_ne_spinning text)

/-- And one that brings none, before the rest of the call. -/
theorem after_none (h : EntryDecides budget (g.note none) answer g') : EntryDecides (budget + 1) g answer g' where
  text := h.text
  unread := by
    have hunread : g'.unread ≤ g.unread + 1 + budget := h.unread
    omega
  spins hspinning := by
    have hspins : g'.unread = g.unread + 1 + budget := h.spins hspinning
    omega

/-- Such a call comes to a normal end when what it reads are numbers and its `GET`s bring none less often than its
fuel allows. -/
theorem normalEnd (h : EntryDecides budget {} answer g') (hnumbers : ∀ text ∈ g'.texts, isUnsigned64 text = true)
    (hunread : g'.unread < budget) : NormalEnd answer g' where
  leaves hspinning := by
    have hspins : g'.unread = 0 + budget := h.spins hspinning
    omega
  returns := by
    rcases h.text with ⟨-, hthrew⟩ | ⟨text, htexts, hanswer⟩
    · exact hthrew
    · have hnumber : isUnsigned64 text = true := hnumbers text (by rw [htexts]; simp)
      rw [hanswer, entryOutcome, stoull_of_isUnsigned64 hnumber]
      simp
  refuses text htext hno := by
    rw [hnumbers text htext] at hno
    cases hno

end EntryDecides

/-- In a normal end a text that is no number is neither raised nor taken for an id. -/
theorem NormalEnd.number {text : String} {g : EntryReads} (h : NormalEnd (some (entryOutcome text)) g)
    (htext : text ∈ g.texts) : isUnsigned64 text = true := by
  by_contra hnumber
  cases hs : stoull text with
  | none => exact h.returns (by rw [entryOutcome, hs])
  | some playerId => exact h.refuses text htext (Bool.not_eq_true _ ▸ hnumber) playerId (by rw [entryOutcome, hs])

/-! ## One section -/

section

variable [DecidableEq G] {cfg : G → GameConfiguration} {t : G × T} {key : String} {turns : Nat → Meanwhile}
  {s : Fleet G T} {g : EntryReads} {n : Nat}

theorem redisGet_serve (m : Meanwhile) (w : World) (key : String) :
    (redisGet (m.serve w (.entryGet key)).2.redis).2 = m.entryText w key := by
  unfold Meanwhile.serve Meanwhile.entryText
  cases m.input.fault with
  | none =>
      show (redisGet (World.get ((m.others w).entries key)).redis).2 = _
      cases (m.others w).entries key with
      | none => rfl
      | some value => cases value <;> rfl
  | dropped => simp [World.serve, lostAnswer, redisGet]
  | replyLost => simp [World.serve, lostAnswer, redisGet]
  | unavailable => simp [World.serve, Command.unavailableAnswer, redisGet]

/-- A `GET` of an entry brings its text, or nothing, and that is written down. -/
theorem reading_getEntry (cfg : G → GameConfiguration) (t : G × T) (m : Meanwhile) (s : Fleet G T) (g : EntryReads)
    (key : String) : ∃ s' result, (Fleet.reading cfg).exec t (.directory (.getEntry key)) m (s, g) =
      some ((s', g.note (m.entryText s.world key)), (result, m.entryText s.world key)) := by
  obtain ⟨s', hexec, -⟩ := meddled_getEntry cfg t m s key
  refine ⟨s', (redisGet (m.serve s.world (.entryGet key)).2.redis).1, (Machine.withHistory_of_exec hexec g).trans ?_⟩
  rw [EntryReads.after, ← redisGet_serve]

/-- A section of the directory that does not wait and is no `GET` of an entry. -/
def Act.offEntry : Act → Bool
  | .directory (.enter _) => false
  | .directory (.getEntry _) => false
  | .directory _ => true
  | _ => false

theorem reading_offEntry (cfg : G → GameConfiguration) (t : G × T) {a : Act} (ha : a.offEntry = true) (m : Meanwhile)
    (s : Fleet G T) (g : EntryReads) : ∃ s' r, (Fleet.reading cfg).exec t a m (s, g) = some ((s', g), r) := by
  have htotal : ∀ d : DirectoryAct, (Act.directory d).offEntry = true → ∀ (D : PlayerDirectoryService T) x,
      ∃ y, D.exec t.2 x d = some y := by
    intro d hd D x
    cases d with
    | enter | getEntry => cases hd
    | _ => exact ⟨_, rfl⟩
  cases a with
  | directory d =>
      obtain ⟨s', r, hexec⟩ := meddled_total cfg t m s d (htotal d ha)
      refine ⟨s', r, (Machine.withHistory_of_exec hexec g).trans ?_⟩
      cases d with
      | getEntry => cases ha
      | _ => rfl
  | _ => cases ha

/-- Such sections leave what has been read as it is. -/
theorem offEntry_fed {α : Type} {p : Call α} (hp : p.All fun a => a.offEntry = true) :
    p.Fed (Fleet.reading cfg) t turns (fun _ _ s' => s'.2 = g) n (s, g) := by
  refine Prog.Fed.of_all (I := fun s : Fleet G T × EntryReads => s.2 = g) hp (fun a ha m s hs => ?_) rfl
  obtain ⟨s', r, hexec⟩ := reading_offEntry cfg t ha m s.1 s.2
  exact ⟨_, r, hexec, hs⟩

/-! ## The calls -/

/-- `answerEntry` sends nothing, and its answer is what the text says. -/
theorem answerEntry_reads (text : String) : (answerEntry key text).Fed (Fleet.reading cfg) t turns
    (fun outcome _ s' => outcome = entryOutcome text ∧ s'.2 = g) n (s, g) := by
  unfold answerEntry answerEntry.stoull entryOutcome
  cases stoull text with
  | none =>
      obtain ⟨s', r, hexec⟩ := reading_offEntry cfg t (a := .directory .leave) rfl (turns n) s g
      exact ⟨_, r, hexec, rfl, rfl⟩
  | some playerId =>
      obtain ⟨s', r, hexec⟩ := reading_offEntry cfg t
        (a := .directory (.remember key ⟨playerId, false⟩)) rfl (turns n) s g
      exact ⟨_, r, hexec, rfl, rfl⟩

/-- The local answer is an id. -/
theorem answerFallback_reads : (answerFallback key).Fed (Fleet.reading cfg) t turns
    (fun outcome _ s' => (∃ resolved, outcome = .resolved resolved) ∧ s'.2 = g) n (s, g) := by
  obtain ⟨s', r, hexec⟩ := reading_offEntry cfg t (a := .directory (.fallback key)) rfl (turns n) s g
  exact ⟨_, r, hexec, ⟨r, rfl⟩, rfl⟩

theorem prepareCounter_offEntry : prepareCounter.All fun a => a.offEntry = true := by
  refine all_seq rfl fun current => ?_
  split
  · exact all_seq rfl fun _ => all_pure
  · split
    · exact all_seq rfl fun _ => all_pure
    · exact all_pure

/-- A turn of the loop: its `GET` brings none and it asks for another turn, or it brings the answer. -/
theorem resolveTurn_reads : (resolveTurn key).Fed (Fleet.reading cfg) t turns
    (fun o _ s' => (o = none → s'.2 = g.note none) ∧
      ∀ outcome, o = some outcome → ∀ budget, EntryDecides budget g (some outcome) s'.2) n (s, g) := by
  have hfallback : ∀ n s, (answerFallback key >>= fun outcome => pure (some outcome)).Fed (Fleet.reading cfg) t turns
      (fun o _ s' => (o = none → s'.2 = g.note none) ∧
        ∀ outcome, o = some outcome → ∀ budget, EntryDecides budget g (some outcome) s'.2) n (s, g) := by
    intro n s
    refine Prog.Fed.bind (answerFallback_reads.mono fun outcome _ s' hlocal => ⟨by simp, ?_⟩)
    obtain ⟨⟨resolved, rfl⟩, hsame⟩ := hlocal
    rintro _ ⟨⟩ budget
    rw [hsame]
    exact .of_none (by simp) (by simp)
  refine Prog.Fed.bind ((offEntry_fed prepareCounter_offEntry).mono fun _ n₁ s₁ hsame₁ => ?_)
  obtain ⟨s₁, g₁⟩ := s₁
  obtain rfl : g₁ = g := hsame₁
  obtain ⟨s₂, increment, hincrement⟩ :=
    reading_offEntry cfg t (a := .directory .increment) rfl (turns n₁) s₁ g₁
  refine Prog.Fed.seq hincrement ?_
  split
  · exact hfallback _ _
  obtain ⟨s₃, create, hcreate⟩ := reading_offEntry cfg t
    (a := .directory (.createEntry key (castPlayerId increment.2))) rfl (turns (n₁ + 1)) s₂ g₁
  refine Prog.Fed.seq hcreate ?_
  split
  · obtain ⟨s₄, r, hremember⟩ := reading_offEntry cfg t
      (a := .directory (.remember key ⟨castPlayerId increment.2, true⟩)) rfl (turns (n₁ + 1 + 1)) s₃ g₁
    refine Prog.Fed.seq hremember ⟨by simp, ?_⟩
    rintro _ ⟨⟩ budget
    exact .of_none (by simp) (by simp)
  split
  · exact hfallback _ _
  obtain ⟨s₄, result, hretry⟩ := reading_getEntry cfg t (turns (n₁ + 1 + 1)) s₃ g₁ key
  refine Prog.Fed.seq hretry ?_
  cases (turns (n₁ + 1 + 1)).entryText s₃.world key with
  | none => exact ⟨fun _ => rfl, by simp⟩
  | some text =>
      refine Prog.Fed.bind ((answerEntry_reads text).mono fun outcome _ s' hread => ⟨by simp, ?_⟩)
      obtain ⟨rfl, hsame⟩ := hread
      rintro _ ⟨⟩ budget
      rw [hsame]
      exact .of_text text

/-- The loop, by induction on its turns. -/
theorem resolveLoop_reads (fuel : Nat) : (resolveLoop key fuel).Fed (Fleet.reading cfg) t turns
    (fun outcome _ s' => EntryDecides fuel g (some outcome) s'.2) n (s, g) := by
  rw [resolveLoop_eq]
  induction fuel generalizing n s g with
  | zero => exact ⟨.inl ⟨rfl, by simp⟩, le_rfl, fun _ => rfl⟩
  | succ fuel ih =>
      refine Prog.Fed.bind (resolveTurn_reads.mono fun o n' s' hturn => ?_)
      cases o with
      | some outcome => exact hturn.2 outcome rfl (fuel + 1)
      | none =>
          obtain ⟨s', g'⟩ := s'
          obtain rfl : g' = g.note none := hturn.1 rfl
          exact ih.mono fun _ _ _ hrest => hrest.after_none

/-- A call enters the mutex that is free. -/
theorem reading_enter (cfg : G → GameConfiguration) (key : String) (hfree : (s.games t.1).directory.mutex = none)
    (m : Meanwhile) (g : EntryReads) : ∃ s', (Fleet.reading cfg).exec t (.directory (.enter key)) m (s, g) =
      some ((s', g), (s.games t.1).directory.entries key) := by
  obtain ⟨s', hexec⟩ : ∃ s', (Fleet.meddled cfg).exec t (.directory (.enter key)) m s =
      some (s', (s.games t.1).directory.entries key) := by
    simp only [Fleet.meddled, Fleet.exec, GameProcess.exec, PlayerDirectoryService.exec, hfree]
    exact ⟨_, rfl⟩
  exact ⟨s', Machine.withHistory_of_exec hexec g⟩

theorem resolveOrCreate_reads (hfree : (s.games t.1).directory.mutex = none) (fuel : Nat) :
    (resolveOrCreate fuel key).Fed (Fleet.reading cfg) t turns
      (fun outcome _ s' => EntryDecides (fuel + 1) g (some outcome) s'.2) n (s, g) := by
  obtain ⟨s₁, henter⟩ := reading_enter cfg key hfree (turns n) g
  refine Prog.Fed.seq henter ?_
  cases (s.games t.1).directory.entries key with
  | some playerId =>
      obtain ⟨s₂, r, hleave⟩ := reading_offEntry cfg t (a := .directory .leave) rfl (turns (n + 1)) s₁ g
      exact Prog.Fed.seq hleave (.of_none (by simp) (by simp))
  | none =>
      obtain ⟨s₂, result, hget⟩ := reading_getEntry cfg t (turns (n + 1)) s₁ g key
      refine Prog.Fed.seq hget ?_
      cases (turns (n + 1)).entryText s₁.world key with
      | none => exact (resolveLoop_reads fuel).mono fun _ _ _ hrest => hrest.after_none
      | some text =>
          refine (answerEntry_reads text).mono fun outcome _ s' hread => ?_
          obtain ⟨rfl, hsame⟩ := hread
          rw [hsame]
          exact .of_text text

/-- `Lookup` has no loop. -/
theorem lookup_reads (hfree : (s.games t.1).directory.mutex = none) : (lookup key).Fed (Fleet.reading cfg) t turns
    (fun answer _ s' => EntryDecides 1 g answer s'.2 ∧ answer ≠ some .spinning) n (s, g) := by
  obtain ⟨s₁, henter⟩ := reading_enter cfg key hfree (turns n) g
  refine Prog.Fed.seq henter ?_
  cases (s.games t.1).directory.entries key with
  | some playerId =>
      obtain ⟨s₂, r, hleave⟩ := reading_offEntry cfg t (a := .directory .leave) rfl (turns (n + 1)) s₁ g
      exact Prog.Fed.seq hleave ⟨.of_none (by simp) (by simp), by simp⟩
  | none =>
      obtain ⟨s₂, result, hget⟩ := reading_getEntry cfg t (turns (n + 1)) s₁ g key
      refine Prog.Fed.seq hget ?_
      cases (turns (n + 1)).entryText s₁.world key with
      | none =>
          obtain ⟨s₃, r, hleave⟩ :=
            reading_offEntry cfg t (a := .directory .leave) rfl (turns (n + 1 + 1)) s₂ (g.note none)
          refine Prog.Fed.seq hleave ⟨?_, by simp⟩
          exact (EntryDecides.of_none (by simp) (by simp)).after_none
      | some text =>
          refine Prog.Fed.bind ((answerEntry_reads text).mono fun outcome _ s' hread => ?_)
          obtain ⟨rfl, hsame⟩ := hread
          show EntryDecides 1 g (some (entryOutcome text)) s'.2 ∧ some (entryOutcome text) ≠ some .spinning
          rw [hsame]
          exact ⟨.of_text text, fun hspinning => entryOutcome_ne_spinning text (Option.some.inj hspinning)⟩

/-- Either operation. -/
theorem directory_reads {o : Op} (ho : AsksDirectory o key) (hfree : (s.games t.1).directory.mutex = none)
    (fuel : Nat) : (o.code (cfg t.1) fuel).Fed (Fleet.reading cfg) t turns
      (fun r _ s' => EntryDecides (fuel + 1) g r.answer s'.2) n (s, g) := by
  cases ho with
  | resolve platform accountId areaId => exact Prog.Fed.bind (resolveOrCreate_reads hfree fuel)
  | lookup platform accountId areaId =>
      refine Prog.Fed.bind ((lookup_reads hfree).mono fun answer _ s' h => ?_)
      exact ⟨h.1.text, h.1.unread.trans (by omega), fun hspinning => absurd hspinning h.2⟩

/-- What a call ends with when it is out of its loop it also ends with when it has more fuel. -/
theorem directory_more {o : Op} {Q : OpResult → Nat → Fleet G T × EntryReads → Prop} {fuel more : Nat}
    {s : Fleet G T × EntryReads} (ho : AsksDirectory o key) (hle : fuel ≤ more)
    (h : (o.code (cfg t.1) fuel).Fed (Fleet.reading cfg) t turns
      (fun r n' s' => r.answer ≠ some .spinning ∧ Q r n' s') n s) :
    (o.code (cfg t.1) more).Fed (Fleet.reading cfg) t turns Q n s := by
  cases ho with
  | lookup platform accountId areaId => exact h.mono fun _ _ _ hend => hend.2
  | resolve platform accountId areaId =>
      refine Prog.Fed.bind ?_
      obtain ⟨s₁, cached, henter, h⟩ := Prog.fed_bind.1 h
      refine ⟨s₁, cached, henter, ?_⟩
      cases cached with
      | some playerId => exact Prog.Fed.mono (fun _ _ _ hend => hend.2) h
      | none =>
          obtain ⟨s₂, entry, hget, h⟩ := h
          refine ⟨s₂, entry, hget, ?_⟩
          obtain ⟨result, found⟩ := entry
          cases found with
          | some text => exact Prog.Fed.mono (fun _ _ _ hend => hend.2) h
          | none =>
              simp only [resolveLoop_eq] at h ⊢
              refine Prog.Fed.more (h.mono fun outcome _ _ hend => ?_) hle
              exact ⟨fun hspinning => hend.1 (congrArg some hspinning), hend.2⟩

/-- So two amounts of fuel that are enough show the same end. -/
theorem directory_agrees {o : Op} {Q Q' : OpResult → Nat → Fleet G T × EntryReads → Prop} {fuel fuel' : Nat}
    {s : Fleet G T × EntryReads} (ho : AsksDirectory o key)
    (h : (o.code (cfg t.1) fuel).Fed (Fleet.reading cfg) t turns
      (fun r n' s' => r.answer ≠ some .spinning ∧ Q r n' s') n s)
    (h' : (o.code (cfg t.1) fuel').Fed (Fleet.reading cfg) t turns
      (fun r n' s' => r.answer ≠ some .spinning ∧ Q' r n' s') n s) : ∃ r n' s', Q r n' s' ∧ Q' r n' s' :=
  (directory_more ho (Nat.le_max_left fuel fuel') h).unique (directory_more ho (Nat.le_max_right fuel fuel') h')

/-- A call that is out of its loop with some fuel sends finitely many `GET`s of the entry. -/
theorem readsInTheEnd_of_leaves {o : Op} (ho : AsksDirectory o key) (hfree : (s.games t.1).directory.mutex = none)
    {fuel : Nat} (h : (o.code (cfg t.1) fuel).Fed (Fleet.reading cfg) t turns
      (fun r _ _ => r.answer ≠ some .spinning) 0 (s, {})) : ReadsInTheEnd cfg t o turns s := by
  refine ⟨0 + (fuel + 1), fun fuel' => ?_⟩
  rcases Nat.le_total fuel' fuel with hless | hmore
  · exact (directory_reads ho hfree fuel').mono fun r _ s' hreads => hreads.unread.trans (by simp; omega)
  · obtain ⟨r, n', s', hall⟩ := h.result
    have hreads := (hall _).1 (directory_reads ho hfree fuel)
    exact directory_more ho hmore ((hall _).2 ⟨(hall _).1 h, hreads.unread⟩)

/-- A call that comes to a normal end reads numbers, however far it is followed. -/
theorem ReturnsNormally.readsNumbers {o : Op} (h : ReturnsNormally cfg t o turns s) (ho : AsksDirectory o key)
    (hfree : (s.games t.1).directory.mutex = none) : ReadsNumbers cfg t o turns s := by
  intro fuel'
  obtain ⟨fuel, hnormal⟩ := h
  obtain ⟨r, n', s', hall⟩ := (directory_reads (g := {}) ho hfree fuel').result
  refine (hall _).2 fun text htext => ?_
  rcases ((hall _).1 (directory_reads ho hfree fuel')).text with ⟨hnone, -⟩ | ⟨text', hone, hanswer⟩
  · rw [hnone] at htext
    cases htext
  · -- the end that the text decides is the normal one
    have hread : r.answer ≠ some .spinning ∧ r.answer = some (entryOutcome text') ∧ s'.2.texts = [text'] := by
      refine ⟨?_, hanswer, hone⟩
      rw [hanswer]
      exact fun hspinning => entryOutcome_ne_spinning text' (Option.some.inj hspinning)
    obtain ⟨r', _, s'', hend, hanswer', hone'⟩ := directory_agrees ho
      (hnormal.mono fun _ _ _ hend => ⟨hend.leaves, hend⟩)
      ((hall fun r _ s' => r.answer ≠ some .spinning ∧ r.answer = some (entryOutcome text') ∧ s'.2.texts = [text']).2
        hread)
    rw [hone] at htext
    obtain rfl := List.mem_singleton.1 htext
    rw [hanswer'] at hend
    exact hend.number (by rw [hone']; exact List.mem_singleton_self text)

/-- A call that reads numbers, and finitely often none, comes to a normal end. -/
theorem returnsNormally_of_reads {o : Op} (ho : AsksDirectory o key) (hfree : (s.games t.1).directory.mutex = none)
    (hnumbers : ReadsNumbers cfg t o turns s) (hend : ReadsInTheEnd cfg t o turns s) :
    ReturnsNormally cfg t o turns s := by
  obtain ⟨N, hN⟩ := hend
  obtain ⟨r, n', s', hall⟩ := (hN N).result
  refine ⟨N, (hall _).2 (((hall _).1 (directory_reads ho hfree N)).normalEnd ((hall _).1 (hnumbers N)) ?_)⟩
  exact Nat.lt_succ_of_le ((hall _).1 (hN N))

/-- What is shown without what has been read. -/
theorem reading_fed {α : Type} {Q : α → Nat → Fleet G T → Prop} {p : Call α}
    (h : p.Fed (Fleet.meddled cfg) t turns Q n s) (g : EntryReads) :
    p.Fed (Fleet.reading cfg) t turns (fun a n' s' => Q a n' s'.1) n (s, g) :=
  h.withHistory g

/-- An entry that nobody else changes and that is no value of another type, with finitely many failures. -/
theorem directory_leaves {o : Op} (ho : AsksDirectory o key) (hcalm : Calm key turns)
    (hfree : (s.games t.1).directory.mutex = none) (hstring : s.world.entries key ≠ some .other) :
    ∃ fuel, (o.code (cfg t.1) fuel).Fed (Fleet.reading cfg) t turns
      (fun r _ _ => r.answer ≠ some .spinning) 0 (s, {}) := by
  cases ho with
  | resolve platform accountId areaId =>
      obtain ⟨fuel, hleaves⟩ := resolveOrCreate_leaves_string hcalm hfree hstring
      refine ⟨fuel, Prog.Fed.bind ((reading_fed hleaves {}).mono fun outcome _ _ houtcome hspinning => ?_)⟩
      exact houtcome (Option.some.inj hspinning)
  | lookup platform accountId areaId => exact ⟨0, Prog.Fed.bind ((lookup_reads hfree).mono fun _ _ _ h => h.2)⟩

end

/-- Whatever other processes do to Redis before each command of a directory call, and whichever commands fail: the call
returns normally exactly when every entry that it reads is an unsigned 64-bit decimal number and finitely many of its
`GET`s of the entry bring no text. These are finitely many when the entry is left alone, is no value of another type
and the failures come to an end. -/
theorem directory_returns [DecidableEq G] {cfg : G → GameConfiguration} {t : G × T} {o : Op} {key : String}
    (ho : AsksDirectory o key) {turns : Nat → Meanwhile} {s : Fleet G T}
    (hfree : (s.games t.1).directory.mutex = none) :
    (ReturnsNormally cfg t o turns s ↔ ReadsNumbers cfg t o turns s ∧ ReadsInTheEnd cfg t o turns s) ∧
    (Calm key turns → s.world.entries key ≠ some .other →
      (ReturnsNormally cfg t o turns s ↔ ReadsNumbers cfg t o turns s)) := by
  refine ⟨⟨fun hreturns => ⟨hreturns.readsNumbers ho hfree, ?_⟩, fun hreads => ?_⟩, fun hcalm hstring => ?_⟩
  · obtain ⟨fuel, hnormal⟩ := hreturns
    exact readsInTheEnd_of_leaves ho hfree (hnormal.mono fun _ _ _ hend => hend.leaves)
  · exact returnsNormally_of_reads ho hfree hreads.1 hreads.2
  · refine ⟨fun hreturns => hreturns.readsNumbers ho hfree, fun hnumbers => ?_⟩
    obtain ⟨fuel, hleaves⟩ : ∃ fuel, (o.code (cfg t.1) fuel).Fed (Fleet.reading cfg) t turns
        (fun r _ _ => r.answer ≠ some .spinning) 0 (s, {}) := directory_leaves ho hcalm hfree hstring
    exact returnsNormally_of_reads ho hfree hnumbers (readsInTheEnd_of_leaves ho hfree hleaves)

/-! ## A number and a text that is none -/

/-- One game, and a Redis that has this text in the directory. -/
def storedFleet (text : String) : Fleet Unit Unit where
  world := { entries := fun _ => some (.text text) }

/-- A call in a game that has not seen the account reads the stored text and comes to what `std::stoull` makes of
it. -/
theorem directory_stored (text : String) {o : Op} {key : String} (ho : AsksDirectory o key) (fuel : Nat) :
    (o.code (loneGame ()) fuel).Fed (Fleet.reading loneGame) ((), ()) (fun _ => {})
      (fun r _ s' => r.answer = some (entryOutcome text) ∧ s'.2 = ⟨[text], 0⟩) 0 (storedFleet text, {}) := by
  obtain ⟨s₁, henter, hworld⟩ : ∃ s₁, (Fleet.reading loneGame).exec ((), ()) (.directory (.enter key)) {}
      (storedFleet text, {}) = some ((s₁, {}), none) ∧ s₁.world = (storedFleet text).world := ⟨_, rfl, rfl⟩
  obtain ⟨s₂, result, hget⟩ := reading_getEntry loneGame ((), ()) {} s₁ {} key
  have htext : Meanwhile.entryText {} s₁.world key = some text := by
    rw [hworld]
    rfl
  rw [htext] at hget
  cases ho with
  | resolve platform accountId areaId =>
      refine Prog.Fed.bind (Prog.Fed.seq henter (Prog.Fed.seq hget ?_))
      exact (answerEntry_reads text).mono fun _ _ _ hread => ⟨congrArg some hread.1, hread.2⟩
  | lookup platform accountId areaId =>
      refine Prog.Fed.bind (Prog.Fed.seq henter (Prog.Fed.seq hget (Prog.Fed.bind ?_)))
      exact (answerEntry_reads text).mono fun _ _ _ hread => ⟨congrArg some hread.1, hread.2⟩

/-- A login finds the entry `100007`. -/
theorem directory_returns_number :
    ReturnsNormally loneGame ((), ()) (.resolve "steam" "alice" 1) (fun _ => {}) (storedFleet "100007") := by
  have ho := AsksDirectory.resolve "steam" "alice" 1
  refine (directory_returns ho rfl).1.2 ⟨fun fuel => ?_, 0, fun fuel => ?_⟩
  · refine (directory_stored "100007" ho fuel).mono fun _ _ _ hread text htext => ?_
    rw [hread.2] at htext
    rw [List.mem_singleton.1 htext]
    decide
  · exact (directory_stored "100007" ho fuel).mono fun _ _ _ hread => (congrArg EntryReads.unread hread.2).le

/-- A login, or a look-up, finds the entry `alice`: the exception of `std::stoull` leaves the call. -/
theorem directory_throws : ¬∀ (turns : Nat → Meanwhile) (s : Fleet Unit Unit),
    (s.games ()).directory.mutex = none →
      ReturnsNormally loneGame ((), ()) (.resolve "steam" "alice" 1) turns s ∨
        ReturnsNormally loneGame ((), ()) (.lookup "steam" "alice" 1) turns s := by
  intro hnormal
  have hthrown : entryOutcome "alice" = .threw := by decide
  have hnever : ∀ {o key}, AsksDirectory o key →
      ¬ReturnsNormally loneGame ((), ()) o (fun _ => {}) (storedFleet "alice") := by
    rintro o key ho ⟨fuel, hend⟩
    obtain ⟨r, _, s', hend, hread, -⟩ := hend.unique (directory_stored "alice" ho fuel)
    exact hend.returns (hread.trans (congrArg some hthrown))
  rcases hnormal (fun _ => {}) (storedFleet "alice") rfl with hresolve | hlookup
  · exact hnever (.resolve "steam" "alice" 1) hresolve
  · exact hnever (.lookup "steam" "alice" 1) hlookup

end SomeServer
