/-
# SomeServer.Lib.Writers — several writers on one stream

A writer puts a frame on its channel piece by piece, and other writers may put pieces of theirs in
between. `Writers` keeps account of it: which writer is at which frame and how far, which frames have been
begun and which are finished. `Sound` says what the streams then are: the finished frames, one after the
other, and a first part of at most one more. It is kept by every piece that is written while no other
writer is in the middle of a frame on the channel.
-/
import Mathlib.Data.List.Nodup
import Mathlib.Data.List.Perm.Basic
import Mathlib.Logic.Function.Basic

namespace SomeServer.Lib

/-- The writers and their frames: `written` counts the bytes of the frame that a writer is at. -/
structure Writers (T F : Type) where
  writing : List (T × F) := []
  written : T → Nat := fun _ => 0
  begun : List F := []
  finished : List F := []

namespace Writers

variable {T F B C : Type} [DecidableEq T] [DecidableEq F] [DecidableEq C]

/-- A writer begins with a frame. -/
def begins (w : Writers T F) (t : T) (f : F) : Writers T F where
  writing := (t, f) :: w.writing
  written := Function.update w.written t 0
  begun := w.begun ++ [f]
  finished := w.finished

/-- A writer that is at a frame of this size has written some more bytes of it. -/
def advances (w : Writers T F) (t : T) (f : F) (size count : Nat) : Writers T F :=
  if w.written t + count < size then
    { w with written := Function.update w.written t (w.written t + count) }
  else
    { w with
      writing := w.writing.erase (t, f)
      finished := w.finished ++ [f] }

/-- The frame that a writer is at. -/
def current (w : Writers T F) (t : T) : Option F := (w.writing.find? fun x => x.1 = t).map Prod.snd

/-- The bytes of the frames that are finished on a channel. -/
def whole (bytes : F → List B) (channel : F → C) (w : Writers T F) (c : C) : List B :=
  (w.finished.filter fun f => channel f = c).flatMap bytes

/-- Nobody is in the middle of a frame on the channel, and the stream is the finished frames; or one
writer is, and the stream has what it has written, too. -/
def Holds (bytes : F → List B) (channel : F → C) (w : Writers T F) (c : C) (stream : List B) : Prop :=
  ((∀ t f, (t, f) ∈ w.writing → channel f = c → w.written t = 0) ∧ stream = w.whole bytes channel c) ∨
  ∃ t f, (t, f) ∈ w.writing ∧ channel f = c ∧ 0 < w.written t ∧
    (∀ u g, (u, g) ∈ w.writing → channel g = c → u ≠ t → w.written u = 0) ∧
    stream = w.whole bytes channel c ++ (bytes f).take (w.written t)

/-- The account is right. -/
structure Sound (bytes : F → List B) (channel : F → C) (w : Writers T F) (stream : C → List B) : Prop where
  keys : (w.writing.map Prod.fst).Nodup
  short : ∀ t f, (t, f) ∈ w.writing → w.written t < (bytes f).length
  accounted : w.begun.Perm (w.finished ++ w.writing.map Prod.snd)
  holds : ∀ c, w.Holds bytes channel c (stream c)

variable {bytes : F → List B} {channel : F → C} {w : Writers T F} {stream stream' : C → List B} {t u : T}
  {f g : F}

omit [DecidableEq T] [DecidableEq F] in
/-- Before anything is written. -/
theorem sound_initial : Sound bytes channel ({} : Writers T F) fun _ => [] where
  keys := List.nodup_nil
  short := fun _ _ h => absurd h List.not_mem_nil
  accounted := .nil
  holds := fun _ => .inl ⟨fun _ _ h => absurd h List.not_mem_nil, rfl⟩

omit [DecidableEq T] [DecidableEq F] in
/-- A writer is at one frame only. -/
theorem writing_unique (h : (w.writing.map Prod.fst).Nodup) (hf : (t, f) ∈ w.writing)
    (hg : (t, g) ∈ w.writing) : f = g :=
  congrArg Prod.snd (List.inj_on_of_nodup_map h hf hg rfl)

omit [DecidableEq F] in
theorem current_eq (h : (w.writing.map Prod.fst).Nodup) (hf : (t, f) ∈ w.writing) :
    w.current t = some f := by
  unfold current
  cases hfind : w.writing.find? fun x => x.1 = t with
  | none => exact absurd (List.find?_eq_none.mp hfind (t, f) hf) (by simp)
  | some x =>
      obtain ⟨u, g⟩ := x
      have hu : u = t := by simpa using List.find?_some hfind
      subst hu
      rw [writing_unique h (List.mem_of_find?_eq_some hfind) hf]
      rfl

/-! ### The steps, writer by writer -/

omit [DecidableEq F] in
theorem begins_writing_of_ne (hu : u ≠ t) : (u, g) ∈ (w.begins t f).writing ↔ (u, g) ∈ w.writing := by
  refine ⟨fun h => ?_, List.mem_cons_of_mem _⟩
  rcases List.mem_cons.mp h with heq | hmem
  · exact absurd (congrArg Prod.fst heq) hu
  · exact hmem

omit [DecidableEq F] in
theorem begins_written_of_ne (hu : u ≠ t) : (w.begins t f).written u = w.written u :=
  Function.update_of_ne hu _ _

theorem advances_writing_of_ne {size count : Nat} (hu : u ≠ t) :
    (u, g) ∈ (w.advances t f size count).writing ↔ (u, g) ∈ w.writing := by
  unfold advances
  split
  · exact Iff.rfl
  · exact List.mem_erase_of_ne fun heq => hu (congrArg Prod.fst heq)

theorem advances_written_of_ne {size count : Nat} (hu : u ≠ t) :
    (w.advances t f size count).written u = w.written u := by
  unfold advances
  split
  · exact Function.update_of_ne hu _ _
  · rfl

/-- A piece of a frame that is not its last one. -/
theorem advances_more {size count : Nat} (h : w.written t + count < size) :
    (w.advances t f size count).writing = w.writing ∧
      (w.advances t f size count).written t = w.written t + count := by
  unfold advances
  rw [if_pos h]
  exact ⟨rfl, Function.update_self _ _ _⟩

/-- The last piece of a frame. -/
theorem advances_done {size count : Nat} (h : ¬ w.written t + count < size)
    (hkeys : (w.writing.map Prod.fst).Nodup) (hf : (t, f) ∈ w.writing) :
    (t, g) ∉ (w.advances t f size count).writing := by
  unfold advances
  rw [if_neg h]
  intro hmem
  have hrest := ((List.perm_cons_erase hf).map Prod.fst).nodup_iff.mp hkeys
  exact (List.nodup_cons.mp hrest).1 (List.mem_map.mpr ⟨(t, g), hmem, rfl⟩)

/-! ### The steps and the account -/

omit [DecidableEq F] in
/-- Beginning with a frame writes nothing. -/
theorem Sound.begins (h : w.Sound bytes channel stream) (hidle : ∀ g, (t, g) ∉ w.writing)
    (hf : 0 < (bytes f).length) : (w.begins t f).Sound bytes channel stream := by
  have hother : ∀ u g, (u, g) ∈ w.writing → u ≠ t := by
    rintro u g hmem rfl
    exact hidle g hmem
  constructor
  · refine List.nodup_cons.mpr ⟨?_, h.keys⟩
    intro hmem
    obtain ⟨⟨u, g⟩, hg, rfl⟩ := List.mem_map.mp hmem
    exact hidle g hg
  · intro u g hmem
    show Function.update w.written t 0 u < _
    rcases List.mem_cons.mp hmem with heq | hmem
    · cases heq
      rwa [Function.update_self]
    · rw [Function.update_of_ne (hother u g hmem)]
      exact h.short u g hmem
  · show (w.begun ++ [f]).Perm (w.finished ++ f :: w.writing.map Prod.snd)
    exact (List.perm_append_singleton f w.begun).trans
      ((h.accounted.cons f).trans List.perm_middle.symm)
  · intro c
    -- the new writer has written nothing, so that whoever was in the middle of a frame still is alone
    rcases h.holds c with ⟨hnone, hstream⟩ | ⟨u, g, hmem, hchannel, hpos, halone, hstream⟩
    · refine .inl ⟨?_, hstream⟩
      intro u g hmem hchannel
      show Function.update w.written t 0 u = 0
      rcases List.mem_cons.mp hmem with heq | hmem
      · cases heq
        exact Function.update_self _ _ _
      · rw [Function.update_of_ne (hother u g hmem)]
        exact hnone u g hmem hchannel
    · have hu := hother u g hmem
      have hkept : (w.begins t f).written u = w.written u := Function.update_of_ne hu _ _
      refine .inr ⟨u, g, List.mem_cons_of_mem _ hmem, hchannel, by rwa [hkept], ?_, by rw [hkept]; exact hstream⟩
      intro v k hv hk hne
      show Function.update w.written t 0 v = 0
      rcases List.mem_cons.mp hv with heq | hv
      · cases heq
        exact Function.update_self _ _ _
      · rw [Function.update_of_ne (hother v k hv)]
        exact halone v k hv hk hne

omit [DecidableEq T] [DecidableEq F] in
/-- What a channel has when no other writer is in the middle of a frame there. -/
theorem Sound.stream_eq (h : w.Sound bytes channel stream) (hf : (t, f) ∈ w.writing)
    (halone : ∀ u g, (u, g) ∈ w.writing → channel g = channel f → u ≠ t → w.written u = 0) :
    stream (channel f) = w.whole bytes channel (channel f) ++ (bytes f).take (w.written t) := by
  rcases h.holds (channel f) with ⟨hnone, hstream⟩ | ⟨u, g, hmem, hchannel, hpos, -, hstream⟩
  · rw [hnone t f hf rfl, List.take_zero, List.append_nil, hstream]
  · by_cases hu : u = t
    · subst hu
      rw [writing_unique h.keys hf hmem, hchannel, hstream]
    · rw [halone u g hmem hchannel hu] at hpos
      exact absurd hpos (Nat.lt_irrefl 0)

omit [DecidableEq T] [DecidableEq F] in
/-- Nothing has happened on the other channels. -/
theorem Holds.frame {w' : Writers T F} {c : C} {stream : List B} (h : w.Holds bytes channel c stream)
    (hwriting : ∀ u g, channel g = c → ((u, g) ∈ w'.writing ↔ (u, g) ∈ w.writing))
    (hwritten : ∀ u g, (u, g) ∈ w.writing → channel g = c → w'.written u = w.written u)
    (hwhole : w'.whole bytes channel c = w.whole bytes channel c) : w'.Holds bytes channel c stream := by
  unfold Holds
  rw [hwhole]
  rcases h with ⟨hnone, hstream⟩ | ⟨u, g, hmem, hchannel, hpos, halone, hstream⟩
  · refine .inl ⟨?_, hstream⟩
    intro u g hmem hchannel
    have hmem := (hwriting u g hchannel).mp hmem
    rw [hwritten u g hmem hchannel]
    exact hnone u g hmem hchannel
  · have hsame := hwritten u g hmem hchannel
    refine .inr ⟨u, g, (hwriting u g hchannel).mpr hmem, hchannel, by rwa [hsame], ?_, by rwa [hsame]⟩
    intro v k hv hk hne
    have hv := (hwriting v k hk).mp hv
    rw [hwritten v k hv hk]
    exact halone v k hv hk hne

/-- **A piece of a frame keeps the account right** if no other writer is in the middle of a frame on the
channel. -/
theorem Sound.advances (h : w.Sound bytes channel stream) (hf : (t, f) ∈ w.writing) {count : Nat}
    (hpos : 0 < count) (hle : w.written t + count ≤ (bytes f).length)
    (halone : ∀ u g, (u, g) ∈ w.writing → channel g = channel f → u ≠ t → w.written u = 0)
    (hat : stream' (channel f) = stream (channel f) ++ ((bytes f).drop (w.written t)).take count)
    (helse : ∀ c, c ≠ channel f → stream' c = stream c) :
    (w.advances t f (bytes f).length count).Sound bytes channel stream' := by
  have hnow : stream' (channel f) =
      w.whole bytes channel (channel f) ++ (bytes f).take (w.written t + count) := by
    rw [hat, h.stream_eq hf halone, List.append_assoc, ← List.take_add]
  have hother : ∀ c u g, c ≠ channel f → (u, g) ∈ w.writing → channel g = c → u ≠ t := by
    rintro c u g hc hmem rfl rfl
    exact hc (congrArg channel (writing_unique h.keys hmem hf))
  unfold Writers.advances
  split
  · -- the frame is not complete
    rename_i hmore
    constructor
    · exact h.keys
    · intro u g hmem
      show Function.update w.written t _ u < _
      by_cases hu : u = t
      · subst hu
        rw [Function.update_self, writing_unique h.keys hmem hf]
        exact hmore
      · rw [Function.update_of_ne hu]
        exact h.short u g hmem
    · exact h.accounted
    · intro c
      by_cases hc : c = channel f
      · subst hc
        refine .inr ⟨t, f, hf, rfl, ?_, ?_, ?_⟩
        · show 0 < Function.update w.written t _ t
          rw [Function.update_self]
          omega
        · intro u g hmem hchannel hu
          show Function.update w.written t _ u = 0
          rw [Function.update_of_ne hu]
          exact halone u g hmem hchannel hu
        · show _ = w.whole bytes channel _ ++ (bytes f).take (Function.update w.written t _ t)
          rw [Function.update_self, hnow]
      · rw [helse c hc]
        refine (h.holds c).frame (fun _ _ _ => Iff.rfl) ?_ rfl
        intro u g hmem hchannel
        exact Function.update_of_ne (hother c u g hc hmem hchannel) _ _
  · -- the frame is complete
    rename_i hdone
    have hfull : (bytes f).take (w.written t + count) = bytes f :=
      List.take_of_length_le (by omega)
    have hkeep : ∀ u g, u ≠ t → ((u, g) ∈ w.writing.erase (t, f) ↔ (u, g) ∈ w.writing) :=
      fun u g hu => List.mem_erase_of_ne fun heq => hu (congrArg Prod.fst heq)
    have hgone : ∀ u g, (u, g) ∈ w.writing.erase (t, f) → u ≠ t := by
      rintro u g hmem rfl
      have hlast := advances_done (g := g) hdone h.keys hf
      unfold Writers.advances at hlast
      rw [if_neg hdone] at hlast
      exact hlast hmem
    constructor
    · exact h.keys.sublist (List.erase_sublist.map Prod.fst)
    · intro u g hmem
      exact h.short u g (List.mem_of_mem_erase hmem)
    · show w.begun.Perm ((w.finished ++ [f]) ++ (w.writing.erase (t, f)).map Prod.snd)
      rw [List.append_assoc]
      exact h.accounted.trans (((List.perm_cons_erase hf).map Prod.snd).append_left _)
    · intro c
      by_cases hc : c = channel f
      · subst hc
        refine .inl ⟨?_, ?_⟩
        · intro u g hmem hchannel
          exact halone u g (List.mem_of_mem_erase hmem) hchannel (hgone u g hmem)
        · rw [hnow, hfull]
          simp [whole, List.filter_append]
      · rw [helse c hc]
        refine (h.holds c).frame ?_ (fun _ _ _ _ => rfl) ?_
        · rintro u g rfl
          constructor
          · exact List.mem_of_mem_erase
          · intro hmem
            exact (hkeep u g (hother _ u g hc hmem rfl)).mpr hmem
        · have hne : channel f ≠ c := fun heq => hc heq.symm
          simp [whole, List.filter_append, hne]

end Writers

end SomeServer.Lib
