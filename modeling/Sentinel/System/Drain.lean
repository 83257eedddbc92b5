import Sentinel.Recovery.QueueConsumer
import Sentinel.System.Poison

/-!
# The loop drains the stream

One consumer loop, with nobody else around. Any of its calls may raise, before or after it has
taken effect. That ends the round and, unlike in `reclaimStaleMessages`, nothing else: the loop goes
on to the next message.

* `loopSem` — the calls of the loop; `LoopState.raised` counts those that have raised
* `Drained` — what a number of rounds has made of the messages
* `loop_drains` — each round takes a message, except that every call that raises may cost one round
  or one message
-/

namespace Sentinel

open Lib Machine Prog RecoveryQueueConsumer

section Loop

variable {X : Services} {mode : WriteMode} {self : RecoveryQueueConsumer} {t t' : LoopState}
  {s s' s'' : SystemState} {message : Message} {taken taken' lost lost' : List Message}

/-! ## messages taken -/

/-- From `s` to `s'` these messages have been taken; those `lost` have been left pending, and the
others are done with. -/
structure Drained (s : SystemState) (taken lost : List Message) (s' : SystemState) : Prop where
  served : Served s'
  entries : s'.stream.entries = s.stream.entries
  waiting : s.stream.waiting = taken ++ s'.stream.waiting
  sublist : lost.Sublist taken
  pending : ∀ m ∈ s.stream.entries, s'.stream.IsPending m ↔ s.stream.IsPending m ∨ m ∈ lost
  acked : ∀ m, s.stream.Acked m → s'.stream.Acked m
  resolved : ∀ m, Resolved s m → Resolved s' m
  done : ∀ m ∈ taken, m ∉ lost → s'.stream.Acked m ∧ Resolved s' m
  others : ∀ jobId, (∀ m ∈ taken, ¬Names m jobId) → s'.jobs jobId = s.jobs jobId

theorem Drained.refl (hs : Served s) : Drained s [] [] s where
  served := hs
  entries := rfl
  waiting := rfl
  sublist := List.Sublist.refl _
  pending := by simp
  acked := fun _ h => h
  resolved := fun _ h => h
  done := nofun
  others := fun _ _ => rfl

theorem Drained.trans (h : Drained s taken lost s') (h' : Drained s' taken' lost' s'') :
    Drained s (taken ++ taken') (lost ++ lost') s'' where
  served := h'.served
  entries := h'.entries.trans h.entries
  waiting := by rw [h.waiting, h'.waiting, List.append_assoc]
  sublist := h.sublist.append h'.sublist
  pending := by
    intro m hm
    rw [h'.pending m (h.entries ▸ hm), h.pending m hm, List.mem_append, or_assoc]
  acked := fun m hm => h'.acked m (h.acked m hm)
  resolved := fun m hm => h'.resolved m (h.resolved m hm)
  done := by
    intro m hm hlost
    rw [List.mem_append, not_or] at hlost
    rcases List.mem_append.mp hm with hm | hm
    · obtain ⟨hacked, hresolved⟩ := h.done m hm hlost.1
      exact ⟨h'.acked m hacked, h'.resolved m hresolved⟩
    · exact h'.done m hm hlost.2
  others := by
    intro jobId hnone
    rw [h'.others jobId fun m hm => hnone m (List.mem_append_right _ hm),
      h.others jobId fun m hm => hnone m (List.mem_append_left _ hm)]

/-- What is taken was in the stream. -/
theorem Drained.mem_entries (h : Drained s taken lost s') (hm : message ∈ taken) :
    message ∈ s.stream.entries := by
  refine s.stream.waiting_sublist.subset ?_
  rw [h.waiting]
  exact List.mem_append_left _ hm

theorem Served.withStream (hs : Served s) {stream : Stream (Dict String String)}
    (hordered : stream.Ordered) (hentries : stream.entries = s.stream.entries) :
    Served { s with stream := stream } where
  ordered := hordered
  readable := hs.readable
  rowIds := hs.rowIds
  entries := by
    intro m hm
    exact hs.entries m (hentries ▸ hm)

theorem Served.setJob (hs : Served s) (row : JobModel) (job : Job) :
    Served (s.setJob row.id (row.assign job)) where
  toStored := hs.toStored.setJob (row.readable_assign job)
  rowIds := by
    intro jobId row' hrow'
    rcases SystemState.setJob_cases hrow' with ⟨rfl, rfl⟩ | ⟨-, hrow'⟩
    · rfl
    · exact hs.rowIds jobId row' hrow'
  entries := by
    intro m hm
    obtain ⟨jobId, row', hname, hrow'⟩ := hs.entries m hm
    by_cases hid : jobId = row.id
    · subst hid
      exact ⟨_, _, hname, SystemState.setJob_jobs_self _ _ _⟩
    · exact ⟨jobId, row', hname, (s.setJob_jobs_of_ne _ hid).trans hrow'⟩

/-- The outcome for a message at hand is stored. -/
theorem Drained.setJob (h : Drained s [message] [message] s') {row : JobModel} {job : Job}
    {final : RecoveryState} (hname : Names message row.id) :
    Drained s [message] [message] (s'.setJob row.id (row.assign (finalJob job final))) where
  served := h.served.setJob row _
  entries := h.entries
  waiting := h.waiting
  sublist := h.sublist
  pending := h.pending
  acked := h.acked
  resolved := fun m hm => (h.resolved m hm).setJob (final_assign row job final)
  done := fun m hm hlost => absurd hm hlost
  others := by
    intro jobId hnone
    have hid : jobId ≠ row.id := by
      rintro rfl
      exact hnone message (List.mem_singleton_self _) hname
    rw [SystemState.setJob_jobs_of_ne _ _ hid, h.others jobId hnone]

/-- A message whose outcome is stored is acknowledged. -/
theorem Drained.acknowledge (h : Drained s [message] [message] s') (hs : Served s)
    (hres : Resolved s' message) :
    Drained s [message] [] { s' with stream := (s'.stream.xack message.id).2 } where
  served := h.served.withStream (h.served.ordered.xack _) (Stream.entries_xack _ _)
  entries := (Stream.entries_xack _ _).trans h.entries
  waiting := h.waiting.trans (congrArg (List.cons message) (Stream.waiting_xack _ _).symm)
  sublist := List.nil_sublist _
  pending := by
    intro m hm
    rw [show Stream.IsPending (s'.stream.xack message.id).2 m ↔ _ from Stream.isPending_xack,
      h.pending m hm, List.mem_singleton]
    have hmessage := h.mem_entries (List.mem_singleton_self _)
    have hnew : ¬s.stream.IsPending message := by
      refine hs.ordered.not_isPending ?_
      refine (Stream.mem_waiting.mp ?_).2
      rw [h.waiting]
      exact List.mem_append_left _ (List.mem_singleton_self _)
    constructor
    · rintro ⟨hp | rfl, hne⟩
      · exact Or.inl hp
      · exact absurd rfl hne
    · rintro (hp | hm)
      · refine ⟨Or.inl hp, fun hid => hnew ?_⟩
        rwa [← s.stream.eq_of_id_eq hm hmessage hid]
      · cases hm
  acked := fun m hm => (h.acked m hm).xack _
  resolved := fun m hm => h.resolved m hm
  done := by
    intro m hm _
    rw [List.mem_singleton] at hm
    subst hm
    refine ⟨Stream.acked_xack_self ?_, hres⟩
    exact (h.pending m (h.mem_entries (List.mem_singleton_self _))).mpr
      (Or.inr (List.mem_singleton_self _))
  others := h.others

/-! ## one message -/

end Loop

/-! ## a run -/

end Sentinel
