import ModelDepot.Proofs.Batch.Merging
import ModelDepot.Proofs.Poller.Standing

/-! # What a poller tells from its beginning to its end

A poller that has ended has told its values, each when it was read, and then its outcome, as a batch
expects of its members.
-/

namespace ModelDepot

namespace Poller

/-- What the poller has told in all, at the stage where it stands. -/
def HasTold (p : Poller) (told : List DownloadEvent) : Prop :=
  match p.stage with
  | .ended => ∃ story : Batch.Story, story.model = p.model ∧ p.outcome = some story.outcome ∧
    told = story.events
  | _ => told = p.told.reverse.map (.progress p.model)

variable {p p' : Poller} {told : List DownloadEvent} {now : Nat} {active active' : ActiveDownloads}
  {event : Option DownloadEvent}

theorem HasTold.moves (sound : p.Sound) (h : p.HasTold told)
    (hm : Moves now active p p' active' event) : p'.HasTold (told ++ event.toList) := by
  cases hm with
  | tell hs hv hn => simp_all [HasTold]
  | @report outcome hs =>
      have noted : p.outcome = some outcome := by
        simpa only [OutcomeFits, hs] using sound.outcome
      simp only [HasTold, hs] at h
      exact ⟨⟨p.model, p.told.reverse, outcome⟩, rfl, noted, by rw [h]; rfl⟩
  | request hs | acknowledged hs | conclude hs => simp_all [HasTold]
  | _ => simp_all [HasTold]

theorem HasTold.of_same (h : p.HasTold told) (model : p'.model = p.model) (same : p'.told = p.told)
    (outcome : p'.outcome = p.outcome)
    (stage : p'.stage = p.stage ∨ p.stage ≠ .ended ∧ p'.stage ≠ .ended) : p'.HasTold told := by
  unfold HasTold at h ⊢
  rcases stage with hs | ⟨hs, hs'⟩
  · rw [hs, model, same, outcome]
    exact h
  · split at h
    · next he => exact absurd he hs
    · rw [model, same]
      exact h

end Poller

namespace Life

variable {l : Life} {told : List DownloadEvent}

theorem hasTold_after (sound : l.poller.Sound) (h : l.poller.HasTold told) (a : Act) :
    (l.after a).poller.HasTold (told ++ (l.passage a).told) := by
  cases a with
  | go now active =>
      rcases Poller.go_cases l.poller now active with ⟨active', event, hm, ht⟩ | ⟨hp, ht⟩
      · simp only [after, passage, ht]
        exact h.moves sound hm
      · simp only [after, passage, ht, hp, List.append_nil]
        exact h
  | start =>
      simp only [after, passage, List.append_nil, Poller.requestStart]
      split
      · next hs => exact h.of_same rfl rfl rfl (.inr ⟨by simp [hs], by simp⟩)
      · exact h
  | run =>
      simp only [after, passage, List.append_nil, Poller.requestRun, Poller.requestStart]
      split
      · next hs => exact h.of_same rfl rfl rfl (.inr ⟨by simp [hs], by simp⟩)
      · exact h.of_same rfl rfl rfl (.inl rfl)
  | answer reply =>
      simp only [after, passage, List.append_nil, Poller.receive]
      split
      · next hs => exact h.of_same rfl rfl rfl (.inr ⟨by simp [hs], by simp⟩)
      · next hs => exact h.of_same rfl rfl rfl (.inr ⟨by simp [hs], by simp⟩)
      · exact h
  | look =>
      simp only [after, passage, List.append_nil]
      split <;> exact h
  | close =>
      simp only [after, passage, List.append_nil]
      split
      · exact h
      · exact h.of_same rfl rfl rfl (.inl rfl)

theorem hasTold_afterAll (sound : l.poller.Sound) (h : l.poller.HasTold told) (acts : List Act) :
    (l.afterAll acts).poller.HasTold (told ++ l.told acts) := by
  induction acts generalizing l told with
  | nil =>
      have nothing : l.told [] = [] := rfl
      rwa [nothing, List.append_nil]
  | cons a acts ih =>
      have first : l.told (a :: acts) = (l.passage a).told ++ (l.after a).told acts := rfl
      rw [first, ← List.append_assoc]
      exact ih (sound.changes (changes_after l a)) (hasTold_after sound h a)

theorem exists_story {model : String} {config : PollerConfig} {acts : List Act}
    (ended : ((fresh model config).afterAll acts).poller.stage = .ended) :
    ∃ story : Batch.Story, story.model = model ∧
      ((fresh model config).afterAll acts).poller.outcome = some story.outcome ∧
      (fresh model config).told acts = story.events := by
  have silent : (fresh model config).poller.HasTold [] := rfl
  have told := hasTold_afterAll (Poller.sound_new model config) silent acts
  have named : ((fresh model config).afterAll acts).poller.model = model :=
    model_afterAll (fresh model config) acts
  rw [List.nil_append] at told
  simpa only [Poller.HasTold, ended, named] using told

end Life

end ModelDepot
