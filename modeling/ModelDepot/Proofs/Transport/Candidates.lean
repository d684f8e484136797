import Mathlib.Data.List.Induction
import ModelDepot.Proofs.Path.Spellings
import ModelDepot.Proofs.Transport.Choice

/-! # Which libraries are candidates

Of all spellings of one path among the configured paths and the usual places, the earliest is a
candidate and the others are not. So no library is tried twice, none is lost, and a configured path
is tried before every place that is not itself configured.
-/

namespace ModelDepot

namespace Path

variable {offered kept paths : List String} {p : String}

/-- What is kept of the paths that are offered: of every path its earliest spelling, and nothing
else. -/
structure Keeps (offered kept : List String) : Prop where
  inOrder : kept.Sublist offered
  earliest : ∀ p ∈ offered, ∃ before q later, offered = before ++ q :: later ∧
    (∀ r ∈ before, ¬ Respelled r p) ∧ Respelled q p ∧ kept.filter (same p) = [q]

theorem same_congr {p q : String} (h : Respelled p q) : same p = same q := by
  funext r
  rw [same, same, components_of_respelled h]

/-- Something kept stands for every path that is offered. -/
theorem Keeps.exists_mem (h : Keeps offered kept) (inside : p ∈ offered) :
    ∃ q ∈ kept, Respelled q p := by
  obtain ⟨-, q, -, -, -, spelled, only⟩ := h.earliest p inside
  have filtered : q ∈ kept.filter (same p) := only ▸ List.mem_singleton_self q
  exact ⟨q, (List.mem_filter.1 filtered).1, spelled⟩

theorem Keeps.pass (h : Keeps offered kept) (known : ∃ k ∈ kept, Respelled k p) :
    Keeps (offered ++ [p]) kept where
  inOrder := h.inOrder.trans (List.sublist_append_left _ _)
  earliest r inside := by
    -- whatever the new path is, it has been offered in another spelling
    obtain ⟨r', inside', spelled⟩ : ∃ r' ∈ offered, Respelled r' r := by
      rcases List.mem_append.1 inside with old | new
      · exact ⟨r, old, .refl r⟩
      · obtain ⟨k, held, spelled⟩ := known
        rw [List.mem_singleton.1 new]
        exact ⟨k, h.inOrder.subset held, spelled⟩
    obtain ⟨before, q, later, split, apart, first, only⟩ := h.earliest r' inside'
    refine ⟨before, q, later ++ [p], by simp [split], ?_, first.trans spelled, ?_⟩
    · intro s earlier alike
      exact apart s earlier (alike.trans spelled.symm)
    · rw [← same_congr spelled, only]

theorem Keeps.take (h : Keeps offered kept) (new : ∀ k ∈ kept, ¬ Respelled k p) :
    Keeps (offered ++ [p]) (kept ++ [p]) where
  inOrder := h.inOrder.append_right [p]
  earliest r inside := by
    have unoffered : ∀ s ∈ offered, ¬ Respelled s p := by
      intro s old alike
      obtain ⟨k, held, spelled⟩ := h.exists_mem old
      exact new k held (spelled.trans alike)
    rw [List.filter_append]
    rcases List.mem_append.1 inside with old | last
    · obtain ⟨before, q, later, split, apart, first, only⟩ := h.earliest r old
      have other : same r p = false := by
        simpa only [← same_iff_respelled, Bool.not_eq_true] using unoffered r old
      exact ⟨before, q, later ++ [p], by simp [split], apart, first, by simp [only, other]⟩
    · obtain rfl := List.mem_singleton.1 last
      have none : kept.filter (same r) = [] := by
        rw [List.filter_eq_nil_iff]
        intro k held alike
        exact new k held (same_iff_respelled.1 alike).symm
      have itself : same r r = true := same_iff_respelled.2 (.refl r)
      exact ⟨offered, r, [], rfl, unoffered, .refl r, by simp [none, itself]⟩

theorem distinct_concat (paths : List String) (p : String) :
    distinct (paths ++ [p]) =
      if (distinct paths).any (same p) then distinct paths else distinct paths ++ [p] := by
  rw [distinct, List.foldl_append]
  rfl

theorem keeps_distinct (paths : List String) : Keeps paths (distinct paths) := by
  induction paths using List.reverseRecOn with
  | nil => exact ⟨.slnil, List.forall_mem_nil _⟩
  | append_singleton paths p ih =>
      rw [distinct_concat]
      split
      · next known =>
          obtain ⟨k, held, alike⟩ := List.any_eq_true.1 known
          exact ih.pass ⟨k, held, (same_iff_respelled.1 alike).symm⟩
      · next new =>
          refine ih.take fun k held alike => new ?_
          exact List.any_eq_true.2 ⟨k, held, same_iff_respelled.2 alike.symm⟩

theorem exists_distinct_append (paths more : List String) :
    ∃ added, distinct (paths ++ more) = distinct paths ++ added := by
  induction more using List.reverseRecOn with
  | nil => exact ⟨[], by simp⟩
  | append_singleton more p ih =>
      obtain ⟨added, split⟩ := ih
      rw [← List.append_assoc, distinct_concat, split]
      split
      · exact ⟨added, rfl⟩
      · exact ⟨added ++ [p], by simp⟩

/-- What is offered first comes before what is offered later in no spelling that came first. -/
theorem exists_in_order {later : List String} {d : String} (inside : p ∈ paths) (behind : d ∈ later)
    (new : ∀ q ∈ paths, ¬ Respelled q d) :
    ∃ p' d', Respelled p' p ∧ Respelled d' d ∧ [p', d'].Sublist (distinct (paths ++ later)) := by
  obtain ⟨p', held, spelled⟩ := (keeps_distinct paths).exists_mem inside
  obtain ⟨d', held', spelled'⟩ :=
    (keeps_distinct (paths ++ later)).exists_mem (List.mem_append_right _ behind)
  obtain ⟨added, split⟩ := exists_distinct_append paths later
  rw [split] at held' ⊢
  have last : d' ∈ added := by
    refine (List.mem_append.1 held').resolve_left fun early => ?_
    exact new d' ((keeps_distinct paths).inOrder.subset early) spelled'
  exact ⟨p', d', spelled, spelled',
    (List.singleton_sublist.2 held).append (List.singleton_sublist.2 last)⟩

end Path

/-- The candidates are the earliest spellings of the paths that are offered, in their order:
the configured ones, then the usual places if these are searched. Paths are told apart by their
components, so that slashes and dots that say nothing make no difference, but a dot in front
does. -/
theorem candidates_are_earliest_spellings (c : TransportConfig) (usual : List String) :
    Path.Keeps (c.libraryPaths ++ if c.searchDefaultPaths then usual else []) (c.candidates usual) ∧
    (c.candidates usual).Pairwise (fun p q => ¬ Path.Respelled p q) ∧
    (c.searchDefaultPaths = true → ∀ p ∈ c.libraryPaths, ∀ d ∈ usual,
      (∀ q ∈ c.libraryPaths, ¬ Path.Respelled q d) →
        ∃ p' d', Path.Respelled p' p ∧ Path.Respelled d' d ∧
          [p', d'].Sublist (c.candidates usual)) ∧
    (∀ p q, Path.Respelled p q ↔ Path.components p = Path.components q) ∧
    ∀ p, Path.Respelled ("./" ++ p) p ↔ p = "." ∨ ∃ rest, p = "./" ++ rest := by
  refine ⟨Path.keeps_distinct _, ?_, ?_, ?_, Path.respelled_dot_iff⟩
  · refine (Path.pairwise_distinct _).imp ?_
    intro p q apart
    rw [← Path.same_iff_respelled, apart]
    exact Bool.false_ne_true
  · intro searched p inside d behind new
    rw [TransportConfig.candidates, if_pos searched]
    exact Path.exists_in_order inside behind new
  · intro p q
    rw [← Path.same_iff_respelled, Path.same, beq_iff_eq]

end ModelDepot
