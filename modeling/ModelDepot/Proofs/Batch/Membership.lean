import ModelDepot.Proofs.Batch.Driving
import ModelDepot.Proofs.Lists
import ModelDepot.Proofs.Reply.Trimming

/-! # Who is in a batch

A batch is planned from names: those given, or those of the recommended models of a listing made for
the batch. Its members are these names trimmed, without blank ones, each where it first stands, so
a batch that is planned from its own members has the same members.
-/

namespace ModelDepot

/-- A way a dialogue may go: the calls it makes, what is replied to each, and what comes of it. -/
inductive Dialogue.Goes {α : Type} : Dialogue α → List (Call × Reply) → α → Prop where
  | done (a : α) : Goes (.done a) [] a
  | call {c : Call} {next : Reply → Dialogue α} {exchanges : List (Call × Reply)} {a : α}
      (reply : Reply) :
      Goes (next reply) exchanges a → Goes (.call c next) ((c, reply) :: exchanges) a

/-- The transport is asked and answers so, one call after the other. -/
inductive Clocked.Answers {τ : Type} [Transport τ] :
    Clocked τ → List (Call × Reply) → Clocked τ → Prop where
  | nothing (s : Clocked τ) : Answers s [] s
  | call {s s' : Clocked τ} {exchanges : List (Call × Reply)} (c : Call) :
      Answers (s.call c).2 exchanges s' → Answers s ((c, (s.call c).1) :: exchanges) s'

theorem Dialogue.exists_goes_over {τ α : Type} [Transport τ] (d : Dialogue α) (s : Clocked τ) :
    ∃ exchanges, d.Goes exchanges (d.over s).1 ∧ s.Answers exchanges (d.over s).2 := by
  induction d generalizing s with
  | done a => exact ⟨[], .done a, .nothing s⟩
  | call c next ih =>
      obtain ⟨exchanges, goes, answers⟩ := ih (s.call c).1 (s.call c).2
      exact ⟨_, .call (s.call c).1 goes, .call c answers⟩

namespace Batch

/-- The names trimmed, without blank ones, each at its first place. -/
def firsts (names : List String) : List String :=
  ((names.map Text.trim).filter fun name => !name.isEmpty).eraseDups

example : firsts [" phi", "", "mini\t", "phi ", " "] = ["phi", "mini"] := by decide +kernel

variable {names members : List String} {name : String}

theorem mem_firsts : name ∈ firsts names ↔ name ≠ "" ∧ ∃ given ∈ names, Text.trim given = name := by
  simp [firsts, and_comm]

theorem firsts_concat (names : List String) (name : String) :
    firsts (names ++ [name]) = addMember (firsts names) name := by
  by_cases blank : Text.trim name = ""
  · simp [addMember, firsts, blank]
  · have kept : (Text.trim name).isEmpty = false := by simpa using blank
    have same : (firsts names).contains (Text.trim name) =
        ((names.map Text.trim).filter fun name => !name.isEmpty).contains (Text.trim name) := by
      rw [Bool.eq_iff_iff, List.contains_iff_mem, List.contains_iff_mem, firsts, List.mem_eraseDups]
    rw [addMember, kept, Bool.false_or, same, firsts, List.map_append, List.filter_append,
      List.map_singleton, List.filter_singleton, kept, Bool.not_false, cond_true, eraseDups_concat,
      firsts]

theorem membersOf_eq_firsts (names : List String) : membersOf names = firsts names := by
  -- The members grow with the names, so the induction takes the last name off.
  induction names using List.reverseRecOn with
  | nil => rfl
  | append_singleton names name ih =>
      rw [firsts_concat, ← ih]
      simp only [membersOf, List.foldl_append, List.foldl_cons, List.foldl_nil]

theorem firsts_eq_self (distinct : members.Nodup) (trimmed : ∀ m ∈ members, Text.trim m = m)
    (filled : ∀ m ∈ members, m ≠ "") : firsts members = members := by
  induction members using List.reverseRecOn with
  | nil => rfl
  | append_singleton members m ih =>
      obtain ⟨apart, -, new⟩ := List.nodup_append.1 distinct
      rw [firsts_concat, ih apart (fun m inside => trimmed m (List.mem_append_left _ inside))
        fun m inside => filled m (List.mem_append_left _ inside)]
      have last : m ∈ members ++ [m] := List.mem_append_right _ (List.mem_singleton_self m)
      have absent : m ∉ members := fun inside => new m inside m (List.mem_singleton_self m) rfl
      simp [addMember, trimmed m last, filled m last, absent]

theorem firsts_firsts (names : List String) : firsts (firsts names) = firsts names := by
  apply firsts_eq_self
  · exact membersOf_eq_firsts names ▸ nodup_membersOf names
  · intro m inside
    obtain ⟨-, given, -, rfl⟩ := mem_firsts.1 inside
    exact Text.trim_trim given
  · intro m inside
    exact (mem_firsts.1 inside).1

theorem firsts_eq_nil_iff : firsts names = [] ↔ ∀ name ∈ names, Text.isBlankText name = true := by
  simp only [List.eq_nil_iff_forall_not_mem, mem_firsts, ← Text.trim_eq_empty_iff]
  grind

/-! ## Plans -/

/-- The names that a selection offers, and what it takes to get them: the recommended models are
those of a listing of its own. -/
inductive Offers : Selection → List (Call × Reply) → Except ClientError (List String) → Prop where
  | names (names : List String) : Offers (.names names) [] (.ok names)
  | recommended (reply : Reply) : Offers .recommended [(.listModels, reply)]
      ((Client.accept Payload.models reply).map fun models =>
        (models.filter (·.recommended)).map (·.name))

/-- The members come from the names, and nothing remains to be done to them. -/
structure Covers (names members : List String) : Prop where
  distinct : members.Nodup
  filled : ∀ m ∈ members, Text.isBlankText m = false
  complete : ∀ name ∈ names, Text.isBlankText name = false → Text.trim name ∈ members
  again : ∀ client, plan client (.names members) = .done (.ok members, client)

/-- What a plan comes to, given the names that it is offered. -/
structure Settles (offer : Except ClientError (List String))
    (result : Except BatchError (List String)) : Prop where
  members : ∀ members, result = .ok members ↔
    ∃ names, offer = .ok names ∧ firsts names = members ∧ members ≠ []
  covers : ∀ names members, offer = .ok names → result = .ok members → Covers names members
  empty : result = .error .empty ↔
    ∃ names, offer = .ok names ∧ ∀ name ∈ names, Text.isBlankText name = true
  listing : ∀ e, result = .error (.listing e) ↔ offer = .error e

theorem settle_of_some (names : List String) (some : firsts names ≠ []) :
    settle names = .ok (firsts names) :=
  settle_eq_ok_iff.2 ⟨(membersOf_eq_firsts names).symm, some⟩

theorem covers_firsts (some : firsts names ≠ []) : Covers names (firsts names) := by
  constructor
  · exact membersOf_eq_firsts names ▸ nodup_membersOf names
  · intro m inside
    obtain ⟨filled, given, -, rfl⟩ := mem_firsts.1 inside
    rw [← Bool.not_eq_true, ← Text.trim_eq_empty_iff, Text.trim_trim]
    exact filled
  · intro name inside filled
    rw [← Bool.not_eq_true, ← Text.trim_eq_empty_iff] at filled
    exact mem_firsts.2 ⟨filled, name, inside, rfl⟩
  · intro client
    have settled := settle_of_some (firsts names) (by rwa [firsts_firsts])
    rw [plan, settled, firsts_firsts]

theorem settles_names (names : List String) : Settles (.ok names) (settle names) := by
  by_cases nothing : firsts names = []
  · have refused : settle names = .error .empty := by
      rw [settle, membersOf_eq_firsts, nothing]
      rfl
    rw [refused]
    constructor
    · simp [nothing, eq_comm]
    · intro names' members _ settled
      cases settled
    · simp [← firsts_eq_nil_iff, nothing]
    · simp
  · rw [settle_of_some names nothing]
    constructor
    · intro members
      simp only [Except.ok.injEq, exists_eq_left']
      constructor
      · rintro rfl
        exact ⟨rfl, nothing⟩
      · exact And.left
    · intro names' members offered settled
      cases offered
      cases settled
      exact covers_firsts nothing
    · simp [← firsts_eq_nil_iff, nothing]
    · simp

theorem settles_choose (listing : Except ClientError (List Model)) :
    Settles (listing.map fun models => (models.filter (·.recommended)).map (·.name))
      (choose listing) := by
  cases listing with
  | ok models => exact settles_names _
  | error e => constructor <;> simp [choose, Except.map]

/-- The members of a batch are the names that its selection offers, trimmed, without blank ones and
each at its first place. Names that are given take no call, recommended ones take one listing; only
its failure and a lack of names keep a batch from being planned. -/
theorem plans_settle_what_is_offered (client : Client) (selection : Selection) :
    (∀ exchanges result client', (plan client selection).Goes exchanges (result, client') →
      ∃ offer, Offers selection exchanges offer ∧ Settles offer result) ∧
    (∀ exchanges offer, Offers selection exchanges offer →
      ∃ result client', (plan client selection).Goes exchanges (result, client')) ∧
    ∀ (τ : Type) [Transport τ] (s : Clocked τ),
      ∃ exchanges, (plan client selection).Goes exchanges ((plan client selection).over s).1 ∧
        s.Answers exchanges ((plan client selection).over s).2 := by
  refine ⟨?_, ?_, fun τ _ s => Dialogue.exists_goes_over _ s⟩
  · intro exchanges result client' goes
    cases selection with
    | names names =>
        cases goes with
        | done => exact ⟨_, .names names, settles_names names⟩
    | recommended =>
        cases goes with
        | call reply goes =>
            cases goes with
            | done => exact ⟨_, .recommended reply, settles_choose _⟩
  · intro exchanges offer offers
    cases offers with
    | names names => exact ⟨_, _, .done _⟩
    | recommended reply => exact ⟨_, _, .call reply (.done _)⟩

end Batch

end ModelDepot
