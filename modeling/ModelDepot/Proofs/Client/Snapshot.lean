import Mathlib.Data.List.Induction
import ModelDepot.Proofs.Batch.Driving
import ModelDepot.Proofs.Client.Errand

/-! # What a client remembers

Errands for one client overlap: they are asked at any time, their replies come in any order, and
what is made of a reply has its turn whenever it likes. Whatever the order, the client keeps the
whole of the listing that succeeded last, and a batch has its members from the listing that was
made for it.
-/

namespace ModelDepot

inductive Stand where
  | called
  | replied (reply : Reply)
  /-- The first half is done. -/
  | halfway (finish : Client → Answer)
  | answered (answer : Answer)

structure Asked where
  errand : Errand
  stand : Stand

/-- One turn; `i` is the place of an errand in the order of asking. -/
inductive Turn where
  | ask (e : Errand)
  | reply (i : Nat) (reply : Reply)
  /-- The first half of the errand ends with what the reply makes of the client. -/
  | hear (i : Nat)
  /-- The second half, with the client as it is. -/
  | finish (i : Nat)
  /-- Names of downloads are claimed or given back. -/
  | hold (active : ActiveDownloads)

def Turn.call? : Turn → Option Call
  | .ask e => e.call?
  | _ => none

/-- What a dialogue of one call comes to, given the reply. -/
def Dialogue.given? {α : Type} (d : Dialogue α) (reply : Reply) : Option α :=
  match d with
  | .call _ next =>
    match next reply with
    | .done a => some a
    | .call _ _ => none
  | .done _ => none

/-- A client, what it has been asked, and the calls that have gone out. -/
structure Usage where
  client : Client
  tasks : List Asked
  calls : List Call

namespace Usage

def fresh : Usage :=
  ⟨.fresh, [], []⟩

def put (u : Usage) (i : Nat) (e : Errand) (stand : Stand) : Usage :=
  { u with tasks := u.tasks.set i ⟨e, stand⟩ }

def after (u : Usage) : Turn → Usage
  | .ask e =>
    match e.request u.client with
    | .done (finish, client) => { u with client, tasks := u.tasks ++ [⟨e, .halfway finish⟩] }
    | .call c _ => { u with tasks := u.tasks ++ [⟨e, .called⟩], calls := u.calls ++ [c] }
  | .reply i reply =>
    match u.tasks[i]? with
    | some ⟨e, .called⟩ => u.put i e (.replied reply)
    | _ => u
  | .hear i =>
    match u.tasks[i]? with
    | some ⟨e, .replied reply⟩ =>
      match (e.request u.client).given? reply with
      | some (finish, client) => { u.put i e (.halfway finish) with client }
      | none => u
    | _ => u
  | .finish i =>
    match u.tasks[i]? with
    | some ⟨e, .halfway finish⟩ => u.put i e (.answered (finish u.client))
    | _ => u
  | .hold active => { u with client := { u.client with active } }

def afterAll (u : Usage) (turns : List Turn) : Usage :=
  turns.foldl after u

def kept? (u : Usage) : Turn → Option (List Model)
  | .hear i =>
    match u.tasks[i]? with
    | some ⟨e, .replied reply⟩ =>
      if e.lists then (Client.accept Payload.models reply).toOption else none
    | _ => none
  | _ => none

def listings (u : Usage) : List Turn → List (List Model)
  | [] => []
  | t :: turns => (u.kept? t).toList ++ (u.after t).listings turns

/-! ## One turn -/

inductive Turns (u : Usage) : Turn → Usage → Prop where
  | idle {t} : u.kept? t = none → t.call? = none → Turns u t u
  | look {e finish} : e.call? = none → (∀ client, e.Looks client (finish client)) →
      Turns u (.ask e) { u with tasks := u.tasks ++ [⟨e, .halfway finish⟩] }
  | call {e c} : e.call? = some c →
      Turns u (.ask e) { u with tasks := u.tasks ++ [⟨e, .called⟩], calls := u.calls ++ [c] }
  | reply {i e reply} : u.tasks[i]? = some ⟨e, .called⟩ →
      Turns u (.reply i reply) (u.put i e (.replied reply))
  | hear {i e reply answer} : u.tasks[i]? = some ⟨e, .replied reply⟩ → e.Answers reply answer →
      Turns u (.hear i)
        { u.put i e (.halfway fun _ => answer) with client := e.keep reply u.client }
  | finish {i e finish} : u.tasks[i]? = some ⟨e, .halfway finish⟩ →
      Turns u (.finish i) (u.put i e (.answered (finish u.client)))
  | hold {active} : Turns u (.hold active) { u with client := { u.client with active } }

variable {u : Usage} {t : Turn} {turns : List Turn} {i : Nat} {e : Errand}

theorem turns_after (u : Usage) (t : Turn) : u.Turns t (u.after t) := by
  cases t with
  | ask e =>
      cases e.begins with
      | @looks finish silent _ request looks =>
          simp only [after, request]
          exact .look silent looks
      | calls calls request _ =>
          simp only [after, request]
          exact .call calls
  | reply i reply =>
      simp only [after]
      split
      · next e called => exact .reply called
      · exact .idle rfl rfl
  | hear i =>
      simp only [after]
      split
      · next e reply replied =>
          cases e.begins with
          | looks _ lists request _ =>
              simp only [request, Dialogue.given?]
              exact .idle (by simp [kept?, replied, lists]) rfl
          | calls _ request answers =>
              simp only [request, Dialogue.given?]
              exact .hear replied (answers reply)
      · next other =>
          refine .idle ?_ rfl
          simp only [kept?]
  | finish i =>
      simp only [after]
      split
      · next e finish halfway => exact .finish halfway
      · exact .idle rfl rfl
  | hold active => exact .hold

theorem kept?_eq_some_iff {models : List Model} :
    u.kept? t = some models ↔ ∃ i e reply, t = .hear i ∧
      u.tasks[i]? = some ⟨e, .replied reply⟩ ∧ e.lists = true ∧
      Client.accept Payload.models reply = .ok models := by
  constructor
  · intro kept
    cases t with
    | hear i =>
        simp only [kept?] at kept
        split at kept
        · next e reply replied =>
            split at kept
            · next lists =>
                refine ⟨i, e, reply, rfl, replied, lists, ?_⟩
                cases listing : Client.accept Payload.models reply <;>
                  simp_all [Except.toOption]
            · cases kept
        · cases kept
    | _ => cases kept
  · rintro ⟨i, e, reply, rfl, replied, lists, listing⟩
    simp [kept?, replied, lists, listing, Except.toOption]

theorem snapshot_after (u : Usage) (t : Turn) :
    (u.after t).client.snapshot = (u.kept? t).getD u.client.snapshot := by
  have turn := u.turns_after t
  generalize u.after t = u' at turn
  cases turn with
  | idle kept => rw [kept, Option.getD_none]
  | @hear i e reply _ replied _ =>
      simp only [kept?, replied, Errand.keep]
      split
      · cases Client.accept Payload.models reply <;> rfl
      · rfl
  | _ => rfl

theorem calls_after (u : Usage) (t : Turn) :
    (u.after t).calls = u.calls ++ t.call?.toList := by
  have turn := u.turns_after t
  generalize u.after t = u' at turn
  cases turn with
  | idle _ silent => rw [silent, Option.toList_none, List.append_nil]
  | look silent => simp [Turn.call?, silent]
  | call calls => simp [Turn.call?, calls]
  | _ => exact (List.append_nil _).symm

/-! ## All turns -/

theorem afterAll_append (u : Usage) (turns more : List Turn) :
    u.afterAll (turns ++ more) = (u.afterAll turns).afterAll more :=
  List.foldl_append

theorem afterAll_concat (u : Usage) (turns : List Turn) (t : Turn) :
    u.afterAll (turns ++ [t]) = (u.afterAll turns).after t :=
  List.foldl_append

theorem snapshot_afterAll (u : Usage) (turns : List Turn) :
    (u.afterAll turns).client.snapshot = (u.listings turns).getLast?.getD u.client.snapshot := by
  induction turns generalizing u with
  | nil => rfl
  | cons t turns ih =>
      have later := ih (u.after t)
      rw [snapshot_after] at later
      rw [listings, List.getLast?_append, Option.getD_or]
      refine later.trans ?_
      cases u.kept? t <;> rfl

theorem calls_afterAll (u : Usage) (turns : List Turn) :
    (u.afterAll turns).calls = u.calls ++ turns.filterMap Turn.call? := by
  induction turns generalizing u with
  | nil => exact (List.append_nil _).symm
  | cons t turns ih =>
      refine (ih (u.after t)).trans ?_
      rw [calls_after, List.filterMap_cons, List.append_assoc]
      cases t.call? <;> rfl

theorem listings_append (u : Usage) (turns more : List Turn) :
    u.listings (turns ++ more) = u.listings turns ++ (u.afterAll turns).listings more := by
  induction turns generalizing u with
  | nil => rfl
  | cons t turns ih =>
      simp only [List.cons_append, listings, ih, List.append_assoc]
      rfl

theorem mem_listings_iff {models : List Model} :
    models ∈ u.listings turns ↔ ∃ before t later, turns = before ++ t :: later ∧
      (u.afterAll before).kept? t = some models := by
  constructor
  · intro kept
    induction turns generalizing u with
    | nil => cases kept
    | cons t turns ih =>
        rcases List.mem_append.1 kept with now | later
        · exact ⟨[], t, turns, rfl, Option.mem_toList.1 now⟩
        · obtain ⟨before, t', rest, rfl, now⟩ := ih later
          exact ⟨t :: before, t', rest, rfl, now⟩
  · rintro ⟨before, t, later, rfl, now⟩
    rw [listings_append, listings, now]
    simp

/-! ## Where answers come from -/

/-- The reply to the call of the errand in place `i` has come. -/
def Received (turns : List Turn) (i : Nat) (e : Errand) (reply : Reply) : Prop :=
  ∃ before later, turns = before ++ .reply i reply :: later ∧
    (fresh.afterAll before).tasks[i]? = some ⟨e, .called⟩

/-- The reply to the call of the errand in place `i` has come, and later the errand has made of it
what it makes of the client. -/
def Heard (turns : List Turn) (i : Nat) (e : Errand) (reply : Reply) : Prop :=
  ∃ before later, turns = before ++ .hear i :: later ∧ Received before i e reply ∧
    (fresh.afterAll before).tasks[i]? = some ⟨e, .replied reply⟩

/-- The errand in place `i` has looked at what the client kept at its last turn. -/
def Looked (turns : List Turn) (i : Nat) (e : Errand) (answer : Answer) : Prop :=
  ∃ before later, turns = before ++ .finish i :: later ∧
    e.Looks (fresh.afterAll before).client answer

inductive Origin (turns : List Turn) (i : Nat) (e : Errand) : Stand → Prop where
  | called : Origin turns i e .called
  | replied {reply} : Received turns i e reply → Origin turns i e (.replied reply)
  | looking {finish} : (∀ client, e.Looks client (finish client)) →
      Origin turns i e (.halfway finish)
  | heard {reply answer} : Heard turns i e reply → e.Answers reply answer →
      Origin turns i e (.halfway fun _ => answer)
  | looked {answer} : Looked turns i e answer → Origin turns i e (.answered answer)
  | answered {reply answer} : Heard turns i e reply → e.Answers reply answer →
      Origin turns i e (.answered answer)

theorem Received.append {reply : Reply} (h : Received turns i e reply) (more : List Turn) :
    Received (turns ++ more) i e reply := by
  obtain ⟨before, later, rfl, called⟩ := h
  exact ⟨before, later ++ more, by simp, called⟩

theorem Heard.append {reply : Reply} (h : Heard turns i e reply) (more : List Turn) :
    Heard (turns ++ more) i e reply := by
  obtain ⟨before, later, rfl, received, replied⟩ := h
  exact ⟨before, later ++ more, by simp, received, replied⟩

theorem Looked.append {answer : Answer} (h : Looked turns i e answer) (more : List Turn) :
    Looked (turns ++ more) i e answer := by
  obtain ⟨before, later, rfl, looks⟩ := h
  exact ⟨before, later ++ more, by simp, looks⟩

theorem Origin.append {stand : Stand} (h : Origin turns i e stand) (more : List Turn) :
    Origin (turns ++ more) i e stand := by
  cases h with
  | called => exact .called
  | replied received => exact .replied (received.append more)
  | looking looks => exact .looking looks
  | heard heard answers => exact .heard (heard.append more) answers
  | looked looked => exact .looked (looked.append more)
  | answered heard answers => exact .answered (heard.append more) answers

theorem getElem?_put {j : Nat} {e' : Errand} {stand stand' : Stand}
    (h : (u.put j e stand).tasks[i]? = some ⟨e', stand'⟩) :
    u.tasks[i]? = some ⟨e', stand'⟩ ∨ i = j ∧ e' = e ∧ stand' = stand := by
  by_cases here : j = i
  · subst here
    rw [put, List.getElem?_set_self'] at h
    cases old : u.tasks[j]? with
    | none => simp [old] at h
    | some task =>
        rw [old] at h
        cases h
        exact .inr ⟨rfl, rfl, rfl⟩
  · rw [put, List.getElem?_set_ne here] at h
    exact .inl h

theorem getElem?_concat {tasks : List Asked} {task : Asked} {stand : Stand}
    (h : (tasks ++ [task])[i]? = some ⟨e, stand⟩) :
    tasks[i]? = some ⟨e, stand⟩ ∨ task = ⟨e, stand⟩ := by
  rw [List.getElem?_append] at h
  split at h
  · exact .inl h
  · exact .inr (List.mem_singleton.1 (List.mem_of_getElem? h)).symm

theorem origin (turns : List Turn) :
    ∀ {i e stand}, (fresh.afterAll turns).tasks[i]? = some ⟨e, stand⟩ →
      Origin turns i e stand := by
  induction turns using List.reverseRecOn with
  | nil =>
      intro i e stand h
      cases h
  | append_singleton turns t ih =>
      intro i e stand h
      rw [afterAll_concat] at h
      have turn := turns_after (fresh.afterAll turns) t
      generalize (fresh.afterAll turns).after t = u' at turn h
      -- the turn has brought the errand in place `i` to its stand, or it stood so before
      cases turn with
      | idle | hold => exact (ih h).append _
      | look silent looks =>
          rcases getElem?_concat h with old | new
          · exact (ih old).append _
          · cases new
            exact .looking looks
      | call calls =>
          rcases getElem?_concat h with old | new
          · exact (ih old).append _
          · cases new
            exact .called
      | reply called =>
          rcases getElem?_put h with old | ⟨rfl, rfl, rfl⟩
          · exact (ih old).append _
          · exact .replied ⟨turns, [], rfl, called⟩
      | hear replied answers =>
          rcases getElem?_put h with old | ⟨rfl, rfl, rfl⟩
          · exact (ih old).append _
          · cases ih replied with
            | replied received => exact .heard ⟨turns, [], rfl, received, replied⟩ answers
      | finish halfway =>
          rcases getElem?_put h with old | ⟨rfl, rfl, rfl⟩
          · exact (ih old).append _
          · cases ih halfway with
            | looking looks => exact .looked ⟨turns, [], rfl, looks _⟩
            | heard heard answers => exact .answered (heard.append _) answers

/-! ## Nobody else -/

section Undisturbed

variable {τ : Type} [Transport τ]

def turnsOf (e : Errand) (i : Nat) (s : Clocked τ) : List Turn :=
  match e.call? with
  | none => [.ask e, .finish i]
  | some c => [.ask e, .reply i (s.call c).1, .hear i, .finish i]

/-- An errand that is not disturbed comes to what its dialogue comes to. -/
theorem afterAll_turnsOf (u : Usage) (e : Errand) (s : Clocked τ) :
    u.afterAll (turnsOf e u.tasks.length s) =
      ⟨((e.dialogue u.client).over s).1.2,
        u.tasks ++ [⟨e, .answered ((e.dialogue u.client).over s).1.1⟩],
        u.calls ++ e.call?.toList⟩ := by
  rw [Errand.dialogue_eq]
  cases e.begins with
  | @looks finish silent _ request _ =>
      have asked : u.after (.ask e) = ⟨u.client, u.tasks ++ [⟨e, .halfway finish⟩], u.calls⟩ := by
        simp only [after, request]
      rw [turnsOf, silent, request, afterAll, List.foldl_cons, asked]
      simp [after, put, Dialogue.over, bind, Dialogue.andThen, pure]
  | @calls c answer calls request _ =>
      have asked : u.after (.ask e) =
          ⟨u.client, u.tasks ++ [⟨e, .called⟩], u.calls ++ [c]⟩ := by
        simp only [after, request]
      rw [turnsOf, calls, request, afterAll, List.foldl_cons, asked]
      simp [after, put, request, Dialogue.given?, Dialogue.over, bind, Dialogue.andThen, pure]

end Undisturbed

/-- What a client remembers and answers, given all turns of its errands. -/
structure Remembers (turns : List Turn) : Prop where
  /-- The client keeps the last of the listings, and nothing before the first. -/
  last : (fresh.afterAll turns).client.snapshot = (fresh.listings turns).getLast?.getD []
  /-- The listings are those that succeeded, each the whole of what one errand read from the reply
  to its own call. -/
  whole : ∀ models, models ∈ fresh.listings turns ↔ ∃ i e reply,
    e.lists = true ∧ Heard turns i e reply ∧ Client.accept Payload.models reply = .ok models
  /-- A turn that changes what is kept reads a listing that has succeeded. -/
  changed : ∀ before t later, turns = before ++ t :: later →
    (fresh.afterAll (before ++ [t])).client.snapshot ≠ (fresh.afterAll before).client.snapshot →
    ∃ i e reply, t = .hear i ∧
      (fresh.afterAll before).tasks[i]? = some ⟨e, .replied reply⟩ ∧ e.lists = true ∧
      Client.accept Payload.models reply =
        .ok (fresh.afterAll (before ++ [t])).client.snapshot
  /-- An errand makes its one call when it is asked, and a view makes none. -/
  calls : (fresh.afterAll turns).calls = turns.filterMap Turn.call?
  /-- An answer is what the client kept at the last turn of the errand, if it makes no call, and
  comes of the reply to its own call otherwise. -/
  answered : ∀ i e answer, (fresh.afterAll turns).tasks[i]? = some ⟨e, .answered answer⟩ →
    Looked turns i e answer ∨ ∃ reply, Heard turns i e reply ∧ e.Answers reply answer
  /-- The members of a batch of recommended models are the recommended models of one listing, the
  one that was made for it. -/
  planned : ∀ i members, (fresh.afterAll turns).tasks[i]? =
      some ⟨.plan .recommended, .answered (.members (.ok members))⟩ →
    ∃ reply models, Heard turns i (.plan .recommended) reply ∧
      Client.accept Payload.models reply = .ok models ∧ members.Nodup ∧
      ∀ name, name ∈ members ↔
        name ≠ "" ∧ ∃ m ∈ models, m.recommended = true ∧ Text.trim m.name = name
  /-- One more errand, if nobody disturbs it, comes to what its dialogue comes to. -/
  undisturbed : ∀ {τ : Type} [Transport τ] (s : Clocked τ) (e : Errand),
    (fresh.afterAll (turns ++ turnsOf e (fresh.afterAll turns).tasks.length s)).client =
        ((e.dialogue (fresh.afterAll turns).client).over s).1.2 ∧
      (fresh.afterAll (turns ++ turnsOf e (fresh.afterAll turns).tasks.length s)).tasks =
        (fresh.afterAll turns).tasks ++
          [⟨e, .answered ((e.dialogue (fresh.afterAll turns).client).over s).1.1⟩]

end Usage

/-- However errands for a client overlap, it keeps the whole of the last listing that succeeded,
and every errand answers from its own reply. -/
theorem remembers_last_listing (turns : List Turn) : Usage.Remembers turns :=
  { last := Usage.snapshot_afterAll .fresh turns
    whole := by
      intro models
      rw [Usage.mem_listings_iff]
      constructor
      · rintro ⟨before, t, later, rfl, now⟩
        obtain ⟨i, e, reply, rfl, replied, lists, listing⟩ := Usage.kept?_eq_some_iff.1 now
        cases Usage.origin before replied with
        | replied received =>
            exact ⟨i, e, reply, lists, ⟨before, later, rfl, received, replied⟩, listing⟩
      · rintro ⟨i, e, reply, lists, ⟨before, later, rfl, -, replied⟩, listing⟩
        exact ⟨before, .hear i, later, rfl,
          Usage.kept?_eq_some_iff.2 ⟨i, e, reply, rfl, replied, lists, listing⟩⟩
    changed := by
      rintro before t later rfl changed
      rw [Usage.afterAll_concat, Usage.snapshot_after] at changed ⊢
      cases kept : (Usage.fresh.afterAll before).kept? t with
      | none => simp [kept] at changed
      | some models => simpa using Usage.kept?_eq_some_iff.1 kept
    calls := Usage.calls_afterAll .fresh turns
    answered := by
      intro i e answer stands
      cases Usage.origin turns stands with
      | looked looked => exact .inl looked
      | answered heard answers => exact .inr ⟨_, heard, answers⟩
    planned := by
      intro i members stands
      cases Usage.origin turns stands with
      | looked looked =>
          obtain ⟨_, _, _, looks⟩ := looked
          cases looks
      | @answered reply _ heard answers =>
          generalize made : Answer.members (.ok members) = answer at answers
          cases answers with
          | plan =>
              obtain ⟨models, listing, members⟩ :=
                Batch.mem_of_choose (Answer.members.inj made).symm
              exact ⟨reply, models, heard, listing, members⟩
    undisturbed := by
      intro τ _ s e
      rw [Usage.afterAll_append, Usage.afterAll_turnsOf]
      exact ⟨rfl, rfl⟩ }

end ModelDepot
