import ModelDepot.Proofs.Transport.Serving

/-! # Status replies from a script

The status calls for a model use up its script, one reply a call in the order in which they are
answered, and the last reply repeats. Whatever else happens at the backend leaves the script alone.
-/

namespace ModelDepot

def StatusScript.used (script : List Reply) (asked : Nat) : StatusScript :=
  ⟨script.drop asked, (script.take asked).getLast?⟩

theorem StatusScript.next_used {script : List Reply} (nonempty : script ≠ []) (asked : Nat) :
    (used script asked).next =
      (script[min asked (script.length - 1)]?, used script (asked + 1)) := by
  have long : 0 < script.length := List.length_pos_iff.2 nonempty
  by_cases inside : asked < script.length
  · have last : (script.take (asked + 1)).getLast? = some script[asked] := by
      rw [List.take_succ_eq_append_getElem inside, List.getLast?_concat]
    rw [Nat.min_eq_left (by omega), List.getElem?_eq_getElem inside]
    simp only [used, next, List.drop_eq_getElem_cons inside, last]
  · have spent : script.length ≤ asked := Nat.le_of_not_lt inside
    have more : script.length ≤ asked + 1 := Nat.le_succ_of_le spent
    rw [Nat.min_eq_right (by omega), ← List.getLast?_eq_getElem?]
    simp only [used, next, List.drop_of_length_le spent, List.take_of_length_le spent,
      List.drop_of_length_le more, List.take_of_length_le more]

namespace InMemory

variable {b : InMemory} {model : String} {script : List Reply} {asked : Nat}

/-- A status call is answered from the script and uses up one reply. -/
theorem answer_of_used (nonempty : script ≠ [])
    (left : b.scripts.get? model = some (.used script asked)) :
    some (b.answer (.downloadStatus model)).1 = script[min asked (script.length - 1)]? ∧
      (b.answer (.downloadStatus model)).2.scripts.get? model =
        some (.used script (asked + 1)) := by
  have next := StatusScript.next_used nonempty asked
  have inside : min asked (script.length - 1) < script.length := by
    have := List.length_pos_iff.2 nonempty
    omega
  rw [List.getElem?_eq_getElem inside] at next ⊢
  simp only [answer, nextStatus, left, next, Keyed.get?_set_self, and_self]

/-- What is left of a script after any turns is told by the status calls answered in them. -/
theorem scripts_after_of_used (nonempty : script ≠ [])
    (left : b.scripts.get? model = some (.used script asked)) (turns : List Turn) :
    (b.after turns).scripts.get? model =
      some (.used script (asked + turns.count (.answered (.downloadStatus model)))) := by
  induction turns generalizing b asked with
  | nil => exact left
  | cons turn turns ih =>
      by_cases status : turn = .answered (.downloadStatus model)
      · subst status
        rw [after_cons, take, ih (answer_of_used nonempty left).2, List.count_cons_self,
          Nat.add_right_comm, Nat.add_assoc]
      · have same : (b.take turn).scripts.get? model = some (.used script asked) := by
          rw [scripts_take_of_ne status, left]
        rw [after_cons, ih same, List.count_cons_of_ne status]

theorem repliesTo_of_used (nonempty : script ≠ [])
    (left : b.scripts.get? model = some (.used script asked)) (turns : List Turn) :
    (b.repliesTo (.downloadStatus model) turns).length =
        turns.count (.answered (.downloadStatus model)) ∧
      ∀ k < turns.count (.answered (.downloadStatus model)),
        (b.repliesTo (.downloadStatus model) turns)[k]? =
          script[min (asked + k) (script.length - 1)]? := by
  induction turns generalizing b asked with
  | nil => exact ⟨rfl, fun k none => absurd none (Nat.not_lt_zero k)⟩
  | cons turn turns ih =>
      by_cases status : turn = .answered (.downloadStatus model)
      · subst status
        obtain ⟨reply, fewer⟩ := answer_of_used nonempty left
        obtain ⟨length, rest⟩ := ih fewer
        rw [repliesTo_answered_self, List.count_cons_self]
        refine ⟨congrArg (· + 1) length, fun k hk => ?_⟩
        cases k with
        | zero => exact reply
        | succ k =>
            rw [List.getElem?_cons_succ, rest k (Nat.lt_of_succ_lt_succ hk), Nat.add_right_comm,
              Nat.add_assoc]
      · have same : (b.take turn).scripts.get? model = some (.used script asked) := by
          rw [scripts_take_of_ne status, left]
        rw [repliesTo_cons_of_ne status, List.count_cons_of_ne status]
        exact ih same

/-- A backend that answers the status calls for a model from a script, whatever else happens. -/
structure Plays (b : InMemory) (model : String) (script : List Reply) (turns : List Turn) :
    Prop where
  /-- Every status call for the model that is answered has a reply. -/
  length : (b.repliesTo (.downloadStatus model) turns).length =
    turns.count (.answered (.downloadStatus model))
  /-- The replies are those of the script, in order, and the last one repeats. -/
  replies : ∀ k < turns.count (.answered (.downloadStatus model)),
    (b.repliesTo (.downloadStatus model) turns)[k]? = script[min k (script.length - 1)]?
  /-- Nothing but an answer to such a call changes what is left of the script. -/
  kept : ∀ before turn later, turns = before ++ turn :: later →
    turn ≠ .answered (.downloadStatus model) →
    ((b.after before).take turn).scripts.get? model = (b.after before).scripts.get? model
  /-- What is left are the replies not given yet. -/
  left : ∃ last, (b.after turns).scripts.get? model =
    some ⟨script.drop (turns.count (.answered (.downloadStatus model))), last⟩
  /-- The calls noted are all that came in, in that order. -/
  calls : (b.after turns).calls = turns.filterMap Turn.received?
  /-- The status calls for the model are counted as they come in. -/
  statusCalls : (b.after turns).statusCalls model = turns.count (.received (.downloadStatus model))

/-- At a new backend a script is played from its first reply, and every call is noted. -/
theorem script_is_played (given : b.scripts.get? model = some ⟨script, none⟩)
    (nonempty : script ≠ []) (new : b.calls = []) (turns : List Turn) :
    b.Plays model script turns := by
  have unused : b.scripts.get? model = some (.used script 0) := by
    rw [given, StatusScript.used, List.drop_zero, List.take_zero, List.getLast?_nil]
  obtain ⟨length, replies⟩ := repliesTo_of_used nonempty unused turns
  have left := scripts_after_of_used nonempty unused turns
  have calls := calls_after b turns
  rw [new, List.nil_append] at calls
  rw [Nat.zero_add] at left
  refine ⟨length, fun k hk => ?_, fun _ _ _ _ other => scripts_take_of_ne other, ⟨_, left⟩, calls,
    ?_⟩
  · rw [replies k hk, Nat.zero_add]
  · rw [statusCalls_eq_count, calls, count_received]

/-- Two replies for three calls that overlap with a removal and with a call for another model. -/
theorem script_is_played_for_phi :
    let b : InMemory := { InMemory.empty with
      scripts := [("phi", ⟨[.ok "first", .ok "second"], none⟩)] }
    let status : Call := .downloadStatus "phi"
    let turns : List Turn := [.received status, .received (.removeModel "phi"),
      .received status, .answered (.removeModel "phi"), .answered status,
      .received (.downloadStatus "llava"), .answered status, .received status,
      .answered (.downloadStatus "llava"), .answered status]
    b.scripts.get? "phi" = some ⟨[.ok "first", .ok "second"], none⟩ ∧ b.calls = [] ∧
      b.Plays "phi" [.ok "first", .ok "second"] turns ∧
      (b.repliesTo status turns)[2]? = some (.ok "second") := by
  intro b status turns
  have given : b.scripts.get? "phi" = some ⟨[.ok "first", .ok "second"], none⟩ := rfl
  have plays := script_is_played given nofun rfl turns
  exact ⟨given, rfl, plays, plays.replies 2 (by decide)⟩

end InMemory

end ModelDepot
