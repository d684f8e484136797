import ModelDepot.Json.Writer
import ModelDepot.Proofs.Json.Numerals
import ModelDepot.Proofs.Reply.Members

/-! # Written values are read back

What the writer writes, the reader reads: a value comes back from its text as it was, with every
character of its strings, if its numbers do, its objects are in the order of their keys and it is
not too deep.
-/

namespace ModelDepot.Json

inductive Number.ReadsBack (n : Number) : Prop where
  | unsigned : readNumber false n.text.toList = .ok (n, []) → ReadsBack n
  | negative {digits} : n.text.toList = '-' :: digits → readNumber true digits = .ok (n, []) →
      ReadsBack n

/-- A value of at most so many levels that its text gives back. -/
inductive Legible : Nat → Json → Prop where
  | null {depth} : Legible depth .null
  | bool {depth} (b : Bool) : Legible depth (.bool b)
  | number {depth} {n : Number} : n.ReadsBack → Legible depth (.number n)
  | string {depth} (s : String) : Legible depth (.string s)
  | array {depth} {items : List Json} : (∀ item ∈ items, Legible depth item) →
      Legible (depth + 1) (.array items)
  | object {depth} {members : List (String × Json)} : (∀ m ∈ members, Legible depth m.2) →
      (keys members).Pairwise (· < ·) → Legible (depth + 1) (.object members)

variable {fuel depth : Nat} {rest cs : List Char}

theorem exists_fuel {n : Nat} (enough : n < fuel) : ∃ left, fuel = left + 1 :=
  Nat.exists_eq_add_one_of_ne_zero (Nat.ne_of_gt (Nat.zero_lt_of_lt enough))

/-! ## Strings -/

theorem hexDigit?_digitChar {n : Nat} (h : n < 16) : hexDigit? (Nat.digitChar n) = some n := by
  have all : ∀ n < 16, hexDigit? (Nat.digitChar n) = some n := by decide
  exact all n h

theorem readEscape_code {c : Char} (h : c.toNat < 0x20) (rest : List Char) :
    readEscape ('u' :: '0' :: '0' :: Nat.digitChar (c.toNat / 16) ::
      Nat.digitChar (c.toNat % 16) :: rest) = .ok (c, rest) := by
  have code : readHex ('0' :: '0' :: Nat.digitChar (c.toNat / 16) ::
      Nat.digitChar (c.toNat % 16) :: rest) = .ok (c.toNat, rest) := by
    have zero : hexDigit? '0' = some 0 := rfl
    have whole : ((0 * 16 + 0) * 16 + c.toNat / 16) * 16 + c.toNat % 16 = c.toNat := by omega
    simp only [readHex, zero, hexDigit?_digitChar (show c.toNat / 16 < 16 by omega),
      hexDigit?_digitChar (show c.toNat % 16 < 16 by omega), whole]
  have trailing : isTrailing c.toNat = false := by
    simp only [isTrailing]
    grind
  have leading : isLeading c.toNat = false := by
    simp only [isLeading]
    grind
  simp [readEscape, readCode, code, bind, Except.bind, trailing, leading, Char.ofNat_toNat]

theorem readStringChars_escapeChar (c : Char) (acc rest : List Char) :
    readStringChars (fuel + 1) acc (escapeChar c ++ rest) =
      readStringChars fuel (c :: acc) rest := by
  unfold escapeChar
  split
  case h_8 quote backslash _ _ _ _ _ =>
    split
    · next control =>
        simp only [List.cons_append, List.nil_append, readStringChars, readEscape_code control]
        simp
    · next plain =>
        simp only [List.cons_append, List.nil_append, readStringChars]
        rw [if_neg quote, if_neg backslash, if_neg plain]
  all_goals rfl

theorem readStringChars_flatMap {s : List Char} (enough : s.length < fuel) (acc rest : List Char) :
    readStringChars fuel acc (s.flatMap escapeChar ++ '"' :: rest) =
      .ok (acc.reverse ++ s, rest) := by
  induction s generalizing fuel acc with
  | nil =>
      obtain ⟨fuel, rfl⟩ := exists_fuel enough
      simp [readStringChars]
  | cons c s ih =>
      obtain ⟨fuel, rfl⟩ := exists_fuel enough
      rw [List.flatMap_cons, List.append_assoc, readStringChars_escapeChar,
        ih (Nat.lt_of_succ_lt_succ enough), List.reverse_cons, List.append_assoc,
        List.singleton_append]

theorem length_le_escaped (s : List Char) : s.length ≤ (s.flatMap escapeChar).length := by
  induction s with
  | nil => exact Nat.le_refl _
  | cons c s ih =>
      have some : 0 < (escapeChar c).length := by
        unfold escapeChar
        split
        case h_8 => split <;> exact Nat.zero_lt_succ _
        all_goals exact Nat.zero_lt_succ _
      rw [List.flatMap_cons, List.length_append, List.length_cons]
      omega

theorem readString_stringChars {s : String} (enough : (stringChars s).length ≤ fuel + 1)
    (rest : List Char) :
    ∃ cs, stringChars s ++ rest = '"' :: cs ∧ readString fuel cs = .ok (s, rest) := by
  have few := length_le_escaped s.toList
  refine ⟨s.toList.flatMap escapeChar ++ '"' :: rest, by simp [stringChars], ?_⟩
  have enough' : s.toList.length < fuel := by
    rw [stringChars, List.length_append, List.length_cons, List.length_singleton] at enough
    omega
  rw [readString, readStringChars_flatMap enough']
  simp

/-! ## Items and members -/

theorem skipBlanks_cons {c : Char} (h : isBlank c = false) (cs : List Char) :
    skipBlanks (c :: cs) = c :: cs := by
  simp [skipBlanks, h]

theorem skipBlanks_skipBlanks (cs : List Char) : skipBlanks (skipBlanks cs) = skipBlanks cs := by
  induction cs with
  | nil => rfl
  | cons c cs ih =>
      cases hc : isBlank c with
      | false => rw [skipBlanks_cons hc, skipBlanks_cons hc]
      | true => simpa [skipBlanks, hc] using ih

theorem readValue_skipBlanks (fuel depth : Nat) (cs : List Char) :
    readValue fuel depth (skipBlanks cs) = readValue fuel depth cs := by
  cases fuel with
  | zero => rfl
  | succ fuel => rw [readValue, readValue, skipBlanks_skipBlanks]

section Parts

variable {v : Json} {key : String} {left : List Char}

theorem exists_head (h : readValue fuel depth cs = .ok (v, left)) :
    ∃ c later, skipBlanks cs = c :: later ∧ c ≠ ']' ∧
      readValue fuel depth (c :: later) = .ok (v, left) := by
  rw [← readValue_skipBlanks] at h
  cases fuel with
  | zero => cases h
  | succ fuel =>
      cases hs : skipBlanks cs with
      | nil =>
          rw [hs] at h
          cases h
      | cons c later =>
          refine ⟨c, later, rfl, ?_, hs ▸ h⟩
          rintro rfl
          rw [hs] at h
          cases h

theorem readItems_first (h : readValue fuel depth cs = .ok (v, left)) (acc : List Json) :
    readItems (fuel + 1) depth true acc cs = readItems fuel depth false (v :: acc) left := by
  obtain ⟨c, later, hs, open', h⟩ := exists_head h
  simp [readItems, hs, h, bind, Except.bind]

theorem readItems_next (h : readValue fuel depth cs = .ok (v, left)) (acc : List Json) :
    readItems (fuel + 1) depth false acc (',' :: cs) =
      readItems fuel depth false (v :: acc) left := by
  obtain ⟨c, later, hs, open', h⟩ := exists_head h
  have comma : skipBlanks (',' :: cs) = ',' :: cs := skipBlanks_cons rfl cs
  simp [readItems, comma, hs, open', h, bind, Except.bind]

theorem readMembers_first (given : readString fuel cs = .ok (key, ':' :: rest))
    (h : readValue fuel depth rest = .ok (v, left)) (acc : List (String × Json)) :
    readMembers (fuel + 1) depth true acc ('"' :: cs) =
      readMembers fuel depth false ((key, v) :: acc) left := by
  have quote : skipBlanks ('"' :: cs) = '"' :: cs := skipBlanks_cons rfl cs
  have colon : readColon (':' :: rest) = .ok rest := rfl
  simp [readMembers, quote, given, colon, h, bind, Except.bind]

theorem readMembers_next (given : readString fuel cs = .ok (key, ':' :: rest))
    (h : readValue fuel depth rest = .ok (v, left)) (acc : List (String × Json)) :
    readMembers (fuel + 1) depth false acc (',' :: '"' :: cs) =
      readMembers fuel depth false ((key, v) :: acc) left := by
  have comma : skipBlanks (',' :: '"' :: cs) = ',' :: '"' :: cs := skipBlanks_cons rfl _
  have quote : skipBlanks ('"' :: cs) = '"' :: cs := skipBlanks_cons rfl cs
  have colon : readColon (':' :: rest) = .ok rest := rfl
  simp [readMembers, comma, quote, given, colon, h, bind, Except.bind]

end Parts

/-- At this depth the value is read back before whatever may follow it. -/
def IsReadBack (depth : Nat) (v : Json) : Prop :=
  ∀ fuel rest, v.chars.length ≤ fuel → Stops rest →
    readValue fuel depth (v.chars ++ rest) = .ok (v, rest)

theorem IsReadBack.length_pos {v : Json} (back : IsReadBack depth v) : 0 < v.chars.length := by
  rw [Nat.pos_iff_ne_zero]
  intro none
  cases back 0 [] (Nat.le_of_eq none) stops_nil

theorem stops_cons {c : Char} (h : c = ',' ∨ c = ']' ∨ c = '}') (rest : List Char) :
    Stops (c :: rest) := by
  intro d hd
  cases hd
  rcases h with rfl | rfl | rfl <;> decide

def nextItem (v : Json) : List Char :=
  ',' :: v.chars

theorem itemChars_cons (v : Json) (items : List Json) :
    itemChars (v :: items) = v.chars ++ items.flatMap nextItem := by
  induction items generalizing v with
  | nil => simp [itemChars]
  | cons w items ih =>
      rw [itemChars, ih w, List.flatMap_cons, nextItem, List.cons_append]
      exact List.cons_ne_nil w items

theorem stops_items (items : List Json) (rest : List Char) :
    Stops (items.flatMap nextItem ++ ']' :: rest) := by
  cases items with
  | nil => exact stops_cons (by simp) rest
  | cons v items =>
      rw [List.flatMap_cons, nextItem, List.cons_append, List.cons_append]
      exact stops_cons (by simp) _

theorem readItems_flatMap {items : List Json} (back : ∀ v ∈ items, IsReadBack depth v)
    (enough : (items.flatMap nextItem).length < fuel) (acc : List Json) (rest : List Char) :
    readItems fuel depth false acc (items.flatMap nextItem ++ ']' :: rest) =
      .ok (acc.reverse ++ items, rest) := by
  induction items generalizing fuel acc with
  | nil =>
      obtain ⟨fuel, rfl⟩ := exists_fuel enough
      rw [List.append_nil]
      rfl
  | cons v items ih =>
      obtain ⟨fuel, rfl⟩ := exists_fuel enough
      rw [List.flatMap_cons, nextItem, List.length_append, List.length_cons] at enough
      have read := back v List.mem_cons_self fuel (items.flatMap nextItem ++ ']' :: rest) (by omega)
        (stops_items items rest)
      rw [List.flatMap_cons, nextItem, List.cons_append, List.cons_append, List.append_assoc,
        readItems_next read, ih (fun w hw => back w (List.mem_cons_of_mem v hw)) (by omega),
        List.reverse_cons, List.append_assoc, List.singleton_append]

theorem readItems_itemChars {items : List Json} (back : ∀ v ∈ items, IsReadBack depth v)
    (enough : (itemChars items).length < fuel) (rest : List Char) :
    readItems fuel depth true [] (itemChars items ++ ']' :: rest) = .ok (items, rest) := by
  obtain ⟨fuel, rfl⟩ := exists_fuel enough
  cases items with
  | nil => rfl
  | cons v items =>
      rw [itemChars_cons, List.length_append] at enough
      have first := back v List.mem_cons_self
      have some := first.length_pos
      have read := first fuel (items.flatMap nextItem ++ ']' :: rest) (by omega)
        (stops_items items rest)
      rw [itemChars_cons, List.append_assoc, readItems_first read,
        readItems_flatMap (fun w hw => back w (List.mem_cons_of_mem v hw)) (by omega)]
      rfl

def memberText (m : String × Json) : List Char :=
  stringChars m.1 ++ ':' :: m.2.chars

def nextMember (m : String × Json) : List Char :=
  ',' :: memberText m

theorem memberChars_cons (m : String × Json) (members : List (String × Json)) :
    memberChars (m :: members) = memberText m ++ members.flatMap nextMember := by
  induction members generalizing m with
  | nil => simp [memberChars, memberText]
  | cons m' members ih =>
      rw [memberChars, ih m', List.flatMap_cons]
      · simp [memberText, nextMember]
      · exact List.cons_ne_nil m' members

theorem stops_members (members : List (String × Json)) (rest : List Char) :
    Stops (members.flatMap nextMember ++ '}' :: rest) := by
  cases members with
  | nil => exact stops_cons (by simp) rest
  | cons m members =>
      rw [List.flatMap_cons, nextMember, List.cons_append, List.cons_append]
      exact stops_cons (by simp) _

/-- The key and the value of a member are read one after the other. -/
theorem exists_read_member {m : String × Json} (back : IsReadBack depth m.2)
    (enough : (memberText m).length ≤ fuel) (stops : Stops rest) :
    ∃ cs left, memberText m ++ rest = '"' :: cs ∧
      readString fuel cs = .ok (m.1, ':' :: left) ∧
      readValue fuel depth left = .ok (m.2, rest) := by
  rw [memberText, List.length_append, List.length_cons] at enough
  obtain ⟨cs, text, key⟩ := readString_stringChars
    (show (stringChars m.1).length ≤ fuel + 1 by omega) (':' :: (m.2.chars ++ rest))
  refine ⟨cs, m.2.chars ++ rest, ?_, key, back fuel rest (by omega) stops⟩
  rw [memberText, List.append_assoc, List.cons_append, text]

theorem readMembers_flatMap {members : List (String × Json)}
    (back : ∀ m ∈ members, IsReadBack depth m.2)
    (enough : (members.flatMap nextMember).length < fuel) (acc : List (String × Json))
    (rest : List Char) :
    readMembers fuel depth false acc (members.flatMap nextMember ++ '}' :: rest) =
      .ok (acc.reverse ++ members, rest) := by
  induction members generalizing fuel acc with
  | nil =>
      obtain ⟨fuel, rfl⟩ := exists_fuel enough
      rw [List.append_nil]
      rfl
  | cons m members ih =>
      obtain ⟨fuel, rfl⟩ := exists_fuel enough
      rw [List.flatMap_cons, nextMember, List.length_append, List.length_cons] at enough
      obtain ⟨cs, left, text, key, value⟩ := exists_read_member
        (back m List.mem_cons_self) (show (memberText m).length ≤ fuel by omega)
        (stops_members members rest)
      rw [List.flatMap_cons, nextMember, List.cons_append, List.cons_append, List.append_assoc,
        text, readMembers_next key value,
        ih (fun m' hm => back m' (List.mem_cons_of_mem m hm)) (by omega), List.reverse_cons,
        List.append_assoc, List.singleton_append]

theorem readMembers_memberChars {members : List (String × Json)}
    (back : ∀ m ∈ members, IsReadBack depth m.2)
    (enough : (memberChars members).length < fuel) (rest : List Char) :
    readMembers fuel depth true [] (memberChars members ++ '}' :: rest) = .ok (members, rest) := by
  obtain ⟨fuel, rfl⟩ := exists_fuel enough
  cases members with
  | nil => rfl
  | cons m members =>
      rw [memberChars_cons, List.length_append] at enough
      have some : 0 < (memberText m).length := by simp [memberText, stringChars]
      obtain ⟨cs, left, text, key, value⟩ := exists_read_member
        (back m List.mem_cons_self) (show (memberText m).length ≤ fuel by omega)
        (stops_members members rest)
      rw [memberChars_cons, List.append_assoc, text, readMembers_first key value,
        readMembers_flatMap (fun m' hm => back m' (List.mem_cons_of_mem m hm)) (by omega)]
      rfl

/-! ## Values -/

theorem insertMember_of_lt {key : String} {members : List (String × Json)}
    (last : ∀ k ∈ keys members, k < key) (v : Json) :
    insertMember key v members = members ++ [(key, v)] := by
  induction members with
  | nil => rfl
  | cons m members ih =>
      obtain ⟨k, w⟩ := m
      have below : k < key := last k List.mem_cons_self
      have notBelow : ¬ key < k := String.lt_asymm below
      have other : key ≠ k := by
        rintro rfl
        exact String.lt_irrefl key below
      rw [insertMember, if_neg notBelow, if_neg other,
        ih fun k' hk => last k' (List.mem_cons_of_mem k hk), List.cons_append]

theorem sortMembers_of_ascending {members : List (String × Json)}
    (ascending : (keys members).Pairwise (· < ·)) : sortMembers members = members := by
  induction members using List.reverseRecOn with
  | nil => rfl
  | append_singleton members m ih =>
      obtain ⟨k, v⟩ := m
      rw [keys, List.map_append, List.pairwise_append] at ascending
      obtain ⟨before, -, last⟩ := ascending
      have sorted := ih before
      rw [sortMembers] at sorted ⊢
      rw [List.foldl_append, sorted]
      exact insertMember_of_lt (fun k' hk => last k' hk k List.mem_cons_self) v

theorem readValue_digit {c : Char} (digit : c.isDigit = true) (cs : List Char) :
    readValue (fuel + 1) depth (c :: cs) =
      (readNumber false (c :: cs)).map fun r => (.number r.1, r.2) := by
  have blank : isBlank c = false := by
    rw [Bool.eq_false_iff]
    intro blank
    simp only [isBlank, Bool.or_eq_true, beq_iff_eq] at blank
    rcases blank with ((rfl | rfl) | rfl) | rfl <;> cases digit
  rw [readValue, skipBlanks_cons blank]
  dsimp only
  split
  case h_8 =>
    rw [if_pos digit]
    cases readNumber false (c :: cs) <;> rfl
  all_goals cases digit

/-- A legible value takes some text, so reading it takes some fuel. -/
theorem isReadBack_of_succ {v : Json} (some : 0 < v.chars.length)
    (back : ∀ fuel rest, v.chars.length ≤ fuel + 1 → Stops rest →
      readValue (fuel + 1) depth (v.chars ++ rest) = .ok (v, rest)) : IsReadBack depth v := by
  intro fuel rest enough stops
  obtain ⟨fuel, rfl⟩ := exists_fuel (Nat.lt_of_lt_of_le some enough)
  exact back fuel rest enough stops

theorem isReadBack_number {n : Number} (back : n.ReadsBack) : IsReadBack depth (.number n) := by
  cases back with
  | negative text back =>
      apply isReadBack_of_succ (by simp [chars, text])
      intro fuel rest _ stops
      have read := readNumber_extends stops _ _ _ back
      rw [chars, text, List.cons_append, readValue, skipBlanks_cons rfl]
      simp [read, bind, Except.bind, pure, Except.pure]
  | unsigned back =>
      cases text : n.text.toList with
      | nil =>
          rw [text] at back
          cases back
      | cons c digits =>
          rw [text] at back
          have digit : c.isDigit = true := by
            cases hc : c.isDigit with
            | true => rfl
            | false => simp [readNumber, hc, misreadAt] at back
          apply isReadBack_of_succ (by simp [chars, text])
          intro fuel rest _ stops
          have read := readNumber_extends stops _ _ _ back
          rw [chars, text, List.cons_append, readValue_digit digit, ← List.cons_append, read]
          rfl

theorem isReadBack_string (s : String) : IsReadBack depth (.string s) := by
  apply isReadBack_of_succ (by simp [chars, stringChars])
  intro fuel rest enough _
  obtain ⟨cs, text, read⟩ := readString_stringChars enough rest
  rw [chars, text, readValue, skipBlanks_cons rfl]
  simp [read, bind, Except.bind, pure, Except.pure]

theorem isReadBack_array {items : List Json} (back : ∀ v ∈ items, IsReadBack depth v) :
    IsReadBack (depth + 1) (.array items) := by
  apply isReadBack_of_succ (by simp [chars])
  intro fuel rest enough _
  rw [chars, List.length_append, List.length_cons, List.length_singleton] at enough
  have read := readItems_itemChars back (show (itemChars items).length < fuel by omega) rest
  rw [chars, List.append_assoc, List.cons_append, readValue, skipBlanks_cons rfl]
  simp [read, bind, Except.bind, pure, Except.pure]

theorem isReadBack_object {members : List (String × Json)}
    (back : ∀ m ∈ members, IsReadBack depth m.2) (ascending : (keys members).Pairwise (· < ·)) :
    IsReadBack (depth + 1) (.object members) := by
  apply isReadBack_of_succ (by simp [chars])
  intro fuel rest enough _
  rw [chars, List.length_append, List.length_cons, List.length_singleton] at enough
  have read := readMembers_memberChars back (show (memberChars members).length < fuel by omega) rest
  rw [chars, List.append_assoc, List.cons_append, readValue, skipBlanks_cons rfl]
  simp [read, bind, Except.bind, pure, Except.pure, sortMembers_of_ascending ascending]

theorem Legible.isReadBack {v : Json} (h : Legible depth v) : IsReadBack depth v := by
  induction h with
  | null => exact isReadBack_of_succ (by decide) fun _ _ _ _ => rfl
  | bool b =>
      cases b with
      | true => exact isReadBack_of_succ (by decide) fun _ _ _ _ => rfl
      | false => exact isReadBack_of_succ (by decide) fun _ _ _ _ => rfl
  | number back => exact isReadBack_number back
  | string s => exact isReadBack_string s
  | array _ ih => exact isReadBack_array ih
  | object _ ascending ih => exact isReadBack_object ih ascending

theorem read_text {v : Json} (h : Legible depthLimit v) : read v.text = .ok v := by
  have back := h.isReadBack (2 * v.chars.length + 2) [] (by omega) stops_nil
  rw [List.append_nil] at back
  rw [read_eq_ok_iff, text, String.toList_ofList]
  exact ⟨[], back, rfl⟩

end ModelDepot.Json
