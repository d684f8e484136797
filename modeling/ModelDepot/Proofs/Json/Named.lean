import ModelDepot.Proofs.Json.Positional

/-! # Records that are read from objects

An object gives a field the values that its members have under the names of the field. A record is
read from an object if each field is given one value that it can read, or none where it can do
without. Members of other names do not matter, nor does the order of members or by which of its
names a field is given.
-/

namespace ModelDepot.Json

variable {αs : List Type} {key old new : String} {names : List String} {v : Json}
  {members members' before after : List (String × Json)}

def values (names : List String) (members : List (String × Json)) : List Json :=
  (members.filter fun m => names.contains m.1).map (·.2)

theorem values_cons_of_mem (h : key ∈ names) :
    values names ((key, v) :: members) = v :: values names members := by
  simp [values, h]

theorem values_cons_of_not_mem (h : key ∉ names) :
    values names ((key, v) :: members) = values names members := by
  simp [values, h]

theorem values_perm (h : members.Perm members') :
    (values names members).Perm (values names members') :=
  (h.filter _).map _

theorem values_filter {p : String × Json → Bool} (h : ∀ m ∈ members, m.1 ∈ names → p m = true) :
    values names (members.filter p) = values names members := by
  have same : (members.filter p).filter (fun m => names.contains m.1) =
      members.filter fun m => names.contains m.1 := by
    rw [List.filter_filter]
    apply List.filter_congr
    intro m inside
    have kept := h m inside
    grind
  rw [values, same, values]

def renamed (old new : String) (members : List (String × Json)) : List (String × Json) :=
  members.map fun m => (if m.1 = old then new else m.1, m.2)

theorem values_renamed (both : old ∈ names ↔ new ∈ names) :
    values names (renamed old new members) = values names members := by
  induction members with
  | nil => rfl
  | cons m members ih =>
      obtain ⟨key, v⟩ := m
      have named : (if key = old then new else key) ∈ names ↔ key ∈ names := by
        split
        · next same => rw [same, both]
        · rfl
      have rest : renamed old new ((key, v) :: members) =
          (if key = old then new else key, v) :: renamed old new members := rfl
      rw [rest]
      by_cases inside : key ∈ names
      · rw [values_cons_of_mem (named.2 inside), values_cons_of_mem inside, ih]
      · rw [values_cons_of_not_mem (mt named.1 inside), values_cons_of_not_mem inside, ih]

theorem values_singleton (distinct : (keys members).Nodup) (key : String) :
    values [key] members = (lookup key members).toList := by
  induction members with
  | nil => rfl
  | cons m members ih =>
      obtain ⟨name, v⟩ := m
      obtain ⟨other, distinct⟩ := List.nodup_cons.1 distinct
      by_cases same : name = key
      · subst same
        have none : values [name] members = [] := by
          simp only [values, List.map_eq_nil_iff, List.filter_eq_nil_iff]
          rintro ⟨name', v'⟩ inside named
          obtain rfl : name' = name := by simpa using named
          exact other (mem_keys_iff.2 ⟨v', inside⟩)
        rw [values_cons_of_mem (List.mem_singleton_self _), none]
        simp [lookup]
      · rw [values_cons_of_not_mem (by simpa using same), ih distinct]
        simp [lookup, same]

/-! ## Fields -/

namespace Field

variable {α : Type} {f : Field α} {a : α}

def spellings (f : Field α) : List String :=
  f.name :: f.aliases

theorem isNamed_iff_mem : f.isNamed key = true ↔ key ∈ f.spellings := by
  simp [isNamed, spellings]

/-- The field takes `a` from the one value there is for it, or from there being none. -/
def TakesFrom (f : Field α) (vs : List Json) (a : α) : Prop :=
  vs = [] ∧ f.absent.inObject? = some a ∨ ∃ v, vs = [v] ∧ f.read v = .ok a

/-- The members give the field `a`. -/
def Given (f : Field α) (members : List (String × Json)) (a : α) : Prop :=
  f.TakesFrom (values f.spellings members) a

/-- From a slot and the values of a field comes the slot behind the last of them. -/
def Fills (f : Field α) (slot : Option α) : List Json → Option α → Prop
  | [], slot' => slot' = slot
  | [v], slot' => slot = none ∧ ∃ a, f.read v = .ok a ∧ slot' = some a
  | _ :: _ :: _, _ => False

theorem not_fills_some {w : Json} {vs : List Json} {slot : Option α} :
    ¬ f.Fills (some a) (w :: vs) slot := by
  cases vs with
  | nil => simp [Fills]
  | cons x vs => exact id

theorem fills_cons_iff {vs : List Json} {slot : Option α} (read : f.read v = .ok a) :
    f.Fills none (v :: vs) slot ↔ f.Fills (some a) vs slot := by
  cases vs with
  | nil => simp [Fills, read]
  | cons w vs => exact ⟨False.elim, not_fills_some⟩

theorem not_fills_of_error {vs : List Json} {slot : Option α} {e : ShapeError}
    (read : f.read v = .error e) : ¬ f.Fills none (v :: vs) slot := by
  cases vs with
  | nil => simp [Fills, read]
  | cons w vs => exact id

theorem given_iff_fills : f.Given members a ↔
    ∃ slot, f.Fills none (values f.spellings members) slot ∧
      (slot = some a ∨ slot = none ∧ f.absent.inObject? = some a) := by
  rw [Given]
  cases values f.spellings members with
  | nil => simp [TakesFrom, Fills]
  | cons v vs =>
      cases vs with
      | nil => simp [TakesFrom, Fills]
      | cons w vs => simp [TakesFrom, Fills]

theorem given_of_perm (h : (values f.spellings members).Perm (values f.spellings members')) :
    f.Given members a ↔ f.Given members' a := by
  have one : ∀ v, values f.spellings members = [v] ↔ values f.spellings members' = [v] := by
    intro v
    constructor
    · intro same
      exact List.perm_singleton.1 (same ▸ h.symm)
    · intro same
      exact List.perm_singleton.1 (same ▸ h)
  have nothing : values f.spellings members = [] ↔ values f.spellings members' = [] := by
    rw [← List.perm_nil, ← List.perm_nil]
    exact ⟨h.symm.trans, h.trans⟩
  simp only [Given, TakesFrom, one, nothing]

end Field

/-! ## Records -/

namespace Fields

def spellings : {αs : List Type} → Fields αs → List (List String)
  | [], _ => []
  | _ :: _, (f, fs) => f.spellings :: spellings fs

def Given (members : List (String × Json)) : {αs : List Type} → Fields αs → Row αs → Prop
  | [], _, _ => True
  | _ :: _, (f, fs), (a, row) => f.Given members a ∧ Given members fs row

def AllGiven (members : List (String × Json)) : {αs : List Type} → Fields αs → Prop
  | [], _ => True
  | _ :: _, (f, fs) => (∃ a, f.Given members a) ∧ AllGiven members fs

theorem exists_given_iff {fs : Fields αs} :
    (∃ row, fs.Given members row) ↔ fs.AllGiven members := by
  induction αs with
  | nil => exact ⟨fun _ => trivial, fun _ => ⟨(), trivial⟩⟩
  | cons α αs ih =>
      obtain ⟨f, fs⟩ := fs
      constructor
      · rintro ⟨⟨a, row⟩, first, rest⟩
        exact ⟨⟨a, first⟩, ih.1 ⟨row, rest⟩⟩
      · rintro ⟨⟨a, first⟩, rest⟩
        obtain ⟨row, rest⟩ := ih.2 rest
        exact ⟨(a, row), first, rest⟩

/-- What is given does not change with the order of values. -/
theorem given_of_perm {fs : Fields αs} {row : Row αs}
    (h : ∀ names ∈ fs.spellings, (values names members).Perm (values names members')) :
    fs.Given members row ↔ fs.Given members' row := by
  induction αs with
  | nil => exact Iff.rfl
  | cons α αs ih =>
      obtain ⟨f, fs⟩ := fs
      obtain ⟨first, rest⟩ := List.forall_mem_cons.1 h
      exact and_congr (Field.given_of_perm first) (ih rest)

/-- The members that are left for the fields behind the first. -/
def unnamed {α : Type} (f : Field α) (members : List (String × Json)) : List (String × Json) :=
  members.filter fun m => !f.isNamed m.1

section Cons

variable {α : Type} {f : Field α} {fs : Fields αs} {slot slot' : Option α} {slots slots' : Slots αs}
  {a : α} {row : Row αs}

theorem placeAll_cons_iff :
    @placeAll (α :: αs) (f, fs) (slot, slots) members = .ok (slot', slots') ↔
      f.Fills slot (values f.spellings members) slot' ∧
        fs.placeAll slots (unnamed f members) = .ok slots' := by
  -- The members fill the slots one by one, so the slots may be any that were left so far.
  induction members generalizing slot slots with
  | nil =>
      constructor
      · intro h
        cases h
        exact ⟨rfl, rfl⟩
      · rintro ⟨rfl, h⟩
        cases h
        rfl
  | cons m members ih =>
      obtain ⟨key, v⟩ := m
      by_cases named : f.isNamed key = true
      · have others : unnamed f ((key, v) :: members) = unnamed f members := by
          simp [unnamed, named]
        rw [values_cons_of_mem (Field.isNamed_iff_mem.1 named), others]
        cases slot with
        | some a => simp [placeAll, place, named, Field.not_fills_some]
        | none =>
            cases read : f.read v with
            | error e =>
                simp [placeAll, place, named, read, Except.map, Field.not_fills_of_error read]
            | ok a =>
                rw [Field.fills_cons_iff read, ← ih]
                simp [placeAll, place, named, read, Except.map]
      · have others : unnamed f ((key, v) :: members) = (key, v) :: unnamed f members := by
          simp [unnamed, named]
        rw [values_cons_of_not_mem (mt Field.isNamed_iff_mem.2 named), others]
        cases placed : fs.place slots key v with
        | error e => simp [placeAll, place, named, placed, Except.map]
        | ok rest =>
            have step : @placeAll (α :: αs) (f, fs) (slot, slots) ((key, v) :: members) =
                @placeAll (α :: αs) (f, fs) (slot, rest) members := by
              simp [placeAll, place, named, placed, Except.map]
            rw [step, ih]
            simp only [placeAll, placed]

theorem complete_cons_iff :
    @complete (α :: αs) (f, fs) (slot, slots) = .ok (a, row) ↔
      (slot = some a ∨ slot = none ∧ f.absent.inObject? = some a) ∧
        fs.complete slots = .ok row := by
  have one : ∀ b, (fs.complete slots).map (fun row => ((b, row) : Row (α :: αs))) = .ok (a, row) ↔
      b = a ∧ fs.complete slots = .ok row := by
    intro b
    rw [map_eq_ok_iff]
    constructor
    · rintro ⟨found, completed, same⟩
      cases same
      exact ⟨rfl, completed⟩
    · rintro ⟨rfl, completed⟩
      exact ⟨row, completed, rfl⟩
  cases slot with
  | some b =>
      refine (one b).trans (and_congr ?_ Iff.rfl)
      simp
  | none =>
      cases absent : f.absent with
      | refused => simp [complete, absent, Absent.inObject?]
      | inObjects b | anywhere b =>
          simp only [complete, absent]
          refine (one b).trans (and_congr ?_ Iff.rfl)
          simp [Absent.inObject?]

theorem ofMembers_iff :
    fs.ofMembers members = .ok row ↔
      ∃ slots, fs.placeAll (noSlots αs) members = .ok slots ∧ fs.complete slots = .ok row := by
  rw [ofMembers]
  cases fs.placeAll (noSlots αs) members <;> simp

theorem ofMembers_cons_iff :
    @ofMembers (α :: αs) (f, fs) members = .ok (a, row) ↔
      f.Given members a ∧ fs.ofMembers (unnamed f members) = .ok row := by
  refine ofMembers_iff.trans ?_
  rw [ofMembers_iff, Field.given_iff_fills]
  constructor
  · rintro ⟨⟨slot, slots⟩, placed, completed⟩
    obtain ⟨filled, others⟩ := placeAll_cons_iff.1 placed
    obtain ⟨first, rest⟩ := complete_cons_iff.1 completed
    exact ⟨⟨slot, filled, first⟩, slots, others, rest⟩
  · rintro ⟨⟨slot, filled, first⟩, slots, others, rest⟩
    exact ⟨(slot, slots), placeAll_cons_iff.2 ⟨filled, others⟩,
      complete_cons_iff.2 ⟨first, rest⟩⟩

end Cons

theorem placeAll_nothing (slots : Slots []) : @placeAll [] () slots members = .ok () := by
  induction members with
  | nil => rfl
  | cons m members ih => exact ih

/-- Where no name stands for two fields, an object is read as the row that it gives the fields. -/
theorem ofMembers_eq_ok_iff {fs : Fields αs} {row : Row αs} (apart : fs.spellings.flatten.Nodup) :
    fs.ofMembers members = .ok row ↔ fs.Given members row := by
  induction αs generalizing members with
  | nil => exact ofMembers_iff.trans ⟨fun _ => trivial, fun _ => ⟨(), placeAll_nothing (), rfl⟩⟩
  | cons α αs ih =>
      obtain ⟨f, fs⟩ := fs
      obtain ⟨a, row⟩ := row
      obtain ⟨-, later, disjoint⟩ := List.nodup_append.1 apart
      refine ofMembers_cons_iff.trans (and_congr Iff.rfl ?_)
      rw [ih later]
      -- The later fields lose no value with the members of the first field.
      apply given_of_perm
      intro names inside
      rw [unnamed, values_filter]
      rintro ⟨key, v⟩ - named
      have other : key ∉ f.spellings := fun own =>
        disjoint key own key (List.mem_flatten.2 ⟨names, inside, named⟩) rfl
      simpa using mt Field.isNamed_iff_mem.1 other

theorem place_of_stranger {fs : Fields αs} {slots : Slots αs}
    (other : ∀ names ∈ fs.spellings, key ∉ names) : fs.place slots key v = .ok slots := by
  induction αs with
  | nil => rfl
  | cons α αs ih =>
      obtain ⟨f, fs⟩ := fs
      obtain ⟨slot, slots⟩ := slots
      obtain ⟨own, rest⟩ := List.forall_mem_cons.1 other
      simp [place, mt Field.isNamed_iff_mem.1 own, ih rest, Except.map]

theorem ofMembers_of_stranger {fs : Fields αs} (other : ∀ names ∈ fs.spellings, key ∉ names) :
    fs.ofMembers (before ++ (key, v) :: after) = fs.ofMembers (before ++ after) := by
  have placed : ∀ slots, fs.placeAll slots (before ++ (key, v) :: after) =
      fs.placeAll slots (before ++ after) := by
    induction before with
    | nil =>
        intro slots
        rw [List.nil_append, placeAll, place_of_stranger other, List.nil_append]
    | cons m before ih =>
        intro slots
        rw [List.cons_append, placeAll, List.cons_append, placeAll]
        cases fs.place slots m.1 m.2 with
        | ok slots => exact ih slots
        | error e => rfl
  rw [ofMembers, placed, ofMembers]

end Fields

namespace Reader

variable {α : Type} {fs : Fields αs} {type : String} {build : Row αs → α} {a : α}

theorem record_object_eq_ok_iff (apart : fs.spellings.flatten.Nodup) :
    record αs type fs build (.object members) = .ok a ↔
      ∃ row, fs.Given members row ∧ build row = a := by
  simp only [record, recordWith, map_eq_ok_iff, Fields.ofMembers_eq_ok_iff apart]

theorem isOk_record_object_iff (apart : fs.spellings.flatten.Nodup) :
    (∃ a, record αs type fs build (.object members) = .ok a) ↔ fs.AllGiven members := by
  simp only [record_object_eq_ok_iff apart]
  rw [exists_comm]
  simp only [exists_and_left, exists_eq', and_true]
  exact Fields.exists_given_iff

/-- A record of other members with the same values under the names of each field. -/
theorem record_object_of_perm (apart : fs.spellings.flatten.Nodup)
    (h : ∀ names ∈ fs.spellings, (values names members).Perm (values names members')) :
    record αs type fs build (.object members) = .ok a ↔
      record αs type fs build (.object members') = .ok a := by
  simp only [record_object_eq_ok_iff apart, Fields.given_of_perm h]

theorem record_of_stranger (other : ∀ names ∈ fs.spellings, key ∉ names) :
    record αs type fs build (.object (before ++ (key, v) :: after)) =
      record αs type fs build (.object (before ++ after)) := by
  simp only [record, recordWith, Fields.ofMembers_of_stranger other]

end Reader

/-! ## What fields take -/

/-- There is no value, or one of the kind. -/
def MayBe (Kind : Json → Prop) (vs : List Json) : Prop :=
  vs = [] ∨ ∃ v, vs = [v] ∧ Kind v

/-- What there is has been written of `a`; where there is nothing, `a` is the default. -/
def IsOrDefault {α : Type} (write : α → Json) (byDefault : α) (vs : List Json) (a : α) : Prop :=
  vs = [] ∧ a = byDefault ∨ vs = [write a]

namespace Field

variable {α : Type} {name : String} {r : Reader α} {vs : List Json}

@[simp] theorem takesFrom_alsoNamed {f : Field α} {a : α} :
    (f.alsoNamed name).TakesFrom vs a ↔ f.TakesFrom vs a :=
  Iff.rfl

theorem exists_takesFrom_required_iff :
    (∃ a, (required name r).TakesFrom vs a) ↔ ∃ v, vs = [v] ∧ r.Reads v := by
  simp only [TakesFrom, required, Absent.inObject?, Reader.Reads]
  grind

theorem exists_takesFrom_default_iff {a : α} :
    (∃ b, (default name r a).TakesFrom vs b) ↔ MayBe r.Reads vs := by
  simp only [TakesFrom, default, Absent.inObject?, MayBe, Reader.Reads]
  grind

theorem exists_takesFrom_lenient_iff :
    (∃ a, (lenient name r).TakesFrom vs a) ↔ MayBe r.option.Reads vs := by
  simp only [TakesFrom, lenient, Absent.inObject?, MayBe, Reader.Reads]
  grind

end Field

namespace Reader

variable {α : Type} {r : Reader α} {write : α → Json}

/-- The reader takes what is written of a value, and nothing else, and gives the value back. -/
def Undoes (r : Reader α) (write : α → Json) : Prop :=
  ∀ v a, r v = .ok a ↔ v = write a

theorem Undoes.injective (undoes : r.Undoes write) : Function.Injective write := by
  intro a b same
  have first := (undoes (write a) a).2 rfl
  rw [(undoes (write a) b).2 same] at first
  exact (Except.ok.inj first).symm

theorem Undoes.reads_iff {v : Json} (undoes : r.Undoes write) :
    r.Reads v ↔ ∃ a, v = write a :=
  exists_congr (undoes v)

theorem option_of_ne_null {v : Json} (said : v ≠ .null) : r.option v = (r v).map some := by
  cases v with
  | null => exact absurd rfl said
  | _ => rfl

theorem string_undoes : string.Undoes .string := by
  intro v s
  cases v <;> simp [string, wrongType]

theorem bool_undoes : bool.Undoes .bool := by
  intro v b
  cases v <;> simp [bool, wrongType]

theorem u64_undoes : u64.Undoes fun n => .nat n.toNat := by
  intro v n
  constructor
  · intro given
    obtain ⟨k, small, rfl⟩ := reads_u64_iff.1 ⟨n, given⟩
    rw [u64_nat small] at given
    cases given
    exact congrArg Json.nat (UInt64.toNat_ofNat_of_lt' small).symm
  · rintro rfl
    exact (u64_nat n.toNat_lt).trans (congrArg Except.ok n.ofNat_toNat)

theorem mapM_eq_ok_iff {β : Type} {r : Reader β} {items : List Json} {bs : List β} :
    items.mapM r = .ok bs ↔ List.Forall₂ (fun v b => r v = .ok b) items bs := by
  induction items generalizing bs with
  | nil =>
      rw [List.mapM_nil, List.forall₂_nil_left_iff]
      constructor
      · intro h
        cases h
        rfl
      · rintro rfl
        rfl
  | cons v items ih =>
      rw [List.mapM_cons, bind_eq_ok_iff, List.forall₂_cons_left_iff]
      constructor
      · rintro ⟨b, first, h⟩
        obtain ⟨bs', rest, h⟩ := bind_eq_ok_iff.1 h
        cases h
        exact ⟨b, bs', first, ih.1 rest, rfl⟩
      · rintro ⟨b, bs', first, rest, rfl⟩
        exact ⟨b, first, bind_eq_ok_iff.2 ⟨bs', ih.2 rest, rfl⟩⟩

theorem Undoes.list (undoes : r.Undoes write) :
    (list r).Undoes fun as => .array (as.map write) := by
  intro v as
  cases v with
  | array items =>
      have same : (fun v a => r v = .ok a) = fun v a => v = write a := by
        funext v a
        exact propext (undoes v a)
      rw [Reader.list, mapM_eq_ok_iff, same, array.injEq, ← List.forall₂_eq_eq_eq,
        List.forall₂_map_right_iff]
  | _ => simp [Reader.list, wrongType]

end Reader

namespace Field

variable {α : Type} {name : String} {r : Reader α} {write : α → Json} {vs : List Json} {a : α}

theorem takesFrom_required_iff (undoes : r.Undoes write) :
    (required name r).TakesFrom vs a ↔ vs = [write a] := by
  simp [TakesFrom, required, Absent.inObject?, undoes _ a]

theorem takesFrom_default_iff {b : α} (undoes : r.Undoes write) :
    (default name r b).TakesFrom vs a ↔ IsOrDefault write b vs a := by
  simp [TakesFrom, default, Absent.inObject?, undoes _ a, IsOrDefault, eq_comm]

theorem takesFrom_lenient_iff {a? : Option α} (undoes : r.Undoes write)
    (filled : ∀ a, write a ≠ .null) :
    (lenient name r).TakesFrom vs a? ↔
      (vs = [] ∨ vs = [.null]) ∧ a? = none ∨ ∃ a, a? = some a ∧ vs = [write a] := by
  constructor
  · rintro (⟨rfl, none⟩ | ⟨v, rfl, read⟩)
    · cases none
      exact .inl ⟨.inl rfl, rfl⟩
    · by_cases null : v = .null
      · subst null
        cases read
        exact .inl ⟨.inr rfl, rfl⟩
      · obtain ⟨a, found, rfl⟩ := map_eq_ok_iff.1 ((Reader.option_of_ne_null null).symm.trans read)
        obtain rfl := (undoes v a).1 found
        exact .inr ⟨a, rfl, rfl⟩
  · rintro (⟨rfl | rfl, rfl⟩ | ⟨a, rfl, rfl⟩)
    · exact .inl ⟨rfl, rfl⟩
    · exact .inr ⟨.null, rfl, rfl⟩
    · refine .inr ⟨write a, rfl, ?_⟩
      show r.option (write a) = _
      rw [Reader.option_of_ne_null (filled a), (undoes _ a).2 rfl]
      rfl

theorem eq_some_of_takesFrom {a? : Option α} (undoes : r.Undoes write)
    (filled : ∀ a, write a ≠ .null) (h : (lenient name r).TakesFrom vs a?) (a : α) :
    a? = some a ↔ vs = [write a] := by
  rcases (takesFrom_lenient_iff undoes filled).1 h with ⟨rfl | rfl, rfl⟩ | ⟨b, rfl, rfl⟩
  · simp
  · simp [(filled a).symm]
  · rw [Option.some.injEq, List.singleton_inj, undoes.injective.eq_iff]

end Field

end ModelDepot.Json
