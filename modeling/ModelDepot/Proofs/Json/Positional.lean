import ModelDepot.Proofs.Json.Yielding

/-! # Records that are read from arrays

An array stands for the fields of a record in their order. Its items are read one by one; a field
that finds no item left has to have a value for that.
-/

namespace ModelDepot.Json

/-- The field takes `a` from the item in its place, or from there being none. -/
def Field.Takes {α : Type} (f : Field α) (item : Option Json) (a : α) : Prop :=
  match item with
  | some v => f.read v = .ok a
  | none => f.absent = .anywhere a

namespace Fields

variable {αs : List Type} {items : List Json}

/-- The fields take the row from the items behind the first `i`. -/
def Takes (items : List Json) : {αs : List Type} → Fields αs → Nat → Row αs → Prop
  | [], _, _, _ => True
  | _ :: _, (f, fs), i, (a, row) => f.Takes items[i]? a ∧ Takes items fs (i + 1) row

/-- Every field finds an item that it can read, or can do without. -/
def Admits (items : List Json) : {αs : List Type} → Fields αs → Nat → Prop
  | [], _, _ => True
  | _ :: _, (f, fs), i => (∃ a, f.Takes items[i]? a) ∧ Admits items fs (i + 1)

theorem exists_takes_iff {fs : Fields αs} {i : Nat} :
    (∃ row, fs.Takes items i row) ↔ fs.Admits items i := by
  induction αs generalizing i with
  | nil => exact ⟨fun _ => trivial, fun _ => ⟨(), trivial⟩⟩
  | cons α αs ih =>
      obtain ⟨f, fs⟩ := fs
      constructor
      · rintro ⟨⟨a, row⟩, first, rest⟩
        exact ⟨⟨a, first⟩, ih.1 ⟨row, rest⟩⟩
      · rintro ⟨⟨a, first⟩, rest⟩
        obtain ⟨row, rest⟩ := ih.2 rest
        exact ⟨(a, row), first, rest⟩

/-- Reading in order from some item on comes to the row that the fields take, and to the items
behind the last field. -/
theorem inOrder_eq_ok_iff {fs : Fields αs} {expected : String} {met i : Nat} {row : Row αs}
    {left : List Json} :
    fs.inOrder expected met (items.drop i) = .ok (row, left) ↔
      fs.Takes items i row ∧ left = items.drop (i + αs.length) := by
  induction αs generalizing met i with
  | nil =>
      constructor
      · intro h
        cases h
        exact ⟨trivial, rfl⟩
      · rintro ⟨-, rfl⟩
        rfl
  | cons α αs ih =>
      obtain ⟨f, fs⟩ := fs
      obtain ⟨a, row⟩ := row
      have behind : i + (α :: αs).length = i + 1 + αs.length := by
        rw [List.length_cons]
        omega
      rw [behind]
      cases found : items[i]? with
      | none =>
          have short := List.getElem?_eq_none_iff.1 found
          have nothing : items.drop i = [] := List.drop_eq_nil_of_le short
          have after : items.drop (i + 1) = [] := List.drop_eq_nil_of_le (by omega)
          rw [nothing, inOrder, ← after]
          simp only [Takes, Field.Takes, found]
          cases absent : f.absent with
          | anywhere b =>
              rw [map_eq_ok_iff]
              constructor
              · rintro ⟨⟨row', left'⟩, given, same⟩
                cases same
                obtain ⟨rest, rfl⟩ := ih.1 given
                exact ⟨⟨rfl, rest⟩, rfl⟩
              · rintro ⟨⟨same, rest⟩, rfl⟩
                cases same
                exact ⟨(row, _), ih.2 ⟨rest, rfl⟩, rfl⟩
          | refused | inObjects b => simp
      | some v =>
          obtain ⟨inside, here⟩ := List.getElem?_eq_some_iff.1 found
          rw [List.drop_eq_getElem_cons inside, here, inOrder]
          simp only [Takes, Field.Takes, found]
          cases read : f.read v with
          | ok b =>
              simp only [map_eq_ok_iff]
              constructor
              · rintro ⟨⟨row', left'⟩, given, same⟩
                cases same
                obtain ⟨rest, rfl⟩ := ih.1 given
                exact ⟨⟨rfl, rest⟩, rfl⟩
              · rintro ⟨⟨same, rest⟩, rfl⟩
                cases same
                exact ⟨(row, _), ih.2 ⟨rest, rfl⟩, rfl⟩
          | error e => simp

theorem ofItems_eq_ok_iff {fs : Fields αs} {type : String} {row : Row αs} :
    fs.ofItems type .refused items = .ok row ↔
      fs.Takes items 0 row ∧ items.length ≤ αs.length := by
  have reads := @inOrder_eq_ok_iff αs items fs (elementCount type αs.length) 0 0
  simp only [List.drop_zero, Nat.zero_add] at reads
  have none : (items.drop αs.length).isEmpty = true ↔ items.length ≤ αs.length := by
    rw [List.isEmpty_iff, List.drop_eq_nil_iff]
  rw [ofItems]
  constructor
  · intro h
    split at h
    · cases h
    · next given =>
        obtain ⟨takes, rfl⟩ := reads.1 given
        split at h
        · next few =>
            cases h
            exact ⟨takes, none.1 (by simpa using few)⟩
        · cases h
  · rintro ⟨takes, few⟩
    rw [reads.2 ⟨takes, rfl⟩]
    simp [none.2 few]

end Fields

namespace Reader

variable {α : Type} {αs : List Type} {fs : Fields αs} {type : String} {build : Row αs → α}
  {items : List Json}

theorem record_array_eq_ok_iff {a : α} :
    record αs type fs build (.array items) = .ok a ↔
      ∃ row, (fs.Takes items 0 row ∧ items.length ≤ αs.length) ∧ build row = a := by
  simp only [record, recordWith, map_eq_ok_iff, Fields.ofItems_eq_ok_iff]

theorem isOk_record_array_iff :
    (∃ a, record αs type fs build (.array items) = .ok a) ↔
      fs.Admits items 0 ∧ items.length ≤ αs.length := by
  simp only [record_array_eq_ok_iff]
  constructor
  · rintro ⟨_, row, ⟨takes, few⟩, _⟩
    exact ⟨Fields.exists_takes_iff.1 ⟨row, takes⟩, few⟩
  · rintro ⟨admits, few⟩
    obtain ⟨row, takes⟩ := Fields.exists_takes_iff.2 admits
    exact ⟨build row, row, ⟨takes, few⟩, rfl⟩

theorem isOk_record_iff {v : Json} (shape : ∀ members, v ≠ .object members) :
    (∃ a, record αs type fs build v = .ok a) ↔
      ∃ items, v = .array items ∧ ∃ a, record αs type fs build (.array items) = .ok a := by
  cases v with
  | array items => simp
  | object members => exact absurd rfl (shape members)
  | _ => simp [record, recordWith, wrongType]

end Reader

/-! ## Fields -/

def Reader.Reads {α : Type} (r : Reader α) (v : Json) : Prop :=
  ∃ a, r v = .ok a

namespace Field

variable {α : Type} {name : String} {r : Reader α} {item : Option Json}

@[simp] theorem takes_alsoNamed {f : Field α} {a : α} :
    (f.alsoNamed name).Takes item a ↔ f.Takes item a :=
  Iff.rfl

theorem exists_takes_required_iff :
    (∃ a, (required name r).Takes item a) ↔ ∃ v ∈ item, r.Reads v := by
  cases item <;> simp [Takes, required, Reader.Reads]

theorem exists_takes_optional_iff :
    (∃ a, (optional name r).Takes item a) ↔ ∃ v ∈ item, r.option.Reads v := by
  cases item <;> simp [Takes, optional, Reader.Reads]

theorem exists_takes_default_iff {a : α} :
    (∃ b, (default name r a).Takes item b) ↔ ∀ v ∈ item, r.Reads v := by
  cases item <;> simp [Takes, default, Reader.Reads]

theorem exists_takes_lenient_iff :
    (∃ a, (lenient name r).Takes item a) ↔ ∀ v ∈ item, r.option.Reads v := by
  cases item <;> simp [Takes, lenient, Reader.Reads]

theorem eq_true_of_takes {b : Bool} (h : (default name Reader.bool false).Takes item b) :
    b = true ↔ item = some (.bool true) := by
  cases item with
  | none =>
      cases h
      simp
  | some v =>
      cases v with
      | bool c =>
          cases h
          simp
      | _ => cases h

theorem takes_text_iff {s : String} :
    (required name Reader.string).Takes item s ↔ item = some (.string s) := by
  cases item with
  | none => simp [Takes, required]
  | some v => cases v <;> simp [Takes, required, Reader.string, wrongType]

theorem eq_some_of_takes {given : Option String} (h : (lenient name Reader.string).Takes item given)
    (s : String) : given = some s ↔ item = some (.string s) := by
  cases item with
  | none =>
      cases h
      simp
  | some v =>
      cases v with
      | null =>
          cases h
          simp
      | string t =>
          cases h
          simp
      | _ => cases h

end Field

namespace Reader

variable {v : Json}

theorem reads_string_iff : string.Reads v ↔ ∃ s, v = .string s := by
  cases v <;> simp [Reads, string, wrongType]

theorem reads_bool_iff : bool.Reads v ↔ ∃ b, v = .bool b := by
  cases v <;> simp [Reads, bool, wrongType]

theorem reads_float_iff : float.Reads v ↔ ∃ n, v = .number n := by
  cases v with
  | number n => cases n <;> simp [Reads, float]
  | _ => simp [Reads, float, wrongType]

theorem reads_u64_iff : u64.Reads v ↔ ∃ n < UInt64.size, v = .nat n := by
  constructor
  · rintro ⟨a, given⟩
    obtain ⟨n, read, -⟩ := map_eq_ok_iff.1 given
    simp only [word] at read
    split at read
    · next i =>
        split at read
        · next fits =>
            refine ⟨i.toNat, by omega, ?_⟩
            rw [nat, int, Int.toNat_of_nonneg fits.1]
        · cases read
    · cases read
  · rintro ⟨n, small, rfl⟩
    exact ⟨_, u64_nat small⟩

theorem reads_option_iff {α : Type} {r : Reader α} : r.option.Reads v ↔ v = .null ∨ r.Reads v := by
  cases v <;> simp [Reads, option, map_eq_ok_iff]

end Reader

end ModelDepot.Json
