import ModelDepot.Proofs.Json.Restoring
import ModelDepot.Proofs.Number.Finite
import ModelDepot.Proofs.Reply.Members

/-! # What readers can yield

What a reader gives for a value is put together from what the readers of its parts give, and from
the values of fields that are left out. Numbers of JSON are integers of 64 bits and finite
floating-point numbers, so no reader of a number gives one that is not finite.
-/

namespace ModelDepot.Json

def Number.IsProper : Number → Prop
  | .integer i => -0x8000000000000000 ≤ i ∧ i < 0x10000000000000000
  | .float x => x.isFinite = true

/-- A value in which all numbers are as JSON has them. -/
inductive IsProper : Json → Prop where
  | null : IsProper .null
  | bool (b : Bool) : IsProper (.bool b)
  | number {n : Number} : n.IsProper → IsProper (.number n)
  | string (s : String) : IsProper (.string s)
  | array {items : List Json} : (∀ v ∈ items, IsProper v) → IsProper (.array items)
  | object {members : List (String × Json)} :
      (∀ m ∈ members, IsProper m.2) → IsProper (.object members)

theorem map_eq_ok_iff {ε α β : Type} {x : Except ε α} {f : α → β} {b : β} :
    x.map f = .ok b ↔ ∃ a, x = .ok a ∧ f a = b := by
  cases x <;> simp [Except.map]

namespace Reader

/-- The reader gives `a` for some proper value. -/
def Yields {α : Type} (r : Reader α) (a : α) : Prop :=
  ∃ v, v.IsProper ∧ r v = .ok a

variable {α β : Type} {r : Reader α} {a : α}

theorem isFinite_of_yields {x : Binary64} (h : float.Yields x) : x.isFinite = true := by
  obtain ⟨v, proper, given⟩ := h
  cases proper with
  | @number n proper =>
      cases n with
      | integer i =>
          cases given
          apply Binary64.isFinite_ofInt
          have bounds : -0x8000000000000000 ≤ i ∧ i < 0x10000000000000000 := proper
          omega
      | float y =>
          cases given
          exact proper
  | _ => cases given

theorem Yields.of_map {f : α → β} {b : β} (h : Yields (fun v => (r v).map f) b) :
    ∃ a, r.Yields a ∧ f a = b := by
  obtain ⟨v, proper, given⟩ := h
  obtain ⟨a, read, same⟩ := map_eq_ok_iff.1 given
  exact ⟨a, ⟨v, proper, read⟩, same⟩

theorem Yields.of_some (h : r.option.Yields (some a)) : r.Yields a := by
  obtain ⟨v, proper, given⟩ := h
  cases v with
  | null => cases given
  | _ =>
      obtain ⟨b, yields, same⟩ := Yields.of_map ⟨_, proper, given⟩
      cases same
      exact yields

theorem mem_of_mapM {items : List Json} {as : List α} (h : items.mapM r = .ok as) (ha : a ∈ as) :
    ∃ v ∈ items, r v = .ok a := by
  induction items generalizing as with
  | nil =>
      cases h
      cases ha
  | cons v items ih =>
      rw [List.mapM_cons, bind_eq_ok_iff] at h
      obtain ⟨b, first, h⟩ := h
      obtain ⟨bs, rest, h⟩ := bind_eq_ok_iff.1 h
      cases h
      rcases List.mem_cons.1 ha with rfl | later
      · exact ⟨v, List.mem_cons_self, first⟩
      · obtain ⟨w, inside, given⟩ := ih rest later
        exact ⟨w, List.mem_cons_of_mem v inside, given⟩

theorem Yields.of_mem {as : List α} (h : (list r).Yields as) (ha : a ∈ as) : r.Yields a := by
  obtain ⟨v, proper, given⟩ := h
  cases proper with
  | @array items proper =>
      obtain ⟨w, inside, read⟩ := mem_of_mapM given ha
      exact ⟨w, proper w inside, read⟩
  | _ => cases given

end Reader

/-! ## Records -/

/-- The value of a field is one that its reader yields, or the one of a field that is left out. -/
def Field.Yields {α : Type} (f : Field α) (a : α) : Prop :=
  f.read.Yields a ∨ f.absent.inObject? = some a

namespace Fields

variable {αs : List Type}

def Yields (fs : Fields αs) (row : Row αs) : Prop :=
  fs.All (fun f a => f.Yields a) row

/-- Every value that was met is one that the reader of its field yields. -/
def Met : {αs : List Type} → Fields αs → Slots αs → Prop
  | [], _, _ => True
  | _ :: _, (f, fs), (slot, slots) => (∀ a, slot = some a → f.read.Yields a) ∧ Met fs slots

theorem met_noSlots (fs : Fields αs) : fs.Met (noSlots αs) := by
  induction αs with
  | nil => trivial
  | cons α αs ih => exact ⟨fun _ => nofun, ih fs.2⟩

theorem Met.place {fs : Fields αs} {slots slots' : Slots αs} {key : String} {v : Json}
    (met : fs.Met slots) (proper : v.IsProper) (h : fs.place slots key v = .ok slots') :
    fs.Met slots' := by
  induction αs with
  | nil => trivial
  | cons α αs ih =>
      obtain ⟨f, fs⟩ := fs
      obtain ⟨slot, slots⟩ := slots
      simp only [Fields.place] at h
      split at h
      · split at h
        · cases h
        · obtain ⟨a, read, rfl⟩ := map_eq_ok_iff.1 h
          refine ⟨fun b same => ?_, met.2⟩
          cases same
          exact ⟨v, proper, read⟩
      · obtain ⟨rest, placed, rfl⟩ := map_eq_ok_iff.1 h
        exact ⟨met.1, ih met.2 placed⟩

theorem Met.placeAll {fs : Fields αs} {slots slots' : Slots αs} {members : List (String × Json)}
    (met : fs.Met slots) (proper : ∀ m ∈ members, m.2.IsProper)
    (h : fs.placeAll slots members = .ok slots') : fs.Met slots' := by
  induction members generalizing slots with
  | nil =>
      cases h
      exact met
  | cons m members ih =>
      rw [Fields.placeAll] at h
      split at h
      · next placed =>
          have first := met.place (proper m List.mem_cons_self) placed
          exact ih first (fun m' inside => proper m' (List.mem_cons_of_mem m inside)) h
      · cases h

theorem Met.complete {fs : Fields αs} {slots : Slots αs} {row : Row αs} (met : fs.Met slots)
    (h : fs.complete slots = .ok row) : fs.Yields row := by
  induction αs with
  | nil => trivial
  | cons α αs ih =>
      obtain ⟨f, fs⟩ := fs
      obtain ⟨slot, slots⟩ := slots
      simp only [Fields.complete] at h
      split at h
      · obtain ⟨others, rest, rfl⟩ := map_eq_ok_iff.1 h
        exact ⟨.inl (met.1 _ rfl), ih met.2 rest⟩
      · next absent =>
          obtain ⟨others, rest, rfl⟩ := map_eq_ok_iff.1 h
          exact ⟨.inr (by rw [absent]; rfl), ih met.2 rest⟩
      · next absent =>
          obtain ⟨others, rest, rfl⟩ := map_eq_ok_iff.1 h
          exact ⟨.inr (by rw [absent]; rfl), ih met.2 rest⟩
      · cases h

theorem yields_of_ofMembers {fs : Fields αs} {row : Row αs} {members : List (String × Json)}
    (proper : ∀ m ∈ members, m.2.IsProper) (h : fs.ofMembers members = .ok row) :
    fs.Yields row := by
  rw [ofMembers] at h
  split at h
  · cases h
  · next placed => exact ((met_noSlots fs).placeAll proper placed).complete h

theorem yields_of_inOrder {fs : Fields αs} {expected : String} {met : Nat} {items : List Json}
    {r : Row αs × List Json} (proper : ∀ v ∈ items, v.IsProper)
    (h : fs.inOrder expected met items = .ok r) : fs.Yields r.1 := by
  induction αs generalizing met items with
  | nil => trivial
  | cons α αs ih =>
      obtain ⟨f, fs⟩ := fs
      cases items with
      | nil =>
          rw [inOrder] at h
          split at h
          · next absent =>
              obtain ⟨rest, given, rfl⟩ := map_eq_ok_iff.1 h
              exact ⟨.inr (by rw [absent]; rfl), ih proper given⟩
          · cases h
      | cons v items =>
          rw [inOrder] at h
          split at h
          · next read =>
              obtain ⟨rest, given, rfl⟩ := map_eq_ok_iff.1 h
              have first := proper v List.mem_cons_self
              exact ⟨.inl ⟨v, first, read⟩,
                ih (fun w inside => proper w (List.mem_cons_of_mem v inside)) given⟩
          · cases h

theorem yields_of_ofItems {fs : Fields αs} {row : Row αs} {type : String} {surplus : Surplus}
    {items : List Json} (proper : ∀ v ∈ items, v.IsProper)
    (h : fs.ofItems type surplus items = .ok row) : fs.Yields row := by
  rw [ofItems] at h
  split at h
  · cases h
  · next given =>
      split at h
      · cases h
        exact yields_of_inOrder proper given
      · cases h

end Fields

namespace Reader

variable {α : Type} {αs : List Type} {fs : Fields αs} {a : α}

theorem Yields.of_record {type : String} {build : Row αs → α}
    (h : (record αs type fs build).Yields a) : ∃ row, fs.Yields row ∧ build row = a := by
  obtain ⟨v, proper, given⟩ := h
  cases proper with
  | object proper =>
      obtain ⟨row, read, same⟩ := map_eq_ok_iff.1 given
      exact ⟨row, Fields.yields_of_ofMembers proper read, same⟩
  | array proper =>
      obtain ⟨row, read, same⟩ := map_eq_ok_iff.1 given
      exact ⟨row, Fields.yields_of_ofItems proper read, same⟩
  | _ => cases given

end Reader

/-! ## Variants -/

def Variant.Yields {α : Type} (variant : Variant α) (a : α) : Prop :=
  match variant with
  | .bare b => b = a
  | .holding r => r.Yields a
  | .fields read => ∃ members, (∀ m ∈ members, m.2.IsProper) ∧ read members = .ok a

variable {α : Type} {a : α}

theorem Variant.yields_of_read {variant : Variant α} {held : Option Json}
    (proper : ∀ v ∈ held, v.IsProper) (h : variant.read held = .ok a) : variant.Yields a := by
  cases variant with
  | bare b =>
      cases held with
      | none =>
          cases h
          rfl
      | some v =>
          obtain ⟨_, _, same⟩ := map_eq_ok_iff.1 h
          exact same
  | holding r =>
      cases held with
      | none => cases h
      | some v => exact ⟨v, proper v rfl, h⟩
  | fields read =>
      cases held with
      | none => cases h
      | some v =>
          cases proper v rfl with
          | @object members inner => exact ⟨members, inner, h⟩
          | _ => cases h

theorem mem_of_lookup {β : Type} {all : List (String × β)} {name : String} {b : β}
    (h : all.lookup name = some b) : (name, b) ∈ all := by
  obtain ⟨before, after, split, -⟩ := List.lookup_eq_some_iff.1 h
  simp [split]

theorem Reader.Yields.of_variants {all : List (String × Variant α)}
    (h : (variants all).Yields a) : ∃ name variant, (name, variant) ∈ all ∧ variant.Yields a := by
  obtain ⟨v, proper, given⟩ := h
  cases proper with
  | string name =>
      simp only [variants] at given
      split at given
      · next variant known =>
          exact ⟨name, variant, mem_of_lookup known,
            variant.yields_of_read (fun _ held => by cases held) given⟩
      · cases given
  | @object members proper =>
      simp only [variants] at given
      split at given
      · next same => cases same
      · next name held same =>
          cases same
          split at given
          · next variant known =>
              refine ⟨name, variant, mem_of_lookup known, variant.yields_of_read ?_ given⟩
              rintro v ⟨⟩
              exact proper (name, held) List.mem_cons_self
          · cases given
      · cases given
      · cases given
  | _ => cases given

theorem Variant.Yields.of_fields {αs : List Type} {fs : Fields αs} {build : Row αs → α}
    (h : (Variant.ofFields αs fs build).Yields a) : ∃ row, fs.Yields row ∧ build row = a := by
  obtain ⟨members, proper, given⟩ := h
  obtain ⟨row, read, same⟩ := map_eq_ok_iff.1 given
  exact ⟨row, Fields.yields_of_ofMembers proper read, same⟩

end ModelDepot.Json
