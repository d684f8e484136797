import ModelDepot.Json.Shape
import ModelDepot.Proofs.Json.Reordered

/-! # Readers that restore what was written

A reader restores a value from a written form if it gives the value for the form, in whatever order
the members of objects stand. Readers of records and variants restore what they are built of.
-/

namespace ModelDepot.Json

namespace Reader

/-- The reader gives `a` for `v` and whatever is `v` up to the order of members. -/
def Restores {α : Type} (r : Reader α) (v : Json) (a : α) : Prop :=
  ∀ j, Reordered v j → r j = .ok a

variable {α β : Type} {r : Reader α} {v : Json} {a : α}

theorem restores_string (s : String) : string.Restores (.string s) s := by
  intro j h
  rw [h.eq_string]
  rfl

theorem restores_bool (b : Bool) : bool.Restores (.bool b) b := by
  intro j h
  rw [h.eq_bool]
  rfl

theorem word_nat {n size : Nat} (expected : String) (h : n < size) :
    word size expected (.nat n) = .ok n := by
  have fits : (0 : Int) ≤ n ∧ (n : Int) < size := ⟨Int.natCast_nonneg n, Int.ofNat_lt.2 h⟩
  simp only [word, nat, int, fits, and_self, if_true, Int.toNat_natCast]

theorem u64_nat {n : Nat} (h : n < UInt64.size) : u64 (.nat n) = .ok (.ofNat n) := by
  rw [u64, word_nat "u64" h]
  rfl

theorem u32_nat {n : Nat} (h : n < UInt32.size) : u32 (.nat n) = .ok (.ofNat n) := by
  rw [u32, word_nat "u32" h]
  rfl

theorem u16_nat {n : Nat} (h : n < UInt16.size) : u16 (.nat n) = .ok (.ofNat n) := by
  rw [u16, word_nat "u16" h]
  rfl

theorem restores_u64 (n : UInt64) : u64.Restores (.nat n.toNat) n := by
  intro j h
  rw [h.eq_number]
  exact (u64_nat n.toNat_lt).trans (congrArg Except.ok n.ofNat_toNat)

theorem restores_u16 (n : UInt16) : u16.Restores (.nat n.toNat) n := by
  intro j h
  rw [h.eq_number]
  exact (u16_nat n.toNat_lt).trans (congrArg Except.ok n.ofNat_toNat)

theorem restores_float {x : Binary64} (h : x.isFinite = true) :
    float.Restores (.float x) x := by
  intro j reordered
  rw [Json.float, if_pos h] at reordered
  rw [reordered.eq_number]
  rfl

theorem Restores.map (h : r.Restores v a) (f : α → β) :
    Restores (fun v => (r v).map f) v (f a) := by
  intro j reordered
  simp only [h j reordered, Except.map]

theorem restores_none : r.option.Restores .null none := by
  intro j h
  rw [h.eq_null]
  rfl

theorem Restores.some (h : r.Restores v a) (hv : v ≠ .null) : r.option.Restores v (some a) := by
  intro j reordered
  have given := h j reordered
  cases j with
  | null => exact absurd rfl (reordered.ne_null hv)
  | _ => simp only [option, given, Except.map]

theorem restores_optString (s : Option String) : string.option.Restores (.optString s) s := by
  cases s with
  | none => exact restores_none
  | some s => exact (restores_string s).some nofun

theorem mapM_of_restores {items items' : List Json} {as : List α}
    (h : List.Forall₂ r.Restores items as) (same : List.Forall₂ Reordered items items') :
    items'.mapM r = .ok as := by
  induction h generalizing items' with
  | nil =>
      cases same
      rfl
  | cons first _ ih =>
      cases same with
      | cons inner rest =>
          rw [List.mapM_cons, first _ inner, ih rest]
          rfl

theorem restores_list {items : List Json} {as : List α}
    (h : List.Forall₂ r.Restores items as) : (list r).Restores (.array items) as := by
  intro j reordered
  obtain ⟨items', rfl, same⟩ := reordered.exists_items
  exact mapM_of_restores h same

theorem restores_list_map {write : α → Json} {as : List α}
    (h : ∀ a ∈ as, r.Restores (write a) a) : (list r).Restores (.array (as.map write)) as := by
  apply restores_list
  rw [List.forall₂_map_left_iff, List.forall₂_same]
  exact h

end Reader

/-! ## Records -/

/-- What stands for a field that an object leaves out. -/
def Absent.inObject? {α : Type} : Absent α → Option α
  | .refused => none
  | .inObjects a | .anywhere a => some a

namespace Field

variable {α : Type}

@[simp] theorem name_required (name : String) (r : Reader α) : (required name r).name = name := rfl

@[simp] theorem name_optional (name : String) (r : Reader α) : (optional name r).name = name := rfl

@[simp] theorem name_default (name : String) (r : Reader α) (a : α) :
    (default name r a).name = name := rfl

@[simp] theorem name_lenient (name : String) (r : Reader α) : (lenient name r).name = name := rfl

theorem isNamed_iff {f : Field α} (plain : f.aliases = []) (key : String) :
    f.isNamed key = true ↔ key = f.name := by
  simp [isNamed, plain]

theorem isNamed_of_ne {f : Field α} (plain : f.aliases = []) {key : String} (h : key ≠ f.name) :
    f.isNamed key = false := by
  rw [Bool.eq_false_iff]
  exact mt (isNamed_iff plain key).1 h

/-- What the members hold for the field restores `a`, or they may leave it out. -/
structure Fits (f : Field α) (members : List (String × Json)) (a : α) : Prop where
  held : ∀ v, (f.name, v) ∈ members → f.read.Restores v a
  left : f.name ∉ keys members → f.absent.inObject? = some a

theorem fits_of_member {f : Field α} {members : List (String × Json)} {v : Json} {a : α}
    (own : ∀ w, (f.name, w) ∈ members ↔ w = v) (restores : f.read.Restores v a) :
    f.Fits members a where
  held w inside := by
    rw [(own w).1 inside]
    exact restores
  left absent := absurd (mem_keys_iff.2 ⟨v, (own v).2 rfl⟩) absent

theorem fits_of_optMember {f : Field α} {members : List (String × Json)} {a : α}
    (value : Option Json) (own : ∀ w, (f.name, w) ∈ members ↔ value = some w)
    (restores : ∀ v, value = some v → f.read.Restores v a)
    (left : value = none → f.absent.inObject? = some a) : f.Fits members a where
  held w inside := restores w ((own w).1 inside)
  left absent := by
    apply left
    cases said : value with
    | none => rfl
    | some v => exact absurd (mem_keys_iff.2 ⟨v, (own v).2 said⟩) absent

theorem fits_lenient {β : Type} {r : Reader β} {name : String} {members : List (String × Json)}
    {write : β → Json} {b? : Option β}
    (own : ∀ w, (name, w) ∈ members ↔ b?.map write = some w)
    (restores : ∀ b, r.Restores (write b) b) (said : ∀ b, write b ≠ .null) :
    (lenient name r).Fits members b? := by
  apply fits_of_optMember _ own
  · intro v written
    obtain ⟨b, rfl, rfl⟩ := Option.map_eq_some_iff.1 written
    exact (restores b).some (said b)
  · intro unsaid
    rw [Option.map_eq_none_iff.1 unsaid]
    rfl

/-- What the members hold for the field is read as `a`, or they may leave it out. -/
structure Reads (f : Field α) (members : List (String × Json)) (a : α) : Prop where
  held : ∀ v, (f.name, v) ∈ members → f.read v = .ok a
  left : f.name ∉ keys members → f.absent.inObject? = some a

/-- What fits the members that were written is read from the members that are found. -/
theorem Fits.reads {f : Field α} {members held members' : List (String × Json)} {a : α}
    (fits : f.Fits members a) (same : SameMembers members held) (perm : held.Perm members') :
    f.Reads members' a where
  held v inside := by
    obtain ⟨v', written, reordered⟩ := same.exists_of_mem (perm.mem_iff.2 inside)
    exact fits.held v' written v reordered
  left absent := by
    refine fits.left fun written => absent ?_
    rw [← same.keys_eq] at written
    exact (perm.map _).mem_iff.1 written

def slot (f : Field α) (members : List (String × Json)) (a : α) : Option α :=
  if f.name ∈ keys members then some a else none

theorem slot_concat_of_ne {f : Field α} {key : String} (h : key ≠ f.name) (v : Json)
    (done : List (String × Json)) (a : α) : f.slot (done ++ [(key, v)]) a = f.slot done a := by
  simp only [slot, mem_keys_concat, Ne.symm h, or_false]

end Field

namespace Fields

def names : {αs : List Type} → Fields αs → List String
  | [], _ => []
  | _ :: _, (f, fs) => f.name :: names fs

def aliases : {αs : List Type} → Fields αs → List String
  | [], _ => []
  | _ :: _, (f, fs) => f.aliases ++ aliases fs

/-- Every field has one name, its own. -/
def IsPlain {αs : List Type} (fs : Fields αs) : Prop :=
  fs.aliases = [] ∧ fs.names.Nodup

def All (P : ∀ {α : Type}, Field α → α → Prop) : {αs : List Type} → Fields αs → Row αs → Prop
  | [], _, _ => True
  | _ :: _, (f, fs), (a, row) => P f a ∧ All P fs row

def Fits {αs : List Type} (fs : Fields αs) (members : List (String × Json)) (row : Row αs) :
    Prop :=
  fs.All (fun f a => f.Fits members a) row

def Reads {αs : List Type} (fs : Fields αs) (members : List (String × Json)) (row : Row αs) :
    Prop :=
  fs.All (fun f a => f.Reads members a) row

def slots (members : List (String × Json)) : {αs : List Type} → Fields αs → Row αs → Slots αs
  | [], _, _ => ()
  | _ :: _, (f, fs), (a, row) => (f.slot members a, slots members fs row)

variable {αs : List Type} {members members' done : List (String × Json)} {key : String} {v : Json}

theorem isPlain_cons_iff {α : Type} {f : Field α} {fs : Fields αs} :
    @IsPlain (α :: αs) (f, fs) ↔ f.aliases = [] ∧ f.name ∉ fs.names ∧ fs.IsPlain := by
  simp only [IsPlain, aliases, names, List.append_eq_nil_iff, List.nodup_cons]
  grind

theorem slots_concat_of_not_mem {fs : Fields αs} {row : Row αs} (h : key ∉ fs.names) :
    fs.slots (done ++ [(key, v)]) row = fs.slots done row := by
  induction αs with
  | nil => rfl
  | cons α αs ih =>
      obtain ⟨f, fs⟩ := fs
      obtain ⟨a, row⟩ := row
      obtain ⟨other, rest⟩ := List.ne_and_not_mem_of_not_mem_cons h
      rw [slots, slots, f.slot_concat_of_ne other, ih rest]

theorem place_slots {fs : Fields αs} {row : Row αs} (plain : fs.IsPlain)
    (reads : fs.Reads members row) (inside : (key, v) ∈ members) (new : key ∉ keys done) :
    fs.place (fs.slots done row) key v = .ok (fs.slots (done ++ [(key, v)]) row) := by
  induction αs with
  | nil => rfl
  | cons α αs ih =>
      obtain ⟨f, fs⟩ := fs
      obtain ⟨a, row⟩ := row
      obtain ⟨own, apart, plain⟩ := isPlain_cons_iff.1 plain
      obtain ⟨first, reads⟩ := reads
      -- the slot of the member is empty, since its key is new
      by_cases named : key = f.name
      · subst named
        have before : f.slot done a = none := if_neg new
        have after : f.slot (done ++ [(f.name, v)]) a = some a :=
          if_pos (mem_keys_concat.2 (.inr rfl))
        simp only [place, slots, (f.isNamed_iff own f.name).2 rfl, before, after, if_true,
          first.held v inside, Except.map, slots_concat_of_not_mem apart]
      · simp only [place, slots, f.isNamed_of_ne own named, f.slot_concat_of_ne named,
          ih plain reads, Except.map]
        rfl

theorem placeAll_slots {fs : Fields αs} {row : Row αs} (plain : fs.IsPlain)
    {rest : List (String × Json)} (distinct : (keys (done ++ rest)).Nodup)
    (reads : fs.Reads (done ++ rest) row) :
    fs.placeAll (fs.slots done row) rest = .ok (fs.slots (done ++ rest) row) := by
  -- the members already met move from what is left to what is done
  induction rest generalizing done with
  | nil => simp [placeAll]
  | cons m rest ih =>
      obtain ⟨key, v⟩ := m
      have new : key ∉ keys done := by
        intro met
        simp only [keys, List.map_append, List.map_cons] at distinct met
        exact (List.nodup_append.1 distinct).2.2 key met key List.mem_cons_self rfl
      have all : done ++ (key, v) :: rest = done ++ [(key, v)] ++ rest := by simp
      rw [placeAll, place_slots plain reads (by simp) new]
      rw [all] at distinct reads ⊢
      exact ih distinct reads

theorem complete_slots {fs : Fields αs} {row : Row αs} (reads : fs.Reads members row) :
    fs.complete (fs.slots members row) = .ok row := by
  induction αs with
  | nil => rfl
  | cons α αs ih =>
      obtain ⟨f, fs⟩ := fs
      obtain ⟨a, row⟩ := row
      obtain ⟨first, reads⟩ := reads
      have rest := ih reads
      by_cases met : f.name ∈ keys members
      · simp [complete, slots, Field.slot, met, rest, Except.map]
      · have left := first.left met
        cases absent : f.absent with
        | refused =>
            rw [absent] at left
            cases left
        | inObjects b | anywhere b =>
            rw [absent] at left
            cases left
            simp [complete, slots, Field.slot, met, absent, rest, Except.map]

theorem slots_nil (fs : Fields αs) (row : Row αs) : fs.slots [] row = noSlots αs := by
  induction αs with
  | nil => rfl
  | cons α αs ih => exact congrArg (Prod.mk none) (ih fs.2 row.2)

theorem ofMembers_of_reads {fs : Fields αs} {row : Row αs} (plain : fs.IsPlain)
    (distinct : (keys members).Nodup) (reads : fs.Reads members row) :
    fs.ofMembers members = .ok row := by
  have met : fs.placeAll (fs.slots [] row) members = .ok (fs.slots members row) :=
    placeAll_slots plain distinct reads
  rw [slots_nil] at met
  rw [ofMembers, met]
  exact complete_slots reads

theorem All.imp {P Q : ∀ {α : Type}, Field α → α → Prop} {fs : Fields αs} {row : Row αs}
    (h : ∀ {α : Type} (f : Field α) a, P f a → Q f a) (all : fs.All P row) : fs.All Q row := by
  induction αs with
  | nil => trivial
  | cons α αs ih => exact ⟨h fs.1 row.1 all.1, ih all.2⟩

/-- What fits the members of an object is read from it, whatever their order. -/
theorem Fits.ofMembers {fs : Fields αs} {row : Row αs} (fits : fs.Fits members row)
    (plain : fs.IsPlain) (named : (keys members).Sublist fs.names)
    {held : List (String × Json)} (same : SameMembers members held)
    (perm : held.Perm members') : fs.ofMembers members' = .ok row := by
  refine ofMembers_of_reads plain ?_ (All.imp (fun _ _ fits => fits.reads same perm) fits)
  have distinct := plain.2.sublist named
  rw [← same.keys_eq] at distinct
  exact (perm.map _).nodup_iff.1 distinct

end Fields

namespace Reader

variable {α : Type} {αs : List Type} {fs : Fields αs}
  {members : List (String × Json)} {name : String} {v : Json} {a : α} {r : Reader α}
  {all : List (String × Variant α)}

/-- An object is read as the record that its members fit; the members that are written have names
of fields, in their order. -/
theorem restores_record {type : String} {build : Row αs → α} (row : Row αs)
    (built : build row = a) (plain : fs.IsPlain) (named : (keys members).Sublist fs.names)
    (fits : fs.Fits members row) : (record αs type fs build).Restores (.object members) a := by
  intro j reordered
  obtain ⟨held, members', rfl, same, perm⟩ := reordered.exists_members
  change (fs.ofMembers members').map build = .ok a
  rw [fits.ofMembers plain named same perm, ← built]
  rfl

/-! ## Variants -/

theorem restores_bare (known : all.lookup name = some (.bare a)) :
    (variants all).Restores (.string name) a := by
  intro j reordered
  rw [reordered.eq_string]
  simp only [variants, known]
  rfl

theorem restores_holding (known : all.lookup name = some (.holding r)) (h : r.Restores v a) :
    (variants all).Restores (.object [(name, v)]) a := by
  intro j reordered
  obtain ⟨v', rfl, inner⟩ := reordered.exists_member
  simp only [variants, known]
  exact h v' inner

theorem restores_fields {build : Row αs → α}
    (known : all.lookup name = some (.ofFields αs fs build)) (row : Row αs) (built : build row = a)
    (plain : fs.IsPlain) (named : (keys members).Sublist fs.names)
    (fits : fs.Fits members row) :
    (variants all).Restores (.object [(name, .object members)]) a := by
  intro j reordered
  obtain ⟨v', rfl, inner⟩ := reordered.exists_member
  obtain ⟨held, members', rfl, same, perm⟩ := inner.exists_members
  simp only [variants, known]
  change (fs.ofMembers members').map build = .ok a
  rw [fits.ofMembers plain named same perm, ← built]
  rfl

end Reader

end ModelDepot.Json
