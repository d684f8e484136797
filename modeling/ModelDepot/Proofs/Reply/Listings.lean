import ModelDepot.Proofs.Reply.Objects

/-! # Listings

A backend lists its models in an array, or in an object with this array under `models`. Either way
the models are those of the array, in its order, and one item that is no model spoils the listing.
-/

namespace ModelDepot.Payload

open Json

/-- The value lists the items: it is their array, or an object that has their array under
`models`. -/
inductive Lists : Json → List Json → Prop where
  | bare (items : List Json) : Lists (.array items) items
  | wrapped {members : List (String × Json)} {items : List Json} :
      values ["models"] members = [.array items] → Lists (.object members) items

/-! ## A model -/

/-- The members hold what a model may hold, each of its fields under one name at most. -/
structure HoldsModel (members : List (String × Json)) : Prop where
  name : ∃ s, values ["name"] members = [.string s]
  description : MayBe (fun v => ∃ s, v = .string s) (values ["description"] members)
  sizeBytes : MayBe (fun v => ∃ n < UInt64.size, v = .nat n) (values ["size_bytes", "size"] members)
  parameterCount : MayBe (fun v => ∃ n < UInt64.size, v = .nat n)
    (values ["parameter_count", "parameters"] members)
  downloaded : MayBe (fun v => ∃ b, v = .bool b) (values ["downloaded", "is_downloaded"] members)
  recommended : MayBe (fun v => ∃ b, v = .bool b)
    (values ["recommended", "kc_recommended"] members)
  tags : MayBe (fun v => v = .null ∨ ∃ tags : List String, v = .array (tags.map .string))
    (values ["tags"] members)
  category : MayBe IsTextOrNull (values ["category"] members)
  version : MayBe IsTextOrNull (values ["version"] members)

/-- The model is what the members say, with a value for everything that they leave out. -/
structure MeansModel (members : List (String × Json)) (m : Model) : Prop where
  name : values ["name"] members = [.string m.name]
  description : IsOrDefault .string "" (values ["description"] members) m.description
  sizeBytes : IsOrDefault (fun n => .nat n.toNat) 0
    (values ["size_bytes", "size"] members) m.sizeBytes
  parameterCount : IsOrDefault (fun n => .nat n.toNat) 0
    (values ["parameter_count", "parameters"] members) m.parameterCount
  downloaded : IsOrDefault .bool false (values ["downloaded", "is_downloaded"] members) m.downloaded
  recommended : IsOrDefault .bool false
    (values ["recommended", "kc_recommended"] members) m.recommended
  tags : (values ["tags"] members = [] ∨ values ["tags"] members = [.null]) ∧ m.tags = [] ∨
    values ["tags"] members = [.array (m.tags.map .string)]
  category : ∀ s, m.category = some s ↔
    values ["category"] members = [.string s] ∧ Text.isBlankText s = false
  version : ∀ s, m.version = some s ↔
    values ["version"] members = [.string s] ∧ Text.isBlankText s = false

section Models

variable {members : List (String × Json)} {m : Model}

theorem isOk_model_object_iff :
    (∃ m, readModel (.object members) = .ok m) ↔ HoldsModel members := by
  refine (Reader.isOk_record_object_iff (by decide)).trans ?_
  simp only [Fields.AllGiven, Field.Given, Field.takesFrom_alsoNamed,
    Field.exists_takesFrom_required_iff, Field.exists_takesFrom_default_iff,
    Field.exists_takesFrom_lenient_iff, Reader.reads_option_iff, Reader.reads_string_iff,
    Reader.reads_bool_iff, Reader.reads_u64_iff, Reader.string_undoes.list.reads_iff, MayBe,
    and_true]
  constructor
  · rintro ⟨⟨_, name, s, rfl⟩, description, size, parameters, downloaded, recommended, tags,
      category, version⟩
    exact ⟨⟨s, name⟩, description, size, parameters, downloaded, recommended, tags, category,
      version⟩
  · rintro ⟨⟨s, name⟩, description, size, parameters, downloaded, recommended, tags, category,
      version⟩
    exact ⟨⟨_, name, s, rfl⟩, description, size, parameters, downloaded, recommended, tags,
      category, version⟩

theorem nonBlank_eq_some_iff_of_takesFrom {name s : String} {vs : List Json} {s? : Option String}
    (h : (Field.lenient name Reader.string).TakesFrom vs s?) :
    Text.nonBlank s? = some s ↔ vs = [.string s] ∧ Text.isBlankText s = false := by
  have held := Field.eq_some_of_takesFrom Reader.string_undoes (fun _ => nofun) h s
  rw [Text.nonBlank, Option.filter_eq_some_iff, held, Bool.not_eq_true']

theorem meansModel_of_read (h : readModel (.object members) = .ok m) : MeansModel members m := by
  obtain ⟨⟨_, _, _, _, _, _, tags, _, _, _⟩, ⟨name, description, size, parameters, downloaded,
    recommended, tagged, category, version, -⟩, rfl⟩ :=
      (Reader.record_object_eq_ok_iff (by decide)).1 h
  constructor
  · exact (Field.takesFrom_required_iff Reader.string_undoes).1 name
  · exact (Field.takesFrom_default_iff Reader.string_undoes).1 description
  · rw [Field.Given, Field.takesFrom_alsoNamed] at size
    exact (Field.takesFrom_default_iff Reader.u64_undoes).1 size
  · rw [Field.Given, Field.takesFrom_alsoNamed] at parameters
    exact (Field.takesFrom_default_iff Reader.u64_undoes).1 parameters
  · rw [Field.Given, Field.takesFrom_alsoNamed] at downloaded
    exact (Field.takesFrom_default_iff Reader.bool_undoes).1 downloaded
  · rw [Field.Given, Field.takesFrom_alsoNamed] at recommended
    exact (Field.takesFrom_default_iff Reader.bool_undoes).1 recommended
  · have filled : ∀ tags : List String, Json.array (tags.map .string) ≠ .null := by simp
    rcases (Field.takesFrom_lenient_iff Reader.string_undoes.list filled).1 tagged with
      ⟨nothing, rfl⟩ | ⟨given, rfl, held⟩
    · exact .inl ⟨nothing, rfl⟩
    · exact .inr held
  · intro s
    exact nonBlank_eq_some_iff_of_takesFrom category
  · intro s
    exact nonBlank_eq_some_iff_of_takesFrom version

end Models

/-! ## A listing -/

section Listing

variable {v w : Json} {items : List Json} {list : List Model}

theorem readWrapped_object_iff {members : List (String × Json)} :
    readWrapped (.object members) = some list ↔
      ∃ items, values ["models"] members = [.array items] ∧ items.mapM readModel = .ok list := by
  have taken : wrappedFields.ofMembers members = .ok (list, ()) ↔
      ∃ v, values ["models"] members = [v] ∧ Reader.list readModel v = .ok list := by
    refine (Fields.ofMembers_eq_ok_iff (by decide)).trans ?_
    simp [wrappedFields, Fields.Given, Field.Given, Field.TakesFrom, Field.spellings,
      Field.required, Absent.inObject?]
  have wrapped : readWrapped (.object members) = some list ↔
      wrappedFields.ofMembers members = .ok (list, ()) := by
    rw [readWrapped]
    cases wrappedFields.ofMembers members with
    | error e => simp [Except.toOption]
    | ok row =>
        obtain ⟨list', ⟨⟩⟩ := row
        show some list' = some list ↔ Except.ok (list', ()) = Except.ok (list, ())
        simp
  rw [wrapped, taken]
  constructor
  · rintro ⟨v, one, read⟩
    cases v with
    | array items => exact ⟨items, one, read⟩
    | _ => cases read
  · rintro ⟨items, one, read⟩
    exact ⟨_, one, read⟩

/-- A listing is read as the models of its items, whichever form it has. -/
theorem readListing_eq_ok_iff :
    readListing v = .ok list ↔ ∃ items, Lists v items ∧ items.mapM readModel = .ok list := by
  have first : readListing v = .ok list ↔
      ((Reader.list readModel v).toOption.or (readWrapped v)) = some list := by
    rw [readListing]
    cases (Reader.list readModel v).toOption.or (readWrapped v) <;> simp
  rw [first]
  constructor
  · intro read
    -- An array is no wrapper and an object no array, so one of the two readings fails.
    cases v with
    | array items =>
        refine ⟨items, .bare items, ?_⟩
        simp only [readWrapped, Option.or_none] at read
        exact eq_ok_of_toOption read
    | object members =>
        obtain ⟨items, one, models⟩ := readWrapped_object_iff.1 read
        exact ⟨items, .wrapped one, models⟩
    | _ => cases read
  · rintro ⟨items, lists, models⟩
    cases lists with
    | bare => simp [Reader.list, models, Except.toOption]
    | wrapped one => exact readWrapped_object_iff.2 ⟨items, one, models⟩

theorem refusal_of_listing {e : ShapeError} (h : readListing v = .error e) :
    e = .noLayout "WireModelList" := by
  rw [readListing] at h
  cases read : (Reader.list readModel v).toOption.or (readWrapped v) with
  | none =>
      rw [read] at h
      exact (Except.error.inj h).symm
  | some list =>
      rw [read] at h
      cases h

/-- Why a listing is refused is not told, so listings of the same models are read alike. -/
theorem readListing_congr (same : ∀ list, readListing v = .ok list ↔ readListing w = .ok list) :
    readListing v = readListing w := by
  cases hv : readListing v with
  | ok list => exact ((same list).1 hv).symm
  | error e =>
      cases hw : readListing w with
      | ok list => exact absurd ((same list).2 hw) (by simp [hv])
      | error e' => rw [refusal_of_listing hv, refusal_of_listing hw]

theorem Lists.unique {items' : List Json} (h : Lists v items) (h' : Lists v items') :
    items' = items := by
  cases h with
  | bare =>
      cases h'
      rfl
  | wrapped one =>
      cases h' with
      | wrapped one' => simpa [one, eq_comm] using one'

theorem readListing_of_lists (lists : Lists v items) :
    readListing v = .ok list ↔ items.mapM readModel = .ok list := by
  rw [readListing_eq_ok_iff]
  constructor
  · rintro ⟨items', lists', models⟩
    obtain rfl := lists.unique lists'
    exact models
  · intro models
    exact ⟨items, lists, models⟩

/-- Every item is read, and its model stands where the item stands. -/
theorem isOk_mapM_iff {α : Type} {r : Reader α} :
    (∃ as, items.mapM r = .ok as) ↔ ∀ v ∈ items, r.Reads v := by
  simp only [Reader.mapM_eq_ok_iff]
  induction items with
  | nil => simp
  | cons v items ih =>
      simp only [List.forall₂_cons_left_iff, List.forall_mem_cons, ← ih]
      constructor
      · rintro ⟨_, a, as, first, rest, rfl⟩
        exact ⟨⟨a, first⟩, as, rest⟩
      · rintro ⟨⟨a, first⟩, as, rest⟩
        exact ⟨_, a, as, first, rest, rfl⟩

end Listing

section Replies

variable {payload : String} {v : Json} {items : List Json} {list : List Model}

theorem models_eq_judge (hv : Json.read (Text.trim payload) = .ok v) :
    models payload = judge "model list" readListing v := by
  have filled : ¬ Text.isBlankText payload = true := by
    rw [← Text.trim_eq_empty_iff]
    intro empty
    rw [empty] at hv
    cases hv
  rw [models, if_neg filled]
  exact decode_eq_judge hv

/-- A listing that is not empty lists the models of an array, one for each of its items. -/
theorem exists_items_of_models (h : models payload = .ok list) :
    Text.isBlankText payload = true ∧ list = [] ∨
    ∃ v items, Json.read (Text.trim payload) = .ok v ∧ Lists v items ∧
      List.Forall₂ (fun item m => readModel item = .ok m) items list := by
  by_cases blank : Text.isBlankText payload = true
  · rw [models, if_pos blank] at h
    exact .inl ⟨blank, (Except.ok.inj h).symm⟩
  · right
    cases hv : Json.read (Text.trim payload) with
    | error message =>
        have garbled := (sorts_models.noJson payload (mt (Text.trim_eq_empty_iff payload).1 blank)
          fun v => by simp [hv])
        obtain ⟨e, refused⟩ := garbled
        rw [refused] at h
        cases h
    | ok v =>
        rw [models_eq_judge hv, judge_eq_ok_iff, readListing_eq_ok_iff] at h
        obtain ⟨-, items, lists, read⟩ := h
        exact ⟨v, items, rfl, lists, Reader.mapM_eq_ok_iff.1 read⟩

section Quiet

variable (hv : Json.read (Text.trim payload) = .ok v) (quiet : remoteError v = none)
  (lists : Lists v items)
include hv quiet lists

theorem models_eq_ok_iff : models payload = .ok list ↔ items.mapM readModel = .ok list := by
  rw [models_eq_judge hv, judge_eq_ok_iff, readListing_of_lists lists]
  exact and_iff_right quiet

theorem models_of_misfit (misfit : ∃ item ∈ items, ¬ readModel.Reads item) :
    models payload = .error (.decode
      ⟨"model list", "data did not match any variant of untagged enum WireModelList"⟩) := by
  cases read : readListing v with
  | error e =>
      rw [models_eq_judge hv, judge_of_error quiet read, refusal_of_listing read]
      rfl
  | ok list =>
      obtain ⟨item, inside, unread⟩ := misfit
      exact absurd (isOk_mapM_iff.1 ⟨list, (readListing_of_lists lists).1 read⟩ item inside) unread

end Quiet

end Replies

/-- Bare or wrapped, an array of objects is the same listing: the models of its items in their
order, each with a value for everything that its item leaves out. One item that is no model spoils
the listing, whatever is wrong with it. No listing has other models than those of its items. -/
theorem bare_and_wrapped_listings_agree {bare wrapped : String} {items : List Json}
    {members : List (String × Json)}
    (hbare : Json.read (Text.trim bare) = .ok (.array items))
    (hwrapped : Json.read (Text.trim wrapped) = .ok (.object members))
    (quiet : IsQuiet members) (held : lookup "models" members = some (.array items))
    (objects : ∀ item ∈ items, ∃ model, item = .object model) :
    models wrapped = models bare ∧
    ((∃ list, models bare = .ok list) ↔ ∀ model, .object model ∈ items → HoldsModel model) ∧
    (∀ list, models bare = .ok list →
      List.Forall₂ (fun item m => ∃ model, item = .object model ∧ MeansModel model m) items list) ∧
    ((∃ model, .object model ∈ items ∧ ¬ HoldsModel model) → models bare = .error (.decode
      ⟨"model list", "data did not match any variant of untagged enum WireModelList"⟩)) ∧
    ∀ payload list, models payload = .ok list →
      Text.isBlankText payload = true ∧ list = [] ∨
      ∃ v items', Json.read (Text.trim payload) = .ok v ∧ Lists v items' ∧
        List.Forall₂ (fun item m => readModel item = .ok m) items' list := by
  have one : values ["models"] members = [.array items] := by
    rw [values_singleton (nodup_keys_of_read hwrapped), held]
    rfl
  have lists : Lists (.array items) items := .bare items
  have unreported : remoteError (.array items) = none := rfl
  refine ⟨?_, ?_, ?_, ?_, fun payload list => exists_items_of_models⟩
  · have same : readListing (.object members) = readListing (.array items) := by
      apply readListing_congr
      intro list
      rw [readListing_of_lists (.wrapped one), readListing_of_lists lists]
    rw [models_eq_judge hwrapped, models_eq_judge hbare, judge, judge, isQuiet_iff.1 quiet,
      unreported, same]
  · simp only [models_eq_ok_iff hbare unreported lists, isOk_mapM_iff]
    constructor
    · intro read model inside
      exact isOk_model_object_iff.1 (read _ inside)
    · intro holds item inside
      obtain ⟨model, rfl⟩ := objects item inside
      exact isOk_model_object_iff.2 (holds model inside)
  · intro list given
    have read := Reader.mapM_eq_ok_iff.1 ((models_eq_ok_iff hbare unreported lists).1 given)
    refine ((List.forall₂_and_left items list).2 ⟨objects, read⟩).imp ?_
    rintro _ m ⟨⟨model, rfl⟩, read⟩
    exact ⟨model, rfl, meansModel_of_read read⟩
  · rintro ⟨model, inside, misfit⟩
    exact models_of_misfit hbare unreported lists
      ⟨_, inside, mt isOk_model_object_iff.1 misfit⟩

/-- The one model of a bare listing and of a wrapped one that also counts it. -/
theorem bare_and_wrapped_listings_agree_on_one_model :
    models "\x7b\"count\":1,\"models\":[\x7b\"name\":\"phi\",\"size\":7\x7d]\x7d" =
      models "[\x7b\"name\":\"phi\",\"size\":7\x7d]" ∧
    HoldsModel [("name", .string "phi"), ("size", .nat 7)] := by
  have hbare : Json.read (Text.trim "[\x7b\"name\":\"phi\",\"size\":7\x7d]") =
      .ok (.array [.object [("name", .string "phi"), ("size", .nat 7)]]) :=
    eq_ok_of_toOption (by decide +kernel)
  have hwrapped : Json.read (Text.trim
      "\x7b\"count\":1,\"models\":[\x7b\"name\":\"phi\",\"size\":7\x7d]\x7d") =
      .ok (.object [("count", .nat 1),
        ("models", .array [.object [("name", .string "phi"), ("size", .nat 7)]])]) :=
    eq_ok_of_toOption (by decide +kernel)
  obtain ⟨same, isOk, -⟩ := bare_and_wrapped_listings_agree hbare hwrapped nofun rfl (by simp)
  have given : models "[\x7b\"name\":\"phi\",\"size\":7\x7d]" =
      .ok [⟨"phi", "", 7, 0, false, false, [], none, none⟩] := eq_ok_of_toOption (by decide +kernel)
  exact ⟨same, isOk.1 ⟨_, given⟩ _ (List.mem_singleton_self _)⟩

end ModelDepot.Payload
