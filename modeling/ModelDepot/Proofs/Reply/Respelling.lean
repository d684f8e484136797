import ModelDepot.Proofs.Reply.Listings

/-! # Other spellings of one reply

A field may go by its other name, and an object may have members that no field goes by. The answer
is the same; only what is wrong with a garbled reply may be told in other words when a field gets
its other name, for the members are met in the order of their keys.
-/

namespace ModelDepot.Payload

open Json

/-! ## Changes of an object -/

/-- Two names of one field, for every field that has two. -/
abbrev Aliases := List (String × String)

/-- A field that goes by one of its two names gets the other, which may put it elsewhere among the
members. -/
inductive Renames (aliases : Aliases) (members members' : List (String × Json)) : Prop where
  | field {old new : String} :
      (old, new) ∈ aliases ∨ (new, old) ∈ aliases → new ∉ keys members →
      members'.Perm (renamed old new members) → Renames aliases members members'

/-- One more member, under a name that is none of those given. -/
inductive Adds (names : List String) : List (String × Json) → List (String × Json) → Prop where
  | member {key : String} (before : List (String × Json)) (v : Json)
      (after : List (String × Json)) :
      key ∉ names → Adds names (before ++ after) (before ++ (key, v) :: after)

/-- One more member of a whole reply: as of any object, but not an `error`, unless it says nothing
and is the only one. -/
inductive AddsToReply (names : List String) :
    List (String × Json) → List (String × Json) → Prop where
  | member {key : String} (before : List (String × Json)) (v : Json)
      (after : List (String × Json)) :
      key ∉ names → key ≠ "error" →
      AddsToReply names (before ++ after) (before ++ (key, v) :: after)
  | silent (before : List (String × Json)) {v : Json} (after : List (String × Json)) :
      "error" ∉ keys (before ++ after) →
      v = .null ∨ (∃ s, v = .string s ∧ Text.isBlankText s = true) →
      AddsToReply names (before ++ after) (before ++ ("error", v) :: after)

/-- The value is an object that is changed so. -/
inductive InObject (Change : List (String × Json) → List (String × Json) → Prop) :
    Json → Json → Prop where
  | members {members members' : List (String × Json)} :
      Change members members' → InObject Change (.object members) (.object members')

/-- Some of the listed models are changed so, in a bare listing or in a wrapped one. -/
inductive InListing (Change : List (String × Json) → List (String × Json) → Prop) :
    Json → Json → Prop where
  | bare {items items' : List Json} :
      List.Forall₂ (fun v v' => v' = v ∨ InObject Change v v') items items' →
      InListing Change (.array items) (.array items')
  | wrapped (before after : List (String × Json)) {items items' : List Json} :
      List.Forall₂ (fun v v' => v' = v ∨ InObject Change v v') items items' →
      InListing Change (.object (before ++ ("models", .array items) :: after))
        (.object (before ++ ("models", .array items') :: after))

/-! ## Names -/

def modelAliases : Aliases :=
  [("size_bytes", "size"), ("parameter_count", "parameters"), ("downloaded", "is_downloaded"),
    ("recommended", "kc_recommended")]

def statusAliases : Aliases := [("model_name", "model")]

def updateAliases : Aliases := [("new_version", "latest_version")]

def modelNames : List String :=
  ["name", "description", "size_bytes", "size", "parameter_count", "parameters", "downloaded",
    "is_downloaded", "recommended", "kc_recommended", "tags", "category", "version"]

def statusNames : List String :=
  ["model_name", "model", "progress", "completed", "status", "downloaded_bytes", "total_bytes"]

def healthNames : List String := ["status", "version", "name"]

def updateNames : List String :=
  ["available", "current_version", "new_version", "latest_version", "release_notes", "download_url"]

def acknowledgementNames : List String :=
  ["status", "message", "model", "from_version", "to_version"]

/-! ## Objects -/

section Objects

variable {α : Type} {αs : List Type} {fs : Fields αs} {type : String} {build : Row αs → α}
  {aliases : Aliases} {names : List String} {v v' : Json} {members members' : List (String × Json)}

theorem Renames.values_perm (h : Renames aliases members members') (names : List String)
    (paired : ∀ pair ∈ aliases, pair.1 ∈ names ↔ pair.2 ∈ names) :
    (values names members).Perm (values names members') := by
  obtain @⟨old, new, isAlias, -, perm⟩ := h
  have both : old ∈ names ↔ new ∈ names := by
    rcases isAlias with there | back
    · exact paired _ there
    · exact (paired _ back).symm
  rw [← values_renamed both]
  exact (Json.values_perm perm).symm

theorem record_of_renames (apart : fs.spellings.flatten.Nodup)
    (paired : ∀ names ∈ fs.spellings, ∀ pair ∈ aliases, pair.1 ∈ names ↔ pair.2 ∈ names)
    (h : InObject (Renames aliases) v v') (a : α) :
    Reader.record αs type fs build v = .ok a ↔ Reader.record αs type fs build v' = .ok a := by
  obtain ⟨renames⟩ := h
  apply Reader.record_object_of_perm apart
  intro names inside
  exact renames.values_perm names (paired names inside)

theorem record_of_adds (known : fs.spellings.flatten = names)
    (h : InObject (Adds names) v v') :
    Reader.record αs type fs build v' = Reader.record αs type fs build v := by
  obtain ⟨⟨before, w, after, other⟩⟩ := h
  apply Reader.record_of_stranger
  intro own inside named
  exact other (known ▸ List.mem_flatten.2 ⟨own, inside, named⟩)

/-! ## The error of a reply -/

theorem lookup_eq_none {key : String} (h : key ∉ keys members) : lookup key members = none := by
  rw [lookup, Option.map_eq_none_iff, List.find?_eq_none]
  rintro ⟨name, v⟩ inside same
  obtain rfl : name = key := by simpa using same
  exact h (mem_keys_iff.2 ⟨v, inside⟩)

theorem lookup_of_other {key name : String} (other : key ≠ name)
    (before : List (String × Json)) (v : Json) (after : List (String × Json)) :
    lookup name (before ++ (key, v) :: after) = lookup name (before ++ after) := by
  simp [lookup, other]

theorem lookup_of_absent {key : String} {before after : List (String × Json)}
    (absent : key ∉ keys (before ++ after)) (v : Json) :
    lookup key (before ++ (key, v) :: after) = some v := by
  rw [keys, List.map_append, List.mem_append, not_or] at absent
  have first : before.find? (fun m => m.1 == key) = none :=
    Option.map_eq_none_iff.1 (lookup_eq_none absent.1)
  simp [lookup, first]

theorem remoteError_of_lookup (h : lookup "error" members' = lookup "error" members) :
    remoteError (.object members') = remoteError (.object members) := by
  simp only [remoteError, Json.get?, h]

theorem remoteError_of_renames (h : Renames aliases members members')
    (noError : ∀ pair ∈ aliases, pair.1 ∈ ["error"] ↔ pair.2 ∈ ["error"])
    (distinct : (keys members).Nodup) (distinct' : (keys members').Nodup) :
    remoteError (.object members') = remoteError (.object members) := by
  -- No field goes by the name of the error, so this value is renamed neither to it nor from it.
  have perm := h.values_perm ["error"] noError
  rw [values_singleton distinct, values_singleton distinct'] at perm
  apply remoteError_of_lookup
  cases found : lookup "error" members with
  | none =>
      rw [found] at perm
      simpa using perm
  | some v =>
      rw [found] at perm
      have one := List.perm_singleton.1 perm.symm
      simpa using one

theorem remoteError_of_addsToReply (h : AddsToReply names members members') :
    remoteError (.object members') = remoteError (.object members) := by
  cases h with
  | member before v after _ other =>
      exact remoteError_of_lookup (lookup_of_other other before v after)
  | @silent before v after absent blank =>
      have quiet : IsQuiet (before ++ after) := by
        intro w found
        rw [lookup_eq_none absent] at found
        cases found
      have quiet' : IsQuiet (before ++ ("error", v) :: after) := by
        intro w found
        rw [lookup_of_absent absent] at found
        cases found
        exact blank
      rw [isQuiet_iff.1 quiet, isQuiet_iff.1 quiet']

theorem AddsToReply.adds (h : AddsToReply names members members') (noError : "error" ∉ names) :
    Adds names members members' := by
  cases h with
  | member before v after other _ => exact .member before v after other
  | silent before after _ _ => exact .member before _ after noError

end Objects

/-! ## Decoders -/

/-- The same answer, or two garbled replies. -/
def Alike {α : Type} (r r' : Except ClientError α) : Prop :=
  r' = r ∨ IsGarbled r ∧ IsGarbled r'

section Decoders

variable {α : Type} {αs : List Type} {fs : Fields αs} {type entity : String} {build : Row αs → α}
  {aliases : Aliases} {names : List String} {v v' : Json} {payload payload' : String}

theorem alike_judge {read : Json.Reader α} (error : remoteError v' = remoteError v)
    (same : ∀ a, read v = .ok a ↔ read v' = .ok a) :
    Alike (judge entity read v) (judge entity read v') := by
  simp only [judge, error]
  cases remoteError v with
  | some message => exact .inl rfl
  | none =>
      cases given : read v with
      | ok a =>
          rw [(same a).1 given]
          exact .inl rfl
      | error e =>
          cases given' : read v' with
          | ok a =>
              rw [(same a).2 given'] at given
              cases given
          | error e' => exact .inr ⟨⟨_, rfl⟩, ⟨_, rfl⟩⟩

theorem alike_downloadStatus (requested : String)
    (h : Alike (decode statusEntity readStatus payload) (decode statusEntity readStatus payload')) :
    Alike (downloadStatus requested payload) (downloadStatus requested payload') := by
  rcases h with same | ⟨⟨e, garbled⟩, e', garbled'⟩
  · left
    simp only [downloadStatus, same]
  · exact .inr ⟨⟨e, by simp only [downloadStatus, garbled]⟩, e', by
      simp only [downloadStatus, garbled']⟩

variable (hv : Json.read (Text.trim payload) = .ok v)
  (hv' : Json.read (Text.trim payload') = .ok v')
include hv hv'

theorem alike_of_renames (apart : fs.spellings.flatten.Nodup)
    (paired : ∀ names ∈ ["error"] :: fs.spellings,
      ∀ pair ∈ aliases, pair.1 ∈ names ↔ pair.2 ∈ names)
    (h : InObject (Renames aliases) v v') :
    Alike (decode entity (Reader.record αs type fs build) payload)
      (decode entity (Reader.record αs type fs build) payload') := by
  obtain ⟨noError, paired⟩ := List.forall_mem_cons.1 paired
  rw [decode_eq_judge hv, decode_eq_judge hv']
  apply alike_judge
  · obtain ⟨renames⟩ := h
    exact remoteError_of_renames renames noError (nodup_keys_of_read hv) (nodup_keys_of_read hv')
  · exact record_of_renames apart paired h

theorem decode_of_adds (known : fs.spellings.flatten = names)
    (noError : "error" ∉ names) (h : InObject (AddsToReply names) v v') :
    decode entity (Reader.record αs type fs build) payload' =
      decode entity (Reader.record αs type fs build) payload := by
  obtain ⟨adds⟩ := h
  rw [decode_eq_judge hv, decode_eq_judge hv', judge, judge, remoteError_of_addsToReply adds,
    record_of_adds known ⟨adds.adds noError⟩]

end Decoders

/-! ## Listings -/

section Listings

variable {Change : List (String × Json) → List (String × Json) → Prop} {v v' : Json}
  {items items' : List Json} {list : List Model} {payload payload' : String}

theorem mapM_readModel_iff
    (keeps : ∀ v v', InObject Change v v' → ∀ m, readModel v = .ok m ↔ readModel v' = .ok m)
    (changed : List.Forall₂ (fun v v' => v' = v ∨ InObject Change v v') items items') :
    items.mapM readModel = .ok list ↔ items'.mapM readModel = .ok list := by
  rw [Reader.mapM_eq_ok_iff, Reader.mapM_eq_ok_iff]
  induction changed generalizing list with
  | nil => rfl
  | @cons v v' items items' first _ ih =>
      have same : ∀ m, readModel v = .ok m ↔ readModel v' = .ok m := by
        rcases first with rfl | changed
        · exact fun _ => Iff.rfl
        · exact keeps v v' changed
      simp only [List.forall₂_cons_left_iff, same, ih]

theorem lists_wrapped {before after : List (String × Json)}
    (distinct : (keys (before ++ ("models", .array items) :: after)).Nodup) :
    Lists (.object (before ++ ("models", .array items) :: after)) items := by
  have moved : (before ++ ("models", .array items) :: after).Perm
      (("models", .array items) :: (before ++ after)) := List.perm_middle
  have absent : "models" ∉ keys (before ++ after) :=
    (List.nodup_cons.1 ((moved.map Prod.fst).nodup_iff.1 distinct)).1
  apply Lists.wrapped
  rw [values_singleton distinct, lookup_of_absent absent]
  rfl

theorem readListing_of_addsToReply (h : InObject (AddsToReply ["models"]) v v') :
    readListing v' = readListing v := by
  obtain ⟨adds⟩ := h
  obtain @⟨key, before, w, after, other⟩ := adds.adds (by decide)
  have same : wrappedFields.ofMembers (before ++ (key, w) :: after) =
      wrappedFields.ofMembers (before ++ after) :=
    Fields.ofMembers_of_stranger (List.forall_mem_singleton.2 other)
  simp only [readListing, readWrapped, same]
  rfl

variable (hv : Json.read (Text.trim payload) = .ok v)
  (hv' : Json.read (Text.trim payload') = .ok v')
include hv hv'

theorem models_of_listing
    (keeps : ∀ v v', InObject Change v v' → ∀ m, readModel v = .ok m ↔ readModel v' = .ok m)
    (h : InListing Change v v') : models payload' = models payload := by
  have same : remoteError v' = remoteError v ∧ readListing v' = readListing v := by
    cases h with
    | bare changed =>
        refine ⟨rfl, readListing_congr fun list => ?_⟩
        rw [readListing_of_lists (.bare _), readListing_of_lists (.bare _)]
        exact (mapM_readModel_iff keeps changed).symm
    | wrapped before after changed =>
        constructor
        · apply remoteError_of_lookup
          rw [lookup_of_other (by decide), lookup_of_other (by decide)]
        · apply readListing_congr
          intro list
          rw [readListing_of_lists (lists_wrapped (nodup_keys_of_read hv)),
            readListing_of_lists (lists_wrapped (nodup_keys_of_read hv'))]
          exact (mapM_readModel_iff keeps changed).symm
  rw [models_eq_judge hv, models_eq_judge hv', judge, judge, same.1, same.2]

theorem models_of_addsToReply (h : InObject (AddsToReply ["models"]) v v') :
    models payload' = models payload := by
  rw [models_eq_judge hv, models_eq_judge hv', judge, judge, readListing_of_addsToReply h]
  obtain ⟨adds⟩ := h
  rw [remoteError_of_addsToReply adds]

end Listings

/-- A reply means the same whichever of its two names a field goes by, and whatever else stands in
its objects. Where a field gets its other name, a garbled reply stays garbled; where a member comes
to the others, not even the wording of a refusal changes. -/
theorem respelled_replies_mean_the_same {payload payload' : String} {v v' : Json}
    (hv : Json.read (Text.trim payload) = .ok v) (hv' : Json.read (Text.trim payload') = .ok v')
    (requested entity : String) :
    (InListing (Renames modelAliases) v v' → models payload' = models payload) ∧
    (InObject (Renames statusAliases) v v' →
      Alike (downloadStatus requested payload) (downloadStatus requested payload')) ∧
    (InObject (Renames updateAliases) v v' → Alike (updateInfo payload) (updateInfo payload')) ∧
    (InListing (Adds modelNames) v v' → models payload' = models payload) ∧
    (InObject (AddsToReply ["models"]) v v' → models payload' = models payload) ∧
    (InObject (AddsToReply statusNames) v v' →
      downloadStatus requested payload' = downloadStatus requested payload) ∧
    (InObject (AddsToReply healthNames) v v' → health payload' = health payload) ∧
    (InObject (AddsToReply updateNames) v v' → updateInfo payload' = updateInfo payload) ∧
    (InObject (AddsToReply acknowledgementNames) v v' →
      acknowledgement entity payload' = acknowledgement entity payload) := by
  refine ⟨?_, ?_, ?_, ?_, models_of_addsToReply hv hv', ?_, ?_, ?_, ?_⟩
  · exact models_of_listing hv hv' fun v v' => record_of_renames (by decide) (by decide)
  · intro renames
    exact alike_downloadStatus requested
      (alike_of_renames hv hv' (by decide) (by decide) renames)
  · exact alike_of_renames hv hv' (by decide) (by decide)
  · apply models_of_listing hv hv'
    intro v v' adds m
    have same : readModel v' = readModel v := record_of_adds rfl adds
    rw [same]
  · intro adds
    have same : decode statusEntity readStatus payload' = decode statusEntity readStatus payload :=
      decode_of_adds hv hv' rfl (by decide) adds
    simp only [downloadStatus, same]
  · exact decode_of_adds hv hv' rfl (by decide)
  · exact decode_of_adds hv hv' rfl (by decide)
  · exact decode_of_adds hv hv' rfl (by decide)

/-- A status under the other name of its model, and a listed model with a color. -/
theorem respelled_replies_mean_the_same_for_phi :
    Alike (downloadStatus "mini" "\x7b\"model\":\"phi\",\"progress\":50\x7d")
      (downloadStatus "mini" "\x7b\"model_name\":\"phi\",\"progress\":50\x7d") ∧
    models "\x7b\"models\":[\x7b\"color\":\"red\",\"name\":\"phi\"\x7d]\x7d" =
      models "\x7b\"models\":[\x7b\"name\":\"phi\"\x7d]\x7d" := by
  constructor
  · have hv : Json.read (Text.trim "\x7b\"model\":\"phi\",\"progress\":50\x7d") =
        .ok (.object [("model", .string "phi"), ("progress", .nat 50)]) :=
      eq_ok_of_toOption (by decide +kernel)
    have hv' : Json.read (Text.trim "\x7b\"model_name\":\"phi\",\"progress\":50\x7d") =
        .ok (.object [("model_name", .string "phi"), ("progress", .nat 50)]) :=
      eq_ok_of_toOption (by decide +kernel)
    obtain ⟨-, renamed, -⟩ := respelled_replies_mean_the_same hv hv' "mini" "acknowledgement"
    exact renamed ⟨.field (.inr (List.mem_singleton_self _)) (by decide) (.refl _)⟩
  · have hv : Json.read (Text.trim "\x7b\"models\":[\x7b\"name\":\"phi\"\x7d]\x7d") =
        .ok (.object [("models", .array [.object [("name", .string "phi")]])]) :=
      eq_ok_of_toOption (by decide +kernel)
    have hv' : Json.read (Text.trim
        "\x7b\"models\":[\x7b\"color\":\"red\",\"name\":\"phi\"\x7d]\x7d") =
        .ok (.object [("models", .array [.object
          [("color", .string "red"), ("name", .string "phi")]])]) :=
      eq_ok_of_toOption (by decide +kernel)
    obtain ⟨-, -, -, added, -⟩ := respelled_replies_mean_the_same hv hv' "mini" "acknowledgement"
    apply added
    have change : InObject (Adds modelNames) (.object [("name", .string "phi")])
        (.object [("color", .string "red"), ("name", .string "phi")]) :=
      ⟨.member [] (.string "red") [("name", .string "phi")] (by decide)⟩
    exact .wrapped [] [] (.cons (.inr change) .nil)

end ModelDepot.Payload
