import ModelDepot.Proofs.Text.Lossless
import ModelDepot.Proofs.Transport.Offering

/-! # Entering a library

A call enters a library once, by the first spelling exported for the capability that it asks for.
The model of the call is passed as it is, and what the library writes is the reply. Only a model
name whose end could not be told is never passed.
-/

namespace ModelDepot

namespace Library

/-- The spelling is exported, and none that is preferred to it is. -/
def Binds (l : Library) (c : Capability) (spelling : String) : Prop :=
  spelling ∈ l.exports ∧ ∃ before later, c.entryPoints = before ++ spelling :: later ∧
    ∀ preferred ∈ before, preferred ∉ l.exports

/-- The reply to a call and the entries made for it, in the light of the entries before. The
conditions of any two rules exclude each other. -/
inductive Serves (l : Library) (entered : List Entry) (c : Call) : Reply → List Entry → Prop where
  | refused {name} : c.model? = some name → '\x00' ∈ name.toList →
      Serves l entered c
        (.error (.binding ("model name " ++ Text.quote name ++ " contains a NUL byte"))) []
  | answered {spelling bytes} : (∀ name ∈ c.model?, '\x00' ∉ name.toList) →
      l.Binds c.capability spelling → l.answer entered ⟨spelling, c.model?⟩ = some bytes →
      Serves l entered c (.ok (Native.replyText bytes)) [⟨spelling, c.model?⟩]
  | silent {spelling} : (∀ name ∈ c.model?, '\x00' ∉ name.toList) →
      l.Binds c.capability spelling → l.answer entered ⟨spelling, c.model?⟩ = none →
      Serves l entered c (.error (.noReply c.capability.entryPoint)) [⟨spelling, c.model?⟩]

/-- The replies to calls made one after the other, and all the entries after them. -/
inductive ServesAll (l : Library) : List Entry → List Call → List Reply → List Entry → Prop where
  | nil {entered} : ServesAll l entered [] [] entered
  | cons {entered c reply made calls replies entries} : l.Serves entered c reply made →
      ServesAll l (entered ++ made) calls replies entries →
      ServesAll l entered (c :: calls) (reply :: replies) entries

variable {l : Library} {entered : List Entry} {c : Call}

/-! ## What a call is bound to -/

theorem resolve_eq_some_iff {c : Capability} {spelling : String} :
    l.resolve c = some spelling ↔ l.Binds c spelling := by
  simp [resolve, Binds, List.find?_eq_some_iff_append]

theorem Binds.unique {c : Capability} {s t : String} (hs : l.Binds c s) (ht : l.Binds c t) :
    s = t :=
  Option.some.inj ((resolve_eq_some_iff.2 hs).symm.trans (resolve_eq_some_iff.2 ht))

theorem binds_of_bind {c : Capability} {next : String → Except Capability EntryPoints}
    {e : EntryPoints} (h : l.symbol c >>= next = .ok e) :
    ∃ spelling, l.Binds c spelling ∧ next spelling = .ok e := by
  unfold symbol at h
  split at h
  · next spelling hs => exact ⟨spelling, resolve_eq_some_iff.1 hs, h⟩
  · cases h

/-- The table and the calls fit together: each call enters by what its capability is bound to. -/
theorem exists_binds {e : EntryPoints} (h : l.entryPoints = .ok e) (c : Call) :
    ∃ spelling, l.Binds c.capability spelling ∧ e.entry c = ⟨spelling, c.model?⟩ := by
  obtain ⟨_, listModels, h⟩ := binds_of_bind h
  obtain ⟨_, startDownload, h⟩ := binds_of_bind h
  obtain ⟨_, downloadStatus, h⟩ := binds_of_bind h
  obtain ⟨_, removeModel, h⟩ := binds_of_bind h
  obtain ⟨_, checkForUpdates, h⟩ := binds_of_bind h
  obtain ⟨_, applyUpdate, h⟩ := binds_of_bind h
  obtain ⟨_, healthCheck, h⟩ := binds_of_bind h
  cases h
  cases c with
  | listModels => exact ⟨_, listModels, rfl⟩
  | startDownload => exact ⟨_, startDownload, rfl⟩
  | downloadStatus => exact ⟨_, downloadStatus, rfl⟩
  | removeModel => exact ⟨_, removeModel, rfl⟩
  | checkForUpdates => exact ⟨_, checkForUpdates, rfl⟩
  | applyUpdate => exact ⟨_, applyUpdate, rfl⟩
  | healthCheck => exact ⟨_, healthCheck, rfl⟩

/-! ## A reply is determined -/

theorem Serves.unique {reply reply' : Reply} {made made' : List Entry}
    (h : l.Serves entered c reply made) (h' : l.Serves entered c reply' made') :
    reply = reply' ∧ made = made' := by
  cases h with
  | refused model zero =>
      cases h' with
      | refused model' _ =>
          cases model.symm.trans model'
          exact ⟨rfl, rfl⟩
      | answered passes | silent passes => exact absurd zero (passes _ model)
  | answered passes binds answer =>
      cases h' with
      | refused model zero => exact absurd zero (passes _ model)
      | answered _ binds' answer' =>
          cases binds.unique binds'
          cases answer.symm.trans answer'
          exact ⟨rfl, rfl⟩
      | silent _ binds' answer' =>
          cases binds.unique binds'
          cases answer.symm.trans answer'
  | silent passes binds answer =>
      cases h' with
      | refused model zero => exact absurd zero (passes _ model)
      | answered _ binds' answer' =>
          cases binds.unique binds'
          cases answer.symm.trans answer'
      | silent _ binds' _ =>
          cases binds.unique binds'
          exact ⟨rfl, rfl⟩

theorem ServesAll.unique {calls : List Call} {replies replies' : List Reply}
    {entries entries' : List Entry} (h : l.ServesAll entered calls replies entries)
    (h' : l.ServesAll entered calls replies' entries') :
    replies = replies' ∧ entries = entries' := by
  induction h generalizing replies' with
  | nil =>
      cases h'
      exact ⟨rfl, rfl⟩
  | cons first _ ih =>
      cases h' with
      | cons first' later =>
          obtain ⟨rfl, rfl⟩ := first.unique first'
          obtain ⟨rfl, rfl⟩ := ih later
          exact ⟨rfl, rfl⟩

end Library

namespace Native

def callAll (n : Native) : List Call → List Reply × Native
  | [] => ([], n)
  | c :: calls =>
    let (response, n) := Transport.call n c
    let (replies, n) := n.callAll calls
    (response.reply :: replies, n)

theorem entryPoints_eq (n : Native) : n.library.entryPoints = .ok n.entryPoints := by
  unfold Native.entryPoints
  split
  · assumption
  · next h => exact absurd n.isComplete (by simp [Library.lacks, h])

/-- One call, with the library as it is then. -/
theorem serves_call (n : Native) (c : Call) :
    ∃ made, n.library.Serves n.entries c (n.call c).1 made ∧
      (n.call c).2 = { n with entries := n.entries ++ made } := by
  unfold call
  split
  · next name h =>
      obtain ⟨model, zero⟩ := Option.filter_eq_some_iff.1 h
      exact ⟨[], .refused model (List.contains_iff_mem.1 zero), by rw [List.append_nil]⟩
  · next h =>
      have passes : ∀ name ∈ c.model?, '\x00' ∉ name.toList := by
        intro name model zero
        exact Option.filter_eq_none_iff.1 h name model (List.contains_iff_mem.2 zero)
      obtain ⟨spelling, binds, entry⟩ := Library.exists_binds n.entryPoints_eq c
      refine ⟨[⟨spelling, c.model?⟩], ?_, by rw [enter, entry]⟩
      rw [enter, entry]
      dsimp only
      split
      · next bytes answer => exact .answered passes binds answer
      · next answer => exact .silent passes binds answer

theorem callAll_cons (n : Native) (c : Call) (calls : List Call) :
    n.callAll (c :: calls) =
      ((n.call c).1 :: ((n.call c).2.callAll calls).1, ((n.call c).2.callAll calls).2) :=
  rfl

theorem servesAll_callAll (n : Native) (calls : List Call) :
    n.library.ServesAll n.entries calls (n.callAll calls).1 (n.callAll calls).2.entries := by
  induction calls generalizing n with
  | nil => exact .nil
  | cons c calls ih =>
      obtain ⟨made, serves, after⟩ := n.serves_call c
      have later := ih (n.call c).2
      rw [callAll_cons]
      rw [after] at later ⊢
      exact .cons serves later

/-- A text without a zero character is what a reply says up to its first zero byte. -/
theorem replyText_toUTF8 {text : String} {rest : List UInt8} (h : '\x00' ∉ text.toList)
    (ends : ∀ b ∈ rest.head?, b = 0) : replyText (text.toUTF8.data.toList ++ rest) = text := by
  have whole : ∀ b ∈ text.toUTF8.data.toList, (b != 0) = true := by
    intro b hb
    exact bne_iff_ne.2 fun hz => Text.zero_not_mem_toUTF8 h (hz ▸ hb)
  have none : rest.takeWhile (· != 0) = [] := by
    cases rest with
    | nil => rfl
    | cons b rest => simp [ends b rfl]
  rw [replyText, List.takeWhile_append_of_pos whole, none, List.append_nil, Text.lossy_toUTF8]

end Native

/-- A library is used if every capability is exported under some spelling, and is refused for the
first one that is not. Once in use, all calls are served as `ServesAll` says, and a text that the
library writes is the reply, character for character. -/
theorem natives_enter_first_spellings (path : String) (l : Library) :
    ((∃ n, Native.bind path l = .ok n) ↔ ∀ c, l.Offers c) ∧
      (∀ e, Native.bind path l = .error e ↔
        ∃ before c later, Capability.all = before ++ c :: later ∧ (∀ d ∈ before, l.Offers d) ∧
          ¬ l.Offers c ∧ e = .missing c) ∧
      (∀ n, Native.bind path l = .ok n → ∀ calls replies entries,
        (n.callAll calls).1 = replies ∧ (n.callAll calls).2.entries = entries ↔
          l.ServesAll [] calls replies entries) ∧
      ∀ (text : String) (rest : List UInt8), '\x00' ∉ text.toList → (∀ b ∈ rest.head?, b = 0) →
        Native.replyText (text.toUTF8.data.toList ++ rest) = text := by
  refine ⟨?accepted, ?rejected, ?served, fun _ _ => Native.replyText_toUTF8⟩
  case accepted =>
    simp only [Native.bind_eq_ok_iff, ← Library.lacks_eq_none_iff]
    constructor
    · rintro ⟨_, complete, _⟩
      exact complete
    · intro complete
      exact ⟨_, complete, rfl⟩
  case rejected =>
    intro e
    rw [Native.bind_eq_error_iff]
    constructor
    · rintro ⟨c, lacks, rfl⟩
      obtain ⟨absent, before, later, split, offered⟩ := Library.lacks_eq_some_iff.1 lacks
      exact ⟨before, c, later, split, offered, absent, rfl⟩
    · rintro ⟨before, c, later, split, offered, absent, rfl⟩
      exact ⟨c, Library.lacks_eq_some_iff.2 ⟨absent, before, later, split, offered⟩, rfl⟩
  case served =>
    intro n bound calls replies entries
    obtain ⟨complete, rfl⟩ := Native.bind_eq_ok_iff.1 bound
    have served := Native.servesAll_callAll ⟨path, l, complete, []⟩ calls
    constructor
    · rintro ⟨rfl, rfl⟩
      exact served
    · exact served.unique

end ModelDepot
