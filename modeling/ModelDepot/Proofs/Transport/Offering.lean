import ModelDepot.Transport.Connect

/-! # Libraries that can be used

A library can be used if it opens and offers every capability. Any other is refused, for the reason
that it does not open or for the first capability that it lacks.
-/

namespace ModelDepot

namespace Library

/-- A spelling of the capability's entry point is exported. -/
def Offers (l : Library) (c : Capability) : Prop :=
  ∃ spelling ∈ c.entryPoints, spelling ∈ l.exports

variable {l : Library} {c : Capability}

theorem isNone_resolve_iff : (l.resolve c).isNone = true ↔ ¬ l.Offers c := by
  simp [resolve, Offers]

def stopped {α : Type} : Except Capability α → Option Capability
  | .ok _ => none
  | .error c => some c

theorem stopped_bind {α : Type} {later : List Capability} {next : String → Except Capability α}
    (h : ∀ spelling, stopped (next spelling) = later.find? fun d => (l.resolve d).isNone) :
    stopped (l.symbol c >>= next) = (c :: later).find? fun d => (l.resolve d).isNone := by
  rw [List.find?_cons]
  cases hc : l.resolve c with
  | none => simp [symbol, hc, stopped, bind, Except.bind]
  | some spelling => simpa [symbol, hc, bind, Except.bind] using h spelling

theorem lacks_eq_find : l.lacks = Capability.all.find? fun c => (l.resolve c).isNone := by
  have stops : l.lacks = stopped l.entryPoints := by
    cases h : l.entryPoints <;> simp only [lacks, stopped, h]
  rw [stops, entryPoints, Capability.all]
  iterate 7 refine stopped_bind fun _ => ?_
  rfl

theorem lacks_eq_none_iff : l.lacks = none ↔ ∀ c, l.Offers c := by
  rw [lacks_eq_find, List.find?_eq_none]
  constructor
  · intro h c
    have hc : c ∈ Capability.all := by cases c <;> decide
    simpa only [isNone_resolve_iff, Classical.not_not] using h c hc
  · intro h c _
    simpa only [isNone_resolve_iff, Classical.not_not] using h c

theorem lacks_eq_some_iff :
    l.lacks = some c ↔
      ¬ l.Offers c ∧ ∃ before later, Capability.all = before ++ c :: later ∧
        ∀ d ∈ before, l.Offers d := by
  rw [lacks_eq_find, List.find?_eq_some_iff_append]
  simp only [isNone_resolve_iff, Bool.not_eq_true', ← Bool.not_eq_true, Classical.not_not]

end Library

namespace Native

variable {l : Library} {path : String}

theorem bind_eq_ok_iff {n : Native} :
    bind path l = .ok n ↔ ∃ complete, n = ⟨path, l, complete, []⟩ := by
  unfold bind
  split
  · next complete =>
      refine ⟨fun h => ⟨complete, ?_⟩, fun ⟨_, h⟩ => h ▸ rfl⟩
      cases h
      rfl
  · next c lacks =>
      refine ⟨nofun, fun ⟨complete, _⟩ => ?_⟩
      cases lacks.symm.trans complete

theorem bind_eq_error_iff {e : LibraryError} :
    bind path l = .error e ↔ ∃ c, l.lacks = some c ∧ e = .missing c := by
  unfold bind
  split
  · next complete =>
      refine ⟨nofun, fun ⟨c, lacks, _⟩ => ?_⟩
      cases lacks.symm.trans complete
  · next c lacks =>
      refine ⟨fun h => ⟨c, lacks, ?_⟩, fun ⟨d, lacks', h⟩ => ?_⟩
      · cases h
        rfl
      · cases lacks.symm.trans lacks'
        rw [h]

end Native

namespace Surroundings

/-- At the path is a library that opens and offers every capability. -/
def Holds (w : Surroundings) (path : String) (library : Library) : Prop :=
  w.load path = .ok library ∧ ∀ c, library.Offers c

def IsUsable (w : Surroundings) (path : String) : Prop :=
  ∃ library, w.Holds path library

/-- The library at the path is refused, for a reason given in words. -/
inductive Refuses (w : Surroundings) (path : String) : String → Prop where
  | unloadable {reason} : w.load path = .error reason →
      Refuses w path ("failed to load library: " ++ reason)
  | incomplete {library before c later} : w.load path = .ok library →
      Capability.all = before ++ c :: later → (∀ d ∈ before, library.Offers d) →
      ¬ library.Offers c →
      Refuses w path ("missing entry point " ++ " or ".intercalate c.entryPoints)

variable {w : Surroundings} {path : String} {library : Library}

theorem native_of_holds (h : w.Holds path library) :
    ∃ complete, w.native path = .ok ⟨path, library, complete, []⟩ := by
  obtain ⟨loads, offers⟩ := h
  refine ⟨Library.lacks_eq_none_iff.2 offers, ?_⟩
  rw [native, loads]
  exact Native.bind_eq_ok_iff.2 ⟨_, rfl⟩

theorem native_of_lacks {c : Capability} (loads : w.load path = .ok library)
    (lacks : library.lacks = some c) : w.native path = .error (.missing c) := by
  rw [native, loads]
  exact Native.bind_eq_error_iff.2 ⟨c, lacks, rfl⟩

theorem native_of_refuses {reason : String} (h : w.Refuses path reason) :
    ∃ e, w.native path = .error e ∧ e.message = reason := by
  cases h with
  | @unloadable reason loads => exact ⟨.unloadable reason, by rw [native, loads], rfl⟩
  | @incomplete library before c later loads split offered absent =>
      have lacks := Library.lacks_eq_some_iff.2 ⟨absent, before, later, split, offered⟩
      exact ⟨.missing c, native_of_lacks loads lacks, rfl⟩

theorem exists_refuses (h : ¬ w.IsUsable path) : ∃ reason, w.Refuses path reason := by
  cases loads : w.load path with
  | error reason => exact ⟨_, .unloadable loads⟩
  | ok library =>
      cases lacks : library.lacks with
      | none => exact absurd ⟨library, loads, Library.lacks_eq_none_iff.1 lacks⟩ h
      | some c =>
          obtain ⟨absent, before, later, split, offered⟩ := Library.lacks_eq_some_iff.1 lacks
          exact ⟨_, .incomplete loads split offered absent⟩

end Surroundings

end ModelDepot
