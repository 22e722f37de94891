import EntryForm.Proofs.Json.Sorted
import EntryForm.Yaml.Reader

/-!
# Proofs — Yaml — sorted values

A mapping that is kept as free data is sorted when it is read, so what is read is sorted.

* `anySorted`: whatever is read to be kept is.
* `sorted_of_readFree`: so are the values in free data.
-/

namespace EntryForm.Yaml

open Wire

/-- Placing an error does not change what is read. -/
theorem Opened.place_eq_ok {α : Type} {o : Opened} {path : Path} {r : Except Error α} {a : α} :
    o.place path r = .ok a ↔ r = .ok a := by
  cases r with
  | error e => exact ⟨nofun, nofun⟩
  | ok b => exact Iff.rfl

/-- A value that does not fit is not read. -/
theorem Opened.misfit_ne_ok {α : Type} {o : Opened} {path : Path} {expected : String} {a : α} :
    o.misfit path expected ≠ .ok a :=
  nofun

/-- A scalar has nothing to sort. -/
theorem sorted_of_value {u : Purpose} {m : Meaning} {v : Json} (h : u.value m = .ok v) :
    v.sorted = v := by
  cases m with
  | null => exact Except.ok.inj h ▸ rfl
  | bool b => exact Except.ok.inj h ▸ rfl
  | text t => exact Except.ok.inj h ▸ rfl
  | int n =>
      unfold Purpose.value at h
      dsimp only at h
      split at h
      · exact Except.ok.inj h ▸ rfl
      · cases u <;> cases h
  | float x =>
      rw [Purpose.value] at h
      split at h <;> exact Except.ok.inj h ▸ rfl

/-- With this fuel, whatever is read to be kept is sorted. -/
structure AnySorted (d : Document) (fuel : Nat) : Prop where
  any : ∀ {depth path p x}, readAny d .keep fuel depth path p = .ok x → x.1.sorted = x.1
  elements : ∀ {depth path i p x}, readAnyElements d .keep fuel depth path i p = .ok x →
    ∀ v ∈ x.1, v.sorted = v
  members : ∀ {depth path first p x}, readAnyMembers d .keep fuel depth path first p = .ok x →
    ∀ e ∈ x.1, e.2.sorted = e.2

/-- With any fuel it is: one more unit of it reads one more value. -/
theorem anySorted (d : Document) (fuel : Nat) : AnySorted d fuel := by
  induction fuel with
  | zero =>
      refine ⟨fun h => ?_, fun h => ?_, fun h => ?_⟩
      · rw [readAny] at h
        cases h
      · rw [readAnyElements] at h
        cases h
      · rw [readAnyMembers] at h
        cases h
  | succ fuel ih =>
      refine ⟨fun h => ?_, fun h => ?_, fun h => ?_⟩
      · rw [readAny] at h
        obtain ⟨o, -, h⟩ := bind_eq_ok.mp h
        replace h := Opened.place_eq_ok.mp h
        split at h
        · cases h
        · split at h
          · split at h
            · next v hv =>
              obtain ⟨m, -, hm⟩ := bind_eq_ok.mp hv
              exact Except.ok.inj h ▸ sorted_of_value hm
            · cases h
          · obtain ⟨depth, -, h⟩ := bind_eq_ok.mp h
            obtain ⟨⟨items, p⟩, hitems, h⟩ := bind_eq_ok.mp h
            exact Except.ok.inj h ▸ Json.sorted_arr (ih.elements hitems)
          · obtain ⟨depth, -, h⟩ := bind_eq_ok.mp h
            obtain ⟨⟨es, p⟩, hes, h⟩ := bind_eq_ok.mp h
            exact Except.ok.inj h ▸ Json.sorted_obj (ih.members hes)
          · exact Except.ok.inj h ▸ rfl
      · rw [readAnyElements] at h
        obtain ⟨e, -, h⟩ := bind_eq_ok.mp h
        split at h
        · obtain rfl := Except.ok.inj h
          exact List.forall_mem_nil _
        · obtain ⟨v, hv, h⟩ := bind_eq_ok.mp h
          obtain ⟨vs, hvs, h⟩ := bind_eq_ok.mp h
          obtain rfl := Except.ok.inj h
          exact List.forall_mem_cons.mpr ⟨ih.any hv, ih.elements hvs⟩
      · rw [readAnyMembers] at h
        obtain ⟨e, -, h⟩ := bind_eq_ok.mp h
        split at h
        · obtain rfl := Except.ok.inj h
          exact List.forall_mem_nil _
        · obtain ⟨key, -, h⟩ := bind_eq_ok.mp h
          obtain ⟨v, hv, h⟩ := bind_eq_ok.mp h
          obtain ⟨vs, hvs, h⟩ := bind_eq_ok.mp h
          obtain rfl := Except.ok.inj h
          exact List.forall_mem_cons.mpr ⟨ih.any hv, ih.members hvs⟩

/-- The entries of free data are sorted inside. -/
theorem sorted_of_readFree {d : Document} {fuel depth : Nat} {path : Path} {p : Progress}
    {x : List (String × Json) × Progress} (h : readFree d fuel depth path p = .ok x) :
    ∀ e ∈ x.1, e.2.sorted = e.2 := by
  induction fuel generalizing p x with
  | zero =>
      rw [readFree] at h
      cases h
  | succ fuel ih =>
      rw [readFree] at h
      obtain ⟨e, -, h⟩ := bind_eq_ok.mp h
      split at h
      · obtain rfl := Except.ok.inj h
        exact List.forall_mem_nil _
      · obtain ⟨⟨key, p⟩, -, h⟩ := bind_eq_ok.mp h
        obtain ⟨v, hv, h⟩ := bind_eq_ok.mp h
        obtain ⟨vs, hvs, h⟩ := bind_eq_ok.mp h
        obtain rfl := Except.ok.inj h
        exact List.forall_mem_cons.mpr ⟨(anySorted d fuel).any hv, ih hvs⟩

end EntryForm.Yaml
