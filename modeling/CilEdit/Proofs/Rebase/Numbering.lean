import Mathlib.Data.Fintype.EquivFin
import Mathlib.Data.Fintype.Sum
import Mathlib.Data.List.Induction

/-! Counterparts from the pools are numbers in the order of first occurrence. A pool counts upwards
from its first number and stays at its greatest one, so as long as it is below that, different keys
have different numbers, and these follow one another without a gap. -/

namespace CilEdit

section Keys

variable {κ : Type} [BEq κ] [LawfulBEq κ]

theorem eraseDups_append_of_mem {keys : List κ} {key : κ} (h : key ∈ keys) :
    (keys ++ [key]).eraseDups = keys.eraseDups := by
  simp [List.eraseDups_append, List.removeAll, h]

theorem eraseDups_append_of_not_mem {keys : List κ} {key : κ} (h : key ∉ keys) :
    (keys ++ [key]).eraseDups = keys.eraseDups ++ [key] := by
  simp [List.eraseDups_append, List.removeAll, h, List.eraseDups_cons]

theorem nodup_eraseDups (keys : List κ) : keys.eraseDups.Nodup := by
  induction keys using List.reverseRecOn with
  | nil => exact List.nodup_nil
  | append_singleton keys key ih =>
      by_cases h : key ∈ keys
      · rwa [eraseDups_append_of_mem h]
      · rw [eraseDups_append_of_not_mem h, List.nodup_append]
        refine ⟨ih, List.nodup_singleton key, ?_⟩
        rintro other hother _ hkey rfl
        rw [List.mem_singleton.mp hkey, List.mem_eraseDups] at hother
        exact h hother

end Keys

section MappedKeys

variable {κ ω : Type} [DecidableEq κ] [DecidableEq ω] {keys : List κ} {f : κ → ω}

theorem eraseDups_map_of_injOn (hf : Set.InjOn f {key | key ∈ keys}) :
    (keys.map f).eraseDups = keys.eraseDups.map f := by
  induction keys using List.reverseRecOn with
  | nil => rfl
  | append_singleton keys key ih =>
      have hkeys : (keys.map f).eraseDups = keys.eraseDups.map f :=
        ih (hf.mono fun _ hother => List.mem_append_left _ hother)
      have hiff : f key ∈ keys.map f ↔ key ∈ keys := by
        refine ⟨fun hmem => ?_, List.mem_map_of_mem⟩
        obtain ⟨other, hother, heq⟩ := List.mem_map.mp hmem
        have hkey := hf (List.mem_append_left _ hother)
          (List.mem_append_right _ (List.mem_singleton_self key)) heq
        rwa [← hkey]
      rw [List.map_append, List.map_singleton]
      by_cases hmem : key ∈ keys
      · rw [eraseDups_append_of_mem (hiff.mpr hmem), eraseDups_append_of_mem hmem, hkeys]
      · rw [eraseDups_append_of_not_mem (mt hiff.mp hmem), eraseDups_append_of_not_mem hmem, hkeys,
          List.map_append, List.map_singleton]

theorem idxOf_map_of_injOn (hf : Set.InjOn f {key | key ∈ keys}) {key : κ} (hkey : key ∈ keys) :
    (keys.map f).idxOf (f key) = keys.idxOf key := by
  induction keys with
  | nil => cases hkey
  | cons first keys ih =>
      by_cases hfirst : first = key
      · rw [hfirst, List.map_cons, List.idxOf_cons_self, List.idxOf_cons_self]
      · have hne : f first ≠ f key := fun heq => hfirst (hf List.mem_cons_self hkey heq)
        have hrest := (List.mem_cons.mp hkey).resolve_left (Ne.symm hfirst)
        rw [List.map_cons, List.idxOf_cons_ne _ hne, List.idxOf_cons_ne _ hfirst,
          ih (hf.mono fun _ hother => List.mem_cons_of_mem _ hother) hrest]

end MappedKeys

/-- What is injective on a part of a finite type is injective on all of it after a change elsewhere.
-/
theorem exists_injective_eqOn {κ : Type} [Finite κ] {f : κ → κ} {s : Set κ} (h : s.InjOn f) :
    ∃ g : κ → κ, g.Injective ∧ s.EqOn g f := by
  classical
  have := Fintype.ofFinite κ
  obtain ⟨e, he⟩ := Set.MapsTo.exists_equiv_extend_of_card_eq
    (show Fintype.card κ = (Finset.univ : Finset κ).card from rfl)
    (fun key _ => Finset.mem_coe.mpr (Finset.mem_univ (f key))) h
  exact ⟨fun key => e key, fun left right heq => e.injective (Subtype.ext heq), fun key hkey =>
    he key hkey⟩

/-- Whether the keys, in the order in which they came, are numbered from `first` on where each came
first, with no number beyond `bound`, and `next` is the number for the next new key. -/
structure Numbered {κ : Type} [DecidableEq κ] (first bound : Nat) (keys : List κ)
    (number? : κ → Option Nat) (next : Nat) : Prop where
  next_eq : next = min (first + keys.eraseDups.length) bound
  number?_eq : ∀ key, number? key =
    if key ∈ keys then some (min (first + keys.eraseDups.idxOf key) bound) else none

namespace Numbered

variable {κ : Type} [DecidableEq κ] {first bound next : Nat} {keys : List κ}
  {number? : κ → Option Nat}

theorem length_lt (h : Numbered first bound keys number? next) (hnext : next < bound) :
    first + keys.eraseDups.length < bound := by
  have := h.next_eq
  omega

theorem number?_of_mem (h : Numbered first bound keys number? next) (hnext : next < bound) {key : κ}
    (hkey : key ∈ keys) : number? key = some (first + keys.eraseDups.idxOf key) := by
  have hlength := h.length_lt hnext
  have hindex := List.idxOf_lt_length_of_mem (List.mem_eraseDups.mpr hkey)
  rw [h.number?_eq, if_pos hkey, Nat.min_eq_left (by omega)]

/-- Below the greatest number different keys have different numbers. -/
theorem eq_of_number?_eq (h : Numbered first bound keys number? next) (hnext : next < bound)
    {left right : κ} (hleft : left ∈ keys) (hright : right ∈ keys)
    (heq : number? left = number? right) : left = right := by
  rw [h.number?_of_mem hnext hleft, h.number?_of_mem hnext hright, Option.some_inj] at heq
  exact (List.idxOf_inj (List.mem_eraseDups.mpr hleft)).mp (by omega)

/-- Keys that are mapped injectively keep their numbers. -/
theorem number?_map {ω : Type} [DecidableEq ω] {f : κ → ω} {mapped? : ω → Option Nat}
    {mappedNext : Nat} (h : Numbered first bound keys number? next)
    (hmapped : Numbered first bound (keys.map f) mapped? mappedNext)
    (hf : Set.InjOn f {key | key ∈ keys}) {key : κ} (hkey : key ∈ keys) :
    mapped? (f key) = number? key := by
  have hf' : Set.InjOn f {key | key ∈ keys.eraseDups} := by
    simpa only [List.mem_eraseDups] using hf
  rw [h.number?_eq, hmapped.number?_eq, if_pos hkey, if_pos (List.mem_map_of_mem hkey),
    eraseDups_map_of_injOn hf, idxOf_map_of_injOn hf' (List.mem_eraseDups.mpr hkey)]

/-- Below the greatest number the keys are numbered without a gap. -/
theorem map_eraseDups (h : Numbered first bound keys number? next) (hnext : next < bound) :
    keys.eraseDups.map number? = (List.range' first keys.eraseDups.length).map some := by
  apply List.ext_getElem
  · simp
  · intro index hleft hright
    rw [List.length_map] at hleft
    have hmem := List.mem_eraseDups.mp (List.getElem_mem hleft)
    rw [List.getElem_map, List.getElem_map, List.getElem_range', h.number?_of_mem hnext hmem,
      (nodup_eraseDups keys).idxOf_getElem index hleft, Nat.one_mul]

/-- Below the greatest number the counterparts of the keys are those of an injective map. -/
theorem exists_injective [Finite κ] {toNat : κ → Nat} {target? : κ → Option κ}
    (h : Numbered first bound keys (fun key => (target? key).map toNat) next)
    (hnext : next < bound) :
    ∃ f : κ → κ, f.Injective ∧ (∀ key ∈ keys, target? key = some (f key)) ∧
      (keys.eraseDups.map fun key => toNat (f key)) =
        List.range' first keys.eraseDups.length := by
  have hsome : ∀ key ∈ keys, target? key = some ((target? key).getD key) := by
    intro key hkey
    have hnumber := h.number?_of_mem hnext hkey
    obtain ⟨target, htarget, -⟩ := Option.map_eq_some_iff.mp hnumber
    rw [htarget, Option.getD_some]
  have hinj : Set.InjOn (fun key => (target? key).getD key) {key | key ∈ keys} := by
    intro left hleft right hright heq
    have htargets : (target? left).getD left = (target? right).getD right := heq
    have heq' : target? left = target? right := by
      rw [hsome left hleft, hsome right hright, htargets]
    exact h.eq_of_number?_eq hnext hleft hright (congrArg (Option.map toNat) heq')
  obtain ⟨f, hf, heqOn⟩ := exists_injective_eqOn hinj
  have htarget : ∀ key ∈ keys, target? key = some (f key) := fun key hkey => by
    rw [hsome key hkey, heqOn hkey]
  refine ⟨f, hf, htarget, List.map_injective_iff.mpr (Option.some_injective Nat) ?_⟩
  rw [← h.map_eraseDups hnext, List.map_map]
  refine List.map_congr_left fun key hkey => ?_
  rw [htarget key (List.mem_eraseDups.mp hkey)]
  rfl

end Numbered

end CilEdit
