import Mathlib.Data.List.Iterate
import Mathlib.Data.List.Nodup

/-! Counting up to a bound. A counter goes on by one and stays at the greatest key when it comes there.
What it gives one after another is a stretch of keys, different as long as the counter is below its
bound. -/

namespace CilEdit

/-- Whether `next` counts the keys upwards and keeps the key that has the number `bound`. -/
structure Counts {κ : Type} (toNat : κ → Nat) (next : κ → κ) (bound : Nat) : Prop where
  injective : toNat.Injective
  le_bound : ∀ key, toNat key ≤ bound
  toNat_next : ∀ key, toNat (next key) = min (toNat key + 1) bound

namespace Counts

variable {κ : Type} {toNat : κ → Nat} {next : κ → κ} {bound : Nat} (h : Counts toNat next bound)
  (first : κ) (count : Nat)

include h

theorem toNat_iterate : toNat (next^[count] first) = min (toNat first + count) bound := by
  induction count with
  | zero =>
      have hle := h.le_bound first
      rw [Function.iterate_zero_apply]
      omega
  | succ count ih =>
      rw [Function.iterate_succ_apply', h.toNat_next, ih]
      omega

/-- Keys that are counted off are different unless the last two of them are the greatest key. -/
theorem nodup_iterate_iff :
    (List.iterate next first count).Nodup ↔ count ≤ 1 ∨ toNat first + count ≤ bound + 1 := by
  rw [List.nodup_iff_getElem?_ne_getElem?, List.length_iterate]
  constructor
  · intro hne
    by_contra hnot
    rw [not_or] at hnot
    apply hne (count - 2) (count - 1) (by omega) (by omega)
    rw [List.getElem?_iterate _ _ _ _ (by omega), List.getElem?_iterate _ _ _ _ (by omega),
      Option.some_inj]
    apply h.injective
    rw [h.toNat_iterate, h.toNat_iterate]
    omega
  · intro hcount left right hlt hright heq
    rw [List.getElem?_iterate _ _ _ _ (by omega), List.getElem?_iterate _ _ _ _ hright,
      Option.some_inj] at heq
    have hnumbers := congrArg toNat heq
    rw [h.toNat_iterate, h.toNat_iterate] at hnumbers
    omega

end Counts

/-! ### Stretches of a counter -/

/-- Whether the keys were counted off from `first` on, so that `upcoming` is the next one. -/
structure CountedOff {κ : Type} (next : κ → κ) (first : κ) (keys : List κ) (upcoming : κ) : Prop where
  keys_eq : keys = List.iterate next first keys.length
  upcoming_eq : upcoming = next^[keys.length] first

namespace CountedOff

variable {κ : Type} {next : κ → κ} {first upcoming : κ} {keys : List κ}

theorem nil (first : κ) : CountedOff next first [] first := ⟨rfl, rfl⟩

theorem singleton (first : κ) : CountedOff next first [first] (next first) := ⟨rfl, rfl⟩

theorem append {middle : κ} {more : List κ} (h : CountedOff next first keys middle)
    (hmore : CountedOff next middle more upcoming) :
    CountedOff next first (keys ++ more) upcoming where
  keys_eq := by
    rw [List.length_append, List.iterate_add, ← h.upcoming_eq, ← h.keys_eq, ← hmore.keys_eq]
  upcoming_eq := by
    rw [List.length_append, Nat.add_comm, Function.iterate_add_apply, ← h.upcoming_eq,
      hmore.upcoming_eq]

/-- The first key of a stretch, and the stretch behind it. -/
theorem of_cons {key : κ} (h : CountedOff next first (key :: keys) upcoming) :
    key = first ∧ CountedOff next (next first) keys upcoming := by
  obtain ⟨hkey, hkeys⟩ := List.cons.inj h.keys_eq
  exact ⟨hkey, hkeys, h.upcoming_eq⟩

section Bound

variable {toNat : κ → Nat} {bound : Nat} (hcounts : Counts toNat next bound)

include hcounts

theorem toNat_upcoming (h : CountedOff next first keys upcoming) :
    toNat upcoming = min (toNat first + keys.length) bound := by
  rw [h.upcoming_eq, hcounts.toNat_iterate]

/-- Below the bound the key behind the first one has the next number. -/
theorem toNat_next_of_cons {key : κ} (h : CountedOff next first (key :: keys) upcoming)
    (hbound : toNat upcoming < bound) : toNat (next first) = toNat first + 1 := by
  have hupcoming := h.toNat_upcoming hcounts
  rw [List.length_cons] at hupcoming
  rw [hcounts.toNat_next]
  omega

theorem nodup (h : CountedOff next first keys upcoming) (hbound : toNat upcoming < bound) :
    keys.Nodup := by
  have hupcoming := h.toNat_upcoming hcounts
  rw [h.keys_eq, hcounts.nodup_iterate_iff]
  omega

/-- Below the bound each key has the number of its place. -/
theorem toNat_of_getElem? (h : CountedOff next first keys upcoming) (hbound : toNat upcoming < bound)
    {index : Nat} {key : κ} (hkey : keys[index]? = some key) : toNat key = toNat first + index := by
  have hupcoming := h.toNat_upcoming hcounts
  have hindex := (List.getElem?_eq_some_iff.mp hkey).1
  rw [h.keys_eq, List.getElem?_iterate _ _ _ _ hindex, Option.some_inj] at hkey
  rw [← hkey, hcounts.toNat_iterate]
  omega

theorem mem_range (h : CountedOff next first keys upcoming) (hbound : toNat upcoming < bound)
    {key : κ} (hkey : key ∈ keys) : toNat first ≤ toNat key ∧ toNat key < toNat upcoming := by
  have hupcoming := h.toNat_upcoming hcounts
  rw [h.keys_eq] at hkey
  obtain ⟨steps, hsteps, rfl⟩ := List.mem_iterate.mp hkey
  rw [hcounts.toNat_iterate]
  omega

/-- A counter that did not come to its bound was not there before. -/
theorem ne_of_upcoming_ne {last : κ} (hlast : toNat last = bound)
    (h : CountedOff next first keys upcoming) (hne : upcoming ≠ last) : first ≠ last := by
  rintro rfl
  apply hne
  apply hcounts.injective
  rw [h.toNat_upcoming hcounts]
  omega

/-- Runs that gave out the keys together have none in common. -/
theorem pairwise_disjoint {ρ : Type} {runs : List ρ} {given : ρ → List κ}
    (h : CountedOff next first (runs.flatMap given) upcoming) (hbound : toNat upcoming < bound) :
    runs.Pairwise fun earlier later => (given earlier).Disjoint (given later) :=
  (List.nodup_flatMap.mp (h.nodup hcounts hbound)).2

end Bound

end CountedOff

end CilEdit
