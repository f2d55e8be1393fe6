import CilEdit.Proofs.Rebase.Donors

/-! Declaring the local variables that a pool handed out. The pool of a method starts behind all
variables that the method declares or its code accesses, and counts on from there. So the variables that
were handed out are declared one behind the other, with objects in the gap before the first of them, and
what was declared before stays as it is. Declaring them again finds every one of them declared already.
-/

namespace CilEdit

namespace SlotPool

/-! ### One variable -/

theorem rightpad_of_le {locals : List TypeSig} {length : Nat} (h : length ≤ locals.length) :
    locals.rightpad length .object = locals := by
  rw [List.rightpad, Nat.sub_eq_zero_of_le h, List.replicate_zero, List.append_nil]

/-- A variable that is not declared yet goes behind the declared ones, with objects in between. -/
theorem declareLocal_of_le {locals : List TypeSig} {slot : Slot} (h : locals.length ≤ slot.toNat)
    (type : TypeSig) :
    declareLocal locals slot type = locals.rightpad slot.toNat .object ++ [type] := by
  have hpad : locals.rightpad (slot.toNat + 1) .object =
      locals.rightpad slot.toNat .object ++ [.object] := by
    rw [List.rightpad, List.rightpad, Nat.sub_add_comm h, List.replicate_succ', List.append_assoc]
  have hlength : (locals.rightpad slot.toNat .object).length = slot.toNat := by
    rw [List.length_rightpad, Nat.max_eq_left h]
  rw [declareLocal, hpad, List.set_append_right _ _ (Nat.le_of_eq hlength), hlength, Nat.sub_self]
  rfl

/-- Declaring a variable with the type that it has changes nothing. -/
theorem declareLocal_eq_self {locals : List TypeSig} {slot : Slot} {type : TypeSig}
    (h : locals[slot.toNat]? = some type) : declareLocal locals slot type = locals := by
  obtain ⟨hlt, rfl⟩ := List.getElem?_eq_some_iff.mp h
  rw [declareLocal, rightpad_of_le hlt, List.set_getElem_self]

/-! ### All variables of a pool -/

/-- The types that the variables of the pool are declared with, in order. -/
def declaredTypes (pool : SlotPool) : List TypeSig :=
  pool.allocated.map fun entry => entry.2.getD .object

/-- Variables that were counted off from right behind the declared ones are declared one behind the
other. -/
theorem foldl_declareLocal {entries : List (Slot × Option TypeSig)} {locals : List TypeSig}
    {first upcoming : Slot} (h : CountedOff Slot.next first (entries.map Prod.fst) upcoming)
    (hbound : upcoming.toNat < 65535) (hlength : locals.length = first.toNat) :
    entries.foldl (fun locals entry => declareLocal locals entry.1 (entry.2.getD .object)) locals =
      locals ++ entries.map fun entry => entry.2.getD .object := by
  induction entries generalizing locals first with
  | nil => rw [List.foldl_nil, List.map_nil, List.append_nil]
  | cons entry entries ih =>
      have hnext := h.toNat_next_of_cons Slot.counts hbound
      obtain ⟨hentry, hrest⟩ := h.of_cons
      have hdeclare : declareLocal locals entry.1 (entry.2.getD .object) =
          locals ++ [entry.2.getD .object] := by
        rw [hentry, declareLocal_of_le (Nat.le_of_eq hlength), rightpad_of_le (Nat.le_of_eq hlength.symm)]
      have hlength' : (locals ++ [entry.2.getD .object]).length = first.next.toNat := by
        rw [List.length_append, List.length_singleton, hlength, hnext]
      rw [List.foldl_cons, hdeclare, ih hrest hlength', List.map_cons, List.append_assoc,
        List.singleton_append]

theorem declareOn_of_nil {pool : SlotPool} (h : pool.allocated = []) (method : Method) :
    pool.declareOn method = method := by
  rw [declareOn, h, List.foldl_nil]

/-- Variables that are declared with their types need not be declared again. -/
theorem declareOn_eq_self {pool : SlotPool} {method : Method}
    (h : ∀ entry ∈ pool.allocated, method.localType? entry.1 = some (entry.2.getD .object)) :
    pool.declareOn method = method := by
  have hfold : pool.allocated.foldl
      (fun locals entry => declareLocal locals entry.1 (entry.2.getD .object)) method.locals =
        method.locals := by
    generalize pool.allocated = entries at h
    induction entries with
    | nil => rfl
    | cons entry entries ih =>
        rw [List.foldl_cons, declareLocal_eq_self (h entry List.mem_cons_self)]
        exact ih fun other hother => h other (List.mem_cons_of_mem _ hother)
  rw [declareOn, hfold]

section Counted

variable {pool : SlotPool} {method : Method} {first : Slot}
  (h : CountedOff Slot.next first (pool.allocated.map Prod.fst) pool.next)
  (hbound : pool.next.toNat < 65535) (hfirst : method.locals.length ≤ first.toNat)

include h hbound hfirst

/-- Variables that were counted off from somewhere behind the declared ones are declared from there on,
with objects in the gap. -/
theorem locals_declareOn (hallocated : pool.allocated ≠ []) :
    (pool.declareOn method).locals =
      method.locals.rightpad first.toNat .object ++ pool.declaredTypes := by
  obtain ⟨entry, entries, hentries⟩ := List.exists_cons_of_ne_nil hallocated
  rw [hentries, List.map_cons] at h
  have hnext := h.toNat_next_of_cons Slot.counts hbound
  obtain ⟨hentry, hrest⟩ := h.of_cons
  have hlength : (method.locals.rightpad first.toNat .object ++ [entry.2.getD .object]).length =
      first.next.toNat := by
    rw [List.length_append, List.length_rightpad, Nat.max_eq_left hfirst, List.length_singleton, hnext]
  rw [declareOn, declaredTypes, hentries, List.foldl_cons, hentry, declareLocal_of_le hfirst,
    foldl_declareLocal hrest hbound hlength, List.append_assoc, List.map_cons, List.singleton_append]

theorem length_declareOn (hallocated : pool.allocated ≠ []) :
    (pool.declareOn method).locals.length = pool.next.toNat := by
  have hupcoming := h.toNat_upcoming Slot.counts
  rw [locals_declareOn h hbound hfirst hallocated, List.length_append, List.length_rightpad,
    Nat.max_eq_left hfirst, declaredTypes, List.length_map]
  rw [List.length_map] at hupcoming
  omega

/-- What was declared before keeps its type. -/
theorem getElem?_declareOn_of_declared {index : Nat} {type : TypeSig}
    (hindex : method.locals[index]? = some type) :
    (pool.declareOn method).locals[index]? = some type := by
  by_cases hallocated : pool.allocated = []
  · rwa [declareOn_of_nil hallocated]
  · have hlt := (List.getElem?_eq_some_iff.mp hindex).1
    rw [locals_declareOn h hbound hfirst hallocated, List.rightpad, List.append_assoc,
      List.getElem?_append_left hlt, hindex]

/-- A variable that was handed out has the type that was asked for. -/
theorem localType?_declareOn_of_mem {entry : Slot × Option TypeSig}
    (hentry : entry ∈ pool.allocated) :
    (pool.declareOn method).localType? entry.1 = some (entry.2.getD .object) := by
  obtain ⟨index, hindex⟩ := List.mem_iff_getElem?.mp hentry
  have hslot : entry.1.toNat = first.toNat + index := by
    refine h.toNat_of_getElem? Slot.counts hbound ?_
    rw [List.getElem?_map, hindex, Option.map_some]
  have hlength : (method.locals.rightpad first.toNat .object).length = first.toNat := by
    rw [List.length_rightpad, Nat.max_eq_left hfirst]
  rw [Method.localType?, locals_declareOn h hbound hfirst (List.ne_nil_of_mem hentry), hslot,
    List.getElem?_append_right (by omega), hlength, Nat.add_sub_cancel_left, declaredTypes,
    List.getElem?_map, hindex, Option.map_some]

/-- Any other new variable is an object. -/
theorem getElem?_declareOn_of_new {index : Nat} (hnew : method.locals.length ≤ index)
    (hindex : index < (pool.declareOn method).locals.length)
    (hother : ∀ entry ∈ pool.allocated, entry.1.toNat ≠ index) :
    (pool.declareOn method).locals[index]? = some .object := by
  have hallocated : pool.allocated ≠ [] := by
    intro hnil
    rw [declareOn_of_nil hnil] at hindex
    omega
  have hgap : index < first.toNat := by
    by_contra hge
    have hupcoming := h.toNat_upcoming Slot.counts
    rw [length_declareOn h hbound hfirst hallocated] at hindex
    have hlt : index - first.toNat < (pool.allocated.map Prod.fst).length := by omega
    obtain ⟨entry, hentry, hslot⟩ := List.mem_map.mp (List.getElem_mem hlt)
    have hnumber := h.toNat_of_getElem? Slot.counts hbound (List.getElem?_eq_getElem hlt)
    rw [← hslot] at hnumber
    exact hother entry hentry (by omega)
  rw [locals_declareOn h hbound hfirst hallocated, List.rightpad, List.append_assoc,
    List.getElem?_append_right hnew, List.getElem?_append_left (by rw [List.length_replicate]; omega),
    List.getElem?_replicate_of_lt (by omega)]

end Counted

end SlotPool

/-! ### The pool of a method -/

namespace Scope

section FirstFree

variable {method : Method} {code : Code} (h : (firstFreeLocal method code).toNat < 65535)

include h

theorem toNat_lt_firstFreeLocal {slot : Slot} (hslot : slot ∈ code.slots) :
    slot.toNat < (firstFreeLocal method code).toNat :=
  (behind_firstFreeLocal method code).toNat_lt (Or.inr hslot) (Or.inr h)

theorem length_le_firstFreeLocal : method.locals.length ≤ (firstFreeLocal method code).toNat := by
  by_contra hgt
  have hdeclared : (firstFreeLocal method code).InUse method code := Or.inl (Nat.lt_of_not_le hgt)
  exact Nat.lt_irrefl _ ((behind_firstFreeLocal method code).toNat_lt hdeclared (Or.inr h))

end FirstFree

/-- What the pool of a method keeps after all calls is what it counted off. -/
theorem countedOff_allocated (method : Method) (code : Code) (donors : List (Code × Method)) :
    CountedOff Slot.next (firstFreeLocal method code)
      (((forBody method code).afterAll donors).locals.allocated.map Prod.fst)
      ((forBody method code).afterAll donors).locals.next := by
  rw [allocated_afterAll]
  exact countedOff_slots (forBody method code) donors

/-- Declaring the variables that the calls moved completes the method that receives the code, as long as
its pool does not reach the greatest slot. Nothing but the declared variables changes, and of these the
ones that were declared before keep their types. A variable that was handed out has the type that was
asked for, or else is an object, and every other new variable is an object. If any was handed out, then
all variables that the code of the method or any code that was moved accesses are declared, and none
behind the pool is. Declaring them again changes nothing. -/
theorem declareOn_completes (method : Method) (code : Code) (donors : List (Code × Method))
    (hlocals : ((forBody method code).afterAll donors).locals.next ≠ 65535) :
    let calls := (forBody method code).rebaseAll donors
    let pool := ((forBody method code).afterAll donors).locals
    let declared := pool.declareOn method
    declared = { method with locals := declared.locals } ∧
    (∀ (index : Nat) type, method.locals[index]? = some type → declared.locals[index]? = some type) ∧
    (∀ entry ∈ pool.allocated, declared.localType? entry.1 = some (entry.2.getD .object)) ∧
    (∀ index < declared.locals.length, method.locals.length ≤ index →
      (∀ entry ∈ pool.allocated, entry.1.toNat ≠ index) → declared.locals[index]? = some .object) ∧
    (pool.allocated ≠ [] → declared.locals.length = pool.next.toNat ∧
      (∀ slot ∈ code.slots, slot.toNat < declared.locals.length) ∧
      ∀ call ∈ calls, ∀ slot ∈ call.code.slots, slot.toNat < declared.locals.length) ∧
    pool.declareOn declared = declared := by
  intro calls pool declared
  have hcounted : CountedOff Slot.next (firstFreeLocal method code) (pool.allocated.map Prod.fst)
      pool.next := countedOff_allocated method code donors
  have hbound : pool.next.toNat < 65535 := toNat_next_lt_of_ne hlocals
  have hfree := toNat_next_lt_of_ne (hcounted.ne_of_upcoming_ne Slot.counts rfl hlocals)
  have hfirst := length_le_firstFreeLocal hfree
  have htyped : ∀ entry ∈ pool.allocated,
      declared.localType? entry.1 = some (entry.2.getD .object) := fun entry hentry =>
    SlotPool.localType?_declareOn_of_mem hcounted hbound hfirst hentry
  refine ⟨rfl, ?_, htyped, ?_, ?_, SlotPool.declareOn_eq_self htyped⟩
  · intro index type hindex
    exact SlotPool.getElem?_declareOn_of_declared hcounted hbound hfirst hindex
  · intro index hindex hnew hother
    exact SlotPool.getElem?_declareOn_of_new hcounted hbound hfirst hnew hindex hother
  · intro hallocated
    have hlength : declared.locals.length = pool.next.toNat :=
      SlotPool.length_declareOn hcounted hbound hfirst hallocated
    have hupcoming := hcounted.toNat_upcoming Slot.counts
    refine ⟨hlength, fun slot hslot => ?_, fun call hcall slot hslot => ?_⟩
    · have hlt := toNat_lt_firstFreeLocal hfree hslot
      omega
    · have hgiven : slot ∈ calls.flatMap fun other => other.names.givenSlots :=
        List.mem_flatMap.mpr ⟨call, hcall, (given_of_mem hcall).1 hslot⟩
      rw [hlength]
      exact ((countedOff_slots _ donors).mem_range Slot.counts hbound hgiven).2

/-- A method with one declared variable whose code also uses the fourth one. Of three donors the second
fails after it moved one variable, and the last one moves a variable of unknown type. -/
theorem declareOn_completes_gap :
    let method : Method := ⟨.object, "Next", ⟨.plain, [], .void⟩, [.string]⟩
    let code : Code := [.make .stloc3, .ret]
    let typed : Method := ⟨.object, "Reset", ⟨.plain, [], .void⟩, [.int32]⟩
    let donors : List (Code × Method) := [([.make .ldloc0], typed),
      ([.make .ldloc0, .make .call, .make .stloc1], typed), ([.make .ldloc1], typed)]
    let pool := ((forBody method code).afterAll donors).locals
    let declared := pool.declareOn method
    pool.next ≠ 65535 ∧ pool.allocated = [(4, some .int32), (5, some .int32), (6, none)] ∧
      declared.locals = [.string, .object, .object, .object, .int32, .int32, .object] ∧
      declared.locals[0]? = some .string ∧ declared.locals[2]? = some .object ∧
      (∀ slot ∈ code.slots, slot.toNat < declared.locals.length) ∧
      pool.declareOn declared = declared := by
  intro method code typed donors pool declared
  have hlocals : pool.next ≠ 65535 := by decide
  have hallocated : pool.allocated = [(4, some .int32), (5, some .int32), (6, none)] := by decide
  obtain ⟨-, hkept, -, hobject, hall, htwice⟩ := declareOn_completes method code donors hlocals
  obtain ⟨-, hcode, -⟩ := hall (List.ne_nil_of_length_pos (by decide))
  exact ⟨hlocals, hallocated, by decide, hkept 0 .string rfl,
    hobject 2 (by decide) (by decide) (by decide), hcode, htwice⟩

end Scope

end CilEdit
