import CilEdit.Proofs.Typing.Forward

/-! The type of a pushed value by recursion on indices, opcode by opcode. The recursion asks for the
producer at a depth and for the nearest store by their indices in the code, and goes on from there. It
takes the same way as the recursion along the instructions before a place, since a producer or a store
that is found on the way back has its index in the code and all instructions in front of it. -/

namespace CilEdit

namespace Code

/-- The index of the nearest store into a local variable before `index`. -/
def lastStore? (code : Code) (index : Nat) (slot : Slot) : Option Nat :=
  (List.range index).reverse.find? fun place =>
    code[place]?.any fun instruction => instruction.storesTo slot

theorem lt_of_lastStore? {code : Code} {index store : Nat} {slot : Slot}
    (h : code.lastStore? index slot = some store) : store < index :=
  List.mem_range.mp (List.mem_reverse.mp (List.mem_of_find?_eq_some h))

/-- The answer that `ask` gives for the producer of a value on the stack, as it is just before the
instruction at `index` runs. The value is untyped when it has no producer. -/
def through (code : Code) (index above : Nat)
    (ask : (producer : Nat) → producer < index → Except Unsupported (Option TypeSig)) :
    Except Unsupported (Option TypeSig) :=
  match h : code.producer? index above with
  | .error failure => .error failure
  | .ok none => .ok none
  | .ok (some producer) => ask producer (lt_of_producer? h)

/-- The answer that `ask` gives for the value that the nearest store before `index` took, or else the
declared type of the local variable. -/
def throughStore (code : Code) (method : Method) (index : Nat) (slot : Slot)
    (ask : (producer : Nat) → producer < index → Except Unsupported (Option TypeSig)) :
    Except Unsupported (Option TypeSig) :=
  match h : code.lastStore? index slot with
  | none => .ok (method.localType? slot)
  | some store => do
    let stored ← code.through store 0 fun producer hproducer =>
      ask producer (Nat.lt_trans hproducer (lt_of_lastStore? h))
    return stored.or (method.localType? slot)

/-- The type that the instruction at `index` pushes, where `ask` answers for those before it. -/
def typeFrom (code : Code) (method : Method) (index : Nat) (instruction : Instruction)
    (ask : (producer : Nat) → producer < index → Except Unsupported (Option TypeSig)) :
    Except Unsupported (Option TypeSig) :=
  match instruction.opcode with
  | .dup | .ckfinite | .neg | .not => code.through index 0 ask
  | .add | .sub | .mul | .div | .divUn | .rem | .remUn | .and | .or | .xor | .shl | .shr | .shrUn
  | .addOvf | .addOvfUn | .mulOvf | .mulOvfUn | .subOvf | .subOvfUn => do
    match ← code.through index 1 ask with
    | some type => return some type
    | none => code.through index 0 ask
  | .ldelemRef => do
    let array ← code.through index 1 ask
    return some (TypeSig.loadedElement array)
  | .ldloc0 | .ldloc1 | .ldloc2 | .ldloc3 | .ldlocS | .ldloc =>
    match instruction.localSlot? with
    | none => .ok none
    | some slot => code.throughStore method index slot ask
  | .ldlocaS | .ldloca =>
    match instruction.localSlot? with
    | none => .ok none
    | some slot => do
      let type ← code.throughStore method index slot ask
      return type.map .byRef
  | _ => .ok (instruction.ownType? method)

/-- The type of the value that the instruction at `index` pushes in `method`. Outside the code there is
none. -/
def recursiveType (code : Code) (method : Method) (index : Nat) :
    Except Unsupported (Option TypeSig) :=
  match code[index]? with
  | none => .ok none
  | some instruction =>
    code.typeFrom method index instruction fun producer _ => code.recursiveType method producer
termination_by index

/-- The opcode says where the type comes from. -/
theorem typeFrom_eq (code : Code) (method : Method) (index : Nat) (instruction : Instruction)
    (ask : (producer : Nat) → producer < index → Except Unsupported (Option TypeSig)) :
    code.typeFrom method index instruction ask =
      match instruction.typeSource method with
      | .known type => .ok type
      | .top => code.through index 0 ask
      | .operands => do
        match ← code.through index 1 ask with
        | some type => return some type
        | none => code.through index 0 ask
      | .element => do
        let array ← code.through index 1 ask
        return some (TypeSig.loadedElement array)
      | .slot slot => code.throughStore method index slot ask
      | .slotAddress slot => do
        let type ← code.throughStore method index slot ask
        return type.map .byRef := by
  obtain ⟨opcode, operand, labels, markers⟩ := instruction
  cases opcode <;> first | rfl | (cases operand <;> rfl)

/-! ### Places on the way back and their indices -/

/-- A place that the code before `index` leads past stands in the code at its own index. -/
theorem site?_of_passes {code : Code} {index : Nat} {site : Site}
    (h : (code.before index).Passes site) : code.site? site.index = some site := by
  obtain ⟨nearer, hnearer⟩ := h
  have hcode : code = site.earlier.instructions.reverse ++ [site.instruction] ++
      (nearer.reverse ++ code.drop index) := by
    have htake : code.take index =
        site.earlier.instructions.reverse ++ [site.instruction] ++ nearer.reverse := by
      rw [← List.reverse_reverse (code.take index), ← List.reverse_cons, ← List.reverse_append]
      exact congrArg List.reverse hnearer.symm
    rw [← List.append_assoc, ← htake, List.take_append_drop]
  have hindex : site.index = site.earlier.instructions.reverse.length := by
    rw [List.length_reverse, Site.index, site.earlier.length_eq]
  have hget : code[site.index]? = some site.instruction := by
    rw [hcode, List.append_assoc, hindex, List.getElem?_append_right (Nat.le_refl _), Nat.sub_self]
    rfl
  have hbefore : code.before site.index = site.earlier := by
    have htake : code.take site.index = site.earlier.instructions.reverse := by
      rw [hcode, List.append_assoc, hindex, List.take_left]
    rw [before, htake, List.reverse_reverse]
    exact Trail.ext rfl
  rw [site?, hget, hbefore]
  rfl

theorem earlier_eq_of_site? {code : Code} {index : Nat} {site : Site}
    (h : code.site? index = some site) : site.earlier = code.before index := by
  obtain ⟨instruction, -, rfl⟩ := Option.map_eq_some_iff.mp h
  rfl

theorem index_of_site? {code : Code} {index : Nat} {site : Site}
    (h : code.site? index = some site) : site.index = index := by
  obtain ⟨instruction, hget, rfl⟩ := Option.map_eq_some_iff.mp h
  have hlt := (List.getElem?_eq_some_iff.mp hget).1
  change (code.take index).reverse.length = index
  rw [List.length_reverse, List.length_take_of_le (Nat.le_of_lt hlt)]

theorem before_succ {code : Code} {index : Nat} {instruction : Instruction}
    (h : code[index]? = some instruction) :
    code.before (index + 1) = .ofList (instruction :: (code.take index).reverse) := by
  rw [before, List.take_add_one, h, Option.toList_some, List.reverse_append]
  rfl

theorem lastStore?_eq (code : Code) (index : Nat) (slot : Slot) :
    code.lastStore? index slot = ((code.before index).lastStore? slot).map Site.index := by
  induction index with
  | zero => rfl
  | succ index ih =>
      rw [lastStore?] at ih ⊢
      rw [List.range_succ, List.reverse_append, List.reverse_singleton, List.singleton_append,
        List.find?_cons]
      cases hget : code[index]? with
      | none =>
          have hbefore : code.before (index + 1) = code.before index := by
            rw [before, before, List.take_add_one, hget, Option.toList_none, List.append_nil]
          rw [hbefore, Option.any_none]
          exact ih
      | some instruction =>
          have hlength : (code.take index).length = index :=
            List.length_take_of_le (Nat.le_of_lt (List.getElem?_eq_some_iff.mp hget).1)
          rw [before_succ hget, Trail.lastStore?_cons, Option.any_some]
          cases instruction.storesTo slot with
          | true =>
              simp only [if_true, Option.map_some, Site.index, Trail.ofList, List.length_reverse,
                hlength]
          | false => exact ih

/-! ### The two recursions -/

theorem through_eq (code : Code) (index above : Nat)
    (ask : Nat → Except Unsupported (Option TypeSig)) :
    (code.through index above fun producer _ => ask producer) =
      match code.producer? index above with
      | .error failure => .error failure
      | .ok none => .ok none
      | .ok (some producer) => ask producer := by
  rw [through]
  split <;> rename_i hproducer <;> rw [hproducer]

theorem throughStore_eq (code : Code) (method : Method) (index : Nat) (slot : Slot)
    (ask : Nat → Except Unsupported (Option TypeSig)) :
    (code.throughStore method index slot fun producer _ => ask producer) =
      match code.lastStore? index slot with
      | none => .ok (method.localType? slot)
      | some store => do
        let stored ← code.through store 0 fun producer _ => ask producer
        return stored.or (method.localType? slot) := by
  rw [throughStore]
  split <;> rename_i hstore <;> rw [hstore]

section Ask

variable {code : Code} {index : Nat} {trail : Trail} (htrail : trail = code.before index)
  {atPlace : Site → Except Unsupported (Option TypeSig)}
  {atIndex : Nat → Except Unsupported (Option TypeSig)}
  (h : ∀ site, trail.Passes site → atPlace site = atIndex site.index)

include htrail h in
theorem through_before (above : Nat) :
    (trail.through above fun site _ => atPlace site) =
      code.through index above fun producer _ => atIndex producer := by
  rw [Trail.through_eq, through_eq, producer?, ← htrail]
  cases hproducer : trail.producer? above with
  | error failure => rfl
  | ok found =>
      cases found with
      | none => rfl
      | some site => exact h site (Trail.passes_of_producer? hproducer)

include htrail h in
theorem throughStore_before (method : Method) (slot : Slot) :
    (trail.throughStore method slot fun site _ => atPlace site) =
      code.throughStore method index slot fun producer _ => atIndex producer := by
  rw [Trail.throughStore_eq, throughStore_eq, lastStore?_eq, ← htrail]
  cases hstore : trail.lastStore? slot with
  | none => rfl
  | some store =>
      have hpasses := Trail.passes_of_lastStore? hstore
      have hearlier := earlier_eq_of_site? (site?_of_passes (htrail ▸ hpasses))
      have hstored := through_before hearlier
        (fun site hsite => h site (hsite.trans hpasses.earlier)) 0
      simp only [Option.map_some, hstored]

end Ask

/-- An instruction pushes the type that the recursion on indices finds at its index. -/
theorem pushedType_eq_recursiveType (code : Code) (method : Method) {index : Nat} {site : Site}
    (h : code.site? index = some site) :
    site.pushedType method = code.recursiveType method index := by
  induction index using Nat.strongRecOn generalizing site with
  | ind index ih =>
      have hearlier : ∀ producer, (code.before index).Passes producer →
          producer.pushedType method = code.recursiveType method producer.index := by
        intro producer hpasses
        refine ih producer.index ?_ (site?_of_passes hpasses)
        have hlength := hpasses.length_le
        rw [Site.path, List.length_cons, ← producer.earlier.length_eq, before, Trail.ofList,
          List.length_reverse, List.length_take] at hlength
        exact Nat.lt_of_lt_of_le hlength (Nat.min_le_left _ _)
      obtain ⟨instruction, hget, rfl⟩ := Option.map_eq_some_iff.mp h
      have hthrough := through_before rfl hearlier
      have hthroughStore := throughStore_before rfl hearlier method
      rw [Site.pushedType, recursiveType, hget]
      refine Eq.trans ?_ (code.typeFrom_eq method index instruction _).symm
      cases instruction.typeSource method with
      | known type => rfl
      | top => exact hthrough 0
      | operands =>
          rw [hthrough 1]
          refine bind_congr fun first => ?_
          cases first with
          | some type => rfl
          | none => exact hthrough 0
      | element => simp only [hthrough]
      | slot slot => exact hthroughStore slot
      | slotAddress slot => simp only [hthroughStore]

end Code

end CilEdit
