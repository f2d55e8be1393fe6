import CilEdit.Stack.Effect

/-! Which instruction produced a value on the evaluation stack. The question is answered by walking
back from the point where the value lies on the stack with a running depth: what an instruction
leaves raises the depth, and the first one that lifts it above the position of the value produced
the value; what it takes lowers the depth again, below zero where it took more than was left so far.
The walk follows the text of the code and no branches, so where control flow joins it finds the
producer that stands nearest above. A trail knows how long it is, so that each place that the walk
comes to has its index at hand. -/

namespace CilEdit

/-- The instructions before a point of some code. -/
structure Trail where
  /-- the instructions, the nearest first -/
  instructions : List Instruction
  length : Nat
  length_eq : length = instructions.length

/-- An instruction at its place: with the instructions before it. -/
structure Site where
  instruction : Instruction
  /-- all that stands before it -/
  earlier : Trail

def Site.index (site : Site) : Nat := site.earlier.length

namespace Trail

@[ext] theorem ext {left right : Trail} (h : left.instructions = right.instructions) :
    left = right := by
  obtain ⟨_, _, hleft⟩ := left
  obtain ⟨_, _, hright⟩ := right
  cases h
  rw [← hright] at hleft
  cases hleft
  rfl

/-- The trail of some instructions, the nearest first. -/
def ofList (instructions : List Instruction) : Trail := ⟨instructions, instructions.length, rfl⟩

theorem exists_eq_ofList (trail : Trail) : ∃ instructions, trail = ofList instructions :=
  ⟨trail.instructions, ext rfl⟩

/-- The place of the nearest instruction of a trail of the given length. -/
def nearest (instruction : Instruction) (earlier : List Instruction) (length : Nat)
    (h : length = earlier.length + 1) : Site :=
  ⟨instruction, earlier, length - 1, by omega⟩

theorem nearest_eq (instruction : Instruction) (earlier : List Instruction) (length : Nat)
    (h : length = earlier.length + 1) :
    nearest instruction earlier length h = ⟨instruction, ofList earlier⟩ := by
  simp [nearest, ofList, h]

/-- The site that `producer?` finds among instructions of which the number is known, once the walk
has come back to them with some depth. -/
def producerIn? : (instructions : List Instruction) → (length : Nat) →
    length = instructions.length → Nat → Int → Except Unsupported (Option Site)
  | [], _, _, _, _ => .ok none
  | instruction :: earlier, length, h, above, depth =>
    match instruction.stackEffect with
    | .error failure => .error failure
    | .ok effect =>
      let raised := depth + effect.pushes
      if above < raised then .ok (some (nearest instruction earlier length h))
      else
        producerIn? earlier (length - 1) (Nat.sub_eq_of_eq_add h) above (raised - effect.pops)

/-- The site of the instruction that produced the value below `above` others on the stack at the end
of the trail. There is none when the value was there before the first instruction. Each instruction
is first asked what it leaves and then, unless the value is among that, what it takes. -/
def producer? (trail : Trail) (above : Nat) : Except Unsupported (Option Site) :=
  producerIn? trail.instructions trail.length trail.length_eq above 0

/-- The site that `lastStore?` finds among instructions of which the number is known. -/
def lastStoreIn? : (instructions : List Instruction) → (length : Nat) →
    length = instructions.length → Slot → Option Site
  | [], _, _, _ => none
  | instruction :: earlier, length, h, slot =>
    if instruction.storesTo slot then some (nearest instruction earlier length h)
    else lastStoreIn? earlier (length - 1) (Nat.sub_eq_of_eq_add h) slot

/-- The site of the nearest store into a local variable. -/
def lastStore? (trail : Trail) (slot : Slot) : Option Site :=
  lastStoreIn? trail.instructions trail.length trail.length_eq slot

theorem producer?_nil (above : Nat) : (ofList []).producer? above = .ok none := rfl

/-- Only the distance from the depth to the position counts: a walk that starts at a depth is one
that starts at zero and looks for the value so much farther up. -/
theorem producerIn?_depth (instructions : List Instruction) (length : Nat)
    (h : length = instructions.length) (above : Nat) (depth : Int) (hdepth : depth ≤ above) :
    producerIn? instructions length h above depth =
      producerIn? instructions length h (above - depth).toNat 0 := by
  induction instructions generalizing length above depth with
  | nil => rfl
  | cons instruction earlier ih =>
    simp only [producerIn?]
    cases instruction.stackEffect with
    | error failure => rfl
    | ok effect =>
      have hdistance : ((above - depth).toNat : Int) = above - depth :=
        Int.toNat_of_nonneg (by omega)
      simp only [hdistance]
      by_cases hraised : (above : Int) < depth + effect.pushes
      · rw [if_pos hraised, if_pos (by omega)]
      · rw [if_neg hraised, if_neg (by omega), ih _ _ above _ (by omega),
          ih _ _ (above - depth).toNat _ (by omega), hdistance]
        congr 2
        omega

/-- The nearest instruction produced the value, or else it took some that lay above it. -/
theorem producer?_cons (instruction : Instruction) (earlier : List Instruction) (above : Nat) :
    (ofList (instruction :: earlier)).producer? above =
      match instruction.stackEffect with
      | .error failure => .error failure
      | .ok effect =>
        if above < effect.pushes then .ok (some ⟨instruction, ofList earlier⟩)
        else (ofList earlier).producer? (above - effect.pushes + effect.pops) := by
  simp only [producer?, ofList, producerIn?, nearest_eq, List.length_cons, Nat.add_sub_cancel]
  cases instruction.stackEffect with
  | error failure => rfl
  | ok effect =>
    simp only
    by_cases habove : above < effect.pushes
    · rw [if_pos (by omega), if_pos habove]
    · rw [if_neg (by omega), if_neg habove, producerIn?_depth _ _ _ _ _ (by omega)]
      congr 1
      omega

theorem lastStore?_nil (slot : Slot) : (ofList []).lastStore? slot = none := rfl

/-- The nearest instruction stores into the variable, or else the last store stands before it. -/
theorem lastStore?_cons (instruction : Instruction) (earlier : List Instruction) (slot : Slot) :
    (ofList (instruction :: earlier)).lastStore? slot =
      if instruction.storesTo slot then some ⟨instruction, ofList earlier⟩
      else (ofList earlier).lastStore? slot := by
  simp [lastStore?, ofList, lastStoreIn?, nearest_eq]

/-- The walk to a producer stops on the trail, at an instruction that leaves a value on the stack. -/
theorem suffix_of_producer? {trail : Trail} {above : Nat} {site : Site}
    (h : trail.producer? above = .ok (some site)) :
    site.instruction :: site.earlier.instructions <:+ trail.instructions ∧
      ∃ effect, site.instruction.stackEffect = .ok effect ∧ 1 ≤ effect.pushes := by
  obtain ⟨instructions, rfl⟩ := exists_eq_ofList trail
  induction instructions generalizing above with
  | nil => cases h
  | cons instruction earlier ih =>
      rw [producer?_cons] at h
      cases heffect : instruction.stackEffect with
      | error failure =>
          rw [heffect] at h
          cases h
      | ok effect =>
          simp only [heffect] at h
          by_cases habove : above < effect.pushes
          · rw [if_pos habove] at h
            cases h
            exact ⟨List.suffix_refl _, effect, heffect, Nat.one_le_of_lt habove⟩
          · rw [if_neg habove] at h
            obtain ⟨hsuffix, hpushes⟩ := ih h
            exact ⟨hsuffix.trans (List.suffix_cons instruction earlier), hpushes⟩

/-- The walk to the nearest store stops on the trail, at a store into the variable. -/
theorem suffix_of_lastStore? {trail : Trail} {slot : Slot} {site : Site}
    (h : trail.lastStore? slot = some site) :
    site.instruction :: site.earlier.instructions <:+ trail.instructions ∧
      site.instruction.storesTo slot := by
  obtain ⟨instructions, rfl⟩ := exists_eq_ofList trail
  induction instructions with
  | nil => cases h
  | cons instruction earlier ih =>
      rw [lastStore?_cons] at h
      by_cases hstore : instruction.storesTo slot = true
      · rw [if_pos hstore] at h
        cases h
        exact ⟨List.suffix_refl _, hstore⟩
      · rw [if_neg hstore] at h
        obtain ⟨hsuffix, hstores⟩ := ih h
        exact ⟨hsuffix.trans (List.suffix_cons instruction earlier), hstores⟩

theorem index_lt_of_suffix {trail : Trail} {site : Site}
    (h : site.instruction :: site.earlier.instructions <:+ trail.instructions) :
    site.index < trail.length := by
  have hlength := h.length_le
  rwa [List.length_cons, ← site.earlier.length_eq, ← trail.length_eq] at hlength

theorem index_lt_of_producer? {trail : Trail} {above : Nat} {site : Site}
    (h : trail.producer? above = .ok (some site)) : site.index < trail.length :=
  index_lt_of_suffix (suffix_of_producer? h).1

theorem index_lt_of_lastStore? {trail : Trail} {slot : Slot} {site : Site}
    (h : trail.lastStore? slot = some site) : site.index < trail.length :=
  index_lt_of_suffix (suffix_of_lastStore? h).1

end Trail

namespace Code

/-- The instructions before `index`. -/
def before (code : Code) (index : Nat) : Trail := .ofList (code.take index).reverse

def site? (code : Code) (index : Nat) : Option Site :=
  code[index]?.map fun instruction => ⟨instruction, code.before index⟩

/-- The index of the instruction that produced the value below `above` others on the stack, as it is
just before the instruction at `index` runs. -/
def producer? (code : Code) (index above : Nat) : Except Unsupported (Option Nat) :=
  match (code.before index).producer? above with
  | .error failure => .error failure
  | .ok site => .ok (site.map Site.index)

section

variable {code : Code} {index above : Nat}

theorem producer?_eq_some_iff {producer : Nat} :
    code.producer? index above = .ok (some producer) ↔
      ∃ site, (code.before index).producer? above = .ok (some site) ∧ site.index = producer := by
  rw [producer?]
  rcases (code.before index).producer? above with failure | _ | site <;> simp

theorem producer?_eq_none_iff :
    code.producer? index above = .ok none ↔ (code.before index).producer? above = .ok none := by
  rw [producer?]
  rcases (code.before index).producer? above with failure | _ | site <;> simp

theorem producer?_eq_error_iff {failure : Unsupported} :
    code.producer? index above = .error failure ↔
      (code.before index).producer? above = .error failure := by
  rw [producer?]
  rcases (code.before index).producer? above with failure | _ | site <;> simp

theorem lt_of_producer? {producer : Nat} (h : code.producer? index above = .ok (some producer)) :
    producer < index := by
  obtain ⟨site, hsite, rfl⟩ := producer?_eq_some_iff.mp h
  have hlt := Trail.index_lt_of_producer? hsite
  rw [(code.before index).length_eq] at hlt
  simp only [before, Trail.ofList, List.length_reverse, List.length_take] at hlt
  exact Nat.lt_of_lt_of_le hlt (Nat.min_le_left _ _)

end

end Code

end CilEdit
