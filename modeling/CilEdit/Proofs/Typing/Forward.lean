import CilEdit.Proofs.Stack.Execution
import CilEdit.Proofs.Typing.Search

/-! Types by running the code forwards. The state of the run holds the types of what lies on the
stack and of what is in the local variables; at first nothing is known of the stack, and a local
variable has its declared type. The recursion that looks back from an instruction finds what the run
up to that instruction has in its state: a producer is the entry that a push left on the stack, and
the nearest store is the last binding of a local variable. -/

namespace CilEdit

/-- The type of the pushed value as the instruction and the method alone decide it. -/
def Instruction.ownType? (instruction : Instruction) (method : Method) : Option TypeSig :=
  match instruction.typeSource method with
  | .known type => type
  | _ => none

/-- What is known of the types of all values at a point of the code. -/
structure TypeState where
  stack : DeepStack TypeSig
  locals : Slot → Option TypeSig

namespace TypeState

/-- Before the first instruction. -/
def initial (method : Method) : TypeState := ⟨.unknown, method.localType?⟩

/-- The type of the value that the instruction pushes. -/
def pushed (state : TypeState) (method : Method) (instruction : Instruction) : Option TypeSig :=
  match instruction.opcode with
  | .dup | .ckfinite | .neg | .not => state.stack.get 0
  | .add | .sub | .mul | .div | .divUn | .rem | .remUn | .and | .or | .xor | .shl | .shr | .shrUn
  | .addOvf | .addOvfUn | .mulOvf | .mulOvfUn | .subOvf | .subOvfUn =>
    (state.stack.get 1).or (state.stack.get 0)
  | .ldelemRef => some (TypeSig.loadedElement (state.stack.get 1))
  | _ =>
    match instruction.localKind? with
    | some .load => instruction.localSlot?.bind state.locals
    | some .loadAddress => (instruction.localSlot?.bind state.locals).map .byRef
    | _ => instruction.ownType? method

/-- What running the instruction makes of the state. A store binds the local variable to the type on
top of the stack, or to its declared type if that is not known. -/
def step (state : TypeState) (method : Method) (instruction : Instruction) (effect : StackEffect) :
    TypeState where
  stack := state.stack.apply effect (state.pushed method instruction)
  locals slot :=
    if instruction.storesTo slot then (state.stack.get 0).or (method.localType? slot)
    else state.locals slot

/-- Runs code. -/
def run (method : Method) (state : TypeState) : Code → Except Unsupported TypeState
  | [] => .ok state
  | instruction :: rest => do
    let effect ← instruction.stackEffect
    run method (state.step method instruction effect) rest

theorem pushed_eq (state : TypeState) (method : Method) (instruction : Instruction) :
    state.pushed method instruction =
      match instruction.typeSource method with
      | .known type => type
      | .top => state.stack.get 0
      | .operands => (state.stack.get 1).or (state.stack.get 0)
      | .element => some (TypeSig.loadedElement (state.stack.get 1))
      | .slot slot => state.locals slot
      | .slotAddress slot => (state.locals slot).map .byRef := by
  obtain ⟨opcode, operand, labels, markers⟩ := instruction
  cases opcode <;> first | rfl | (cases operand <;> rfl)

/-- Whether the state has the types that the recursion finds by looking back from the end of the
trail. -/
structure Describes (state : TypeState) (method : Method) (trail : Trail) : Prop where
  stack (above : Nat) :
    (trail.through above fun site _ => site.pushedType method) = .ok (state.stack.get above)
  locals (slot : Slot) :
    (trail.throughStore method slot fun site _ => site.pushedType method) = .ok (state.locals slot)

variable {state : TypeState} {method : Method} {trail : Trail}

theorem describes_initial (method : Method) : (initial method).Describes method (.ofList []) where
  stack above := by
    rw [Trail.through_eq, Trail.producer?_nil]
    rfl
  locals slot := by
    rw [Trail.throughStore_eq, Trail.lastStore?_nil]
    rfl

theorem Describes.pushedType (h : state.Describes method trail) (instruction : Instruction) :
    Site.pushedType method ⟨instruction, trail⟩ = .ok (state.pushed method instruction) := by
  rw [Site.pushedType, pushed_eq]
  cases instruction.typeSource method with
  | known type => rfl
  | top => exact h.stack 0
  | operands =>
      simp only [h.stack, bind, Except.bind]
      cases state.stack.get 1 <;> rfl
  | element =>
      simp only [h.stack]
      rfl
  | slot slot => exact h.locals slot
  | slotAddress slot =>
      simp only [h.locals]
      rfl

theorem Describes.step {earlier : List Instruction} (h : state.Describes method (.ofList earlier))
    {instruction : Instruction} {effect : StackEffect}
    (heffect : instruction.stackEffect = .ok effect) :
    (state.step method instruction effect).Describes method (.ofList (instruction :: earlier)) where
  stack above := by
    rw [Trail.through_eq, Trail.producer?_cons, heffect, TypeState.step, DeepStack.get_apply]
    by_cases habove : above < effect.pushes
    · simp only [if_pos habove]
      exact h.pushedType instruction
    · simp only [if_neg habove]
      rw [← h.stack, Trail.through_eq]
  locals slot := by
    rw [Trail.throughStore_eq, Trail.lastStore?_cons, TypeState.step]
    by_cases hstore : instruction.storesTo slot
    · simp only [if_pos hstore]
      rw [h.stack]
      rfl
    · simp only [if_neg hstore]
      rw [← h.locals, Trail.throughStore_eq]

theorem Describes.run {earlier : List Instruction} (h : state.Describes method (.ofList earlier))
    {code : Code} (hderivable : ∀ instruction ∈ code, instruction.Derivable) :
    ∃ reached, TypeState.run method state code = .ok reached ∧
      reached.Describes method (.ofList (code.reverse ++ earlier)) := by
  induction code generalizing state earlier with
  | nil => exact ⟨state, rfl, h⟩
  | cons instruction code ih =>
      obtain ⟨effect, heffect⟩ := hderivable instruction List.mem_cons_self
      obtain ⟨reached, hreached, hdescribes⟩ := ih (h.step heffect)
        fun other hother => hderivable other (List.mem_cons_of_mem _ hother)
      refine ⟨reached, ?_, ?_⟩
      · simpa [TypeState.run, heffect, bind, Except.bind] using hreached
      · rwa [List.reverse_cons, List.append_assoc, List.singleton_append]

end TypeState

/-- Where every instruction before `index` has a stack effect, the type found for the instruction at
`index` is the one that it pushes when the code is run forwards up to it. -/
theorem Code.pushedType_eq_forward (code : Code) (method : Method) (index : Nat)
    (instruction : Instruction) (hindex : code[index]? = some instruction)
    (hderivable : ∀ other ∈ code.take index, other.Derivable) :
    ∃ state, TypeState.run method (.initial method) (code.take index) = .ok state ∧
      code.pushedType method index = .ok (state.pushed method instruction) := by
  obtain ⟨state, hstate, hdescribes⟩ := (TypeState.describes_initial method).run hderivable
  refine ⟨state, hstate, ?_⟩
  rw [List.append_nil] at hdescribes
  rw [pushedType, site?, hindex]
  exact (Typing.resolve_eq_pushedType method _).trans (hdescribes.pushedType instruction)

/-- A local variable that is declared as an object holds what was stored into it. -/
theorem Code.pushedType_of_stored_int64 :
    let code : Code := [.loadLong 5, .make .dup, .make .stloc0, .make .stloc1, .make .ldloc1]
    let method : Method := ⟨.object, "Next", ⟨.plain, [], .void⟩, [.object, .object]⟩
    (∀ other ∈ code.take 4, other.Derivable) ∧
      ∃ state, TypeState.run method (.initial method) (code.take 4) = .ok state ∧
        code.pushedType method 4 = .ok (state.pushed method (.make .ldloc1)) ∧
        state.pushed method (.make .ldloc1) = some .int64 := by
  intro code method
  have hderivable : ∀ other ∈ code.take 4, other.Derivable := by decide
  obtain ⟨state, hstate, htype⟩ :=
    Code.pushedType_eq_forward code method 4 (.make .ldloc1) rfl hderivable
  refine ⟨hderivable, state, hstate, htype, ?_⟩
  cases hstate
  rfl

end CilEdit
