import CilEdit.Proofs.Stack.Depth
import CilEdit.Proofs.Typing.Pending

/-! Which instructions are given a type. The rules for types and the table of stack effects are kept
apart, but they agree on who leaves a value: an instruction that leaves none has no type whatever stands
before it. A search for a type goes from an instruction to the producer of a value that it hands on, or
that the nearest store before it took. So all that it comes to, apart from the instruction that it was
started for, was found by a walk back to a producer and leaves a value. -/

namespace CilEdit

/-! ### Types and stack effects -/

/-- Whether the instruction leaves a value on the stack. -/
def Instruction.Pushes (instruction : Instruction) : Prop :=
  ∃ effect, instruction.stackEffect = .ok effect ∧ 1 ≤ effect.pushes

/-- The type of what a call leaves. -/
def CallShape.resultType? : CallShape → Operand → Option TypeSig
  | .method, operand => operand.method?.bind fun ref => ref.signature.resultType?
  | .pointer, operand => operand.signature?.bind MethodSig.resultType?
  | .constructor, operand => operand.method?.map MethodRef.owner

theorem MethodSig.returnsVoid_of_resultType? {signature : MethodSig} {type : TypeSig}
    (h : signature.resultType? = some type) : signature.returnsVoid = false := by
  rw [resultType?] at h
  split at h
  · cases h
  · exact Bool.eq_false_iff.mpr ‹_›

namespace CallShape

/-- A call without a result leaves nothing, unless it makes an instance. -/
theorem pushes_eq_zero_iff (shape : CallShape) (signature : MethodSig) :
    (shape.effect signature).pushes = 0 ↔ shape ≠ .constructor ∧ signature.returnsVoid := by
  cases shape <;> simp [effect, results]

/-- A call whose result has a type has a signature, and leaves the result. -/
theorem exists_signature?_of_resultType? {shape : CallShape} {operand : Operand} {type : TypeSig}
    (h : shape.resultType? operand = some type) :
    ∃ signature, shape.signature? operand = some signature ∧ 1 ≤ (shape.effect signature).pushes := by
  cases shape with
  | method =>
      obtain ⟨ref, href, hresult⟩ := Option.bind_eq_some_iff.mp h
      refine ⟨ref.signature, by rw [signature?, href, Option.map_some], ?_⟩
      simp [effect, results, MethodSig.returnsVoid_of_resultType? hresult]
  | pointer =>
      obtain ⟨signature, hsignature, hresult⟩ := Option.bind_eq_some_iff.mp h
      refine ⟨signature, hsignature, ?_⟩
      simp [effect, results, MethodSig.returnsVoid_of_resultType? hresult]
  | constructor =>
      obtain ⟨ref, href, -⟩ := Option.map_eq_some_iff.mp h
      exact ⟨ref.signature, by rw [signature?, href, Option.map_some], Nat.le_refl 1⟩

end CallShape

namespace Instruction

theorem typeSource_of_fixed {instruction : Instruction} {pops : Nat}
    (h : instruction.opcode.effect = .fixed pops 0) (method : Method) :
    instruction.typeSource method = .known none := by
  obtain ⟨opcode, operand, labels, markers⟩ := instruction
  cases opcode <;> first | rfl | cases h

theorem typeSource_of_ret {instruction : Instruction} (h : instruction.opcode.effect = .ret)
    (method : Method) : instruction.typeSource method = .known none := by
  obtain ⟨opcode, operand, labels, markers⟩ := instruction
  cases opcode <;> first | rfl | cases h

theorem typeSource_of_call {instruction : Instruction} {shape : CallShape}
    (h : instruction.opcode.effect = .call shape) (method : Method) :
    instruction.typeSource method = .known (shape.resultType? instruction.operand) := by
  obtain ⟨opcode, operand, labels, markers⟩ := instruction
  cases opcode <;> cases h <;> rfl

/-- An instruction that leaves no value has no type, whatever stands before it. -/
theorem typeSource_of_not_pushes {instruction : Instruction} (h : ¬instruction.Pushes)
    (method : Method) : instruction.typeSource method = .known none := by
  rw [Pushes, stackEffect] at h
  cases heffect : instruction.opcode.effect with
  | fixed pops pushes =>
      rw [heffect] at h
      obtain rfl : pushes = 0 := by
        by_contra hne
        exact h ⟨_, rfl, Nat.one_le_iff_ne_zero.mpr hne⟩
      exact typeSource_of_fixed heffect method
  | ret => exact typeSource_of_ret heffect method
  | call shape =>
      rw [typeSource_of_call heffect]
      cases hresult : shape.resultType? instruction.operand with
      | none => rfl
      | some type =>
          obtain ⟨signature, hsignature, hpushes⟩ := CallShape.exists_signature?_of_resultType? hresult
          simp only [heffect, hsignature] at h
          exact absurd ⟨_, rfl, hpushes⟩ h

/-- A call without the signature that it needs leaves no value, and neither does a call without a
result. -/
theorem not_pushes_of_call {instruction : Instruction} {shape : CallShape}
    (heffect : instruction.opcode.effect = .call shape)
    (h : shape.signature? instruction.operand = none ∨ shape ≠ .constructor ∧
      ∃ signature, shape.signature? instruction.operand = some signature ∧ signature.returnsVoid) :
    ¬instruction.Pushes := by
  rintro ⟨effect, hstack, hpushes⟩
  rw [stackEffect, heffect] at hstack
  rcases h with hnone | ⟨hshape, signature, hsignature, hvoid⟩
  · simp only [hnone] at hstack
    cases hstack
  · simp only [hsignature] at hstack
    cases hstack
    have hzero := (shape.pushes_eq_zero_iff signature).mpr ⟨hshape, hvoid⟩
    omega

end Instruction

/-- Outside the instructions that leave a value there is nothing to type. -/
theorem Code.pushedType_of_not_pushes {code : Code} {index : Nat} {instruction : Instruction}
    (hget : code[index]? = some instruction) (h : ¬instruction.Pushes) (method : Method) :
    code.pushedType method index = .ok none := by
  rw [pushedType, site?, hget]
  refine (Typing.resolve_eq_pushedType method _).trans ?_
  rw [Site.pushedType, Instruction.typeSource_of_not_pushes h]

/-! ### The instructions that a search comes to -/

/-- Whether typing the instruction at `asker` may need the type that the one at `producer` pushed: the
walk back to a value that `asker` hands on, or that the nearest store into the variable that it reads
took, ends there. -/
def Code.AsksFor (code : Code) (method : Method) (asker producer : Nat) : Prop :=
  ∃ instruction, code[asker]? = some instruction ∧
    match instruction.typeSource method with
    | .known _ => False
    | .top => code.producer? asker 0 = .ok (some producer)
    | .operands => code.producer? asker 1 = .ok (some producer) ∨
        code.producer? asker 0 = .ok (some producer)
    | .element => code.producer? asker 1 = .ok (some producer)
    | .slot slot | .slotAddress slot => ∃ store, code.lastStore? asker slot = some store ∧
        code.producer? store 0 = .ok (some producer)

/-- Who is asked for is found by a walk back to a producer. -/
theorem Code.AsksFor.exists_producer? {code : Code} {method : Method} {asker producer : Nat}
    (h : code.AsksFor method asker producer) :
    ∃ place ≤ asker, ∃ above ≤ 1, code.producer? place above = .ok (some producer) := by
  obtain ⟨instruction, -, hsource⟩ := h
  cases hcase : instruction.typeSource method <;> rw [hcase] at hsource
  case known => exact hsource.elim
  case top => exact ⟨asker, Nat.le_refl _, 0, Nat.zero_le 1, hsource⟩
  case operands =>
    rcases hsource with hfirst | hsecond
    · exact ⟨asker, Nat.le_refl _, 1, Nat.le_refl 1, hfirst⟩
    · exact ⟨asker, Nat.le_refl _, 0, Nat.zero_le 1, hsecond⟩
  case element => exact ⟨asker, Nat.le_refl _, 1, Nat.le_refl 1, hsource⟩
  all_goals
    obtain ⟨store, hstore, hproducer⟩ := hsource
    exact ⟨store, Nat.le_of_lt (lt_of_lastStore? hstore), 0, Nat.zero_le 1, hproducer⟩

namespace Typing

section Needs

variable {code : Code} {memo : Memo} {method : Method} {producer : Site}

theorem Memo.producer?_of_value {index above : Nat}
    (h : memo.value (code.before index) above = .ok (.needs producer)) :
    code.producer? index above = .ok (some producer.index) ∧
      code.site? producer.index = some producer := by
  rw [value] at h
  rcases hproducer : (code.before index).producer? above with failure | _ | site <;>
    rw [hproducer] at h
  · cases h
  · cases h
  · simp only at h
    split at h <;> cases h
    exact ⟨Code.producer?_eq_some_iff.mpr ⟨_, hproducer, rfl⟩,
      Code.site?_of_passes (Trail.passes_of_producer? hproducer)⟩

theorem Memo.producer?_of_localValue {index : Nat} {slot : Slot}
    (h : memo.localValue method (code.before index) slot = .ok (.needs producer)) :
    (∃ store, code.lastStore? index slot = some store ∧
      code.producer? store 0 = .ok (some producer.index)) ∧
      code.site? producer.index = some producer := by
  rw [localValue] at h
  cases hstore : (code.before index).lastStore? slot with
  | none => rw [hstore] at h; cases h
  | some store =>
      rw [hstore] at h
      have hvalue := needs_of_map h
      have hpasses := Trail.passes_of_lastStore? hstore
      rw [Code.earlier_eq_of_site? (Code.site?_of_passes hpasses)] at hvalue
      obtain ⟨hproducer, hsite⟩ := producer?_of_value hvalue
      refine ⟨⟨store.index, ?_, hproducer⟩, hsite⟩
      rw [Code.lastStore?_eq, hstore, Option.map_some]

/-- A producer that typing an instruction needs is one that the instruction asks for. -/
theorem Memo.asksFor_of_evaluate {site : Site} (hsite : code.site? site.index = some site)
    (h : memo.evaluate method site = .ok (.needs producer)) :
    code.AsksFor method site.index producer.index ∧ code.site? producer.index = some producer := by
  obtain ⟨instruction, hget, hat⟩ := Option.map_eq_some_iff.mp hsite
  have hinstruction : site.instruction = instruction := congrArg Site.instruction hat.symm
  rw [evaluate, Code.earlier_eq_of_site? hsite, hinstruction] at h
  simp only [Code.AsksFor, hget, Option.some.injEq, exists_eq_left']
  cases hsource : instruction.typeSource method with
  | known type => rw [hsource] at h; cases h
  | top => rw [hsource] at h; exact producer?_of_value h
  | operands =>
      simp only [hsource] at h
      cases hfirst : memo.value (code.before site.index) 1 with
      | error failure => rw [hfirst] at h; cases h
      | ok first =>
          rw [hfirst] at h
          rcases first with (_ | type) | other
          · exact (producer?_of_value h).imp_left .inr
          · cases h
          · cases h
            exact (producer?_of_value hfirst).imp_left .inl
  | element => rw [hsource] at h; exact producer?_of_value (needs_of_map h)
  | slot slot => rw [hsource] at h; exact producer?_of_localValue h
  | slotAddress slot => rw [hsource] at h; exact producer?_of_localValue (needs_of_map h)

end Needs

namespace Search

/-- Whether the search came to the instruction: it is typed already, or pending. -/
def CameTo (search : Search) (index : Nat) : Prop :=
  index ∈ search.memo ∨ index ∈ search.pending.map Site.index

section CameTo

variable {memo : Memo} {site producer : Site} {rest : List Site} {index : Nat}

theorem cameTo_start_iff : (start site).CameTo index ↔ index = site.index := by
  simp [CameTo, start]

theorem cameTo_known_iff (h : site.index ∈ memo) :
    CameTo ⟨memo, rest⟩ index ↔ CameTo ⟨memo, site :: rest⟩ index := by
  refine or_congr_right' fun hindex => ?_
  rw [List.map_cons, List.mem_cons, or_iff_right]
  rintro rfl
  exact hindex h

theorem cameTo_ready_iff {type : Option TypeSig} :
    CameTo ⟨memo.insert site.index type, rest⟩ index ↔ CameTo ⟨memo, site :: rest⟩ index := by
  simp only [CameTo, Std.HashMap.mem_insert, beq_iff_eq, List.map_cons, List.mem_cons, or_assoc]
  rw [@eq_comm _ site.index, or_left_comm]

theorem cameTo_needs_iff : CameTo ⟨memo, producer :: site :: rest⟩ index ↔
    index = producer.index ∨ CameTo ⟨memo, site :: rest⟩ index := by
  simp only [CameTo, List.map_cons, List.mem_cons, or_left_comm]

end CameTo

/-- Whether the search stays in the code and came to no instruction but the root, unless one that it
came to asked for it. -/
structure Follows (code : Code) (method : Method) (root : Nat) (search : Search) : Prop where
  site? : ∀ site ∈ search.pending, code.site? site.index = some site
  asked : ∀ index, search.CameTo index →
    index = root ∨ ∃ asker, search.CameTo asker ∧ code.AsksFor method asker index

variable {code : Code} {method : Method} {root : Nat} {search next : Search}

theorem follows_start {site : Site} (h : code.site? site.index = some site) :
    (start site).Follows code method site.index where
  site? other hother := by rwa [List.mem_singleton.mp hother]
  asked _ hindex := Or.inl (cameTo_start_iff.mp hindex)

/-- Only what is pending and what the search came to counts. -/
theorem Follows.congr (h : search.Follows code method root)
    (hpending : next.pending ⊆ search.pending)
    (hcameTo : ∀ index, next.CameTo index ↔ search.CameTo index) :
    next.Follows code method root where
  site? site hsite := h.site? site (hpending hsite)
  asked index hindex := by
    simp only [hcameTo] at hindex ⊢
    exact h.asked index hindex

/-- A turn goes nowhere but from the instruction in front to one that it asks for. -/
theorem Follows.turn (h : search.Follows code method root) (hturn : Turn method search next) :
    next.Follows code method root := by
  cases hturn with
  | done memo => exact h
  | known hmem => exact h.congr (List.subset_cons_self _ _) fun index => cameTo_known_iff hmem
  | ready hmem hprogress => exact h.congr (List.subset_cons_self _ _) fun index => cameTo_ready_iff
  | @needs memo site producer rest hmem hprogress =>
      have hfront := h.site? site List.mem_cons_self
      obtain ⟨hasks, hproducer⟩ := Memo.asksFor_of_evaluate hfront hprogress
      refine ⟨fun other hother => ?_, fun index hindex => ?_⟩
      · rcases List.mem_cons.mp hother with rfl | hother
        · exact hproducer
        · exact h.site? other hother
      · rcases cameTo_needs_iff.mp hindex with rfl | hindex
        · exact Or.inr ⟨site.index, Or.inr (by simp), hasks⟩
        · refine (h.asked index hindex).imp_right fun ⟨asker, hasker, hasks⟩ => ?_
          exact ⟨asker, cameTo_needs_iff.mpr (Or.inr hasker), hasks⟩

end Search

end Typing

/-- Types are given to values that are left on the stack, and found by way of their producers. An
instruction with a type leaves a value. One that leaves none has no type, and neither has a call without
a result or a call without the signature that it needs; the question does not fail for them. The search
ends after some turns. Whatever it comes to until then, apart from the instruction that it was started
for, is asked for by one that it came to, is where a walk back to a producer ended, and leaves a
value. -/
theorem Code.types_follow_producers (code : Code) (method : Method) (index : Nat) :
    (∀ type, code.pushedType method index = .ok (some type) →
      ∃ instruction, code[index]? = some instruction ∧ instruction.Pushes) ∧
    (∀ instruction, code[index]? = some instruction → ¬instruction.Pushes →
      code.pushedType method index = .ok none) ∧
    (∀ instruction shape, code[index]? = some instruction →
      instruction.opcode.effect = .call shape →
      (shape.signature? instruction.operand = none ∨ shape ≠ .constructor ∧
        ∃ signature, shape.signature? instruction.operand = some signature ∧ signature.returnsVoid) →
      code.pushedType method index = .ok none) ∧
    ∀ site, code.site? index = some site →
      (∃ turns, (Typing.Search.start site).after method turns =
        (Typing.settle method ∅ [site]).map fun memo => ⟨memo, []⟩) ∧
      ∀ turns search, (Typing.Search.start site).after method turns = .ok search →
        ∀ other, search.CameTo other → other ≠ index →
          (∃ asker, search.CameTo asker ∧ code.AsksFor method asker other ∧
            ∃ place ≤ asker, ∃ above ≤ 1, code.producer? place above = .ok (some other)) ∧
          ∃ instruction, code[other]? = some instruction ∧ instruction.Pushes := by
  refine ⟨fun type htype => ?_, fun instruction hget hpushes => ?_,
    fun instruction shape hget heffect hcall => ?_, fun site hsite =>
    ⟨Typing.Search.exists_after_eq_settle method ∅ [site],
      fun turns search hsearch other hother hne => ?_⟩⟩
  · cases hget : code[index]? with
    | none =>
        rw [pushedType, site?, hget] at htype
        cases htype
    | some instruction =>
        refine ⟨instruction, rfl, ?_⟩
        by_contra hpushes
        cases (pushedType_of_not_pushes hget hpushes method).symm.trans htype
  · exact pushedType_of_not_pushes hget hpushes method
  · refine pushedType_of_not_pushes hget (fun hpushes => ?_) method
    exact Instruction.not_pushes_of_call heffect hcall hpushes
  · have hindex : site.index = index := index_of_site? hsite
    subst hindex
    have hfollows := Typing.Search.invariant_after Typing.Search.Follows.turn
      (Typing.Search.follows_start hsite) hsearch
    obtain ⟨asker, hasker, hasks⟩ := (hfollows.asked other hother).resolve_left hne
    obtain ⟨place, hplace, above, habove, hproducer⟩ := hasks.exists_producer?
    obtain ⟨instruction, effect, hget, heffect, hpushes⟩ := exists_pushes_of_producer? hproducer
    exact ⟨⟨asker, hasker, hasks, place, hplace, above, habove, hproducer⟩,
      instruction, hget, effect, heffect, hpushes⟩

/-- A copy takes its type from the constant that it copies. A call without a result has no type, and a
call without a signature has none. -/
theorem Code.types_follow_producers_copy :
    let code : Code := [.loadLong 5, .make .dup]
    let method : Method := ⟨.object, "Next", ⟨.plain, [], .void⟩, []⟩
    let site : Site := ⟨.make .dup, code.before 1⟩
    let calls : Code := [.make .calli (.signature ⟨.plain, [], .void⟩), .make .call]
    code.pushedType method 1 = .ok (some .int64) ∧
      (∃ instruction, code[1]? = some instruction ∧ instruction.Pushes) ∧
      (∃ search, (Typing.Search.start site).after method 1 = .ok search ∧ search.CameTo 0 ∧
        ∃ asker, search.CameTo asker ∧ code.AsksFor method asker 0) ∧
      calls.pushedType method 0 = .ok none ∧ calls.pushedType method 1 = .ok none := by
  intro code method site calls
  have hsite : code.site? 1 = some site := rfl
  have htype : code.pushedType method 1 = .ok (some .int64) :=
    (Typing.resolve_eq_pushedType method site).trans <|
      (code.pushedType_eq_recursiveType method hsite).trans (by with_unfolding_all rfl)
  obtain ⟨hpushes, -, -, hcameTo⟩ := types_follow_producers code method 1
  have hproducer : (code.before 1).producer? 0 = .ok (some ⟨.loadLong 5, code.before 0⟩) := by
    with_unfolding_all rfl
  have hneeds : Typing.Memo.evaluate ∅ method site =
      .ok (.needs ⟨.loadLong 5, code.before 0⟩) := by
    change Typing.Memo.value ∅ (code.before 1) 0 = _
    simp [Typing.Memo.value, hproducer]
  have hsearch : (Typing.Search.start site).after method 1 =
      .ok ⟨∅, [⟨.loadLong 5, code.before 0⟩, site]⟩ := by
    rw [Typing.Search.after_succ, Typing.Search.start, Typing.Search.turn,
      if_neg Std.HashMap.not_mem_empty, hneeds]
    rfl
  have hfirst : Typing.Search.CameTo ⟨∅, [⟨.loadLong 5, code.before 0⟩, site]⟩ 0 :=
    Or.inr List.mem_cons_self
  obtain ⟨⟨asker, hasker, hasks, -⟩, -⟩ :=
    (hcameTo site hsite).2 1 _ hsearch 0 hfirst Nat.zero_ne_one
  obtain ⟨-, -, hvoid, -⟩ := types_follow_producers calls method 0
  obtain ⟨-, -, hbare, -⟩ := types_follow_producers calls method 1
  exact ⟨htype, hpushes .int64 htype, ⟨_, hsearch, hfirst, asker, hasker, hasks⟩,
    hvoid _ .pointer rfl rfl (Or.inr ⟨by decide, _, rfl, rfl⟩), hbare _ .method rfl rfl (Or.inl rfl)⟩

end CilEdit
