import CilEdit.Proofs.Typing.Indices

/-! Values at different depths of the stack at one point of the code. The walks back to their producers
pass the same instructions as long as both go on, and the walk for the deeper value goes on at least as
far. So the deeper value has no later producer, and a walk that comes to the start of the code or to an
instruction without a stack effect shows where every deeper one ends. The walk stops only at an
instruction that leaves a value on the stack. -/

namespace CilEdit

namespace Trail

/-- Whether the second answer can be that for a value below the one that the first answer is for: it
names no later producer, and it is the first answer again where that one names none. -/
def NoLater : Except Unsupported (Option Site) → Except Unsupported (Option Site) → Prop
  | .ok (some site), deeper => ∀ earlier, deeper = .ok (some earlier) → earlier.index ≤ site.index
  | .ok none, deeper => deeper = .ok none
  | .error failure, deeper => deeper = .error failure

theorem NoLater.refl (answer : Except Unsupported (Option Site)) : NoLater answer answer := by
  rcases answer with failure | _ | site
  · rfl
  · rfl
  · intro earlier hearlier
    cases hearlier
    exact Nat.le_refl _

theorem noLater_producer? (trail : Trail) {above deeper : Nat} (h : above ≤ deeper) :
    NoLater (trail.producer? above) (trail.producer? deeper) := by
  obtain ⟨instructions, rfl⟩ := exists_eq_ofList trail
  induction instructions generalizing above deeper with
  | nil => rfl
  | cons instruction earlier ih =>
      rw [producer?_cons, producer?_cons]
      cases instruction.stackEffect with
      | error failure => rfl
      | ok effect =>
          simp only
          by_cases habove : above < effect.pushes
          · rw [if_pos habove]
            by_cases hdeeper : deeper < effect.pushes
            · rw [if_pos hdeeper]
              exact NoLater.refl _
            · rw [if_neg hdeeper]
              intro site hsite
              exact Nat.le_of_lt (index_lt_of_producer? hsite)
          · rw [if_neg habove, if_neg (by omega)]
            exact ih (by omega)

end Trail

namespace Code

/-- A producer leaves a value on the stack. -/
theorem exists_pushes_of_producer? {code : Code} {index above producer : Nat}
    (h : code.producer? index above = .ok (some producer)) :
    ∃ instruction effect, code[producer]? = some instruction ∧
      instruction.stackEffect = .ok effect ∧ 1 ≤ effect.pushes := by
  obtain ⟨site, hsite, rfl⟩ := producer?_eq_some_iff.mp h
  obtain ⟨-, effect, heffect, hpushes⟩ := Trail.suffix_of_producer? hsite
  obtain ⟨instruction, hinstruction, hat⟩ :=
    Option.map_eq_some_iff.mp (site?_of_passes (Trail.passes_of_producer? hsite))
  have hfound : instruction = site.instruction := congrArg Site.instruction hat
  exact ⟨instruction, effect, hinstruction, hfound ▸ heffect, hpushes⟩

/-- What the producer of a value says of a deeper one. It stands before the point that is asked about
and leaves a value on the stack, and the deeper value has no later producer. Where the first value was
there before the code, the deeper one was too, and where the walk fails, it fails alike for the deeper
value. -/
theorem producer?_deeper (code : Code) (index : Nat) {above deeper : Nat} (h : above ≤ deeper) :
    (∀ producer, code.producer? index above = .ok (some producer) →
      (producer < index ∧ ∃ instruction effect, code[producer]? = some instruction ∧
        instruction.stackEffect = .ok effect ∧ 1 ≤ effect.pushes) ∧
      ((∃ earlier ≤ producer, code.producer? index deeper = .ok (some earlier)) ∨
        code.producer? index deeper = .ok none ∨
        ∃ failure, code.producer? index deeper = .error failure)) ∧
    (code.producer? index above = .ok none → code.producer? index deeper = .ok none) ∧
    ∀ failure, code.producer? index above = .error failure →
      code.producer? index deeper = .error failure := by
  have hnoLater := (code.before index).noLater_producer? h
  refine ⟨fun producer hproducer => ⟨⟨lt_of_producer? hproducer, exists_pushes_of_producer? hproducer⟩,
    ?_⟩, fun hnone => ?_, fun failure hfailure => ?_⟩
  · obtain ⟨site, hsite, rfl⟩ := producer?_eq_some_iff.mp hproducer
    rw [hsite] at hnoLater
    rcases hdeeper : code.producer? index deeper with failure | _ | earlier
    · exact .inr (.inr ⟨failure, rfl⟩)
    · exact .inr (.inl rfl)
    · obtain ⟨found, hfound, rfl⟩ := producer?_eq_some_iff.mp hdeeper
      exact .inl ⟨found.index, hnoLater found hfound, rfl⟩
  · rw [producer?_eq_none_iff.mp hnone] at hnoLater
    exact producer?_eq_none_iff.mpr hnoLater
  · rw [producer?_eq_error_iff.mp hfailure] at hnoLater
    exact producer?_eq_error_iff.mpr hnoLater

/-- The upper two of three values are copies that one instruction leaves, and below them there is one
that was pushed earlier, or one that an unknown call hides. -/
theorem producer?_deeper_copies :
    let code : Code := [.loadInt 1, .loadInt 2, .make .dup]
    let hidden : Code := [.make .call, .loadInt 2, .make .dup]
    code.producer? 3 1 = .ok (some 2) ∧ (2 < 3 ∧ ∃ instruction effect, code[2]? = some instruction ∧
        instruction.stackEffect = .ok effect ∧ 1 ≤ effect.pushes) ∧
      (∃ earlier ≤ 2, code.producer? 3 2 = .ok (some earlier)) ∧
      code.producer? 3 3 = .ok none ∧ code.producer? 3 8 = .ok none ∧
      ∃ failure, hidden.producer? 3 2 = .error failure ∧ hidden.producer? 3 8 = .error failure := by
  intro code hidden
  have hcopy : code.producer? 3 1 = .ok (some 2) := rfl
  have hstart : code.producer? 3 3 = .ok none := rfl
  have hcall : hidden.producer? 3 2 = .error ⟨.call, .none⟩ := rfl
  obtain ⟨hplace, hbelow⟩ := (producer?_deeper code 3 (by decide : 1 ≤ 2)).1 2 hcopy
  have hearlier : code.producer? 3 2 = .ok (some 0) := rfl
  refine ⟨hcopy, hplace, ?_, hstart, (producer?_deeper code 3 (by decide)).2.1 hstart, _, hcall,
    (producer?_deeper hidden 3 (by decide)).2.2 _ hcall⟩
  rcases hbelow with hbelow | hnone | ⟨failure, hfailure⟩
  · exact hbelow
  · rw [hearlier] at hnone
    cases hnone
  · rw [hearlier] at hfailure
    cases hfailure

end Code

end CilEdit
