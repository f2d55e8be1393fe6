import CilEdit.Stack.Producer
import Mathlib.Data.List.Induction
import Mathlib.Data.Stream.Init

/-! Running code forwards on a stack of which nothing is known at first. Every value that an
instruction leaves is tagged with the index of the instruction, so that the stack tells who produced
what. The walk back from a point of the code finds the tag that the run up to that point leaves at
the same depth. An instruction without a stack effect hides all that lies before it: the walk finds
what was produced after it and fails on everything else. -/

namespace CilEdit

/-- A stack without a bottom, the top first. Of an entry that is `none` nothing is known. -/
abbrev DeepStack (α : Type) := Stream' (Option α)

namespace DeepStack

variable {α β : Type}

/-- The stack of which nothing is known. -/
def unknown : DeepStack α := Stream'.const none

/-- What an instruction with the given effect makes of the stack if every value that it leaves is
`entry`. -/
def apply (stack : DeepStack α) (effect : StackEffect) (entry : Option α) : DeepStack α :=
  List.replicate effect.pushes entry ++ₛ stack.drop effect.pops

theorem get_replicate_append (count : Nat) (entry : Option α) (stack : DeepStack α) (above : Nat) :
    (List.replicate count entry ++ₛ stack).get above =
      if above < count then entry else stack.get (above - count) := by
  induction count generalizing above with
  | zero => simp
  | succ count ih =>
      rw [List.replicate_succ, Stream'.cons_append_stream]
      cases above with
      | zero => simp
      | succ above =>
          rw [Stream'.get_succ_cons, ih]
          simp

theorem get_apply (stack : DeepStack α) (effect : StackEffect) (entry : Option α) (above : Nat) :
    (stack.apply effect entry).get above =
      if above < effect.pushes then entry
      else stack.get (above - effect.pushes + effect.pops) := by
  rw [apply, get_replicate_append, Stream'.get_drop, Nat.add_comm effect.pops]

/-- Runs code that starts at index `start`, tagging what each instruction leaves with its index. -/
def execute (start : Nat) (stack : DeepStack Nat) : Code → Except Unsupported (DeepStack Nat)
  | [] => .ok stack
  | instruction :: rest => do
    let effect ← instruction.stackEffect
    execute (start + 1) (stack.apply effect (some start)) rest

theorem execute_append (start : Nat) (stack : DeepStack Nat) (code rest : Code) :
    execute start stack (code ++ rest) =
      execute start stack code >>= fun reached =>
        execute (start + code.length) reached rest := by
  induction code generalizing start stack with
  | nil => rfl
  | cons instruction code ih =>
      cases heffect : instruction.stackEffect with
      | error failure => simp [execute, heffect, bind, Except.bind]
      | ok effect =>
          simp only [List.cons_append, execute, heffect, bind, Except.bind] at ih ⊢
          rw [ih, List.length_cons, Nat.add_assoc, Nat.add_comm 1]

end DeepStack

/-- Whether the effect of the instruction on the stack can be derived. -/
def Instruction.Derivable (instruction : Instruction) : Prop :=
  ∃ effect, instruction.stackEffect = .ok effect

instance : DecidablePred Instruction.Derivable := fun instruction =>
  match heffect : instruction.stackEffect with
  | .ok effect => isTrue ⟨effect, heffect⟩
  | .error _ => isFalse fun hderivable => by
      obtain ⟨effect, hok⟩ := hderivable
      rw [heffect] at hok
      cases hok

theorem DeepStack.exists_execute {code : Code} (h : ∀ instruction ∈ code, instruction.Derivable)
    (start : Nat) (stack : DeepStack Nat) : ∃ reached, execute start stack code = .ok reached := by
  induction code generalizing start stack with
  | nil => exact ⟨stack, rfl⟩
  | cons instruction code ih =>
      obtain ⟨effect, heffect⟩ := h instruction List.mem_cons_self
      obtain ⟨reached, hreached⟩ :=
        ih (fun other hother => h other (List.mem_cons_of_mem _ hother)) (start + 1)
          (stack.apply effect (some start))
      refine ⟨reached, ?_⟩
      simpa [execute, heffect, bind, Except.bind] using hreached

namespace Trail

open DeepStack

/-- The walk back over code that was run forwards from an unknown stack finds the tag at its depth.
Where the run knows nothing, the walk goes on before the code. -/
theorem producer?_of_execute {earlier : List Instruction} {code : Code} {stack : DeepStack Nat}
    (h : execute earlier.length unknown code = .ok stack) (above : Nat) :
    (∀ tag, stack.get above = some tag →
      ∃ site, (ofList (code.reverse ++ earlier)).producer? above = .ok (some site) ∧
        site.index = tag) ∧
    (stack.get above = none →
      ∃ below, (ofList (code.reverse ++ earlier)).producer? above =
        (ofList earlier).producer? below) := by
  induction code using List.reverseRecOn generalizing stack above with
  | nil =>
      cases h
      exact ⟨fun _ htag => (nomatch htag), fun _ => ⟨above, rfl⟩⟩
  | append_singleton code instruction ih =>
      rw [execute_append] at h
      cases hreached : execute earlier.length unknown code with
      | error failure => rw [hreached] at h; cases h
      | ok reached =>
          cases heffect : instruction.stackEffect with
          | error failure =>
              rw [hreached] at h
              simp [execute, heffect, bind, Except.bind] at h
          | ok effect =>
              have hstack : stack = reached.apply effect (some (earlier.length + code.length)) := by
                rw [hreached] at h
                simpa [execute, heffect, bind, Except.bind, eq_comm] using h
              rw [List.reverse_append, List.reverse_singleton, List.singleton_append,
                List.cons_append, producer?_cons, heffect, hstack, get_apply]
              by_cases habove : above < effect.pushes
              · simp only [if_pos habove]
                refine ⟨fun tag htag => ⟨_, rfl, ?_⟩, fun hnone => (nomatch hnone)⟩
                cases htag
                simp [Site.index, ofList, Nat.add_comm]
              · simp only [if_neg habove]
                exact ih hreached _

/-- An instruction without a stack effect ends the walk. -/
theorem producer?_cons_of_error {instruction : Instruction} {failure : Unsupported}
    (h : instruction.stackEffect = .error failure) (earlier : List Instruction) (above : Nat) :
    (ofList (instruction :: earlier)).producer? above = .error failure := by
  rw [producer?_cons, h]

end Trail

/-- Code with an instruction that has no stack effect splits at the last such instruction. -/
theorem Code.exists_last_underivable {code : Code}
    (h : ¬∀ instruction ∈ code, instruction.Derivable) :
    ∃ (earlier : Code) (instruction : Instruction) (later : Code) (failure : Unsupported),
      code = earlier ++ instruction :: later ∧ instruction.stackEffect = .error failure ∧
        ∀ other ∈ later, other.Derivable := by
  induction code with
  | nil => exact absurd (fun _ hmem => nomatch hmem) h
  | cons first rest ih =>
      by_cases hrest : ∀ instruction ∈ rest, instruction.Derivable
      · cases heffect : first.stackEffect with
        | error failure => exact ⟨[], first, rest, failure, rfl, heffect, hrest⟩
        | ok effect =>
            refine absurd (fun instruction hmem => ?_) h
            rcases List.mem_cons.mp hmem with rfl | hmem
            · exact ⟨effect, heffect⟩
            · exact hrest instruction hmem
      · obtain ⟨earlier, instruction, later, failure, rfl, hfailure, hlater⟩ := ih hrest
        exact ⟨first :: earlier, instruction, later, failure, rfl, hfailure, hlater⟩

namespace Code

open DeepStack

theorem producer?_of_derivable {code : Code} {index : Nat}
    (h : ∀ instruction ∈ code.take index, instruction.Derivable) (above : Nat) :
    ∃ stack, execute 0 unknown (code.take index) = .ok stack ∧
      code.producer? index above = .ok (stack.get above) := by
  obtain ⟨stack, hstack⟩ := exists_execute h 0 unknown
  refine ⟨stack, hstack, ?_⟩
  have hstart : execute ([] : List Instruction).length unknown (code.take index) = .ok stack := hstack
  obtain ⟨hfound, hmissed⟩ := Trail.producer?_of_execute hstart above
  rw [List.append_nil] at hfound hmissed
  rw [producer?, before]
  cases htag : stack.get above with
  | some tag =>
      obtain ⟨site, hsite, hindex⟩ := hfound tag htag
      rw [hsite, ← hindex]
      rfl
  | none =>
      obtain ⟨below, hbelow⟩ := hmissed htag
      rw [hbelow, Trail.producer?_nil]
      rfl

theorem producer?_of_last_underivable {code earlier later : Code} {instruction : Instruction}
    {failure : Unsupported} {index : Nat} {stack : DeepStack Nat}
    (hcode : code.take index = earlier ++ instruction :: later)
    (hfailure : instruction.stackEffect = .error failure)
    (hstack : execute (earlier.length + 1) unknown later = .ok stack) (above : Nat) :
    code.producer? index above =
      match stack.get above with
      | some tag => .ok (some tag)
      | none => .error failure := by
  have hstart : execute (instruction :: earlier.reverse).length unknown later = .ok stack := by
    rwa [List.length_cons, List.length_reverse]
  obtain ⟨hfound, hmissed⟩ := Trail.producer?_of_execute hstart above
  have hbefore : (code.take index).reverse = later.reverse ++ instruction :: earlier.reverse := by
    rw [hcode, List.reverse_append, List.reverse_cons, List.append_assoc, List.singleton_append]
  rw [producer?, before, hbefore]
  cases htag : stack.get above with
  | some tag =>
      obtain ⟨site, hsite, hindex⟩ := hfound tag htag
      rw [hsite, ← hindex]
      rfl
  | none =>
      obtain ⟨below, hbelow⟩ := hmissed htag
      rw [hbelow, Trail.producer?_cons_of_error hfailure]

/-- The walk back finds what a run forwards from an unknown stack finds. When every instruction
before `index` has a stack effect, that is the tag at the depth of the value. Otherwise the run
starts behind the last instruction without one; the walk finds the tag that the run leaves there, and
where there is none it fails as that instruction does. -/
theorem producer?_eq_execute (code : Code) (index above : Nat) :
    ((∀ instruction ∈ code.take index, instruction.Derivable) →
      ∃ stack, execute 0 unknown (code.take index) = .ok stack ∧
        code.producer? index above = .ok (stack.get above)) ∧
    ((¬∀ instruction ∈ code.take index, instruction.Derivable) →
      ∃ (last : Nat) (instruction : Instruction) (failure : Unsupported) (stack : DeepStack Nat),
        last < index ∧ code[last]? = some instruction ∧
        instruction.stackEffect = .error failure ∧
        (∀ other ∈ (code.take index).drop (last + 1), other.Derivable) ∧
        execute (last + 1) unknown ((code.take index).drop (last + 1)) = .ok stack ∧
        code.producer? index above =
          match stack.get above with
          | some tag => .ok (some tag)
          | none => .error failure) := by
  refine ⟨fun h => producer?_of_derivable h above, fun h => ?_⟩
  obtain ⟨earlier, instruction, later, failure, hcode, hfailure, hlater⟩ :=
    exists_last_underivable h
  have hdrop : (code.take index).drop (earlier.length + 1) = later := by
    rw [hcode]
    simp
  have hget : (code.take index)[earlier.length]? = some instruction := by
    rw [hcode]
    simp
  have hlt : earlier.length < index := by
    by_contra hge
    rw [List.getElem?_take_eq_none (by omega)] at hget
    cases hget
  obtain ⟨stack, hstack⟩ := exists_execute hlater (earlier.length + 1) unknown
  refine ⟨earlier.length, instruction, failure, stack, hlt, ?_, hfailure, ?_, ?_, ?_⟩
  · rwa [List.getElem?_take_of_lt hlt] at hget
  · rwa [hdrop]
  · rwa [hdrop]
  · exact producer?_of_last_underivable hcode hfailure hstack above

/-- A call of an unknown method hides what was pushed before it. -/
theorem producer?_behind_bare_call :
    let code : Code := [.loadInt 1, .make .call, .loadInt 2]
    (∀ instruction ∈ code.take 1, instruction.Derivable) ∧
      (∃ stack, execute 0 unknown (code.take 1) = .ok stack ∧
        code.producer? 1 0 = .ok (stack.get 0) ∧ stack.get 0 = some 0) ∧
      (¬∀ instruction ∈ code.take 3, instruction.Derivable) ∧
      ∃ failure, (Instruction.make .call).stackEffect = .error failure ∧
        code.producer? 3 1 = .error failure := by
  intro code
  have hderivable : ∀ instruction ∈ code.take 1, instruction.Derivable := by decide
  have hhidden : ¬∀ instruction ∈ code.take 3, instruction.Derivable := by decide
  refine ⟨hderivable, ?_, hhidden, ?_⟩
  · obtain ⟨stack, hstack, hproducer⟩ := (producer?_eq_execute code 1 0).1 hderivable
    refine ⟨stack, hstack, hproducer, ?_⟩
    cases hstack
    rfl
  · obtain ⟨last, instruction, failure, stack, hlt, hlast, hfailure, hlater, hstack, hproducer⟩ :=
      (producer?_eq_execute code 3 1).2 hhidden
    have hcall : last = 1 := by
      by_contra hne
      have hother : last = 0 ∨ last = 2 := by omega
      rcases hother with rfl | rfl <;> cases hlast <;> cases hfailure
    subst hcall
    cases hlast
    refine ⟨failure, hfailure, ?_⟩
    cases hstack
    exact hproducer

end Code

end CilEdit
