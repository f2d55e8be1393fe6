import CilEdit.Proofs.Cursor.Jumps
import CilEdit.Stack.Producer

/-! Balanced code: it runs from an empty stack to an empty stack and never takes more than it put
there. A walk back that comes to balanced code goes on before it as if it were not there, since the
value that is looked for always lies deeper than what the code left so far. So a balanced fragment
that is put between two parts of some code moves the places behind it and hides none of them. -/

namespace CilEdit

namespace Code

/-- The height that a stack of the given height has after the code. There is none if an instruction
has no stack effect or takes more than there is. -/
def height? (height : Nat) : Code → Option Nat
  | [] => some height
  | instruction :: rest =>
    match instruction.stackEffect with
    | .error _ => none
    | .ok effect =>
      if effect.pops ≤ height then height? (height - effect.pops + effect.pushes) rest else none

/-- Whether the code runs from an empty stack to an empty stack. -/
def Balanced (code : Code) : Prop := code.height? 0 = some 0

instance : DecidablePred Balanced := fun code =>
  inferInstanceAs (Decidable (code.height? 0 = some 0))

end Code

namespace Trail

/-- What lies deeper than the values that the code left is found before the code, deeper by what the
code found on the stack. -/
theorem producer?_append_of_height? {code : Code} {height reached above : Nat}
    (h : code.height? height = some reached) (habove : reached ≤ above)
    (earlier : List Instruction) :
    (ofList (code.reverse ++ earlier)).producer? above =
      (ofList earlier).producer? (above - reached + height) := by
  induction code generalizing height earlier with
  | nil =>
      cases h
      rw [List.reverse_nil, List.nil_append, Nat.sub_add_cancel habove]
  | cons instruction rest ih =>
      rw [Code.height?] at h
      cases heffect : instruction.stackEffect with
      | error failure =>
          rw [heffect] at h
          cases h
      | ok effect =>
          rw [heffect] at h
          by_cases hpops : effect.pops ≤ height
          · simp only [if_pos hpops] at h
            rw [List.reverse_cons, List.append_assoc, List.singleton_append, ih h, producer?_cons,
              heffect]
            simp only
            rw [if_neg (by omega)]
            congr 1
            omega
          · simp only [if_neg hpops] at h
            cases h

theorem producer?_append_balanced {code : Code} (h : code.Balanced) (earlier : List Instruction)
    (above : Nat) :
    (ofList (code.reverse ++ earlier)).producer? above = (ofList earlier).producer? above :=
  producer?_append_of_height? h (Nat.zero_le above) earlier

theorem lastStore?_append_of_not_storesTo {code : Code} {slot : Slot}
    (h : ∀ store ∈ code, store.storesTo slot = false) (earlier : List Instruction) :
    (ofList (code.reverse ++ earlier)).lastStore? slot = (ofList earlier).lastStore? slot := by
  induction code generalizing earlier with
  | nil => rfl
  | cons instruction rest ih =>
      have hrest := ih (fun store hmem => h store (List.mem_cons_of_mem _ hmem))
      rw [List.reverse_cons, List.append_assoc, List.singleton_append, hrest, lastStore?_cons,
        h instruction List.mem_cons_self]
      rfl

/-! ### A fragment between two parts -/

/-- The trail after a fragment was put at index `start` of the code, if the trail comes that far. -/
def splice (start : Nat) (fragment : Code) (trail : Trail) : Trail :=
  if trail.length < start then trail
  else
    ofList (trail.instructions.take (trail.length - start) ++ fragment.reverse ++
      trail.instructions.drop (trail.length - start))

theorem splice_of_lt {trail : Trail} {start : Nat} (h : trail.length < start) (fragment : Code) :
    trail.splice start fragment = trail := if_pos h

theorem splice_append (upper lower : List Instruction) (fragment : Code) :
    (ofList (upper ++ lower)).splice lower.length fragment =
      ofList (upper ++ fragment.reverse ++ lower) := by
  have hlength : (ofList (upper ++ lower)).length = upper.length + lower.length :=
    List.length_append
  have hupper : (ofList (upper ++ lower)).length - lower.length = upper.length := by omega
  rw [splice, if_neg (by omega), hupper]
  simp only [ofList, List.take_left, List.drop_left]

/-- A trail that comes as far as `start` splits there. -/
theorem exists_append_of_le {trail : Trail} {start : Nat} (h : start ≤ trail.length) :
    ∃ upper lower, trail = ofList (upper ++ lower) ∧ lower.length = start := by
  refine ⟨trail.instructions.take (trail.length - start),
    trail.instructions.drop (trail.length - start), ?_, ?_⟩
  · apply Trail.ext
    exact (List.take_append_drop _ _).symm
  · rw [List.length_drop, ← trail.length_eq]
    omega

end Trail

/-- The place of the instruction after a fragment was put at index `start` of the code. -/
def Site.splice (start : Nat) (fragment : Code) (site : Site) : Site :=
  ⟨site.instruction, site.earlier.splice start fragment⟩

namespace Site

variable {start : Nat} {fragment : Code} {site : Site}

theorem splice_of_lt (h : site.index < start) : site.splice start fragment = site := by
  rw [splice, Trail.splice_of_lt h]

theorem index_splice : (site.splice start fragment).index =
    Code.shift start 0 fragment.length site.index := by
  by_cases h : site.index < start
  · rw [splice_of_lt h, Code.shift_of_lt h]
  · obtain ⟨upper, lower, hearlier, hlower⟩ := Trail.exists_append_of_le (Nat.le_of_not_lt h)
    have hindex : site.index = upper.length + lower.length := by
      rw [index, hearlier]
      exact List.length_append
    rw [Code.shift_of_le (Nat.le_of_not_lt h), hindex, index, splice, hearlier, ← hlower,
      Trail.splice_append]
    simp only [Trail.ofList, List.length_append, List.length_reverse]
    omega

end Site

namespace Trail

variable {start : Nat} {fragment : Code}

/-- The walk back over spliced code finds the place that the producer has in it, and fails where it
failed before. -/
theorem producer?_splice (h : fragment.Balanced) (trail : Trail) (above : Nat) :
    (trail.splice start fragment).producer? above =
      (trail.producer? above).map (Option.map (Site.splice start fragment)) := by
  have hbelow : ∀ (below : Trail) (depth : Nat), below.length ≤ start →
      (below.producer? depth).map (Option.map (Site.splice start fragment)) =
        below.producer? depth := by
    intro below depth hlength
    cases hproducer : below.producer? depth with
    | error failure => rfl
    | ok found =>
        cases found with
        | none => rfl
        | some site =>
            have hlt := index_lt_of_producer? hproducer
            simp only [Except.map, Option.map_some, Site.splice_of_lt (Nat.lt_of_lt_of_le hlt hlength)]
  by_cases hlt : trail.length < start
  · rw [splice_of_lt hlt, hbelow trail above (Nat.le_of_lt hlt)]
  · obtain ⟨upper, lower, rfl, rfl⟩ := exists_append_of_le (Nat.le_of_not_lt hlt)
    clear hlt
    rw [splice_append]
    induction upper generalizing above with
    | nil =>
        rw [List.nil_append, List.nil_append, producer?_append_balanced h, hbelow _ _ (Nat.le_refl _)]
    | cons instruction upper ih =>
        rw [List.cons_append, List.cons_append, List.cons_append, producer?_cons, producer?_cons]
        cases instruction.stackEffect with
        | error failure => rfl
        | ok effect =>
            simp only
            by_cases habove : above < effect.pushes
            · rw [if_pos habove, if_pos habove]
              simp only [Except.map, Option.map_some, Site.splice, splice_append]
            · rw [if_neg habove, if_neg habove]
              exact ih _

/-- The nearest store stands where it stood, if the fragment stores into another variable. -/
theorem lastStore?_splice {slot : Slot} (h : ∀ store ∈ fragment, store.storesTo slot = false)
    (trail : Trail) :
    (trail.splice start fragment).lastStore? slot =
      (trail.lastStore? slot).map (Site.splice start fragment) := by
  have hbelow : ∀ below : Trail, below.length ≤ start →
      (below.lastStore? slot).map (Site.splice start fragment) = below.lastStore? slot := by
    intro below hlength
    cases hstore : below.lastStore? slot with
    | none => rfl
    | some site =>
        have hlt := index_lt_of_lastStore? hstore
        rw [Option.map_some, Site.splice_of_lt (Nat.lt_of_lt_of_le hlt hlength)]
  by_cases hlt : trail.length < start
  · rw [splice_of_lt hlt, hbelow trail (Nat.le_of_lt hlt)]
  · obtain ⟨upper, lower, rfl, rfl⟩ := exists_append_of_le (Nat.le_of_not_lt hlt)
    clear hlt
    rw [splice_append]
    induction upper with
    | nil =>
        rw [List.nil_append, List.nil_append, lastStore?_append_of_not_storesTo h,
          hbelow _ (Nat.le_refl _)]
    | cons instruction upper ih =>
        rw [List.cons_append, List.cons_append, List.cons_append, lastStore?_cons, lastStore?_cons]
        by_cases hstore : instruction.storesTo slot
        · rw [if_pos hstore, if_pos hstore]
          simp only [Option.map_some, Site.splice, splice_append]
        · rw [if_neg hstore, if_neg hstore]
          exact ih

end Trail

namespace Code

theorem before_append (left fragment right : Code) (index : Nat) :
    before (left ++ fragment ++ right) (shift left.length 0 fragment.length index) =
      (before (left ++ right) index).splice left.length fragment := by
  unfold before
  by_cases h : index < left.length
  · have hlength : (Trail.ofList (List.take index (left ++ right)).reverse).length < left.length := by
      simp only [Trail.ofList, List.length_reverse, List.length_take, List.length_append]
      omega
    rw [shift_of_lt h, Trail.splice_of_lt hlength, List.append_assoc,
      List.take_append_of_le_length (Nat.le_of_lt h), List.take_append_of_le_length (Nat.le_of_lt h)]
  · obtain ⟨count, rfl⟩ := Nat.exists_eq_add_of_le (Nat.le_of_not_lt h)
    have hsplit : (left ++ List.take count right).reverse =
        (List.take count right).reverse ++ left.reverse := List.reverse_append
    have htotal : left.length + count + fragment.length = (left ++ fragment).length + count := by
      rw [List.length_append]
      omega
    rw [shift_of_le (Nat.le_of_not_lt h), htotal, List.take_length_add_append,
      List.take_length_add_append, hsplit, ← left.length_reverse, Trail.splice_append,
      List.reverse_append, List.reverse_append, List.append_assoc]

theorem site?_append (left fragment right : Code) (index : Nat) :
    site? (left ++ fragment ++ right) (shift left.length 0 fragment.length index) =
      (site? (left ++ right) index).map (Site.splice left.length fragment) := by
  have hkept : index < left.length ∨ left.length + List.length ([] : Code) ≤ index := by
    rw [List.length_nil]
    omega
  have hget := getElem?_exchange left [] hkept fragment right
  rw [List.append_nil, List.length_nil] at hget
  unfold site?
  rw [hget, before_append]
  cases (left ++ right)[index]? <;> rfl

/-- A balanced fragment between two parts of some code moves the producers behind it and hides
none. -/
theorem producer?_append {fragment : Code} (h : fragment.Balanced) (left right : Code)
    (index above : Nat) :
    producer? (left ++ fragment ++ right) (shift left.length 0 fragment.length index) above =
      (producer? (left ++ right) index above).map
        (Option.map (shift left.length 0 fragment.length)) := by
  unfold producer?
  rw [before_append, Trail.producer?_splice h]
  cases (before (left ++ right) index).producer? above with
  | error failure => rfl
  | ok found =>
      cases found with
      | none => rfl
      | some site => simp only [Except.map, Option.map_some, Site.index_splice]

end Code

end CilEdit
