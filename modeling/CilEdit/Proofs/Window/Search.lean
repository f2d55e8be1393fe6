import CilEdit.Window
import Mathlib.Data.List.Basic

/-! The searches for windows are exact. Forward, the window found is the first one at or after the
start; backward, it is the last one that starts before the limit, also where it reaches beyond. Both
searches are tries of one place after the other, in an order in which every place that is passed over
comes before the one that is found. The places that leave too little room for the pattern may be tried
or left out: left out, no try looks beyond the end of the code. -/

namespace CilEdit

/-- In a list with an order, the first result of a partial function is the result at a place where all
that come before have none. -/
theorem findSome?_eq_some_iff_of_pairwise {α β : Type} {before : α → α → Prop} {list : List α}
    (h : list.Pairwise before) (hasymm : ∀ left right, before left right → ¬before right left)
    (f : α → Option β) (result : β) :
    list.findSome? f = some result ↔
      ∃ item ∈ list, f item = some result ∧ ∀ other ∈ list, before other item → f other = none := by
  constructor
  · intro hresult
    obtain ⟨front, item, back, rfl, hitem, hfront⟩ := List.findSome?_eq_some_iff.mp hresult
    refine ⟨item, List.mem_append_right _ List.mem_cons_self, hitem, fun other hother hbefore => ?_⟩
    rcases List.mem_append.mp hother with hmem | hmem
    · exact hfront other hmem
    · obtain ⟨-, htail, -⟩ := List.pairwise_append.mp h
      rcases List.mem_cons.mp hmem with rfl | hmem
      · exact absurd hbefore (hasymm _ _ hbefore)
      · exact absurd hbefore (hasymm _ _ (List.rel_of_pairwise_cons htail hmem))
  · rintro ⟨item, hmem, hitem, hbefore⟩
    obtain ⟨front, back, rfl⟩ := List.append_of_mem hmem
    refine List.findSome?_eq_some_iff.mpr ⟨front, item, back, rfl, hitem, fun other hother => ?_⟩
    have hlater := (List.pairwise_append.mp h).2.2 other hother item List.mem_cons_self
    exact hbefore other (List.mem_append_left _ hother) hlater

namespace Pattern

/-- Whether every matcher of the pattern accepts the instruction at its offset from `index`. -/
def AcceptsAt (pattern : Pattern) (code : Code) (index : Nat) : Prop :=
  ∀ offset matcher, pattern[offset]? = some matcher →
    ∃ instruction, code[index + offset]? = some instruction ∧ matcher.accepts instruction

/-- What the matchers record, each on the instruction at its offset from `index`, in their order. -/
def recordsAt (pattern : Pattern) (code : Code) (index : Nat) : Captures :=
  (List.zipWith Matcher.captures pattern (code.drop index)).flatten

end Pattern

/-- Whether the window is one that the pattern has in the code. -/
structure Window.Fits (window : Window) (pattern : Pattern) (code : Code) : Prop where
  stop_eq : window.stop = window.start + pattern.length
  stop_le : window.stop ≤ code.length
  accepts : pattern.AcceptsAt code window.start
  captures_eq : window.captures = pattern.recordsAt code window.start

namespace Pattern

variable {pattern : Pattern} {code : Code} {index : Nat}

theorem acceptsAt_drop : pattern.AcceptsAt (code.drop index) 0 ↔ pattern.AcceptsAt code index := by
  simp only [AcceptsAt, List.getElem?_drop, Nat.zero_add]

theorem acceptsAt_cons {matcher : Matcher} {instruction : Instruction} :
    AcceptsAt (matcher :: pattern) (instruction :: code) 0 ↔
      matcher.accepts instruction ∧ pattern.AcceptsAt code 0 := by
  constructor
  · intro h
    obtain ⟨first, hfirst, haccepts⟩ := h 0 matcher rfl
    cases hfirst
    refine ⟨haccepts, fun offset other hother => ?_⟩
    obtain ⟨found, hfound, haccepts⟩ := h (offset + 1) other hother
    rw [Nat.zero_add, List.getElem?_cons_succ] at hfound
    exact ⟨found, by rwa [Nat.zero_add], haccepts⟩
  · rintro ⟨haccepts, h⟩ offset other hother
    cases offset with
    | zero =>
        cases hother
        exact ⟨instruction, rfl, haccepts⟩
    | succ offset =>
        obtain ⟨found, hfound, haccepts⟩ := h offset other hother
        rw [Nat.zero_add] at hfound
        exact ⟨found, by rwa [Nat.zero_add, List.getElem?_cons_succ], haccepts⟩

theorem check?_eq_some_iff {captures : Captures} :
    pattern.check? code = some captures ↔
      pattern.AcceptsAt code 0 ∧ captures = pattern.recordsAt code 0 := by
  induction pattern generalizing code captures with
  | nil =>
      constructor
      · intro h
        cases h
        exact ⟨fun offset matcher h => (nomatch h), rfl⟩
      · rintro ⟨-, rfl⟩
        rfl
  | cons matcher pattern ih =>
      cases code with
      | nil =>
          constructor
          · intro h
            cases h
          · rintro ⟨h, -⟩
            obtain ⟨instruction, hinstruction, -⟩ := h 0 matcher rfl
            cases hinstruction
      | cons instruction code =>
          rw [check?, acceptsAt_cons]
          cases hfirst : matcher.check? instruction with
          | none =>
              have hrefused : ¬matcher.accepts instruction := by simp [Matcher.accepts, hfirst]
              simp [hrefused]
          | some first =>
              have haccepts : matcher.accepts instruction := by simp [Matcher.accepts, hfirst]
              have hrecords : recordsAt (matcher :: pattern) (instruction :: code) 0 =
                  first ++ recordsAt pattern code 0 := by
                simp [recordsAt, Matcher.captures, hfirst]
              rw [hrecords, Option.map_eq_some_iff, and_iff_right haccepts]
              constructor
              · rintro ⟨rest, hrest, rfl⟩
                obtain ⟨hpattern, rfl⟩ := ih.mp hrest
                exact ⟨hpattern, rfl⟩
              · rintro ⟨hpattern, rfl⟩
                exact ⟨_, ih.mpr ⟨hpattern, rfl⟩, rfl⟩

theorem check?_eq_none_iff : pattern.check? code = none ↔ ¬pattern.AcceptsAt code 0 := by
  cases hcheck : pattern.check? code with
  | none =>
      refine iff_of_true rfl fun haccepts => ?_
      cases hcheck.symm.trans (check?_eq_some_iff.mpr ⟨haccepts, rfl⟩)
  | some captures =>
      exact iff_of_false (Option.some_ne_none _) (not_not_intro (check?_eq_some_iff.mp hcheck).1)

theorem add_length_le_of_acceptsAt (hpattern : pattern ≠ []) (h : pattern.AcceptsAt code index) :
    index + pattern.length ≤ code.length := by
  have hpos := List.length_pos_iff.mpr hpattern
  have hlast : pattern.length - 1 < pattern.length := by omega
  obtain ⟨instruction, hinstruction, -⟩ := h _ _ (List.getElem?_eq_getElem hlast)
  have hlt := (List.getElem?_eq_some_iff.mp hinstruction).1
  omega

end Pattern

/-! ### Patterns of checks -/

namespace Matcher

variable (description : String) (check : Instruction → Finding) (instruction : Instruction)

@[simp] theorem accepts_ofCheck :
    (ofCheck description check).accepts instruction = (check instruction).accepted := by
  rw [accepts, ofCheck, check?]
  cases (check instruction).accepted <;> rfl

theorem captures_ofCheck (h : (check instruction).accepted) :
    (ofCheck description check).captures instruction = (check instruction).captures := by
  rw [captures, ofCheck, check?, if_pos h, Option.getD_some]

end Matcher

namespace Pattern

/-- The pattern of some checks, each with the text that describes it. -/
def ofChecks (checks : List (String × (Instruction → Matcher.Finding))) : Pattern :=
  checks.map fun entry => Matcher.ofCheck entry.1 entry.2

/-- What some checks report, each on the instruction at its offset from `index`, in their order. -/
def reportsAt (checks : List (String × (Instruction → Matcher.Finding))) (code : Code)
    (index : Nat) : Captures :=
  (List.zipWith (fun entry instruction => (entry.2 instruction).captures) checks
    (code.drop index)).flatten

variable {pattern : Pattern} {code : Code} {index : Nat}

/-- Checks that accept record what they report. -/
theorem recordsAt_ofChecks {checks : List (String × (Instruction → Matcher.Finding))}
    (h : (ofChecks checks).AcceptsAt code index) :
    (ofChecks checks).recordsAt code index = reportsAt checks code index := by
  rw [← acceptsAt_drop] at h
  rw [recordsAt, reportsAt]
  generalize code.drop index = rest at h
  induction checks generalizing rest with
  | nil => rfl
  | cons entry checks ih =>
      cases rest with
      | nil => rfl
      | cons instruction rest =>
          obtain ⟨hfirst, hrest⟩ := acceptsAt_cons.mp h
          rw [Matcher.accepts_ofCheck] at hfirst
          have hcaptures := Matcher.captures_ofCheck entry.1 entry.2 instruction hfirst
          rw [ofChecks, List.map_cons, List.zipWith_cons_cons, List.flatten_cons, hcaptures,
            List.zipWith_cons_cons, List.flatten_cons]
          exact congrArg ((entry.2 instruction).captures ++ ·) (ih rest hrest)

/-! ### Searches as tries -/

/-- The window of the pattern at `index`. -/
def tryAt? (pattern : Pattern) (code : Code) (index : Nat) : Option Window :=
  pattern.windowAt? index (code.drop index)

theorem tryAt?_eq_none_iff :
    pattern.tryAt? code index = none ↔ ¬pattern.AcceptsAt code index := by
  rw [tryAt?, windowAt?, Option.map_eq_none_iff, check?_eq_none_iff, acceptsAt_drop]

theorem tryAt?_eq_some_iff {window : Window} (hpattern : pattern ≠ []) :
    pattern.tryAt? code index = some window ↔ window.start = index ∧ window.Fits pattern code := by
  rw [tryAt?, windowAt?, Option.map_eq_some_iff]
  constructor
  · rintro ⟨captures, hcheck, rfl⟩
    obtain ⟨haccepts, hcaptures⟩ := check?_eq_some_iff.mp hcheck
    have haccepts := acceptsAt_drop.mp haccepts
    exact ⟨rfl, rfl, add_length_le_of_acceptsAt hpattern haccepts, haccepts, hcaptures⟩
  · rintro ⟨rfl, hstop, -, haccepts, hcaptures⟩
    refine ⟨window.captures, check?_eq_some_iff.mpr ⟨acceptsAt_drop.mpr haccepts, hcaptures⟩, ?_⟩
    rw [← hstop]

section Tries

/-! Tries of places in an order, where the pattern is accepted at no allowed place that is left out. -/

variable {places : List Nat} {allowed : Nat → Prop}
  (hplaces : ∀ index, pattern.AcceptsAt code index → (index ∈ places ↔ allowed index))

include hplaces in
theorem findSome?_tryAt?_eq_none_iff :
    places.findSome? (pattern.tryAt? code) = none ↔
      ∀ index, allowed index → ¬pattern.AcceptsAt code index := by
  simp only [List.findSome?_eq_none_iff, tryAt?_eq_none_iff]
  constructor
  · intro h index hallowed haccepts
    exact h index ((hplaces index haccepts).mpr hallowed) haccepts
  · intro h index hindex haccepts
    exact h index ((hplaces index haccepts).mp hindex) haccepts

include hplaces in
theorem findSome?_tryAt?_eq_some_iff {before : Nat → Nat → Prop} {window : Window}
    (hpattern : pattern ≠ []) (hordered : places.Pairwise before)
    (hasymm : ∀ left right, before left right → ¬before right left) :
    places.findSome? (pattern.tryAt? code) = some window ↔
      window.Fits pattern code ∧ allowed window.start ∧
        ∀ index, allowed index → pattern.AcceptsAt code index → ¬before index window.start := by
  rw [findSome?_eq_some_iff_of_pairwise hordered hasymm]
  constructor
  · rintro ⟨place, hplace, hwindow, hearlier⟩
    obtain ⟨rfl, hfits⟩ := (tryAt?_eq_some_iff hpattern).mp hwindow
    refine ⟨hfits, (hplaces _ hfits.accepts).mp hplace, fun index hallowed haccepts hbefore => ?_⟩
    have hnone := hearlier index ((hplaces index haccepts).mpr hallowed) hbefore
    exact tryAt?_eq_none_iff.mp hnone haccepts
  · rintro ⟨hfits, hallowed, hfirst⟩
    refine ⟨window.start, (hplaces _ hfits.accepts).mpr hallowed,
      (tryAt?_eq_some_iff hpattern).mpr ⟨rfl, hfits⟩, fun index hindex hbefore => ?_⟩
    refine tryAt?_eq_none_iff.mpr fun haccepts => ?_
    exact hfirst index ((hplaces index haccepts).mp hindex) haccepts hbefore

end Tries

theorem drop_succ_of_drop_eq_cons {instruction : Instruction} {rest : Code}
    (h : code.drop index = instruction :: rest) :
    index < code.length ∧ code.drop (index + 1) = rest := by
  constructor
  · rw [← Nat.not_le, ← List.drop_eq_nil_iff, h]
    exact List.cons_ne_nil _ _
  · rw [← List.drop_drop, h]
    rfl

theorem firstFrom?_drop (pattern : Pattern) (code : Code) (index : Nat) :
    pattern.firstFrom? index (code.drop index) =
      (List.range' index (code.length - index)).findSome? (pattern.tryAt? code) := by
  generalize hrest : code.drop index = rest
  induction rest generalizing index with
  | nil =>
      rw [Nat.sub_eq_zero_of_le (List.drop_eq_nil_iff.mp hrest)]
      rfl
  | cons instruction rest ih =>
      obtain ⟨hlt, hnext⟩ := drop_succ_of_drop_eq_cons hrest
      rw [show code.length - index = code.length - (index + 1) + 1 by omega, List.range'_succ,
        List.findSome?_cons, firstFrom?, ih (index + 1) hnext, tryAt?, hrest]
      cases pattern.windowAt? index (instruction :: rest) <;> rfl

theorem lastFrom?_drop (pattern : Pattern) (code : Code) (limit index : Nat) :
    pattern.lastFrom? limit index (code.drop index) =
      (List.range' index (min limit code.length - index)).reverse.findSome?
        (pattern.tryAt? code) := by
  generalize hrest : code.drop index = rest
  induction rest generalizing index with
  | nil =>
      have hle := List.drop_eq_nil_iff.mp hrest
      rw [show min limit code.length - index = 0 by omega]
      rfl
  | cons instruction rest ih =>
      obtain ⟨hlt, hnext⟩ := drop_succ_of_drop_eq_cons hrest
      rw [lastFrom?]
      split
      · rename_i hlimit
        rw [show min limit code.length - index = min limit code.length - (index + 1) + 1 by omega,
          List.range'_succ, List.reverse_cons, List.findSome?_append, ih (index + 1) hnext]
        cases (List.range' (index + 1) (min limit code.length - (index + 1))).reverse.findSome?
            (pattern.tryAt? code) with
        | some window => rfl
        | none => rw [Option.none_or, List.findSome?_singleton, tryAt?, hrest]
      · rw [show min limit code.length - index = 0 by omega]
        rfl

end Pattern

namespace Code

/-! ### Tries on slices of the code -/

/-- The instructions from `start` up to `stop`. There is no such slice unless it lies in the code. -/
def slice? (code : Code) (start stop : Nat) : Option Code :=
  if start ≤ stop ∧ stop ≤ code.length then some ((code.take stop).drop start) else none

/-- Tries the places in order, each on a slice of the code as long as the pattern, until a window is
found. There is no result when a slice is out of range. -/
def scan? (code : Code) (pattern : Pattern) : List Nat → Option (Option Window)
  | [] => some none
  | index :: places => do
    let slice ← code.slice? index (index + pattern.length)
    match pattern.windowAt? index slice with
    | some window => return some window
    | none => code.scan? pattern places

/-- Tries the places from `start` on that leave room for the pattern. -/
def scanForward? (code : Code) (pattern : Pattern) (start : Nat) : Option (Option Window) :=
  if pattern.isEmpty || code.length < pattern.length then some none
  else code.scan? pattern (List.range' start (code.length - pattern.length + 1 - start))

/-- Tries the places before `limit` that leave room for the pattern, the last one first. -/
def scanBackward? (code : Code) (pattern : Pattern) (limit : Nat) : Option (Option Window) :=
  if pattern.isEmpty || limit == 0 || code.length < pattern.length then some none
  else code.scan? pattern
    (List.range (min (code.length - pattern.length) (limit - 1) + 1)).reverse

variable {code : Code} {pattern : Pattern}

theorem slice?_eq {index : Nat} (h : index + pattern.length ≤ code.length) :
    code.slice? index (index + pattern.length) =
      some ((code.drop index).take pattern.length) := by
  rw [slice?, if_pos ⟨Nat.le_add_right _ _, h⟩, List.drop_take, Nat.add_sub_cancel_left]

end Code

theorem Pattern.check?_take (pattern : Pattern) (code : Code) :
    pattern.check? (code.take pattern.length) = pattern.check? code := by
  induction pattern generalizing code with
  | nil => cases code <;> rfl
  | cons matcher pattern ih =>
      cases code with
      | nil => rfl
      | cons instruction code =>
          rw [List.length_cons, List.take_succ_cons, check?, check?, ih]

namespace Code

variable {code : Code} {pattern : Pattern}

/-- Where every place leaves room for the pattern, no slice is out of range. -/
theorem scan?_eq (places : List Nat)
    (h : ∀ index ∈ places, index + pattern.length ≤ code.length) :
    code.scan? pattern places = some (places.findSome? (pattern.tryAt? code)) := by
  induction places with
  | nil => rfl
  | cons index places ih =>
      have hslice := slice?_eq (h index List.mem_cons_self)
      have hwindow : pattern.windowAt? index ((code.drop index).take pattern.length) =
          pattern.tryAt? code index := by
        rw [Pattern.tryAt?, Pattern.windowAt?, Pattern.windowAt?, Pattern.check?_take]
      rw [scan?, hslice, Option.bind_eq_bind, Option.bind_some, hwindow, List.findSome?_cons,
        ih fun other hother => h other (List.mem_cons_of_mem _ hother)]
      cases pattern.tryAt? code index <;> rfl

/-! ### The windows found -/

theorem findWindow?_eq (hpattern : pattern ≠ []) (start : Nat) :
    code.findWindow? pattern start =
      (List.range' start (code.length - start)).findSome? (pattern.tryAt? code) := by
  rw [findWindow?, List.isEmpty_eq_false_iff.mpr hpattern]
  exact pattern.firstFrom?_drop code start

theorem findLastWindow?_eq (hpattern : pattern ≠ []) (limit : Nat) :
    code.findLastWindow? pattern limit =
      (List.range' 0 (min limit code.length)).reverse.findSome? (pattern.tryAt? code) := by
  rw [findLastWindow?, List.isEmpty_eq_false_iff.mpr hpattern]
  exact pattern.lastFrom?_drop code limit 0

theorem findWindow?_nil (start : Nat) : code.findWindow? [] start = none := rfl

theorem findLastWindow?_nil (limit : Nat) : code.findLastWindow? [] limit = none := rfl

/-- No place where the pattern is accepted is left out forward. -/
theorem mem_forward_iff {index : Nat} (hpattern : pattern ≠ [])
    (haccepts : pattern.AcceptsAt code index) (start : Nat) :
    index ∈ List.range' start (code.length - start) ↔ start ≤ index := by
  have hroom := Pattern.add_length_le_of_acceptsAt hpattern haccepts
  have hpos := List.length_pos_iff.mpr hpattern
  rw [List.mem_range'_1]
  omega

/-- No place before the limit where the pattern is accepted is left out backward. -/
theorem mem_backward_iff {index : Nat} (hpattern : pattern ≠ [])
    (haccepts : pattern.AcceptsAt code index) (limit : Nat) :
    index ∈ (List.range' 0 (min limit code.length)).reverse ↔ index < limit := by
  have hroom := Pattern.add_length_le_of_acceptsAt hpattern haccepts
  have hpos := List.length_pos_iff.mpr hpattern
  rw [List.mem_reverse, List.mem_range'_1]
  omega

theorem findWindow?_eq_some_iff {start : Nat} {window : Window} :
    code.findWindow? pattern start = some window ↔
      pattern ≠ [] ∧ window.Fits pattern code ∧ start ≤ window.start ∧
        ∀ index, start ≤ index → pattern.AcceptsAt code index → window.start ≤ index := by
  by_cases hpattern : pattern = []
  · rw [hpattern, findWindow?_nil]
    exact iff_of_false (Option.some_ne_none _).symm fun h => h.1 rfl
  rw [findWindow?_eq hpattern, Pattern.findSome?_tryAt?_eq_some_iff
    (fun index haccepts => mem_forward_iff hpattern haccepts start) hpattern
    List.pairwise_lt_range' fun _ _ => Nat.lt_asymm, and_iff_right hpattern]
  simp only [Nat.not_lt]

theorem findWindow?_eq_none_iff {start : Nat} :
    code.findWindow? pattern start = none ↔
      pattern = [] ∨ ∀ index, start ≤ index → ¬pattern.AcceptsAt code index := by
  by_cases hpattern : pattern = []
  · exact iff_of_true (hpattern ▸ findWindow?_nil start) (.inl hpattern)
  rw [findWindow?_eq hpattern, or_iff_right hpattern]
  exact Pattern.findSome?_tryAt?_eq_none_iff
    fun index haccepts => mem_forward_iff hpattern haccepts start

theorem findLastWindow?_eq_some_iff {limit : Nat} {window : Window} :
    code.findLastWindow? pattern limit = some window ↔
      pattern ≠ [] ∧ window.Fits pattern code ∧ window.start < limit ∧
        ∀ index < limit, pattern.AcceptsAt code index → index ≤ window.start := by
  by_cases hpattern : pattern = []
  · rw [hpattern, findLastWindow?_nil]
    exact iff_of_false (Option.some_ne_none _).symm fun h => h.1 rfl
  rw [findLastWindow?_eq hpattern, Pattern.findSome?_tryAt?_eq_some_iff
    (fun index haccepts => mem_backward_iff hpattern haccepts limit) hpattern
    (List.pairwise_reverse.mpr List.pairwise_lt_range') fun _ _ => Nat.lt_asymm,
    and_iff_right hpattern]
  simp only [Nat.not_lt]

theorem findLastWindow?_eq_none_iff {limit : Nat} :
    code.findLastWindow? pattern limit = none ↔
      pattern = [] ∨ ∀ index < limit, ¬pattern.AcceptsAt code index := by
  by_cases hpattern : pattern = []
  · exact iff_of_true (hpattern ▸ findLastWindow?_nil limit) (.inl hpattern)
  rw [findLastWindow?_eq hpattern, or_iff_right hpattern]
  exact Pattern.findSome?_tryAt?_eq_none_iff
    fun index haccepts => mem_backward_iff hpattern haccepts limit

theorem scanForward?_eq (code : Code) (pattern : Pattern) (start : Nat) :
    code.scanForward? pattern start = some (code.findWindow? pattern start) := by
  by_cases hpattern : pattern = []
  · rw [hpattern]
    rfl
  rw [scanForward?, List.isEmpty_eq_false_iff.mpr hpattern, Bool.false_or]
  have hfits : ∀ index, pattern.AcceptsAt code index → index + pattern.length ≤ code.length :=
    fun _ => Pattern.add_length_le_of_acceptsAt hpattern
  by_cases hlength : code.length < pattern.length
  · rw [if_pos (decide_eq_true hlength), findWindow?_eq_none_iff.mpr (.inr fun index _ haccepts => ?_)]
    have hroom := hfits index haccepts
    omega
  · let places := List.range' start (code.length - pattern.length + 1 - start)
    have hmem : ∀ index, index ∈ places ↔
        start ≤ index ∧ index + pattern.length ≤ code.length := by
      intro index
      rw [List.mem_range'_1]
      omega
    have hplaces : ∀ index, pattern.AcceptsAt code index → (index ∈ places ↔ start ≤ index) :=
      fun index haccepts => (hmem index).trans (and_iff_left (hfits index haccepts))
    rw [if_neg (by rwa [decide_eq_true_iff]), scan?_eq places fun index h => ((hmem index).mp h).2]
    refine congrArg some (Option.ext fun window => ?_)
    rw [Pattern.findSome?_tryAt?_eq_some_iff hplaces hpattern List.pairwise_lt_range'
      fun _ _ => Nat.lt_asymm, findWindow?_eq_some_iff, and_iff_right hpattern]
    simp only [Nat.not_lt]

theorem scanBackward?_eq (code : Code) (pattern : Pattern) (limit : Nat) :
    code.scanBackward? pattern limit = some (code.findLastWindow? pattern limit) := by
  by_cases hpattern : pattern = []
  · rw [hpattern]
    rfl
  rw [scanBackward?, List.isEmpty_eq_false_iff.mpr hpattern, Bool.false_or]
  have hfits : ∀ index, pattern.AcceptsAt code index → index + pattern.length ≤ code.length :=
    fun _ => Pattern.add_length_le_of_acceptsAt hpattern
  by_cases hnowhere : limit = 0 ∨ code.length < pattern.length
  · rw [if_pos (by simpa using hnowhere),
      findLastWindow?_eq_none_iff.mpr (.inr fun index hlimit haccepts => ?_)]
    have hroom := hfits index haccepts
    omega
  · let places := (List.range (min (code.length - pattern.length) (limit - 1) + 1)).reverse
    have hmem : ∀ index, index ∈ places ↔
        index < limit ∧ index + pattern.length ≤ code.length := by
      intro index
      rw [List.mem_reverse, List.mem_range]
      omega
    have hplaces : ∀ index, pattern.AcceptsAt code index → (index ∈ places ↔ index < limit) :=
      fun index haccepts => (hmem index).trans (and_iff_left (hfits index haccepts))
    rw [if_neg (by simpa using hnowhere), scan?_eq places fun index h => ((hmem index).mp h).2]
    refine congrArg some (Option.ext fun window => ?_)
    rw [Pattern.findSome?_tryAt?_eq_some_iff hplaces hpattern
      (List.pairwise_reverse.mpr List.pairwise_lt_range) fun _ _ => Nat.lt_asymm,
      findLastWindow?_eq_some_iff, and_iff_right hpattern]
    simp only [Nat.not_lt]

/-- The searches are exact, whatever the start or limit and the length of the pattern. Forward, the
window found is the first one at `bound` or later; backward, it is the last one that starts before
`bound`. Nothing is found only if the pattern is empty or has no such window. The window found has what
the matchers record one after the other, and if these are checks of any kind, what the checks report.
Both are found by trying only places that leave room for the pattern, where no slice of the code is out
of range. -/
theorem findWindow?_exact (code : Code) (pattern : Pattern) (bound : Nat) :
    (∀ window, code.findWindow? pattern bound = some window ↔
      pattern ≠ [] ∧ window.Fits pattern code ∧ bound ≤ window.start ∧
        ∀ index, bound ≤ index → pattern.AcceptsAt code index → window.start ≤ index) ∧
    (code.findWindow? pattern bound = none ↔
      pattern = [] ∨ ∀ index, bound ≤ index → ¬pattern.AcceptsAt code index) ∧
    (∀ window, code.findLastWindow? pattern bound = some window ↔
      pattern ≠ [] ∧ window.Fits pattern code ∧ window.start < bound ∧
        ∀ index < bound, pattern.AcceptsAt code index → index ≤ window.start) ∧
    (code.findLastWindow? pattern bound = none ↔
      pattern = [] ∨ ∀ index < bound, ¬pattern.AcceptsAt code index) ∧
    (∀ checks (window : Window), pattern = .ofChecks checks → window.Fits pattern code →
      window.captures = Pattern.reportsAt checks code window.start) ∧
    code.scanForward? pattern bound = some (code.findWindow? pattern bound) ∧
    code.scanBackward? pattern bound = some (code.findLastWindow? pattern bound) := by
  refine ⟨fun _ => findWindow?_eq_some_iff, findWindow?_eq_none_iff,
    fun _ => findLastWindow?_eq_some_iff, findLastWindow?_eq_none_iff, ?_,
    code.scanForward?_eq pattern bound, code.scanBackward?_eq pattern bound⟩
  rintro checks window rfl hfits
  exact hfits.captures_eq.trans (Pattern.recordsAt_ofChecks hfits.accepts)

/-- A window that starts before the limit and reaches beyond it is found backward, with each label that
a check reports of its last instruction. -/
example :
    let code : Code := [.make .nop, .make .dup, { Instruction.make .pop with labels := [⟨7⟩, ⟨8⟩] }]
    let labelled : Instruction → Matcher.Finding := fun instruction =>
      ⟨!instruction.labels.isEmpty, instruction.labels.map fun label => ("label", .label label)⟩
    let pattern : Pattern := [.oneOf [.dup], .ofCheck "labelled" labelled]
    code.findLastWindow? pattern 2 =
        some ⟨1, 3, [("label", .label ⟨7⟩), ("label", .label ⟨8⟩)]⟩ ∧
      code.findLastWindow? pattern 1 = none :=
  ⟨rfl, rfl⟩

end Code

end CilEdit
