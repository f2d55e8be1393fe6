import CilEdit.Typing.Rule
import Std.Data.HashMap

/-! The type of a pushed value without recursion: a search that keeps the types found so far and a
stack of instructions still to be typed. The instruction on top of the stack is typed from the types
found so far; if one is missing, its producer goes on top. Producers stand before what they produce
for, so the stack always runs backwards through the code, and no instruction is typed twice. -/

namespace CilEdit.Typing

/-- The types found so far, by the index of the instruction. -/
abbrev Memo := Std.HashMap Nat (Option TypeSig)

/-- What typing an instruction from a memo comes to. -/
inductive Progress where
  | ready (type : Option TypeSig)
  /-- a producer that has to be typed first -/
  | needs (producer : Site)

def Progress.map (f : Option TypeSig → Option TypeSig) : Progress → Progress
  | .ready type => .ready (f type)
  | .needs producer => .needs producer

namespace Memo

def value (memo : Memo) (trail : Trail) (above : Nat) : Except Unsupported Progress :=
  match trail.producer? above with
  | .error failure => .error failure
  | .ok none => .ok (.ready none)
  | .ok (some producer) =>
    match memo[producer.index]? with
    | some type => .ok (.ready type)
    | none => .ok (.needs producer)

def localValue (memo : Memo) (method : Method) (trail : Trail) (slot : Slot) :
    Except Unsupported Progress :=
  match trail.lastStore? slot with
  | none => .ok (.ready (method.localType? slot))
  | some store => do
    let stored ← memo.value store.earlier 0
    return stored.map fun type => type.or (method.localType? slot)

def evaluate (memo : Memo) (method : Method) (site : Site) : Except Unsupported Progress :=
  match site.instruction.typeSource method with
  | .known type => .ok (.ready type)
  | .top => memo.value site.earlier 0
  | .operands => do
    match ← memo.value site.earlier 1 with
    | .ready none => memo.value site.earlier 0
    | first => return first
  | .element => do
    let array ← memo.value site.earlier 1
    return array.map fun type => some (TypeSig.loadedElement type)
  | .slot slot => memo.localValue method site.earlier slot
  | .slotAddress slot => do
    let type ← memo.localValue method site.earlier slot
    return type.map fun type => type.map .byRef

/-! ### Why the search ends -/

/-- A producer that a value needs stands inside the trail and is not typed yet. -/
theorem needs_of_value {memo : Memo} {trail : Trail} {above : Nat} {producer : Site}
    (h : memo.value trail above = .ok (.needs producer)) :
    producer.index < trail.length ∧ producer.index ∉ memo := by
  simp only [value] at h
  split at h
  · simp at h
  · simp at h
  · rename_i site hsite
    split at h
    · simp at h
    · rename_i hmemo
      simp only [Except.ok.injEq, Progress.needs.injEq] at h
      subst h
      exact ⟨Trail.index_lt_of_producer? hsite, by simpa using hmemo⟩

theorem needs_of_map {progress : Except Unsupported Progress}
    {f : Option TypeSig → Option TypeSig} {producer : Site}
    (h : (do let found ← progress; return found.map f : Except Unsupported Progress) =
      .ok (.needs producer)) : progress = .ok (.needs producer) := by
  cases progress with
  | error failure => cases h
  | ok found =>
    cases found with
    | ready type => cases h
    | needs site => cases h; rfl

theorem needs_of_localValue {memo : Memo} {method : Method} {trail : Trail} {slot : Slot}
    {producer : Site} (h : memo.localValue method trail slot = .ok (.needs producer)) :
    producer.index < trail.length ∧ producer.index ∉ memo := by
  simp only [localValue] at h
  split at h
  · simp at h
  · rename_i store hstore
    have hvalue := needs_of_value (needs_of_map h)
    have hlt := Trail.index_lt_of_lastStore? hstore
    exact ⟨Nat.lt_trans hvalue.1 hlt, hvalue.2⟩

theorem needs_of_evaluate {memo : Memo} {method : Method} {site producer : Site}
    (h : memo.evaluate method site = .ok (.needs producer)) :
    producer.index < site.index ∧ producer.index ∉ memo := by
  simp only [evaluate] at h
  split at h
  · simp at h
  · exact needs_of_value h
  · cases hfirst : memo.value site.earlier 1 with
    | error failure => rw [hfirst] at h; cases h
    | ok first =>
      rw [hfirst] at h
      cases first with
      | needs other => cases h; exact needs_of_value hfirst
      | ready type =>
        cases type with
        | none => exact needs_of_value h
        | some type => cases h
  · exact needs_of_value (needs_of_map h)
  · exact needs_of_localValue h
  · exact needs_of_localValue (needs_of_map h)

/-- The number of instructions before `bound` that are not typed yet. -/
def untyped (memo : Memo) (bound : Nat) : Nat :=
  ((List.range bound).filter fun index => !memo.contains index).length

theorem untyped_mono (memo : Memo) {low high : Nat} (h : low ≤ high) :
    memo.untyped low ≤ memo.untyped high :=
  ((List.range_sublist.2 h).filter _).length_le

theorem untyped_insert_lt (memo : Memo) {index bound : Nat} (type : Option TypeSig)
    (hbound : index < bound) (hmemo : index ∉ memo) :
    untyped (memo.insert index type) bound < memo.untyped bound := by
  have hfilter : (List.range bound).filter (fun other => !(memo.insert index type).contains other) =
      ((List.range bound).filter fun other => !memo.contains other).filter
        (fun other => !decide (index = other)) := by
    rw [List.filter_filter]
    congr 1
    funext other
    simp [Std.HashMap.contains_insert, Bool.not_or]
    by_cases heq : index = other <;> simp [heq]
  rw [untyped, untyped, hfilter]
  exact List.length_filter_lt_length_iff_exists.2 ⟨index, by simpa using ⟨hbound, hmemo⟩, by simp⟩

end Memo

/-- A bound for the indices of the pending instructions. -/
def bound : List Site → Nat
  | [] => 0
  | site :: rest => max (site.index + 1) (bound rest)

/-- The work that is left before the next instruction is typed. -/
def backlog (memo : Memo) : List Site → Nat
  | [] => 0
  | site :: rest =>
    if site.index ∈ memo then bound (site :: rest) + (rest.length + 1) else site.index

theorem bound_le_bound_cons (site : Site) (rest : List Site) :
    bound rest ≤ bound (site :: rest) := by
  simp only [bound]
  omega

theorem bound_cons_of_lt {producer site : Site} {rest : List Site}
    (h : producer.index < site.index) :
    bound (producer :: site :: rest) = bound (site :: rest) := by
  simp only [bound]
  omega

theorem backlog_lt_of_mem {memo : Memo} {site : Site} {rest : List Site}
    (h : site.index ∈ memo) : backlog memo rest < backlog memo (site :: rest) := by
  have hbound := bound_le_bound_cons site rest
  cases rest with
  | nil => simp [backlog, h]
  | cons next rest =>
    simp only [backlog, h, if_true, List.length_cons]
    split
    · omega
    · simp only [bound] at hbound ⊢
      omega

theorem backlog_cons_lt {memo : Memo} {producer site : Site} {rest : List Site}
    (hsite : site.index ∉ memo) (hproducer : producer.index ∉ memo)
    (hlt : producer.index < site.index) :
    backlog memo (producer :: site :: rest) < backlog memo (site :: rest) := by
  simpa [backlog, hsite, hproducer] using hlt

/-- Types the pending instructions, the one in front first. -/
def settle (method : Method) (memo : Memo) (pending : List Site) : Except Unsupported Memo :=
  match pending with
  | [] => .ok memo
  | site :: rest =>
    if site.index ∈ memo then settle method memo rest
    else
      match _hprogress : memo.evaluate method site with
      | .error failure => .error failure
      | .ok (.ready type) => settle method (memo.insert site.index type) rest
      | .ok (.needs producer) => settle method memo (producer :: site :: rest)
termination_by (memo.untyped (bound pending), backlog memo pending)
decreasing_by
  · rename_i hmemo
    rcases Nat.lt_or_eq_of_le (memo.untyped_mono (bound_le_bound_cons site rest)) with hlt | heq
    · exact Prod.Lex.left _ _ hlt
    · rw [heq]
      exact Prod.Lex.right _ (backlog_lt_of_mem hmemo)
  · rename_i hmemo
    refine Prod.Lex.left _ _
      (Nat.lt_of_le_of_lt (Memo.untyped_mono _ (bound_le_bound_cons site rest))
      (memo.untyped_insert_lt type ?_ hmemo))
    simp only [bound]
    omega
  · rename_i hmemo
    have hneeds := Memo.needs_of_evaluate _hprogress
    rw [bound_cons_of_lt hneeds.1]
    exact Prod.Lex.right _ (backlog_cons_lt hmemo hneeds.2 hneeds.1)

/-- The type of the value that the instruction at `site` pushes. -/
def resolve (method : Method) (site : Site) : Except Unsupported (Option TypeSig) := do
  let memo ← settle method ∅ [site]
  return memo[site.index]?.join

end CilEdit.Typing
