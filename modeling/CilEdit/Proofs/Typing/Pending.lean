import CilEdit.Proofs.Typing.Indices

/-! The search for the type of a pushed value, turn by turn. An instruction that is pending waits for
the one in front of it, which stands before it in the code. So what is pending runs strictly backwards
from the instruction that the search was started for, and no instruction is pending twice. The search
comes to its end after some turns, with the type that the recursion on indices finds or with the
failure that ends the recursion. -/

namespace CilEdit

namespace Typing

/-- A search under way: the types found so far and the instructions still to be typed. -/
structure Search where
  memo : Memo
  pending : List Site

namespace Search

def start (site : Site) : Search := ⟨∅, [site]⟩

/-- One turn. The instruction in front goes if its type is known or can be told, and otherwise the
producer that it waits for comes in front of it. With nothing pending the search stays as it is. -/
def turn (method : Method) : Search → Except Unsupported Search
  | ⟨memo, []⟩ => .ok ⟨memo, []⟩
  | ⟨memo, site :: rest⟩ =>
    if site.index ∈ memo then .ok ⟨memo, rest⟩
    else
      match memo.evaluate method site with
      | .error failure => .error failure
      | .ok (.ready type) => .ok ⟨memo.insert site.index type, rest⟩
      | .ok (.needs producer) => .ok ⟨memo, producer :: site :: rest⟩

/-- The search after some turns, unless one of them failed. -/
def after (method : Method) (search : Search) : Nat → Except Unsupported Search
  | 0 => .ok search
  | turns + 1 => do
    let earlier ← search.after method turns
    earlier.turn method

/-- How a turn that does not fail goes. -/
inductive Turn (method : Method) : Search → Search → Prop
  | done (memo : Memo) : Turn method ⟨memo, []⟩ ⟨memo, []⟩
  | known {memo : Memo} {site : Site} {rest : List Site} (h : site.index ∈ memo) :
      Turn method ⟨memo, site :: rest⟩ ⟨memo, rest⟩
  | ready {memo : Memo} {site : Site} {rest : List Site} {type : Option TypeSig}
      (hmem : site.index ∉ memo) (h : memo.evaluate method site = .ok (.ready type)) :
      Turn method ⟨memo, site :: rest⟩ ⟨memo.insert site.index type, rest⟩
  | needs {memo : Memo} {site producer : Site} {rest : List Site}
      (hmem : site.index ∉ memo) (h : memo.evaluate method site = .ok (.needs producer)) :
      Turn method ⟨memo, site :: rest⟩ ⟨memo, producer :: site :: rest⟩

theorem turn_of_eq_ok {method : Method} {search next : Search}
    (h : search.turn method = .ok next) : Turn method search next := by
  obtain ⟨memo, _ | ⟨site, rest⟩⟩ := search
  · cases h
    exact .done memo
  · rw [turn] at h
    split at h
    · rename_i hmem
      cases h
      exact .known hmem
    · rename_i hmem
      rcases hprogress : memo.evaluate method site with failure | type | producer <;>
        rw [hprogress] at h <;> cases h
      · exact .ready hmem hprogress
      · exact .needs hmem hprogress

/-- What every turn keeps holds of a search under way if it holds of the search at its start. -/
theorem invariant_after {method : Method} {P : Search → Prop}
    (hturn : ∀ {search next}, P search → Turn method search next → P next)
    {search next : Search} (h : P search) {turns : Nat}
    (hnext : search.after method turns = .ok next) : P next := by
  induction turns generalizing next with
  | zero =>
      cases hnext
      exact h
  | succ turns ih =>
      rw [after] at hnext
      cases hearlier : search.after method turns with
      | error failure => rw [hearlier] at hnext; cases hnext
      | ok earlier =>
          rw [hearlier] at hnext
          exact hturn (ih hearlier) (turn_of_eq_ok hnext)

/-- Whether what is pending runs strictly backwards from the root at its end. -/
structure Descends (root : Site) (search : Search) : Prop where
  backwards : (search.pending.map Site.index).Pairwise (· < ·)
  last : ∀ site ∈ search.pending.getLast?, site = root

variable {method : Method} {root : Site} {search next : Search}

theorem descends_start (root : Site) : (start root).Descends root where
  backwards := List.pairwise_singleton _ _
  last _ hsite := (Option.some.inj hsite).symm

/-- Dropping the instruction in front leaves the others in order. -/
theorem Descends.drop {memo later : Memo} {site : Site} {rest : List Site}
    (h : Descends root ⟨memo, site :: rest⟩) : Descends root ⟨later, rest⟩ where
  backwards := (List.pairwise_cons.mp h.backwards).2
  last other hother := h.last other <| by
    cases rest with
    | nil => cases hother
    | cons next rest => rwa [List.getLast?_cons_cons]

/-- A producer stands before the instruction that needs it, so it goes in front. -/
theorem Descends.push {memo : Memo} {producer site : Site} {rest : List Site}
    (h : Descends root ⟨memo, site :: rest⟩) (hproducer : producer.index < site.index) :
    Descends root ⟨memo, producer :: site :: rest⟩ where
  backwards := by
    refine List.pairwise_cons.mpr ⟨fun index hindex => ?_, h.backwards⟩
    rcases List.mem_cons.mp hindex with rfl | hrest
    · exact hproducer
    · exact Nat.lt_trans hproducer ((List.pairwise_cons.mp h.backwards).1 index hrest)
  last other hother := h.last other (by rwa [List.getLast?_cons_cons] at hother)

/-- A turn keeps what is pending in order. -/
theorem Descends.turn (h : search.Descends root) (hturn : Turn method search next) :
    next.Descends root := by
  cases hturn with
  | done memo => exact h
  | known hmem => exact h.drop
  | ready hmem hprogress => exact h.drop
  | needs hmem hprogress => exact h.push (Memo.needs_of_evaluate hprogress).1

theorem Descends.after (h : search.Descends root) {turns : Nat}
    (hnext : search.after method turns = .ok next) : next.Descends root :=
  invariant_after Descends.turn h hnext

/-- The first turn, and then the others. -/
theorem after_succ (method : Method) (search : Search) (turns : Nat) :
    search.after method (turns + 1) = search.turn method >>= fun next => next.after method turns := by
  induction turns with
  | zero => exact (bind_pure (search.turn method)).symm
  | succ turns ih =>
      rw [after, ih]
      exact bind_assoc (search.turn method) _ _

/-- The search ends after some turns, with nothing pending or with a failure. -/
theorem exists_after_eq_settle (method : Method) (memo : Memo) (pending : List Site) :
    ∃ turns, after method ⟨memo, pending⟩ turns =
      (settle method memo pending).map fun final => ⟨final, []⟩ := by
  fun_induction settle method memo pending with
  | case1 memo => exact ⟨0, rfl⟩
  | case2 memo site rest hmem ih =>
      obtain ⟨turns, hturns⟩ := ih
      refine ⟨turns + 1, ?_⟩
      rw [after_succ, turn, if_pos hmem]
      exact hturns
  | case3 memo site rest hmem failure hprogress =>
      refine ⟨1, ?_⟩
      rw [after_succ, turn, if_neg hmem, hprogress]
      rfl
  | case4 memo site rest hmem type hprogress ih =>
      obtain ⟨turns, hturns⟩ := ih
      refine ⟨turns + 1, ?_⟩
      rw [after_succ, turn, if_neg hmem, hprogress]
      exact hturns
  | case5 memo site rest hmem producer hprogress ih =>
      obtain ⟨turns, hturns⟩ := ih
      refine ⟨turns + 1, ?_⟩
      rw [after_succ, turn, if_neg hmem, hprogress]
      exact hturns

end Search

end Typing

/-- The search answers as the recursion on indices does, failures included, for every index of the
code and beyond. Started for an instruction it ends after some turns; until then what is pending runs
strictly backwards from that instruction to the one in front, so that none is pending twice. -/
theorem Code.search_eq_recursiveType (code : Code) (method : Method) (index : Nat) :
    code.pushedType method index = code.recursiveType method index ∧
    ∀ site, code.site? index = some site →
      Typing.resolve method site = code.recursiveType method index ∧
      (∃ turns, (Typing.Search.start site).after method turns =
        (Typing.settle method ∅ [site]).map fun memo => ⟨memo, []⟩) ∧
      ∀ turns search, (Typing.Search.start site).after method turns = .ok search →
        (search.pending.map Site.index).Pairwise (· < ·) ∧
        (search.pending.map Site.index).Nodup ∧ ∀ last ∈ search.pending.getLast?, last = site := by
  have hresolve : ∀ site, code.site? index = some site →
      Typing.resolve method site = code.recursiveType method index := fun site hsite =>
    (Typing.resolve_eq_pushedType method site).trans (code.pushedType_eq_recursiveType method hsite)
  refine ⟨?_, fun site hsite => ⟨hresolve site hsite,
    Typing.Search.exists_after_eq_settle method ∅ [site], fun turns search hsearch => ?_⟩⟩
  · rw [pushedType]
    cases hsite : code.site? index with
    | some site => exact hresolve site hsite
    | none =>
        rw [recursiveType, Option.map_eq_none_iff.mp hsite]
  · have hdescends := (Typing.Search.descends_start site).after hsearch
    exact ⟨hdescends.backwards, hdescends.backwards.imp Nat.ne_of_lt, hdescends.last⟩

/-- A sum of two copies of a local variable has the type of what was stored there. -/
theorem Code.search_eq_recursiveType_of_stored_int64 :
    let code : Code := [.loadLong 5, .make .stloc0, .make .ldloc0, .make .dup, .make .add]
    let method : Method := ⟨.object, "Next", ⟨.plain, [], .void⟩, []⟩
    let site : Site := ⟨.make .add, code.before 4⟩
    code.site? 4 = some site ∧ code.pushedType method 4 = .ok (some .int64) ∧
      Typing.resolve method site = .ok (some .int64) ∧
      ∃ turns memo, (Typing.Search.start site).after method turns = .ok ⟨memo, []⟩ := by
  intro code method site
  have hsite : code.site? 4 = some site := rfl
  have htype : code.recursiveType method 4 = .ok (some .int64) := by with_unfolding_all rfl
  obtain ⟨hpushed, hsearch⟩ := Code.search_eq_recursiveType code method 4
  obtain ⟨hresolve, ⟨turns, hturns⟩, -⟩ := hsearch site hsite
  rw [htype] at hpushed hresolve
  refine ⟨hsite, hpushed, hresolve, turns, ?_⟩
  cases hmemo : Typing.settle method ∅ [site] with
  | error failure => rw [Typing.resolve, hmemo] at hresolve; cases hresolve
  | ok memo => exact ⟨memo, by rw [hturns, hmemo]; rfl⟩

end CilEdit
