import CilEdit.Typing.Query
import CilEdit.Typing.Recursion

/-! The search for the type of a pushed value finds what the recursion finds, failures included. All
instructions that a search comes to stand on one trail, where an index tells the place. The memo holds
only what the recursion answers there. An instruction that waits for a producer fails whenever the
producer fails, so the failure that ends a search is that of the instruction it was started for. -/

namespace CilEdit

/-- The instruction at the place and all before it, the nearest first. -/
def Site.path (site : Site) : List Instruction := site.instruction :: site.earlier.instructions

namespace Trail

/-- Whether the trail leads past the place. -/
def Passes (trail : Trail) (site : Site) : Prop := site.path <:+ trail.instructions

theorem Passes.eq_of_index_eq {trail : Trail} {left right : Site} (hleft : trail.Passes left)
    (hright : trail.Passes right) (h : left.index = right.index) : left = right := by
  have hlength : left.path.length = right.path.length := by
    simpa [Site.path, Site.index, left.earlier.length_eq, right.earlier.length_eq] using h
  have hpath : left.path = right.path :=
    (List.suffix_of_suffix_length_le hleft hright (Nat.le_of_eq hlength)).eq_of_length hlength
  obtain ⟨hinstruction, hearlier⟩ := List.cons.inj hpath
  obtain ⟨leftInstruction, leftEarlier⟩ := left
  obtain ⟨rightInstruction, rightEarlier⟩ := right
  cases hinstruction
  cases Trail.ext hearlier
  rfl

theorem passes_of_producer? {trail : Trail} {above : Nat} {site : Site}
    (h : trail.producer? above = .ok (some site)) : trail.Passes site :=
  (suffix_of_producer? h).1

theorem passes_of_lastStore? {trail : Trail} {slot : Slot} {site : Site}
    (h : trail.lastStore? slot = some site) : trail.Passes site :=
  (suffix_of_lastStore? h).1

theorem Passes.earlier {trail : Trail} {site : Site} (h : trail.Passes site) :
    site.earlier.instructions <:+ trail.instructions :=
  (List.suffix_cons _ _).trans h

/-! ### The recursion without its termination argument -/

theorem through_eq (trail : Trail) (above : Nat)
    (ask : Site → Except Unsupported (Option TypeSig)) :
    (trail.through above fun site _ => ask site) =
      match trail.producer? above with
      | .error failure => .error failure
      | .ok none => .ok none
      | .ok (some site) => ask site := by
  rw [through]
  split <;> rename_i hproducer <;> rw [hproducer]

theorem throughStore_eq (trail : Trail) (method : Method) (slot : Slot)
    (ask : Site → Except Unsupported (Option TypeSig)) :
    (trail.throughStore method slot fun site _ => ask site) =
      match trail.lastStore? slot with
      | none => .ok (method.localType? slot)
      | some store => do
        let stored ← store.earlier.through 0 fun site _ => ask site
        return stored.or (method.localType? slot) := by
  rw [throughStore]
  split <;> rename_i hstore <;> rw [hstore]

end Trail

namespace Typing

variable {memo : Memo} {method : Method} {trail : Trail}

/-- Whether the types in the memo are those of the recursion along the trail. -/
def Memo.Sound (memo : Memo) (method : Method) (trail : Trail) : Prop :=
  ∀ site type, trail.Passes site → memo[site.index]? = some type →
    site.pushedType method = .ok type

theorem Memo.sound_empty : Memo.Sound ∅ method trail := by
  intro site type _ hmemo
  simp at hmemo

theorem Memo.Sound.insert (hsound : memo.Sound method trail) {site : Site} {type : Option TypeSig}
    (hsite : trail.Passes site) (htype : site.pushedType method = .ok type) :
    Memo.Sound (Std.HashMap.insert memo site.index type) method trail := by
  intro other found hother hfound
  rw [Std.HashMap.getElem?_insert] at hfound
  split at hfound
  · rename_i hindex
    cases hfound
    cases hsite.eq_of_index_eq hother (by simpa using hindex)
    exact htype
  · exact hsound other found hother hfound

/-- Whether typing an instruction is on the way to its answer: a type that is ready is the answer, a
failure is the answer, and where a producer is needed its failure would be the answer. -/
def Leads (method : Method) (trail : Trail) (progress : Except Unsupported Progress)
    (answer : Except Unsupported (Option TypeSig)) : Prop :=
  match progress with
  | .error failure => answer = .error failure
  | .ok (.ready type) => answer = .ok type
  | .ok (.needs producer) => trail.Passes producer ∧
      ∀ failure, producer.pushedType method = .error failure → answer = .error failure

theorem Leads.map {progress : Except Unsupported Progress}
    {answer : Except Unsupported (Option TypeSig)} (h : Leads method trail progress answer)
    (f : Option TypeSig → Option TypeSig) :
    Leads method trail (progress >>= fun found => pure (found.map f))
      (answer >>= fun type => pure (f type)) := by
  cases progress with
  | error failure =>
      cases h
      rfl
  | ok found =>
      cases found with
      | ready type =>
          cases h
          rfl
      | needs producer =>
          refine ⟨h.1, fun failure hfailure => ?_⟩
          rw [h.2 failure hfailure]
          rfl

theorem leads_value (hsound : memo.Sound method trail) {here : Trail}
    (hhere : here.instructions <:+ trail.instructions) (above : Nat) :
    Leads method trail (memo.value here above)
      (here.through above fun site _ => site.pushedType method) := by
  rw [Trail.through_eq, Memo.value]
  cases hproducer : here.producer? above with
  | error failure => rfl
  | ok found =>
      cases found with
      | none => rfl
      | some producer =>
          have hpasses : trail.Passes producer :=
            (Trail.passes_of_producer? hproducer).trans hhere
          simp only
          cases hmemo : memo[producer.index]? with
          | some type => exact hsound producer type hpasses hmemo
          | none => exact ⟨hpasses, fun _ hfailure => hfailure⟩

theorem leads_localValue (hsound : memo.Sound method trail) {here : Trail}
    (hhere : here.instructions <:+ trail.instructions) (slot : Slot) :
    Leads method trail (memo.localValue method here slot)
      (here.throughStore method slot fun site _ => site.pushedType method) := by
  rw [Trail.throughStore_eq, Memo.localValue]
  cases hstore : here.lastStore? slot with
  | none => rfl
  | some store =>
      have hearlier := (Trail.passes_of_lastStore? hstore).earlier.trans hhere
      exact (leads_value hsound hearlier 0).map fun type => type.or (method.localType? slot)

/-- Typing an instruction from a memo leads to the answer of the recursion. -/
theorem leads_evaluate (hsound : memo.Sound method trail) {site : Site}
    (hsite : trail.Passes site) :
    Leads method trail (memo.evaluate method site) (site.pushedType method) := by
  rw [Site.pushedType, Memo.evaluate]
  cases site.instruction.typeSource method with
  | known type => rfl
  | top => exact leads_value hsound hsite.earlier 0
  | operands =>
      have hfirst := leads_value hsound hsite.earlier 1
      simp only
      cases hprogress : memo.value site.earlier 1 with
      | error failure =>
          rw [hprogress] at hfirst
          rw [show site.earlier.through 1 _ = _ from hfirst]
          rfl
      | ok found =>
          rw [hprogress] at hfirst
          rcases found with (_ | type) | producer
          · rw [show site.earlier.through 1 _ = _ from hfirst]
            exact leads_value hsound hsite.earlier 0
          · rw [show site.earlier.through 1 _ = _ from hfirst]
            rfl
          · refine ⟨hfirst.1, fun failure hfailure => ?_⟩
            rw [hfirst.2 failure hfailure]
            rfl
  | element => exact (leads_value hsound hsite.earlier 1).map _
  | slot slot => exact leads_localValue hsound hsite.earlier slot
  | slotAddress slot => exact (leads_localValue hsound hsite.earlier slot).map _

/-- Whether a search came to a right end: with sound types for all that was pending and all that was
typed before, or with the failure of a pending instruction. -/
def Settled (method : Method) (trail : Trail) (memo : Memo) (pending : List Site)
    (outcome : Except Unsupported Memo) : Prop :=
  match outcome with
  | .ok final => final.Sound method trail ∧ (∀ index ∈ memo, index ∈ final) ∧
      ∀ site ∈ pending, site.index ∈ final
  | .error failure => ∃ site ∈ pending, site.pushedType method = .error failure

/-- The search for all pending instructions is right if that for the last ones is, from a memo that
has the type of the first. -/
theorem Settled.cons {later : Memo} {site : Site} {rest : List Site}
    {outcome : Except Unsupported Memo} (h : Settled method trail later rest outcome)
    (hlater : ∀ index ∈ memo, index ∈ later) (hsite : site.index ∈ later) :
    Settled method trail memo (site :: rest) outcome := by
  cases outcome with
  | error failure =>
      obtain ⟨failed, hmem, hfailed⟩ := h
      exact ⟨failed, List.mem_cons_of_mem _ hmem, hfailed⟩
  | ok final =>
      obtain ⟨hsound, hkept, hrest⟩ := h
      refine ⟨hsound, fun index hindex => hkept index (hlater index hindex), ?_⟩
      intro other hother
      rcases List.mem_cons.mp hother with rfl | hother
      · exact hkept _ hsite
      · exact hrest other hother

/-- The search for the pending instructions is right if it is with a producer in front whose failure
would be that of the first one. -/
theorem Settled.of_needs {producer site : Site} {rest : List Site}
    {outcome : Except Unsupported Memo}
    (h : Settled method trail memo (producer :: site :: rest) outcome)
    (hproducer : ∀ failure, producer.pushedType method = .error failure →
      site.pushedType method = .error failure) :
    Settled method trail memo (site :: rest) outcome := by
  cases outcome with
  | error failure =>
      obtain ⟨failed, hmem, hfailed⟩ := h
      rcases List.mem_cons.mp hmem with rfl | hmem
      · exact ⟨site, List.mem_cons_self, hproducer failure hfailed⟩
      · exact ⟨failed, hmem, hfailed⟩
  | ok final =>
      obtain ⟨hsound, hkept, hpending⟩ := h
      exact ⟨hsound, hkept, fun other hother => hpending other (List.mem_cons_of_mem _ hother)⟩

theorem settled_settle (memo : Memo) (pending : List Site) (hsound : memo.Sound method trail)
    (hpending : ∀ site ∈ pending, trail.Passes site) :
    Settled method trail memo pending (settle method memo pending) := by
  fun_induction settle method memo pending with
  | case1 memo => exact ⟨hsound, fun _ hindex => hindex, fun _ hmem => (nomatch hmem)⟩
  | case2 memo site rest hmem ih =>
      have hrest := ih hsound fun other hother => hpending other (List.mem_cons_of_mem _ hother)
      exact hrest.cons (fun _ hindex => hindex) hmem
  | case3 memo site rest hmem failure hprogress =>
      have hleads := leads_evaluate hsound (hpending site List.mem_cons_self)
      rw [hprogress] at hleads
      exact ⟨site, List.mem_cons_self, hleads⟩
  | case4 memo site rest hmem type hprogress ih =>
      have hsite := hpending site List.mem_cons_self
      have hleads := leads_evaluate hsound hsite
      rw [hprogress] at hleads
      have hrest := ih (hsound.insert hsite hleads) fun other hother =>
        hpending other (List.mem_cons_of_mem _ hother)
      exact hrest.cons (fun _ hindex => Std.HashMap.mem_insert.mpr (Or.inr hindex))
        Std.HashMap.mem_insert_self
  | case5 memo site rest hmem producer hprogress ih =>
      have hleads := leads_evaluate hsound (hpending site List.mem_cons_self)
      rw [hprogress] at hleads
      refine (ih hsound ?_).of_needs hleads.2
      intro other hother
      rcases List.mem_cons.mp hother with rfl | hother
      · exact hleads.1
      · exact hpending other hother

/-- The search answers what the recursion answers. -/
theorem resolve_eq_pushedType (method : Method) (site : Site) :
    resolve method site = site.pushedType method := by
  have hpasses : (Trail.ofList site.path).Passes site := List.suffix_refl _
  have hsettled : Settled method (Trail.ofList site.path) ∅ [site] (settle method ∅ [site]) :=
    settled_settle ∅ [site] Memo.sound_empty fun other hother => by
      rwa [List.mem_singleton.mp hother]
  rw [resolve]
  cases houtcome : settle method ∅ [site] with
  | error failure =>
      rw [houtcome] at hsettled
      obtain ⟨failed, hmem, hfailed⟩ := hsettled
      rw [List.mem_singleton.mp hmem] at hfailed
      exact hfailed.symm
  | ok final =>
      rw [houtcome] at hsettled
      obtain ⟨hsound, -, hpending⟩ := hsettled
      have hsite := hpending site List.mem_cons_self
      have htype := hsound site final[site.index] hpasses (Std.HashMap.getElem?_eq_some_getElem hsite)
      rw [htype]
      simp only [bind, Except.bind, Std.HashMap.getElem?_eq_some_getElem hsite, Option.join_some]
      rfl

end Typing

/-- A value on the stack has the type that its producer pushed. -/
theorem Code.stackType_eq_through (code : Code) (method : Method) (index above : Nat) :
    code.stackType method index above =
      (code.before index).through above fun site _ => site.pushedType method := by
  rw [stackType, Trail.through_eq]
  rcases (code.before index).producer? above with failure | _ | producer
  · rfl
  · rfl
  · exact Typing.resolve_eq_pushedType method producer

end CilEdit
