/-
# `DevConsole.Proofs.Eval.Blame` — who raised the failure of a line

A line fails for one of two reasons.  Either evaluation refuses to go on, because a name is missing,
a value does not fit or the text is no line, and there is a short list of causes for this
(`Context.Refusal`); or host code that was entered has failed.  Then the cause of the line's failure
is the cause of that call.

A dialogue in which this is so is said to blame its calls.  Single steps do, as they end in a
refusal or in one call; and it is kept by one dialogue after another and by a frame around a
dialogue, which adds a trace to a failure and leaves the cause alone.
-/
import DevConsole.Proofs.Eval.HostContract
import DevConsole.Proofs.Grammar.Malformed

namespace DevConsole

variable {α β : Type}

/-- The causes for which evaluation itself refuses to go on. -/
inductive Context.Refusal : Cause → Prop where
  | malformed (column : Nat) (reason : String) : Refusal (.malformed column reason)
  | nullReference (name : String) : Refusal (.nullReference name)
  /-- The receiver of a member is in use. -/
  | receiverInUse (name : String) :
      Refusal (.evaluation ("cannot access '" ++ name ++ "': object is in use"))
  | unresolvedMember (name owner : String) : Refusal (.unresolvedMember name owner)
  | instanceRequired (owner name : String) : Refusal (.instanceRequired owner name)
  | readOnly (owner name : String) : Refusal (.readOnly owner name)
  | typeMismatch (expected found : String) : Refusal (.typeMismatch expected found)
  | noCompatibleOverload (owner name args : String) :
      Refusal (.noCompatibleOverload owner name args)
  | noOperator (symbol left right : String) : Refusal (.noOperator symbol left right)
  | notAType (expr : String) : Refusal (.notAType expr)
  /-- The target of an assignment is neither a name nor a member. -/
  | noTarget (target : String) : Refusal (.evaluation ("cannot assign to '" ++ target ++ "'"))

open Context (Refusal)

/-! ## Dialogues -/

/-- The call, entered with the objects `s`, fails with the cause. -/
def HostCall.FailsWith (s : Store) (cause : Cause) (call : HostCall) : Prop :=
  ∃ f, (call.enter.run s).1 = .error (.failed f) ∧ f.cause = cause

namespace Dialogue

/-- A failure of the dialogue is a refusal, or one of its calls has failed with the same cause. -/
def Blames (p : Dialogue α) : Prop :=
  ∀ s f, (p.run s).1 = .error (.failed f) →
    Refusal f.cause ∨ ∃ e ∈ p.calls s, e.2.FailsWith e.1 f.cause

theorem Blames.pure (x : α) : Blames (Pure.pure x) := by
  rintro s f ⟨⟩

theorem Blames.fail {f : Failure} (h : Refusal f.cause) : Blames (fail f : Dialogue α) := by
  rintro s f ⟨⟩
  exact .inl h

theorem Blames.enter (c : HostCall) : Blames (enter c) := by
  intro s f h
  exact .inr ⟨(s, c), List.mem_singleton_self _, f, h, rfl⟩

theorem Blames.look {next : Store → Dialogue α} (h : ∀ s, (next s).Blames) : Blames (look next) :=
  fun s => h s s

theorem Blames.bind {p : Dialogue α} {q : α → Dialogue β} (hp : p.Blames)
    (hq : ∀ x, (q x).Blames) : (p >>= q).Blames := by
  intro s f h
  rw [run_bind] at h
  rw [calls_bind]
  rcases hrun : p.run s with ⟨e | x, s'⟩
  · rw [hrun] at h
    cases h
    refine (hp s f (congrArg Prod.fst hrun)).imp_right ?_
    rintro ⟨call, hcall, hfails⟩
    exact ⟨call, List.mem_append_left _ hcall, hfails⟩
  · rw [hrun] at h
    refine (hq x s' f h).imp_right ?_
    rintro ⟨call, hcall, hfails⟩
    exact ⟨call, List.mem_append_right _ hcall, hfails⟩

/-- Changing the end of a dialogue keeps this if failures keep their cause. -/
theorem Blames.mapEnd {p : Dialogue α} {g : Except Abort α → Except Abort β} (hp : p.Blames)
    (hg : ∀ r f, g r = .error (.failed f) → ∃ f', r = .error (.failed f') ∧ f'.cause = f.cause) :
    (p.mapEnd g).Blames := by
  intro s f h
  rw [run_mapEnd] at h
  rw [calls_mapEnd]
  obtain ⟨f', hf', hcause⟩ := hg _ f h
  rw [← hcause]
  exact hp s f' hf'

end Dialogue

/-- So does a dialogue that depends on the active frames, under all of them. -/
def FramedDialogue.Blames (p : FramedDialogue α) : Prop := ∀ frames, (p frames).Blames

namespace FramedDialogue

theorem Blames.lift {p : Dialogue α} (h : p.Blames) : Blames (liftM p) := fun _ => h

theorem Blames.bind {p : FramedDialogue α} {q : α → FramedDialogue β} (hp : p.Blames)
    (hq : ∀ x, (q x).Blames) : Blames (p >>= q) :=
  fun frames => .bind (hp frames) fun x => hq x frames

theorem cause_traced (f : Failure) (frames : List String) : (f.traced frames).cause = f.cause := by
  rcases f with ⟨c, _ | t⟩ <;> rfl

theorem Blames.within {p : FramedDialogue α} (label : String) (h : p.Blames) :
    Blames (within label p) := by
  intro frames
  refine .mapEnd (h (label :: frames)) fun r f hf => ?_
  rcases r with (f' | p) | x
  · cases hf
    exact ⟨f', rfl, (cause_traced f' _).symm⟩
  · cases hf
  · cases hf

end FramedDialogue

/-! ## Steps -/

theorem Store.receiverType_refusal {s : Store} {receiver : Value} {name : String} {f : Failure}
    (h : s.receiverType receiver name = .error f) : Refusal f.cause := by
  unfold receiverType at h
  split at h
  · cases h
    exact .nullReference name
  · cases h
  · split at h
    · cases h
    · cases h
      exact .receiverInUse name

namespace World

variable (w : World)

theorem readDialogue_blames (receiver : Value) (name : String) :
    (w.readDialogue receiver name).Blames := by
  refine .look fun s => ?_
  cases hr : s.receiverType receiver name with
  | error f => exact .fail (Store.receiverType_refusal hr)
  | ok p =>
    obtain ⟨t, staticOnly⟩ := p
    simp only
    refine find?_elim (.fail (.unresolvedMember _ _)) (fun _ => .pure _) (fun _ => .pure _) ?_
    intro u _ a _
    refine and_self_iff.2 ?_
    simp only
    split
    · exact .fail (.instanceRequired _ _)
    · exact .enter _

theorem nameDialogue_blames (root : Value) (name : String) :
    (w.nameDialogue root name).Blames := by
  refine .mapEnd (w.readDialogue_blames root name) fun r f hf => ?_
  rcases r with (f' | p) | x
  · simp only at hf
    split at hf
    · cases hf
    · cases hf
      exact ⟨f, rfl, rfl⟩
  · cases hf
  · cases hf

theorem writeDialogue_blames (receiver : Value) (name : String) (v : Value) :
    (w.writeDialogue receiver name v).Blames := by
  refine .look fun s => ?_
  cases hr : s.receiverType receiver name with
  | error f => exact .fail (Store.receiverType_refusal hr)
  | ok p =>
    obtain ⟨t, staticOnly⟩ := p
    simp only
    refine find?_elim (.fail (.unresolvedMember _ _)) (fun _ => .fail (.readOnly _ _))
      (fun _ => .fail (.readOnly _ _)) ?_
    intro u _ a _
    refine and_self_iff.2 ?_
    simp only
    split
    · exact .fail (.instanceRequired _ _)
    cases a.set with
    | none => exact .fail (.readOnly _ _)
    | some set =>
      cases w.catalog.convert? s v (a.kind.resolve t) with
      | none => exact .fail (.typeMismatch _ _)
      | some converted => exact .enter _

theorem callDialogue_blames (receiver : Value) (name : String) (args : List Value) :
    (w.callDialogue receiver name args).Blames := by
  refine .look fun s => ?_
  cases hr : s.receiverType receiver name with
  | error f => exact .fail (Store.receiverType_refusal hr)
  | ok p =>
    obtain ⟨t, staticOnly⟩ := p
    simp only
    split
    · exact .fail (.unresolvedMember _ _)
    split
    · exact .fail (.instanceRequired _ _)
    split
    · exact .enter _
    · exact .fail (.noCompatibleOverload _ _ _)

theorem constructDialogue_blames (t : TypeRef) (args : List Value) :
    (w.constructDialogue t args).Blames := by
  refine .look fun s => ?_
  split
  · exact .enter _
  · exact .fail (.noCompatibleOverload _ _ _)

theorem castDialogue_blames (v : Value) (target : TypeRef) : (w.castDialogue v target).Blames := by
  refine .look fun s => ?_
  simp only
  split
  · exact .pure _
  split
  · exact .enter _
  split
  · exact .enter _
  split <;> exact .pure _

theorem operatorDialogue_blames (strict : Bool) (op : Operator) (l r : Value) :
    (w.operatorDialogue strict op l r).Blames := by
  refine .look fun s => ?_
  split
  · exact .enter _
  split
  · exact .pure _
  split
  · exact .fail (.noOperator _ _ _)
  · exact .pure _

end World

/-! ## Expressions and lines -/

namespace Context

open FramedDialogue (Blames)

variable (cx : Context)

theorem signDialogue_blames (negative : Bool) (v : Value) :
    Blames (liftM (cx.signDialogue negative v)) := by
  refine .lift ?_
  cases negative with
  | false => exact .pure v
  | true =>
    cases v with
    | int i => exact .pure _
    | float x => exact .pure _
    | double x => exact .pure _
    | _ => exact .look fun s => .fail (.typeMismatch _ _)

theorem typeDialogue_blames (expr : Expr) (v : Value) : Blames (liftM (typeDialogue expr v)) := by
  refine .lift ?_
  cases v with
  | type t => exact .pure t
  | _ => exact .fail (.notAType expr.text)

theorem operateDialogue_blames (op : Operator) (l r : Value) :
    Blames (liftM (cx.operateDialogue op l r)) :=
  .lift (cx.world.operatorDialogue_blames cx.strict op l r)

theorem storeDialogue_blames (op : Option Operator) (receiver : Value) (name : String)
    (v : Value) : Blames (liftM (cx.storeDialogue op receiver name v)) := by
  have hwrite := cx.world.writeDialogue_blames receiver name
  refine .lift ?_
  cases op with
  | none => exact hwrite v
  | some op =>
    refine .bind (cx.world.readDialogue_blames receiver name) fun current => ?_
    exact .bind (cx.world.operatorDialogue_blames cx.strict op current v) hwrite

theorem refusal_blames (label target : String) :
    Blames (FramedDialogue.within label
      (liftM (Dialogue.refuse (.evaluation ("cannot assign to '" ++ target ++ "'")))) :
        FramedDialogue Value) :=
  .within label (.lift (.fail (.noTarget target)))

mutual

theorem signedDialogue_blames :
    ∀ (negative : Bool) (e : Expr), Blames (cx.signedDialogue negative e)
  | negative, .literal l => by
      rw [signedDialogue]
      exact cx.signDialogue_blames negative _
  | negative, .group inner => by
      rw [signedDialogue]
      exact .bind (signedDialogue_blames false inner) (cx.signDialogue_blames negative)
  | negative, .binary op left right => by
      have hright : ∀ l, Blames (do
          let r ← cx.signedDialogue false right
          cx.operateDialogue op l r) :=
        fun l => .bind (signedDialogue_blames false right) (cx.operateDialogue_blames op l)
      rw [signedDialogue]
      refine .bind (signedDialogue_blames negative left) fun l => ?_
      cases l with
      | type t =>
          simp only
          split
          · refine .within _ (.bind (signedDialogue_blames true right) fun v => ?_)
            exact .lift (cx.world.castDialogue_blames v t)
          · exact hright (.type t)
      | _ => exact hright _
  | negative, .name n none => by
      rw [signedDialogue]
      refine .bind (.within _ (.lift ?_)) (cx.signDialogue_blames negative)
      exact cx.world.nameDialogue_blames cx.root n
  | negative, .name n (some args) => by
      rw [signedDialogue]
      refine .bind (.within _ (.bind (argsDialogue_blames args) fun vs => .lift ?_))
        (cx.signDialogue_blames negative)
      exact cx.world.callDialogue_blames cx.root n vs
  | negative, .member target n none => by
      rw [signedDialogue]
      refine .bind (.within _ (.bind (signedDialogue_blames false target) fun receiver => .lift ?_))
        (cx.signDialogue_blames negative)
      exact cx.world.readDialogue_blames receiver n
  | negative, .member target n (some args) => by
      rw [signedDialogue]
      refine .bind (.within _ (.bind (signedDialogue_blames false target) fun receiver => ?_))
        (cx.signDialogue_blames negative)
      refine .bind (argsDialogue_blames args) fun vs => .lift ?_
      exact cx.world.callDialogue_blames receiver n vs
  | negative, .cast type operand => by
      rw [signedDialogue]
      refine .bind (.within _ (.bind (signedDialogue_blames false type) fun tv => ?_))
        (cx.signDialogue_blames negative)
      refine .bind (typeDialogue_blames type tv) fun t => ?_
      refine .bind (signedDialogue_blames false operand) fun v => .lift ?_
      exact cx.world.castDialogue_blames v t
  | negative, .new type args => by
      rw [signedDialogue]
      refine .bind (.within _ (.bind (signedDialogue_blames false type) fun tv => ?_))
        (cx.signDialogue_blames negative)
      refine .bind (typeDialogue_blames type tv) fun t => ?_
      refine .bind (argsDialogue_blames args) fun vs => .lift ?_
      exact cx.world.constructDialogue_blames t vs
  | negative, .assign op (.name n none) value => by
      rw [signedDialogue]
      refine .bind (.within _ (.bind (signedDialogue_blames false value) fun v => ?_))
        (cx.signDialogue_blames negative)
      exact cx.storeDialogue_blames op cx.root n v
  | negative, .assign op (.member target n none) value => by
      rw [signedDialogue]
      refine .bind (.within _ (.bind (signedDialogue_blames false target) fun receiver => ?_))
        (cx.signDialogue_blames negative)
      refine .bind (signedDialogue_blames false value) fun v => ?_
      exact cx.storeDialogue_blames op receiver n v
  | negative, .assign op (.literal _) value => refusal_blames _ _
  | negative, .assign op (.name _ (some _)) value => refusal_blames _ _
  | negative, .assign op (.member _ _ (some _)) value => refusal_blames _ _
  | negative, .assign op (.group _) value => refusal_blames _ _
  | negative, .assign op (.cast _ _) value => refusal_blames _ _
  | negative, .assign op (.new _ _) value => refusal_blames _ _
  | negative, .assign op (.binary _ _ _) value => refusal_blames _ _
  | negative, .assign op (.assign _ _ _) value => refusal_blames _ _

theorem argsDialogue_blames : ∀ es : List Expr, Blames (cx.argsDialogue es)
  | [] => by
      rw [argsDialogue]
      exact fun _ => .pure []
  | e :: es => by
      rw [argsDialogue]
      refine .bind (signedDialogue_blames false e) fun v => ?_
      exact .bind (argsDialogue_blames es) fun vs _ => .pure _

end

end Context

end DevConsole
