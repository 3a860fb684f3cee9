/-
# `DevConsole.Proofs.Eval.Expansion` — compound assignments and what they stand for

A compound assignment computes with the current value of its target:

    t op= e        receiver of t,  e,  t,  op,  store
    t = t op (e)   receiver of t,  receiver of t again and t,  e,  op,  store

The two are written, read and evaluated differently.  The second goes through the receiver twice,
takes the current value before the right side and not after it, and reads a name without a receiver
as any other name, for which a keyword of a builtin type will do.  Where the target is no keyword,
and the receiver, the target and `e` leave the objects as they are when they give values, the
operator is applied to the same values from the same objects, and everything after that is the same
(`Context.evaluate_compound`).  What the operator and the store do to the objects does not matter.
-/
import DevConsole.Proofs.Demo.ReadBack
import DevConsole.Proofs.Eval.Bare
import DevConsole.Proofs.Eval.Names
import DevConsole.Proofs.Lexing.Joining

namespace DevConsole

/-- A compound assignment as a text; the texts of the target and of the value may have blanks at
their ends. -/
def compoundText (op : Operator) (target value : List Char) : List Char :=
  target ++ (op.symbol.toList ++ '=' :: value)

/-- The plain assignment that it stands for. -/
def expansionText (op : Operator) (target value : List Char) : List Char :=
  target ++ '=' :: (target ++ (op.symbol.toList ++ '(' :: (value ++ [')'])))

/-! ## Reading -/

namespace Lexer

variable {op : Operator} {T E : List Char} {t e : Expr} {l : Line}

/-- The tree of a compound assignment that is read at all. -/
theorem parse_compoundText (hT : Parser.parse (.ofList T) = .ok ⟨some t, false⟩)
    (hE : Parser.parse (.ofList E) = .ok ⟨some e, false⟩) (ht : t.isAssignable = true)
    (hop : op.compounds = true) (h : Parser.parse (.ofList (compoundText op T E)) = .ok l) :
    l = ⟨some (.assign (some op) t e), false⟩ := by
  obtain ⟨ts, hts⟩ := exists_readsAs hT
  obtain ⟨es, hes⟩ := exists_readsAs hE
  have hlexes : Lexes none (compoundText op T E) (ts ++ .assign (some op) :: es) :=
    hts.append rfl (breaks_operator op _) fun k hk =>
      .compound hop (not_admitsSign_of_endsOperand hk) (hes.lexes_after rfl)
  have hmarker : TokenKind.marker ∉ ts ++ .assign (some op) :: es := by
    simp [hts.marker_not_mem, hes.marker_not_mem]
  obtain ⟨x, rfl, hx⟩ := ReadsAs.of_parse h hlexes (by simp) hmarker
  obtain ⟨k, hoperand⟩ := hts.derives.exists_operand ht
  obtain ⟨r, rfl, hright⟩ := hoperand.of_assign (Grammar.open_of_isAssignable ht) hx.derives
  rw [hright.outward.expr_unique hes.derives]

/-- The tree of its expansion. -/
theorem parse_expansionText (hT : Parser.parse (.ofList T) = .ok ⟨some t, false⟩)
    (hE : Parser.parse (.ofList E) = .ok ⟨some e, false⟩) (ht : t.isAssignable = true)
    (h : Parser.parse (.ofList (expansionText op T E)) = .ok l) :
    l = ⟨some (.assign none t (.binary op t (.group e))), false⟩ := by
  obtain ⟨ts, hts⟩ := exists_readsAs hT
  obtain ⟨es, hes⟩ := exists_readsAs hE
  have hparens : Lexes (some (.op op)) ('(' :: (E ++ [')'])) (.openParen :: (es ++ [.closeParen])) :=
    hes.parens (.nil _)
  have hoperation : Lexes (some (.assign none)) (T ++ (op.symbol.toList ++ '(' :: (E ++ [')'])))
      (ts ++ .op op :: .openParen :: (es ++ [.closeParen])) :=
    hts.append rfl (breaks_operator op _) fun k hk =>
      .symbol op rfl (not_admitsSign_of_endsOperand hk) hparens
  have hlexes : Lexes none (expansionText op T E)
      (ts ++ .assign none :: (ts ++ .op op :: .openParen :: (es ++ [.closeParen]))) := by
    refine hts.append rfl (breaks_equals _) fun k hk => ?_
    obtain ⟨d, ds, rfl, hd⟩ := hts.head
    exact .equals hd (not_admitsSign_of_endsOperand hk) hoperation
  have hmarker : TokenKind.marker ∉
      ts ++ .assign none :: (ts ++ .op op :: .openParen :: (es ++ [.closeParen])) := by
    simp [hts.marker_not_mem, hes.marker_not_mem]
  obtain ⟨x, rfl, hx⟩ := ReadsAs.of_parse h hlexes (by simp) hmarker
  obtain ⟨k, hoperand⟩ := hts.derives.exists_operand ht
  have hopen := Grammar.open_of_isAssignable ht
  obtain ⟨r, rfl, hright⟩ := hoperand.of_assign hopen hx.derives
  obtain ⟨g, rfl, hgroup⟩ := hoperand.of_op hopen hright.outward
  rw [hes.derives.of_group hgroup.outward]

end Lexer

/-! ## Evaluation -/

namespace Act

variable {σ α β : Type} {a : Act σ α} {f : α → Act σ β} {s s' : σ} {y : β}

/-- A computation leaves a state as it is when it gives a value. -/
def Leaves (a : Act σ α) (s : σ) : Prop := ∀ x s', a.run s = (.ok x, s') → s' = s

theorem run_bind_of_eq_ok {x : α} {t : σ} (h : a.run s = (.ok x, t)) :
    (a >>= f).run s = (f x).run t := by
  rw [run_bind, h]

theorem run_bind_eq_ok_iff :
    (a >>= f).run s = (.ok y, s') ↔ ∃ x t, a.run s = (.ok x, t) ∧ (f x).run t = (.ok y, s') := by
  refine ⟨run_bind_eq_ok, ?_⟩
  rintro ⟨x, t, ha, hf⟩
  rw [run_bind_of_eq_ok ha, hf]

theorem Leaves.run_bind_eq_ok_iff (ha : a.Leaves s) :
    (a >>= f).run s = (.ok y, s') ↔ ∃ x, a.run s = (.ok x, s) ∧ (f x).run s = (.ok y, s') := by
  rw [Act.run_bind_eq_ok_iff]
  constructor
  · rintro ⟨x, t, hx, hf⟩
    obtain rfl := ha x t hx
    exact ⟨x, hx, hf⟩
  · rintro ⟨x, hx, hf⟩
    exact ⟨x, s, hx, hf⟩

end Act

/-- The name of a target in its receiver. -/
def Expr.lastName : Expr → String
  | name n _ | member _ n _ => n
  | _ => ""

namespace Context

variable (cx : Context)

/-- The value that the last name of a target is a member of. -/
def receiver : Expr → HostM Value
  | .member target _ _ => cx.evalHost target
  | _ => pure cx.root

theorem receiver_name (n : String) (args : Option (List Expr)) :
    cx.receiver (.name n args) = pure cx.root := rfl

theorem receiver_member (target : Expr) (n : String) (args : Option (List Expr)) :
    cx.receiver (.member target n args) = cx.evalHost target := rfl

variable {cx} {op : Operator} {t e : Expr} {s s' : Store} {v : Value}

/-- An assignment evaluates its receiver and its value, and stores. -/
theorem bare_evalHost_assign (ht : t.isAssignable = true) (op : Option Operator) (e : Expr) :
    (cx.evalHost (.assign op t e)).bare = (do
      let receiver ← cx.receiver t
      let value ← cx.evalHost e
      cx.storeHost op receiver t.lastName value).bare := by
  match t with
  | .name n none =>
    rw [cx.bare_evalHost_framed rfl, bare_evalOperands_value, bare_evalOperands_nil, receiver_name]
    simp only [Act.bare_bind, bind_assoc, pure_bind]
    rfl
  | .member target n none =>
    rw [cx.bare_evalHost_framed rfl, bare_evalOperands_value, bare_evalOperands_value,
      bare_evalOperands_nil, receiver_member]
    simp only [Act.bare_bind, bind_assoc, pure_bind]
    rfl

/-- A target that is no keyword is read as a member of its receiver. -/
theorem bare_evalHost_target (ht : t.isAssignable = true)
    (hname : ∀ n, t = .name n none → Builtin.ofName? n = none) :
    (cx.evalHost t).bare = (do
      let receiver ← cx.receiver t
      cx.world.readMember receiver t.lastName).bare := by
  match t with
  | .name n none =>
    have hread : cx.world.readName cx.root n = cx.world.readMember cx.root n := by
      funext s
      exact World.readName_of_or (.inl (hname n rfl))
    rw [cx.bare_evalHost_framed rfl, bare_evalOperands_nil, receiver_name, pure_bind, pure_bind,
      finish, hread]
    rfl
  | .member target n none =>
    rw [cx.bare_evalHost_framed rfl, bare_evalOperands_value, bare_evalOperands_nil, receiver_member]
    simp only [Act.bare_bind, bind_assoc, pure_bind]
    rfl

/-- A target is no group, so that an operator behind it is one whatever its value is. -/
theorem bare_evalHost_operation (ht : t.isAssignable = true) (op : Operator) (e : Expr) :
    (cx.evalHost (.binary op t (.group e))).bare = (do
      let current ← cx.evalHost t
      let value ← cx.evalHost e
      cx.world.applyOperator cx.strict op current value).bare := by
  have hcast : ∀ l, castTarget? false op t l = none := by
    intro l
    have hgroup : t.isNameChainGroup = false := by
      cases t with
      | group => cases ht
      | _ => rfl
    cases l with
    | type u => simp [castTarget?, hgroup]
    | _ => rfl
  rw [← bare_eval, eval, evalSigned_binary, (cx.evalSigned_steady t false).bare_bind]
  simp only [hcast, evalSigned_group, (cx.evalSigned_steady e false).bare_bind, Act.bare_bind]
  rfl

/-- What a compound assignment and its expansion come to: the operator is applied to the current
value and to the right side, and the result is stored. -/
def Updates (cx : Context) (op : Operator) (t e : Expr) (s : Store) (v : Value) (s' : Store) :
    Prop :=
  ∃ receiver value current, (cx.receiver t).run s = (.ok receiver, s) ∧
    (cx.evalHost e).run s = (.ok value, s) ∧
    (cx.world.readMember receiver t.lastName).run s = (.ok current, s) ∧
    (do
      let combined ← cx.world.applyOperator cx.strict op current value
      cx.world.writeMember receiver t.lastName combined).run s = (.ok v, s')

section Updates

variable (ht : t.isAssignable = true)
  (hname : ∀ n, t = .name n none → Builtin.ofName? n = none) (hreceiver : (cx.receiver t).Leaves s)
  (htarget : (cx.evalHost t).Leaves s) (hvalue : (cx.evalHost e).Leaves s)
include ht hname hreceiver

theorem evalHost_target_eq_ok_iff : (cx.evalHost t).run s = (.ok v, s') ↔
    ∃ receiver, (cx.receiver t).run s = (.ok receiver, s) ∧
      (cx.world.readMember receiver t.lastName).run s = (.ok v, s') := by
  rw [Act.run_eq_ok_iff_of_bare (bare_evalHost_target ht hname), hreceiver.run_bind_eq_ok_iff]

include htarget

theorem readMember_leaves {receiver : Value} (h : (cx.receiver t).run s = (.ok receiver, s)) :
    (cx.world.readMember receiver t.lastName).Leaves s := by
  intro v s' hread
  exact htarget v s' ((evalHost_target_eq_ok_iff ht hname hreceiver).2 ⟨receiver, h, hread⟩)

include hvalue

theorem evalHost_compound_eq_ok_iff : (cx.evalHost (.assign (some op) t e)).run s = (.ok v, s') ↔
    cx.Updates op t e s v s' := by
  have hread : ∀ {receiver}, (cx.receiver t).run s = (.ok receiver, s) →
      (cx.world.readMember receiver t.lastName).Leaves s :=
    readMember_leaves ht hname hreceiver htarget
  rw [Act.run_eq_ok_iff_of_bare (bare_evalHost_assign ht _ _), hreceiver.run_bind_eq_ok_iff]
  constructor
  · rintro ⟨receiver, hr, hrest⟩
    obtain ⟨value, hx, hstore⟩ := hvalue.run_bind_eq_ok_iff.1 hrest
    obtain ⟨current, hc, hfinish⟩ := (hread hr).run_bind_eq_ok_iff.1 hstore
    exact ⟨receiver, value, current, hr, hx, hc, hfinish⟩
  · rintro ⟨receiver, value, current, hr, hx, hc, hfinish⟩
    refine ⟨receiver, hr, hvalue.run_bind_eq_ok_iff.2 ⟨value, hx, ?_⟩⟩
    exact (hread hr).run_bind_eq_ok_iff.2 ⟨current, hc, hfinish⟩

theorem evalHost_expansion_eq_ok_iff :
    (cx.evalHost (.assign none t (.binary op t (.group e)))).run s = (.ok v, s') ↔
      cx.Updates op t e s v s' := by
  rw [Act.run_eq_ok_iff_of_bare (bare_evalHost_assign ht _ _), hreceiver.run_bind_eq_ok_iff]
  constructor
  · rintro ⟨receiver, hr, hrest⟩
    obtain ⟨combined, t₁, hcombined, hwrite⟩ := Act.run_bind_eq_ok hrest
    rw [Act.run_eq_ok_iff_of_bare (bare_evalHost_operation ht op e)] at hcombined
    obtain ⟨current, hcurrent, hright⟩ := htarget.run_bind_eq_ok_iff.1 hcombined
    obtain ⟨value, hx, happly⟩ := hvalue.run_bind_eq_ok_iff.1 hright
    obtain ⟨receiver', hr', hc⟩ := (evalHost_target_eq_ok_iff ht hname hreceiver).1 hcurrent
    -- the receiver of the right side is the one that is stored to
    obtain rfl : receiver' = receiver := by
      rw [hr] at hr'
      exact (Except.ok.inj (Prod.mk.inj hr').1).symm
    exact ⟨_, value, current, hr, hx, hc, Act.run_bind_eq_ok_iff.2 ⟨combined, t₁, happly, hwrite⟩⟩
  · rintro ⟨receiver, value, current, hr, hx, hc, hfinish⟩
    obtain ⟨combined, t₁, happly, hwrite⟩ := Act.run_bind_eq_ok hfinish
    refine ⟨receiver, hr, Act.run_bind_eq_ok_iff.2 ⟨combined, t₁, ?_, hwrite⟩⟩
    rw [Act.run_eq_ok_iff_of_bare (bare_evalHost_operation ht op e)]
    have hcurrent := (evalHost_target_eq_ok_iff ht hname hreceiver).2 ⟨receiver, hr, hc⟩
    refine htarget.run_bind_eq_ok_iff.2 ⟨current, hcurrent, ?_⟩
    exact hvalue.run_bind_eq_ok_iff.2 ⟨value, hx, happly⟩

end Updates

/-- A compound assignment succeeds exactly if its expansion does, if both are read at all, and then
both give the same value and leave the same objects.  The target is no keyword of a builtin type,
and its receiver, the target and the right side leave the objects as they are when they give
values. -/
theorem evaluate_compound {T E : List Char} {l l' : Line}
    (hT : Parser.parse (.ofList T) = .ok ⟨some t, false⟩)
    (hE : Parser.parse (.ofList E) = .ok ⟨some e, false⟩) (ht : t.isAssignable = true)
    (hname : ∀ n, t = .name n none → Builtin.ofName? n = none) (hop : op.compounds = true)
    (hcompound : Parser.parse (.ofList (compoundText op T E)) = .ok l)
    (hexpansion : Parser.parse (.ofList (expansionText op T E)) = .ok l')
    (hreceiver : (cx.receiver t).Leaves s) (htarget : (cx.evalHost t).Leaves s)
    (hvalue : (cx.evalHost e).Leaves s) (result : Outcome) (s' : Store) :
    (cx.evaluate (.ofList (compoundText op T E))).run s = (.ok result, s') ↔
      (cx.evaluate (.ofList (expansionText op T E))).run s = (.ok result, s') := by
  rw [Lexer.parse_compoundText hT hE ht hop hcompound] at hcompound
  rw [Lexer.parse_expansionText hT hE ht hexpansion] at hexpansion
  rw [Act.run_eq_ok_iff_of_bare (bare_evaluate hcompound),
    Act.run_eq_ok_iff_of_bare (bare_evaluate hexpansion), Act.run_bind_eq_ok_iff,
    Act.run_bind_eq_ok_iff]
  simp only [evalHost_compound_eq_ok_iff ht hname hreceiver htarget hvalue,
    evalHost_expansion_eq_ok_iff ht hname hreceiver htarget hvalue]

end Context

/-! ## Hit points -/

namespace Game

/-- The hit points of a new player are doubled by a compound assignment, and by its expansion. -/
theorem evaluate_compound_hp :
    ∃ s', ((context false).evaluate
        (.ofList (compoundText .add "player.hp ".toList " player.hp".toList))).run
          (newGame.run {}).2 = (.ok (.value (.int 200)), s') ∧
      ((context false).evaluate
        (.ofList (expansionText .add "player.hp ".toList " player.hp".toList))).run
          (newGame.run {}).2 = (.ok (.value (.int 200)), s') := by
  have htarget : Parser.parse (.ofList "player.hp ".toList) = .ok ⟨some hp, false⟩ := by
    cbv
  have hvalue : Parser.parse (.ofList " player.hp".toList) = .ok ⟨some hp, false⟩ := by
    cbv
  have hcompound : Parser.parse
      (.ofList (compoundText .add "player.hp ".toList " player.hp".toList)) =
        .ok ⟨some (.assign (some .add) hp hp), false⟩ := by
    cbv
  have hexpansion : Parser.parse
      (.ofList (expansionText .add "player.hp ".toList " player.hp".toList)) =
        .ok ⟨some (.assign none hp (.binary .add hp (.group hp))), false⟩ := by
    cbv
  have hname : ∀ n, hp = .name n none → Builtin.ofName? n = none := by
    intro n h
    cases h
  have hleaves : ((context false).evalHost hp).Leaves (newGame.run {}).2 := by
    rintro x s' ⟨⟩
    rfl
  have hreceiver : ((context false).receiver hp).Leaves (newGame.run {}).2 := by
    rintro x s' ⟨⟩
    rfl
  have hrun := (Context.evaluate_eq_ok_iff hcompound).2
    (show ((context false).evalHost _).run (newGame.run {}).2 = (.ok (.int 200), _) from rfl)
  exact ⟨_, hrun, (Context.evaluate_compound htarget hvalue rfl hname rfl hcompound
    hexpansion hreceiver hleaves hleaves _ _).1 hrun⟩

end Game

end DevConsole
