/-
# `DevConsole.Proofs.Grammar.Nesting` — how deep the tree of a line may be

Evaluation recurses along the tree, so what bounds it is the height of the tree: the most levels on
a way from the root to a leaf, where entering an expression is one level and passing a member is
one (`Expr.height`, and `Expr.depth` with the root entered).  `Parser.maxDepth` is meant as a bound of
it, and is not one.  The parser charges the dots of a chain only after it has read what stands
before them, and gives them back after the chain; so the chains on a way down are charged one by
one, and never together.

**Profiles.**  A way down enters expressions and passes members in between.  `e.Path ms t` says that
some way from `e` down to a leaf passes `ms[0]` members, enters an expression, passes `ms[1]` members,
and so on, and passes `t` more in the chain of a constructed type.  Its levels are

    ms.length + ms.sum + t.

**Main statements.**  For an accepted line with the expression `e`, `depth_le_maxDepth_iff`:

    each chain fits on its own         i + 1 + ms[i] ≤ maxDepth,  ms.length + t ≤ maxDepth
    the tree is within the limit       iff  ms.sum + t ≤ maxDepth - ms.length  on every way down

Every profile whose chains fit one by one is that of some accepted line (`exists_path_of_fits`), so
the parser ensures nothing more.  Added up, the chains come to `maxDepth * (maxDepth + 1) / 2` levels
at most (`depth_le_of_parse`), and some line has so many (`exists_depth_eq`).
-/
import DevConsole.Proofs.Lexing.Tokens
import Mathlib.Algebra.GroupWithZero.Nat

namespace DevConsole

open DevConsole.Parser (maxDepth)

/-! ## Heights and profiles -/

mutual

/-- The most levels from an expression down to a leaf, the expression itself being entered already. -/
def Expr.height : Expr → Nat
  | .literal _ => 0
  | .name _ none => 0
  | .name _ (some es) => Expr.argsHeight es
  | .member t _ none => t.height + 1
  | .member t _ (some es) => max t.height (Expr.argsHeight es) + 1
  | .group e => e.height + 1
  | .cast t e => max t.height e.height + 1
  | .new t es => max t.height (Expr.argsHeight es)
  | .binary _ l r => max l.height (r.height + 1)
  | .assign _ t v => max t.height (v.height + 1)

/-- The same for arguments, each of which is entered. -/
def Expr.argsHeight : List Expr → Nat
  | [] => 0
  | e :: es => max (e.height + 1) (Expr.argsHeight es)

end

/-- The most levels from the root of a line down to a leaf. -/
def Expr.depth (e : Expr) : Nat := e.height + 1

/-- `e.Path ms t`: a way from `e` down to a leaf passes `ms[i]` members of the `i`-th expression that is
entered, and `t` members of a constructed type. -/
inductive Expr.Path : Expr → List Nat → Nat → Prop
  | literal {l : Literal} : Path (.literal l) [0] 0
  | name {n : String} : Path (.name n none) [0] 0
  | emptyCall {n : String} : Path (.name n (some [])) [0] 0
  | nameArg {n : String} {es : List Expr} {a : Expr} {ms : List Nat} {t : Nat} :
      a ∈ es → Path a ms t → Path (.name n (some es)) (0 :: ms) t
  | target {e : Expr} {n : String} {args : Option (List Expr)} {m : Nat} {ms : List Nat} {t : Nat} :
      Path e (m :: ms) t → Path (.member e n args) ((m + 1) :: ms) t
  | memberArg {e : Expr} {n : String} {es : List Expr} {a : Expr} {ms : List Nat} {t : Nat} :
      a ∈ es → Path a ms t → Path (.member e n (some es)) (1 :: ms) t
  | group {e : Expr} {ms : List Nat} {t : Nat} : Path e ms t → Path (.group e) (0 :: ms) t
  | castType {c e : Expr} {ms : List Nat} {t : Nat} : Path c ms t → Path (.cast c e) (0 :: ms) t
  | castOperand {c e : Expr} {ms : List Nat} {t : Nat} : Path e ms t → Path (.cast c e) (0 :: ms) t
  | newType {c : Expr} {es : List Expr} {m : Nat} {ms : List Nat} {t : Nat} :
      Path c (m :: ms) t → Path (.new c es) (0 :: ms) (m + t)
  | newArg {c : Expr} {es : List Expr} {a : Expr} {ms : List Nat} {t : Nat} :
      a ∈ es → Path a ms t → Path (.new c es) (0 :: ms) t
  | left {o : Operator} {l r : Expr} {ms : List Nat} {t : Nat} :
      Path l ms t → Path (.binary o l r) ms t
  | right {o : Operator} {l r : Expr} {ms : List Nat} {t : Nat} :
      Path r ms t → Path (.binary o l r) (0 :: ms) t
  | assigned {o : Option Operator} {c v : Expr} {ms : List Nat} {t : Nat} :
      Path c ms t → Path (.assign o c v) ms t
  | value {o : Option Operator} {c v : Expr} {ms : List Nat} {t : Nat} :
      Path v ms t → Path (.assign o c v) (0 :: ms) t

/-- The levels of a way down with the profile. -/
def levels (ms : List Nat) (t : Nat) : Nat := ms.length + ms.sum + t

@[simp] theorem levels_cons (m : Nat) (ms : List Nat) (t : Nat) :
    levels (m :: ms) t = levels ms t + m + 1 := by
  simp only [levels, List.length_cons, List.sum_cons]
  omega

theorem levels_add (ms : List Nat) (t m : Nat) : levels ms (m + t) = levels ms t + m := by
  simp only [levels]
  omega

namespace Expr

theorem height_lt_argsHeight {a : Expr} : ∀ {es : List Expr}, a ∈ es → a.height < argsHeight es
  | e :: es, h => by
      simp only [argsHeight]
      rcases List.mem_cons.1 h with rfl | h
      · omega
      · have := height_lt_argsHeight h
        omega

/-- No way down has more levels than the depth. -/
theorem Path.levels_le {e : Expr} {ms : List Nat} {t : Nat} (h : e.Path ms t) :
    levels ms t ≤ e.depth := by
  induction h with
  | literal => exact Nat.le_refl _
  | name => exact Nat.le_refl _
  | emptyCall => exact Nat.le_refl _
  | nameArg ha _ ih =>
      have := height_lt_argsHeight ha
      simp only [levels_cons, depth, height] at *
      omega
  | @target _ _ args _ _ _ _ ih =>
      cases args <;> simp only [levels_cons, depth, height] at * <;> omega
  | memberArg ha _ ih =>
      have := height_lt_argsHeight ha
      simp only [levels_cons, depth, height] at *
      omega
  | newType _ ih =>
      simp only [levels_cons, levels_add, depth, height] at *
      omega
  | newArg ha _ ih =>
      have := height_lt_argsHeight ha
      simp only [levels_cons, depth, height] at *
      omega
  | _ =>
      simp only [levels_cons, depth, height] at *
      omega

/-- A way down starts in an expression that is entered. -/
theorem Path.exists_cons {e : Expr} {ms : List Nat} {t : Nat} (h : e.Path ms t) :
    ∃ m ms', ms = m :: ms' := by
  induction h with
  | left _ ih => exact ih
  | assigned _ ih => exact ih
  | _ => exact ⟨_, _, rfl⟩

/-- Through a member to its target, a way down passes one member more. -/
theorem Path.levels_target {e : Expr} {n : String} {args : Option (List Expr)} {ms : List Nat}
    {t b : Nat} (h : e.Path ms t)
    (hb : ∀ ms t, Path (.member e n args) ms t → levels ms t ≤ b) : levels ms t + 1 ≤ b := by
  obtain ⟨m, ms', rfl⟩ := h.exists_cons
  have := hb _ _ (.target h)
  simp only [levels_cons] at *
  omega

/-- Through the type of a construction, a way down has its own levels. -/
theorem Path.levels_newType {c : Expr} {es : List Expr} {ms : List Nat} {t b : Nat}
    (h : c.Path ms t) (hb : ∀ ms t, Path (.new c es) ms t → levels ms t ≤ b) :
    levels ms t ≤ b := by
  obtain ⟨m, ms', rfl⟩ := h.exists_cons
  have := hb _ _ (.newType h)
  simp only [levels_cons, levels_add] at *
  omega

/-! No bound of all ways down is less than the depth: a bound for a tree is one, less the levels in
between, for each of its parts. -/

mutual

theorem depth_le_of_path : ∀ (e : Expr) (b : Nat), (∀ ms t, e.Path ms t → levels ms t ≤ b) →
    e.depth ≤ b
  | .literal _, b, hb => hb _ _ .literal
  | .name _ none, b, hb => hb _ _ .name
  | .name _ (some []), b, hb => hb _ _ .emptyCall
  | .name _ (some (a :: es)), b, hb => by
      have hargs : argsHeight (a :: es) ≤ b - 1 := argsHeight_le_of_path (a :: es) (b - 1)
        fun _ ha ms t h => Nat.le_sub_of_add_le (by simpa using hb _ _ (.nameArg ha h))
      simp only [depth, height, argsHeight] at *
      omega
  | .member e _ none, b, hb => by
      have he : e.depth ≤ b - 1 := depth_le_of_path e (b - 1)
        fun ms t h => Nat.le_sub_of_add_le (h.levels_target hb)
      simp only [depth, height] at *
      omega
  | .member e _ (some es), b, hb => by
      have he : e.depth ≤ b - 1 := depth_le_of_path e (b - 1)
        fun ms t h => Nat.le_sub_of_add_le (h.levels_target hb)
      have hargs : argsHeight es ≤ b - 2 := argsHeight_le_of_path es (b - 2)
        fun _ ha ms t h => by
          have := hb _ _ (.memberArg ha h)
          simp only [levels_cons] at this
          omega
      simp only [depth, height] at *
      omega
  | .group e, b, hb => by
      have he : e.depth ≤ b - 1 := depth_le_of_path e (b - 1)
        fun ms t h => Nat.le_sub_of_add_le (by simpa using hb _ _ (.group h))
      simp only [depth, height] at *
      omega
  | .cast c e, b, hb => by
      have hc : c.depth ≤ b - 1 := depth_le_of_path c (b - 1)
        fun ms t h => Nat.le_sub_of_add_le (by simpa using hb _ _ (.castType h))
      have he : e.depth ≤ b - 1 := depth_le_of_path e (b - 1)
        fun ms t h => Nat.le_sub_of_add_le (by simpa using hb _ _ (.castOperand h))
      simp only [depth, height] at *
      omega
  | .new c es, b, hb => by
      have hc : c.depth ≤ b := depth_le_of_path c b fun ms t h => h.levels_newType hb
      have hargs : argsHeight es ≤ b - 1 := argsHeight_le_of_path es (b - 1)
        fun _ ha ms t h => Nat.le_sub_of_add_le (by simpa using hb _ _ (.newArg ha h))
      simp only [depth, height] at *
      omega
  | .binary _ l r, b, hb => by
      have hl : l.depth ≤ b := depth_le_of_path l b fun ms t h => hb _ _ (.left h)
      have hr : r.depth ≤ b - 1 := depth_le_of_path r (b - 1)
        fun ms t h => Nat.le_sub_of_add_le (by simpa using hb _ _ (.right h))
      simp only [depth, height] at *
      omega
  | .assign _ c v, b, hb => by
      have hc : c.depth ≤ b := depth_le_of_path c b fun ms t h => hb _ _ (.assigned h)
      have hv : v.depth ≤ b - 1 := depth_le_of_path v (b - 1)
        fun ms t h => Nat.le_sub_of_add_le (by simpa using hb _ _ (.value h))
      simp only [depth, height] at *
      omega

theorem argsHeight_le_of_path : ∀ (es : List Expr) (b : Nat),
    (∀ a ∈ es, ∀ ms t, a.Path ms t → levels ms t ≤ b) → argsHeight es ≤ b
  | [], b, _ => Nat.zero_le b
  | e :: es, b, hb => by
      have he : e.depth ≤ b := depth_le_of_path e b (hb e List.mem_cons_self)
      have hargs : argsHeight es ≤ b :=
        argsHeight_le_of_path es b fun a ha => hb a (List.mem_cons_of_mem e ha)
      simp only [depth, argsHeight] at *
      omega

end

/-- The depth is the least bound of the levels of all ways down. -/
theorem depth_le_iff {e : Expr} {b : Nat} :
    e.depth ≤ b ↔ ∀ ms t, e.Path ms t → levels ms t ≤ b :=
  ⟨fun h _ _ hpath => Nat.le_trans hpath.levels_le h, depth_le_of_path e b⟩

end Expr

namespace Grammar

/-! ## The chains of an accepted line fit one by one -/

/-- From level `d` on, each chain of a profile fits on its own. -/
def Fits (d : Nat) : List Nat → Nat → Prop
  | [], t => d + t ≤ maxDepth + 1
  | m :: ms, t => d + m ≤ maxDepth ∧ Fits (d + 1) ms t

theorem Fits.mono {d d' : Nat} (hd : d ≤ d') : ∀ {ms : List Nat} {t : Nat},
    Fits d' ms t → Fits d ms t
  | [], _, h => by
      simp only [Fits] at *
      omega
  | _ :: _, _, ⟨hm, hms⟩ => ⟨by omega, hms.mono (Nat.succ_le_succ hd)⟩

theorem Fits.length_le {d : Nat} : ∀ {ms : List Nat} {t : Nat}, Fits d ms t →
    d + ms.length + t ≤ maxDepth + 1
  | [], _, h => h
  | m :: ms, t, ⟨_, hms⟩ => by
      have := hms.length_le
      simp only [List.length_cons]
      omega

/-- What holds of the ways down a phrase at level `d`.  In an operand the chain in hand is bounded by
the dots that were read, and only `Derives` knows that these fit. -/
def PathsFit (d : Nat) : Phrase → Prop
  | .expr e => ∀ ms t, e.Path ms t → Fits d ms t
  | .operand e k => d ≤ maxDepth → ∀ m ms t, e.Path (m :: ms) t → m ≤ k ∧ Fits (d + 1) ms t
  | .typeName e k => ∀ m ms t, e.Path (m :: ms) t → m ≤ k ∧ ms = [] ∧ t = 0
  | .call args => ∀ es, args = some es → ∀ a ∈ es, ∀ ms t, a.Path ms t → Fits (d + 1) ms t
  | .args es => ∀ a ∈ es, ∀ ms t, a.Path ms t → Fits (d + 1) ms t

/-- An operand with its chain fits where its dots do. -/
theorem pathsFit_expr {d k : Nat} {e : Expr} (hd : d ≤ maxDepth) (hk : d + k ≤ maxDepth)
    (h : PathsFit d (.operand e k)) {ms : List Nat} {t : Nat} (hpath : e.Path ms t) :
    Fits d ms t := by
  obtain ⟨m, ms', rfl⟩ := hpath.exists_cons
  obtain ⟨hm, hms⟩ := h hd m ms' t hpath
  exact ⟨by omega, hms⟩

theorem Derives.pathsFit {c : Expr → Prop} {d : Nat} {p : Phrase} {ks : List TokenKind}
    (h : Derives c d p ks) : PathsFit d p := by
  induction h with
  | expr hd hoperand ih =>
      intro ms t hpath
      exact pathsFit_expr hd (hoperand.add_dots_le hd) ih hpath
  | binary hd hl _ _ ihl ihr =>
      intro ms t hpath
      cases hpath with
      | left hpath => exact pathsFit_expr hd (hl.add_dots_le hd) ihl hpath
      | right hpath => exact ⟨hd, ihr _ _ hpath⟩
  | assign hd hl _ _ _ ihl ihr =>
      intro ms t hpath
      cases hpath with
      | assigned hpath => exact pathsFit_expr hd (hl.add_dots_le hd) ihl hpath
      | value hpath => exact ⟨hd, ihr _ _ hpath⟩
  | literal =>
      intro hd m ms t hpath
      cases hpath
      exact ⟨Nat.le_refl _, Nat.succ_le_succ hd⟩
  | name _ ih =>
      intro hd m ms t hpath
      cases hpath with
      | name => exact ⟨Nat.le_refl _, Nat.succ_le_succ hd⟩
      | emptyCall => exact ⟨Nat.le_refl _, Nat.succ_le_succ hd⟩
      | nameArg ha hpath => exact ⟨Nat.le_refl _, ih _ rfl _ ha _ _ hpath⟩
  | group _ ih =>
      intro _ m ms t hpath
      cases hpath with
      | group hpath => exact ⟨Nat.le_refl _, ih _ _ hpath⟩
  | cast _ _ iht ihe =>
      intro _ m ms t hpath
      cases hpath with
      | castType hpath => exact ⟨Nat.le_refl _, iht _ _ hpath⟩
      | castOperand hpath => exact ⟨Nat.le_refl _, ihe _ _ hpath⟩
  | new ht _ iht ihc =>
      intro hd m ms t hpath
      cases hpath with
      | newType hpath =>
          obtain ⟨hm, rfl, rfl⟩ := iht _ _ _ hpath
          have hk := ht.add_typeDots_le hd
          exact ⟨Nat.le_refl _, by simp only [Fits]; omega⟩
      | newArg ha hpath => exact ⟨Nat.le_refl _, ihc _ rfl _ ha _ _ hpath⟩
  | member _ _ hk _ ihe ihc =>
      intro hd m ms t hpath
      cases hpath with
      | target hpath =>
          obtain ⟨hm, hms⟩ := ihe hd _ _ _ hpath
          exact ⟨Nat.succ_le_succ hm, hms⟩
      | memberArg ha hpath =>
          -- the arguments were read with all the dots before them charged
          have hfits := ihc _ rfl _ ha _ _ hpath
          exact ⟨by omega, hfits.mono (by omega)⟩
  | typeName =>
      intro m ms t hpath
      cases hpath
      exact ⟨Nat.le_refl _, rfl, rfl⟩
  | typeMember _ _ ih =>
      intro m ms t hpath
      cases hpath with
      | target hpath =>
          obtain ⟨hm, hms⟩ := ih _ _ _ hpath
          exact ⟨Nat.succ_le_succ hm, hms⟩
  | noCall =>
      intro es hes
      cases hes
  | emptyCall =>
      intro es hes a ha
      cases hes
      cases ha
  | call _ ih =>
      intro es hes
      cases hes
      exact ih
  | lastArg _ ih =>
      intro a ha ms t hpath
      obtain rfl := List.mem_singleton.1 ha
      exact ih ms t hpath
  | arg _ _ ihe ihes =>
      intro a ha ms t hpath
      rcases List.mem_cons.1 ha with rfl | ha
      · exact ihe ms t hpath
      · exact ihes a ha ms t hpath

/-- On every way down the tree of an accepted line, the chains fit one by one. -/
theorem fits_of_parse {source : String} {l : Line} {e : Expr} (h : Parser.parse source = .ok l)
    (he : l.expr = some e) {ms : List Nat} {t : Nat} (hpath : e.Path ms t) : Fits 1 ms t := by
  obtain ⟨ks, hks⟩ := Lexer.exists_derivesLine h
  cases hks with
  | empty => cases he
  | members => cases he
  | value hd =>
      cases he
      exact hd.pathsFit ms t hpath
  | valueMembers hd =>
      cases he
      exact hd.pathsFit ms t hpath

/-- Chains that fit one by one add up to at most the sum of all levels from `d` to the last. -/
theorem Fits.two_mul_levels_le {d : Nat} : ∀ {ms : List Nat} {t : Nat}, Fits d ms t → ∀ {n : Nat},
    d + n = maxDepth + 1 → 2 * levels ms t ≤ n * (n + 1)
  | [], t, h, n, hn => by
      simp only [Fits] at h
      simp only [levels, List.length_nil, List.sum_nil, Nat.zero_add]
      rcases n with _ | n
      · omega
      · calc
          2 * t ≤ 2 * (n + 1) := by omega
          _ ≤ (n + 2) * (n + 1) := Nat.mul_le_mul_right _ (by omega)
          _ = (n + 1) * (n + 2) := Nat.mul_comm _ _
  | m :: ms, t, ⟨hm, hms⟩, n, hn => by
      obtain ⟨n, rfl⟩ : ∃ n', n = n' + 1 := ⟨n - 1, by omega⟩
      have ih := hms.two_mul_levels_le (n := n) (by omega)
      calc
        2 * levels (m :: ms) t = 2 * levels ms t + 2 * (m + 1) := by rw [levels_cons]; omega
        _ ≤ n * (n + 1) + 2 * (n + 1) := by omega
        _ = (n + 2) * (n + 1) := (Nat.add_mul n 2 (n + 1)).symm
        _ = (n + 1) * (n + 2) := Nat.mul_comm _ _

/-! ## Every profile that fits occurs

The line for a profile is written from the inside out: a construction with the last chain in its
type, in parentheses, with the chain before it, in parentheses, and so on. -/

/-- `m` members taken of an expression, one of another. -/
def chained (e : Expr) : Nat → Expr
  | 0 => e
  | m + 1 => .member (chained e m) "a" none

/-- How the `m` members are written. -/
def dots : Nat → List Char
  | 0 => []
  | m + 1 => dots m ++ ['.', 'a']

def dotKinds : Nat → List TokenKind
  | 0 => []
  | m + 1 => dotKinds m ++ [.dot, .name "a"]

/-- The inside of the expression with a profile, its outermost chain left off. -/
def core (t : Nat) : List Nat → Expr
  | [] => .new (chained (.name "x" none) t) []
  | m :: ms => .group (chained (core t ms) m)

/-- How the inside is written. -/
def coreText (t : Nat) : List Nat → List Char
  | [] => ['n', 'e', 'w', ' ', 'x'] ++ dots t ++ ['(', ')']
  | m :: ms => '(' :: (coreText t ms ++ dots m) ++ [')']

def coreKinds (t : Nat) : List Nat → List TokenKind
  | [] => .new :: ([.name "x"] ++ dotKinds t) ++ [.openParen, .closeParen]
  | m :: ms => .openParen :: (coreKinds t ms ++ dotKinds m) ++ [.closeParen]

/-- The line whose outermost chain has `m` members. -/
def profileLine (m : Nat) (ms : List Nat) (t : Nat) : String :=
  String.ofList (coreText t ms ++ dots m)

theorem path_chained {e : Expr} {ms : List Nat} {t : Nat} (h : e.Path (0 :: ms) t) :
    ∀ m : Nat, (chained e m).Path (m :: ms) t
  | 0 => h
  | m + 1 => .target (path_chained h m)

theorem path_core (t : Nat) : ∀ ms : List Nat, (core t ms).Path (0 :: ms) t
  | [] => .newType (path_chained .name t)
  | m :: ms => .group (path_chained (path_core t ms) m)

theorem open_core (t : Nat) (ms : List Nat) : Open (core t ms) := by
  cases ms with
  | nil => rfl
  | cons m ms => rfl

theorem derives_chained {d : Nat} {e : Expr} {ks : List TokenKind} (he : Open e)
    (h : Derives Open d (.operand e 0) ks) : ∀ m : Nat, d + m ≤ maxDepth →
    Derives Open d (.operand (chained e m) m) (ks ++ dotKinds m)
  | 0, _ => by simpa [dotKinds, chained] using h
  | m + 1, hm => by
      have hd := derives_chained he h m (by omega)
      have hopen : Open (chained e m) := by
        cases m with
        | zero => exact he
        | succ m => rfl
      rw [dotKinds, ← List.append_assoc]
      exact .member hd hopen hm .noCall

theorem derives_chainedType {d : Nat} {e : Expr} {ks : List TokenKind}
    (h : Derives Open d (.typeName e 0) ks) : ∀ m : Nat, d + m ≤ maxDepth →
    Derives Open d (.typeName (chained e m) m) (ks ++ dotKinds m)
  | 0, _ => by simpa [dotKinds, chained] using h
  | m + 1, hm => by
      have hd := derives_chainedType h m (by omega)
      rw [dotKinds, ← List.append_assoc]
      exact .typeMember hd hm

/-- Where each chain fits on its own, the grammar derives the whole. -/
theorem derives_core (t : Nat) : ∀ {d : Nat} {ms : List Nat}, d ≤ maxDepth → Fits (d + 1) ms t →
    Derives Open d (.operand (core t ms) 0) (coreKinds t ms)
  | d, [], _, h => by
      simp only [Fits] at h
      exact .new (derives_chainedType .typeName t (by omega)) .emptyCall
  | d, m :: ms, _, ⟨hm, hms⟩ => by
      have hinner := derives_core t (by omega) hms
      exact .group (.expr (by omega) (derives_chained (open_core t ms) hinner m hm))

/-- The characters are read as tokens of the kinds `ks`, before whatever is no part of a name. -/
def Spells (cs : List Char) (ks : List TokenKind) : Prop :=
  ∀ (rest : List Char) (ls : List TokenKind), Lexer.StopsAt Scan.isNameChar rest →
    (∀ last, Lexer.Lexes last rest ls) → ∀ last, Lexer.Lexes last (cs ++ rest) (ks ++ ls)

theorem Spells.append {cs ds : List Char} {ks ls : List TokenKind} (h : Spells cs ks)
    (h' : Spells ds ls) (hds : ∀ rest, Lexer.StopsAt Scan.isNameChar (ds ++ rest)) :
    Spells (cs ++ ds) (ks ++ ls) := by
  intro rest ms hrest hlexes last
  rw [List.append_assoc, List.append_assoc]
  exact h _ _ (hds rest) (h' _ _ hrest hlexes) last

theorem spells_member : Spells ['.', 'a'] [.dot, .name "a"] := by
  intro rest ls hrest hlexes last
  have hword : Lexer.Lexes (some .dot) ('a' :: ([] ++ rest))
      (Lexer.keywordOrName (String.ofList ['a']) :: ls) :=
    .word rfl rfl (fun _ hb => by cases hb) hrest (hlexes _)
  exact .dot hword

theorem spells_emptyCall : Spells ['(', ')'] [.openParen, .closeParen] := by
  intro rest ls _ hlexes last
  exact .openParen (.closeParen (hlexes _))

theorem spells_new : Spells ['n', 'e', 'w', ' ', 'x'] [.new, .name "x"] := by
  intro rest ls hrest hlexes last
  have hname : Lexer.Lexes (some .new) ('x' :: ([] ++ rest))
      (Lexer.keywordOrName (String.ofList ['x']) :: ls) :=
    .word rfl rfl (fun _ hb => by cases hb) hrest (hlexes _)
  have hnew : Lexer.Lexes last ('n' :: (['e', 'w'] ++ ' ' :: 'x' :: ([] ++ rest)))
      (Lexer.keywordOrName (String.ofList ['n', 'e', 'w']) :: .name "x" :: ls) :=
    .word rfl rfl (List.all_eq_true.1 rfl) ((Lexer.stopsAt_cons _ _ _).2 rfl) (.blank rfl hname)
  exact hnew

theorem Spells.parens {cs : List Char} {ks : List TokenKind} (h : Spells cs ks) :
    Spells ('(' :: cs ++ [')']) (.openParen :: ks ++ [.closeParen]) := by
  intro rest ls _ hlexes last
  have hinner : Lexer.Lexes (some .openParen) (cs ++ ')' :: rest) (ks ++ .closeParen :: ls) :=
    h _ _ ((Lexer.stopsAt_cons _ _ _).2 rfl) (fun _ => .closeParen (hlexes _)) _
  have hopen : Lexer.Lexes last ('(' :: (cs ++ ')' :: rest))
      (.openParen :: (ks ++ .closeParen :: ls)) := .openParen hinner
  simpa using hopen

theorem spells_dots {cs : List Char} {ks : List TokenKind} (h : Spells cs ks) :
    ∀ m : Nat, Spells (cs ++ dots m) (ks ++ dotKinds m)
  | 0 => by simpa [dots, dotKinds] using h
  | m + 1 => by
      rw [dots, dotKinds, ← List.append_assoc, ← List.append_assoc]
      exact (spells_dots h m).append spells_member fun _ => (Lexer.stopsAt_cons _ _ _).2 rfl

theorem spells_core (t : Nat) : ∀ ms : List Nat, Spells (coreText t ms) (coreKinds t ms)
  | [] => by
      have htype := spells_dots spells_new t
      exact htype.append spells_emptyCall fun _ => (Lexer.stopsAt_cons _ _ _).2 rfl
  | m :: ms => (spells_dots (spells_core t ms) m).parens

/-- The line written for a profile is read as the expression with that profile. -/
theorem parse_profileLine {m : Nat} {ms : List Nat} {t : Nat} (h : Fits 1 (m :: ms) t) :
    Parser.parse (profileLine m ms t) = .ok ⟨some (chained (core t ms) m), false⟩ := by
  obtain ⟨hm, hms⟩ := h
  have hderives := derives_core t (by omega) hms
  have hlexes := spells_dots (spells_core t ms) m [] [] (Lexer.stopsAt_nil _) Lexer.Lexes.nil none
  rw [List.append_nil, List.append_nil] at hlexes
  refine Lexer.parse_of_lexes ?_
    (.value (.expr (by omega) (derives_chained (open_core t ms) hderives m hm)))
  rwa [profileLine, String.toList_ofList]

/-- Every profile whose chains fit one by one is that of a way down the tree of an accepted line. -/
theorem exists_path_of_fits {m : Nat} {ms : List Nat} {t : Nat} (h : Fits 1 (m :: ms) t) :
    ∃ source e, Parser.parse source = .ok ⟨some e, false⟩ ∧ e.Path (m :: ms) t :=
  ⟨_, _, parse_profileLine h, path_chained (path_core t ms) m⟩

/-- The longest chains that fit one by one. -/
def longest : Nat → List Nat
  | 0 => []
  | n + 1 => n :: longest n

theorem fits_longest : ∀ {d n : Nat}, d + n = maxDepth + 1 → Fits d (longest n) 0
  | _, 0, h => by simp only [longest, Fits]; omega
  | _, n + 1, h => ⟨by omega, fits_longest (by omega)⟩

theorem two_mul_levels_longest : ∀ n : Nat, 2 * levels (longest n) 0 = n * (n + 1)
  | 0 => rfl
  | n + 1 => by
      have ih := two_mul_levels_longest n
      calc
        2 * levels (longest (n + 1)) 0 = n * (n + 1) + 2 * (n + 1) := by
          rw [longest, levels_cons]
          omega
        _ = (n + 2) * (n + 1) := (Nat.add_mul n 2 (n + 1)).symm
        _ = (n + 1) * (n + 2) := Nat.mul_comm _ _

/-! ## The limit -/

/-- An accepted line is at most as deep as all the chains that fit, from the longest to the last. -/
theorem depth_le_of_parse {source : String} {l : Line} {e : Expr}
    (h : Parser.parse source = .ok l) (he : l.expr = some e) :
    e.depth ≤ maxDepth * (maxDepth + 1) / 2 := by
  rw [Expr.depth_le_iff]
  intro ms t hpath
  have := (fits_of_parse h he hpath).two_mul_levels_le (Nat.add_comm 1 maxDepth)
  omega

/-- No smaller bound holds of all accepted lines. -/
theorem exists_depth_eq :
    ∃ source e, Parser.parse source = .ok ⟨some e, false⟩ ∧
      e.depth = maxDepth * (maxDepth + 1) / 2 := by
  have hfits : Fits 1 (longest maxDepth) 0 := fits_longest (Nat.add_comm 1 maxDepth)
  obtain ⟨source, e, hparse, hpath⟩ :
      ∃ source e, Parser.parse source = .ok ⟨some e, false⟩ ∧ e.Path (longest maxDepth) 0 :=
    exists_path_of_fits hfits
  have hlevels := two_mul_levels_longest maxDepth
  have hle := hpath.levels_le
  exact ⟨source, e, hparse, Nat.le_antisymm (depth_le_of_parse hparse rfl) (by omega)⟩

/-- What the parser ensures of an accepted line is that on every way down each chain fits on its own,
and every profile of this form occurs.  So the limit holds of the line exactly where on every way
down all chains together fit into the levels that the entered expressions leave. -/
theorem depth_le_maxDepth_iff (source : String) (l : Line) (e : Expr)
    (h : Parser.parse source = .ok l) (he : l.expr = some e) :
    (e.depth ≤ maxDepth ↔ ∀ ms t, e.Path ms t → ms.sum + t ≤ maxDepth - ms.length) ∧
      (∀ ms t, e.Path ms t → Fits 1 ms t) ∧
      (∀ m ms t, Fits 1 (m :: ms) t →
        ∃ source' e', Parser.parse source' = .ok ⟨some e', false⟩ ∧ e'.Path (m :: ms) t) := by
  have hfits : ∀ ms t, e.Path ms t → Fits 1 ms t := fun ms t => fits_of_parse h he
  refine ⟨?_, hfits, fun m ms t => exists_path_of_fits⟩
  rw [Expr.depth_le_iff]
  constructor
  · intro hlevels ms t hpath
    have := hlevels ms t hpath
    simp only [levels] at this
    omega
  · intro hsum ms t hpath
    have := hsum ms t hpath
    have := (hfits ms t hpath).length_le
    simp only [levels]
    omega

/-- The theorem at a chain of one member on a group. -/
theorem depth_le_maxDepth_iff_member :
    (Expr.depth (chained (core 0 [0]) 1) ≤ maxDepth ↔
        ∀ ms t, (chained (core 0 [0]) 1).Path ms t → ms.sum + t ≤ maxDepth - ms.length) ∧
      (∀ ms t, (chained (core 0 [0]) 1).Path ms t → Fits 1 ms t) ∧
      (∀ m ms t, Fits 1 (m :: ms) t →
        ∃ source' e', Parser.parse source' = .ok ⟨some e', false⟩ ∧ e'.Path (m :: ms) t) :=
  depth_le_maxDepth_iff (profileLine 1 [0] 0) ⟨some (chained (core 0 [0]) 1), false⟩
    (chained (core 0 [0]) 1) (parse_profileLine (by simp [Fits, maxDepth])) rfl

/-- The whole chain is charged after the group that it follows has been read: `(new x())` with 255
members taken of it is accepted, and its tree has 257 levels. -/
theorem maxDepth_lt_depth_memberChain :
    Parser.parse (profileLine 255 [0] 0) = .ok ⟨some (chained (core 0 [0]) 255), false⟩ ∧
      maxDepth < Expr.depth (chained (core 0 [0]) 255) := by
  refine ⟨parse_profileLine (by simp [Fits, maxDepth]), ?_⟩
  have hle := (path_chained (path_core 0 [0]) 255).levels_le
  have hlevels : levels [255, 0] 0 = 257 := rfl
  simp only [maxDepth]
  omega

end Grammar

end DevConsole
