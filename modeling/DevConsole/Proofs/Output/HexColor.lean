/-
# `DevConsole.Proofs.Output.HexColor` — which texts are colors

A color is written `#RRGGBB` or `#RRGGBBAA`, each channel by two hexadecimal digits in either case.
`Color.Written cs c` says that the digits `cs`, behind the mark, are those of the color `c`:

    six digits      the channels red, green and blue; the color is opaque
    eight digits    the same, and the alpha channel

Reading accepts these texts, but not only these.  A channel is read as an unsigned number, and such
a number may begin with a plus sign: `+F` is taken for `0F`.  So a text is accepted if and only if
it is a color once the plus signs in the first places of its channels are zeros
(`ofHex?_eq_some_iff`), and a text that has no plus sign there if and only if it is a color.

A color that has been read is written with the same digits, in upper case and without an alpha
channel of `FF`.
-/
import DevConsole.Color

namespace DevConsole

namespace Color

/-! ## Digits -/

/-- A hexadecimal digit, in lower or upper case, and its value. -/
def IsDigit (d : Char) (n : Nat) : Prop :=
  "0123456789abcdef".toList[n]? = some d ∨ "0123456789ABCDEF".toList[n]? = some d

instance (d : Char) (n : Nat) : Decidable (IsDigit d n) :=
  inferInstanceAs (Decidable (_ ∨ _))

theorem IsDigit.lt {d : Char} {n : Nat} (h : IsDigit d n) : n < 16 := by
  rcases h with h | h <;> exact (List.getElem?_eq_some_iff.1 h).1

/-- What holds of the sixteen digits in both cases holds of every digit. -/
theorem IsDigit.of_table {P : Char → Nat → Prop}
    (table : ∀ n : Fin 16, P ("0123456789abcdef".toList.get ⟨n, n.2⟩) n ∧
      P ("0123456789ABCDEF".toList.get ⟨n, n.2⟩) n)
    {d : Char} {n : Nat} (h : IsDigit d n) : P d n := by
  have hn := h.lt
  rcases h with h | h <;> obtain ⟨-, rfl⟩ := List.getElem?_eq_some_iff.1 h
  · exact (table ⟨n, hn⟩).1
  · exact (table ⟨n, hn⟩).2

/-- A character in a run of consecutive digits has the value of its place. -/
theorem isDigit_of_run (first last : Char) (value : Nat) {d : Char} {n : Nat}
    (table : ∀ k : Fin (last.toNat - first.toNat + 1),
      IsDigit (Char.ofNat (first.toNat + k)) (value + k))
    (h : first ≤ d ∧ d ≤ last) (hn : n = d.toNat - (first.toNat - value))
    (hvalue : value ≤ first.toNat) : IsDigit d n := by
  have hfirst : first.toNat ≤ d.toNat := h.1
  have hlast : d.toNat ≤ last.toNat := h.2
  have hd := table ⟨d.toNat - first.toNat, by omega⟩
  simp only [Nat.add_sub_of_le hfirst, Char.ofNat_toNat] at hd
  rwa [show n = value + (d.toNat - first.toNat) by omega]

theorem digit?_eq_some_iff {d : Char} {n : Nat} : digit? d = some n ↔ IsDigit d n := by
  constructor
  · intro h
    unfold digit? at h
    split at h
    · rename_i hd
      rw [Char.isDigit, Bool.and_eq_true, decide_eq_true_eq, decide_eq_true_eq] at hd
      cases h
      exact isDigit_of_run '0' '9' 0 (by decide) hd rfl (by decide)
    split at h
    · rename_i hd
      rw [Bool.and_eq_true, decide_eq_true_eq, decide_eq_true_eq] at hd
      cases h
      exact isDigit_of_run 'a' 'f' 10 (by decide) hd rfl (by decide)
    split at h
    · rename_i hd
      rw [Bool.and_eq_true, decide_eq_true_eq, decide_eq_true_eq] at hd
      cases h
      exact isDigit_of_run 'A' 'F' 10 (by decide) hd rfl (by decide)
    · cases h
  · exact IsDigit.of_table (P := fun d n => digit? d = some n) (by decide)

theorem IsDigit.upperDigit_eq {d : Char} {n : Nat} (h : IsDigit d n) : upperDigit n = d.toUpper :=
  h.of_table (P := fun d n => upperDigit n = d.toUpper) (by decide)

/-! ## Channels -/

/-- Digits two by two, and the values of the channels that they write. -/
inductive Writes : List Char → List UInt8 → Prop
  | nil : Writes [] []
  | cons {a b : Char} {m n : Nat} {cs : List Char} {vs : List UInt8} :
      IsDigit a m → IsDigit b n → Writes cs vs → Writes (a :: b :: cs) (.ofNat (16 * m + n) :: vs)

/-- The digits of a color, behind the mark. -/
inductive Written : List Char → Color → Prop
  | solid {cs : List Char} {r g b : UInt8} : Writes cs [r, g, b] → Written cs ⟨r, g, b, 255⟩
  | alpha {cs : List Char} {r g b a : UInt8} : Writes cs [r, g, b, a] → Written cs ⟨r, g, b, a⟩

/-- The places of channels, two by two, with zeros for plus signs in the first places. -/
def unsigned : List Char → List Char
  | a :: b :: cs => (if a = '+' then '0' else a) :: b :: unsigned cs
  | cs => cs

theorem unsigned_of_not_mem {cs : List Char} (h : '+' ∉ cs) : unsigned cs = cs := by
  fun_induction unsigned cs with
  | case1 a b cs ih =>
    simp only [List.mem_cons, not_or] at h
    rw [if_neg (Ne.symm h.1), ih h.2.2]
  | case2 cs _ => rfl

/-- The value of a channel is that of its two digits, a plus sign in the first place being a
zero. -/
theorem channel?_eq_some_iff {a b : Char} {v : UInt8} :
    channel? a b = some v ↔ ∃ m n, IsDigit (if a = '+' then '0' else a) m ∧ IsDigit b n ∧
      .ofNat (16 * m + n) = v := by
  have hdigits : channel? a b =
      (digit? (if a = '+' then '0' else a)).bind fun m =>
        (digit? b).map fun n => .ofNat (16 * m + n) := by
    unfold channel?
    split
    · show _ = (some 0).bind _
      simp
    · rcases digit? a with _ | m
      · rfl
      · rcases digit? b with _ | n <;> rfl
  simp only [hdigits, Option.bind_eq_some_iff, Option.map_eq_some_iff, digit?_eq_some_iff,
    exists_and_left]

theorem Writes.channel {a b : Char} {cs : List Char} {v : UInt8} {vs : List UInt8}
    (h : channel? a b = some v) (hcs : Writes (unsigned cs) vs) :
    Writes (unsigned (a :: b :: cs)) (v :: vs) := by
  obtain ⟨m, n, ha, hb, rfl⟩ := channel?_eq_some_iff.1 h
  exact .cons ha hb hcs

theorem writes_unsigned_nil_iff {cs : List Char} : Writes (unsigned cs) [] ↔ cs = [] := by
  match cs with
  | [] => exact ⟨fun _ => rfl, fun _ => .nil⟩
  | [a] => exact ⟨nofun, nofun⟩
  | a :: b :: cs => exact ⟨nofun, nofun⟩

/-- The first two places are the first channel. -/
theorem writes_unsigned_cons_iff {cs : List Char} {v : UInt8} {vs : List UInt8} :
    Writes (unsigned cs) (v :: vs) ↔
      ∃ a b cs', cs = a :: b :: cs' ∧ channel? a b = some v ∧ Writes (unsigned cs') vs := by
  constructor
  · intro h
    match cs with
    | [] => cases h
    | [a] => cases h
    | a :: b :: cs =>
      obtain _ | ⟨ha, hb, hcs⟩ := h
      exact ⟨a, b, cs, rfl, channel?_eq_some_iff.2 ⟨_, _, ha, hb, rfl⟩, hcs⟩
  · rintro ⟨a, b, cs', rfl, h, hcs⟩
    exact .channel h hcs

/-! ## Reading and writing -/

theorem ofHex?_eq_some_iff {s : String} {c : Color} :
    ofHex? s = some c ↔ ∃ cs, s.toList = '#' :: cs ∧ Written (unsigned cs) c := by
  constructor
  · intro h
    unfold ofHex? at h
    split at h
    · rename_i r r' g g' b b' hs
      simp only [Option.pure_def, Option.bind_eq_bind, Option.bind_eq_some_iff] at h
      obtain ⟨red, hr, green, hg, blue, hb, ⟨⟩⟩ := h
      exact ⟨_, hs, .solid (.channel hr (.channel hg (.channel hb .nil)))⟩
    · rename_i r r' g g' b b' a a' hs
      simp only [Option.pure_def, Option.bind_eq_bind, Option.bind_eq_some_iff] at h
      obtain ⟨red, hr, green, hg, blue, hb, alpha, ha, ⟨⟩⟩ := h
      exact ⟨_, hs, .alpha (.channel hr (.channel hg (.channel hb (.channel ha .nil))))⟩
    · cases h
  · rintro ⟨cs, hs, h | h⟩
    · simp only [writes_unsigned_cons_iff, writes_unsigned_nil_iff] at h
      obtain ⟨r, r', _, rfl, hr, g, g', _, rfl, hg, b, b', _, rfl, hb, rfl⟩ := h
      simp [ofHex?, hs, hr, hg, hb]
    · simp only [writes_unsigned_cons_iff, writes_unsigned_nil_iff] at h
      obtain ⟨r, r', _, rfl, hr, g, g', _, rfl, hg, b, b', _, rfl, hb, a, a', _, rfl, ha, rfl⟩ := h
      simp [ofHex?, hs, hr, hg, hb, ha]

/-- The two digits that a channel is written with are those it was read from, in upper case. -/
theorem channelDigits_eq {a b : Char} {m n : Nat} (ha : IsDigit a m) (hb : IsDigit b n) :
    channelDigits (.ofNat (16 * m + n)) = [a.toUpper, b.toUpper] := by
  have hm := ha.lt
  have hn := hb.lt
  have hvalue : (UInt8.ofNat (16 * m + n)).toNat = 16 * m + n := by
    rw [UInt8.toNat_ofNat']
    omega
  have hhigh : (16 * m + n) / 16 = m := by omega
  have hlow : (16 * m + n) % 16 = n := by omega
  rw [channelDigits, hvalue, hhigh, hlow, ha.upperDigit_eq, hb.upperDigit_eq]

theorem Writes.flatMap_channelDigits {cs : List Char} {vs : List UInt8} (h : Writes cs vs) :
    vs.flatMap channelDigits = cs.map Char.toUpper := by
  induction h with
  | nil => rfl
  | cons ha hb _ ih => rw [List.flatMap_cons, ih, channelDigits_eq ha hb]; rfl

/-- A channel is written `FF` exactly when it is full. -/
theorem channelDigits_eq_full_iff {v : UInt8} : channelDigits v = ['F', 'F'] ↔ v = 255 := by
  constructor
  · intro h
    have hfull : ∀ n : Fin 16, upperDigit n = 'F' → n = 15 := by decide
    have hv := v.toNat_lt
    obtain ⟨hhigh, hlow, -⟩ := List.cons.inj h |>.imp_right List.cons.inj
    have hm : v.toNat / 16 = 15 := Fin.val_eq_of_eq (hfull ⟨v.toNat / 16, by omega⟩ hhigh)
    have hn : v.toNat % 16 = 15 := Fin.val_eq_of_eq (hfull ⟨v.toNat % 16, by omega⟩ hlow)
    exact UInt8.toNat_inj.1 (show v.toNat = 255 by omega)
  · rintro rfl
    rfl

/-- The digits of a color in upper case, without the alpha channel of an opaque one. -/
def capitals (cs : List Char) : List Char :=
  let upper := cs.map Char.toUpper
  if upper.drop 6 = ['F', 'F'] then upper.take 6 else upper

/-- A color is written with the digits it was read from. -/
theorem Written.hex_eq {cs : List Char} {c : Color} (h : Written cs c) :
    c.hex = String.ofList ('#' :: capitals cs) := by
  rcases h with h | h
  · have hupper := h.flatMap_channelDigits
    simp only [capitals, ← hupper, hex]
    simp [channelDigits]
  · rename_i r g b a
    have hupper := h.flatMap_channelDigits
    have hlast : ([r, g, b, a].flatMap channelDigits).drop 6 = channelDigits a := by
      simp [channelDigits]
    simp only [capitals, ← hupper, hlast, channelDigits_eq_full_iff, hex]
    split
    · simp [channelDigits]
    · simp

/-- The digits of a color have no plus sign among them. -/
theorem Writes.plus_not_mem {cs : List Char} {vs : List UInt8} (h : Writes cs vs) : '+' ∉ cs := by
  have hplus {d : Char} {n : Nat} (hd : IsDigit d n) : '+' ≠ d := by
    rintro rfl
    cases digit?_eq_some_iff.2 hd
  induction h with
  | nil => exact List.not_mem_nil
  | cons ha hb _ ih => simp [hplus ha, hplus hb, ih]

theorem Written.plus_not_mem {cs : List Char} {c : Color} (h : Written cs c) : '+' ∉ cs := by
  rcases h with h | h <;> exact h.plus_not_mem

theorem written_iff_plus_not_mem {cs : List Char} {c : Color} (h : Written (unsigned cs) c) :
    Written cs c ↔ '+' ∉ cs := by
  refine ⟨Written.plus_not_mem, fun hplus => ?_⟩
  rwa [unsigned_of_not_mem hplus] at h

/-- A text is read as a color if and only if it is written as one, with the plus signs in the first
places of channels taken for zeros.  The color is written with the digits that were read.  Among the
texts that are read, those that are colors are those without a plus sign. -/
theorem ofHex?_exact (s : String) (c : Color) :
    ofHex? s = some c ↔ ∃ cs, s.toList = '#' :: cs ∧ Written (unsigned cs) c ∧
      c.hex = String.ofList ('#' :: capitals (unsigned cs)) ∧ (Written cs c ↔ '+' ∉ cs) := by
  rw [ofHex?_eq_some_iff]
  constructor
  · rintro ⟨cs, hs, hcs⟩
    exact ⟨cs, hs, hcs, hcs.hex_eq, written_iff_plus_not_mem hcs⟩
  · rintro ⟨cs, hs, hcs, -⟩
    exact ⟨cs, hs, hcs⟩

example : ofHex? "#aBcDefFF" = some ⟨0xAB, 0xCD, 0xEF, 255⟩ := by decide

/-- A plus sign takes the place of a digit, in a text that is no color. -/
theorem ofHex?_plusSign : ofHex? "#+F0000" = some ⟨0x0F, 0, 0, 255⟩ ∧
    ¬ ∃ cs c, "#+F0000".toList = '#' :: cs ∧ Written cs c := by
  refine ⟨by decide, ?_⟩
  rintro ⟨cs, c, hs, h⟩
  cases hs
  exact h.plus_not_mem (by decide)

end Color

end DevConsole
