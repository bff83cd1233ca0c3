import Mathlib.Logic.Basic
import Mathlib.Tactic.Conv
import ObjectGateway.Proofs.Text.Utf8
import ObjectGateway.Text.Percent

/-!
# Escapes in texts

A text can be written in many ways, since any of its characters may be escaped: `Spells`.  All of
them are decoded to the octets of the text, `decode_encodeList`.  What is decoded before an octet
that can be no part of an escape does not depend on what comes behind it: `decode_append_cons`.
-/

namespace ObjectGateway.Text.Percent

variable {b : UInt8} {bs rest : Bytes} {s e : List Char} {n : Nat} {x : Char}

/-- A character is a digit for a number below sixteen, in lower or in upper case. -/
def IsDigitOf (n : Nat) (x : Char) : Prop := x = n.digitChar ∨ x = n.digitChar.toUpper

/-- `Escapes bs e` says that every octet of `bs` is written as `%` and two digits in `e`. -/
inductive Escapes : Bytes → List Char → Prop
  | nil : Escapes [] []
  | cons {b : UInt8} {bs : Bytes} {x y : Char} {e : List Char} (hx : IsDigitOf (b.toNat / 16) x)
      (hy : IsDigitOf (b.toNat % 16) y) (h : Escapes bs e) : Escapes (b :: bs) ('%' :: x :: y :: e)

/-- `Spells s e` says that `e` is `s` with some of its characters escaped, by all of their octets.
A percent sign is always escaped. -/
inductive Spells : List Char → List Char → Prop
  | nil : Spells [] []
  | plain {c : Char} {s e : List Char} (hc : c ≠ '%') (h : Spells s e) : Spells (c :: s) (c :: e)
  | escaped {c : Char} {s escape e : List Char} (hc : Escapes (Utf8.encodeChar c) escape)
      (h : Spells s e) : Spells (c :: s) (escape ++ e)

/-! ## What is left as it is -/

theorem decode_cons (h : b ≠ '%'.toNat.toUInt8) (rest : Bytes) :
    decode (b :: rest) = b :: decode rest := by
  conv_lhs => unfold decode
  rw [if_neg h]

/-- What holds no percent sign is decoded to itself, whatever comes behind it. -/
theorem decode_append_of_notMem (h : '%'.toNat.toUInt8 ∉ bs) (rest : Bytes) :
    decode (bs ++ rest) = bs ++ decode rest := by
  induction bs with
  | nil => rfl
  | cons b bs ih =>
    obtain ⟨hb, hrest⟩ := not_or.1 (List.mem_cons.not.1 h)
    rw [List.cons_append, decode_cons (Ne.symm hb), ih hrest, List.cons_append]

theorem decode_eq_self (h : '%'.toNat.toUInt8 ∉ bs) : decode bs = bs := by
  have hdecode := decode_append_of_notMem h []
  rwa [List.append_nil, show decode [] = [] from rfl, List.append_nil] at hdecode

/-! ## Escapes -/

theorem decode_escape {x y : UInt8} {h l : Nat} (hx : digit? x = some h) (hy : digit? y = some l)
    (rest : Bytes) :
    decode ('%'.toNat.toUInt8 :: x :: y :: rest) = (h * 16 + l).toUInt8 :: decode rest := by
  conv_lhs => unfold decode
  simp only [if_true, hx, hy]

/-- Digits are ASCII, and are read as the numbers that they are digits for. -/
theorem digit?_of_lt : ∀ n < 16,
    (n.digitChar.toNat < 0x80 ∧ digit? n.digitChar.toNat.toUInt8 = some n) ∧
      n.digitChar.toUpper.toNat < 0x80 ∧ digit? n.digitChar.toUpper.toNat.toUInt8 = some n := by
  decide

theorem IsDigitOf.digit? (h : IsDigitOf n x) (hn : n < 16) :
    x.toNat < 0x80 ∧ digit? x.toNat.toUInt8 = some n := by
  rcases h with rfl | rfl
  · exact (digit?_of_lt n hn).1
  · exact (digit?_of_lt n hn).2

/-- Escaped octets are decoded to these octets, whatever comes behind them. -/
theorem decode_escapes (h : Escapes bs e) (rest : Bytes) :
    decode (Utf8.encodeList e ++ rest) = bs ++ decode rest := by
  induction h with
  | nil => rfl
  | @cons b bs x y e hx hy _ ih =>
    have hb : b.toNat < 256 := b.toNat_lt
    obtain ⟨hxa, hxd⟩ := hx.digit? (by omega)
    obtain ⟨hya, hyd⟩ := hy.digit? (by omega)
    have hvalue : b.toNat / 16 * 16 + b.toNat % 16 = b.toNat := by omega
    rw [Utf8.encodeList_cons_of_ascii (by decide), Utf8.encodeList_cons_of_ascii hxa,
      Utf8.encodeList_cons_of_ascii hya]
    simp only [List.cons_append]
    rw [decode_escape hxd hyd, ih, Utf8.toUInt8_eq hvalue]

/-- Whichever of its characters are escaped, a text is decoded to its octets. -/
theorem decode_encodeList (h : Spells s e) : decode (Utf8.encodeList e) = Utf8.encodeList s := by
  induction h with
  | nil => rfl
  | @plain c s e hc _ ih =>
    have hoctets : '%'.toNat.toUInt8 ∉ Utf8.encodeChar c := by
      rw [Utf8.mem_encodeChar_iff (by decide)]
      exact Ne.symm hc
    rw [Utf8.encodeList_cons, decode_append_of_notMem hoctets, ih, Utf8.encodeList_cons]
  | @escaped c s escape e hc _ ih =>
    rw [Utf8.encodeList_append, decode_escapes hc, ih, Utf8.encodeList_cons]

/-! ## Where decoding starts anew -/

/-- A percent sign that no two digits follow is left as it is. -/
theorem decode_percent
    (h : ∀ x y tail m n, rest = x :: y :: tail → digit? x = some m → digit? y ≠ some n) :
    decode ('%'.toNat.toUInt8 :: rest) = '%'.toNat.toUInt8 :: decode rest := by
  conv_lhs => unfold decode
  rw [if_pos rfl]
  split
  · next x y tail =>
    split
    · next m n hx hy => exact absurd hy (h x y tail m n rfl hx)
    · rfl
  · rfl

/-- An octet that is neither a percent sign nor a digit is part of no escape: before it, decoding
starts anew. -/
theorem decode_append_cons (hpercent : b ≠ '%'.toNat.toUInt8) (hdigit : digit? b = none)
    (bs rest : Bytes) : decode (bs ++ b :: rest) = decode bs ++ b :: decode rest := by
  fun_induction decode bs with
  | case1 => exact decode_cons hpercent rest
  | case2 x y tail m n hy hx ih =>
    simp only [List.cons_append]
    rw [decode_escape hx hy, ih]
  | case3 x y tail hdigits ih =>
    rw [List.cons_append, decode_percent, ih, List.cons_append]
    rintro _ _ _ m n ⟨⟩ hx hy
    exact hdigits m n hx hy
  | case4 tail hshort ih =>
    -- At most one octet comes before the one that is no digit.
    rw [List.cons_append, decode_percent, ih, List.cons_append]
    intro x y tail' m n htail hx hy
    match tail, hshort with
    | [], _ =>
      obtain ⟨rfl, -⟩ := List.cons.inj htail
      cases hdigit.symm.trans hx
    | [_], _ =>
      obtain ⟨-, htail⟩ := List.cons.inj htail
      obtain ⟨rfl, -⟩ := List.cons.inj htail
      cases hdigit.symm.trans hy
    | _ :: _ :: _, hshort => exact hshort _ _ _ rfl
  | case5 b' tail hb ih => rw [List.cons_append, decode_cons hb, ih, List.cons_append]

end ObjectGateway.Text.Percent
