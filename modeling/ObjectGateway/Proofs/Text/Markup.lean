import Mathlib.Tactic.SplitIfs
import ObjectGateway.Http.Response
import ObjectGateway.Template.Operator

/-!
# Texts in markup

What markup says of a text is read with every reference, such as `&lt;`, replaced by the character
it stands for: `decode`.  A piece of markup stands for a text if it is read as this text and can
neither begin a tag nor leave the quotes of an attribute: `Stands`.  Both ways of escaping, that of
templates and that of the page without a template, write pieces that stand for what is escaped.
-/

namespace ObjectGateway.Markup

variable {c : Char} {cs rest : List Char}

/-! ## Reading -/

/-- The character of a number in digits. -/
def ofDigits? (base : Nat) (ds : List Char) : Option Char :=
  if ds.isEmpty || !ds.all Text.isHexDigit then none
  else some (Char.ofNat (Template.natOfDigits base ds))

/-- The character that a reference stands for, by what is written between `&` and `;`. -/
def referred? : List Char → Option Char
  | ['l', 't'] => some '<'
  | ['g', 't'] => some '>'
  | ['a', 'm', 'p'] => some '&'
  | ['q', 'u', 'o', 't'] => some '"'
  | ['a', 'p', 'o', 's'] => some '\''
  | '#' :: 'x' :: ds => ofDigits? 16 ds
  | '#' :: ds => if ds.all Char.isDigit then ofDigits? 10 ds else none
  | _ => none

/-- What markup says, after an `&` and some characters that may be those of a reference, last first.
An `&` that begins no reference stands for itself. -/
def decodeFrom : Option (List Char) → List Char → List Char
  | none, [] => []
  | none, c :: cs => if c = '&' then decodeFrom (some []) cs else c :: decodeFrom none cs
  | some seen, [] => '&' :: seen.reverse
  | some seen, c :: cs =>
    if c = ';' then
      match referred? seen.reverse with
      | some d => d :: decodeFrom none cs
      | none => '&' :: seen.reverse ++ ';' :: decodeFrom none cs
    else if c = '&' then '&' :: seen.reverse ++ decodeFrom (some []) cs
    else decodeFrom (some (c :: seen)) cs

/-- What markup says. -/
def decode (html : String) : String := String.ofList (decodeFrom none html.toList)

/-- A character that can neither begin or end a tag nor a quoted attribute. -/
def IsHarmless (c : Char) : Prop := c ≠ '<' ∧ c ≠ '>' ∧ c ≠ '"' ∧ c ≠ '\''

instance (c : Char) : Decidable (IsHarmless c) := inferInstanceAs (Decidable (_ ∧ _))

/-- A piece of markup that says a text and holds no mark of its own. -/
structure Stands (html value : String) : Prop where
  harmless : ∀ c ∈ html.toList, IsHarmless c
  decode_eq : decode html = value

/-! ## Writing -/

/-- Characters that are read as one character, whatever comes after them. -/
structure Writes (cs : List Char) (c : Char) : Prop where
  harmless : ∀ d ∈ cs, IsHarmless d
  decode_append : ∀ rest, decodeFrom none (cs ++ rest) = c :: decodeFrom none rest

/-- A character that is written as it is. -/
theorem writes_self (h : IsHarmless c) (hamp : c ≠ '&') : Writes [c] c where
  harmless := List.forall_mem_singleton.2 h
  decode_append rest := by
    rw [List.singleton_append, decodeFrom, if_neg hamp]

/-- A text of which every character is written in a way that is read as this character. -/
theorem stands_flatMap {f : Char → List Char} (hf : ∀ c, Writes (f c) c) (value : String) :
    Stands (String.ofList (value.toList.flatMap f)) value where
  harmless := by
    intro d hd
    rw [String.toList_ofList] at hd
    obtain ⟨c, -, hdc⟩ := List.mem_flatMap.1 hd
    exact (hf c).harmless d hdc
  decode_eq := by
    have hlist (cs : List Char) : decodeFrom none (cs.flatMap f) = cs := by
      induction cs with
      | nil => rfl
      | cons c cs ih => rw [List.flatMap_cons, (hf c).decode_append, ih]
    rw [decode, String.toList_ofList, hlist, String.ofList_toList]

theorem writes_escapeChar (c : Char) : Writes (Template.escapeChar c) c := by
  unfold Template.escapeChar
  split
  · exact ⟨by simp [IsHarmless], fun _ => rfl⟩
  · exact ⟨by simp [IsHarmless], fun _ => rfl⟩
  · exact ⟨by simp [IsHarmless], fun _ => rfl⟩
  · exact ⟨by simp [IsHarmless], fun _ => rfl⟩
  · exact ⟨by simp [IsHarmless], fun _ => rfl⟩
  · exact ⟨by simp [IsHarmless], fun _ => rfl⟩
  · next hlt hgt hamp hquot hapos _ => exact writes_self ⟨hlt, hgt, hquot, hapos⟩ hamp

/-- What a template prints stands for the printed text. -/
theorem stands_escapeText (value : String) : Stands (Template.escapeText value) value :=
  stands_flatMap writes_escapeChar value

theorem writes_escapeMarkup (c : Char) : Writes (Http.escapeMarkup c) c := by
  unfold Http.escapeMarkup
  split_ifs with hlt hgt hamp hquot hapos
  · subst hlt
    exact ⟨by simp [IsHarmless], fun _ => rfl⟩
  · subst hgt
    exact ⟨by simp [IsHarmless], fun _ => rfl⟩
  · subst hamp
    exact ⟨by simp [IsHarmless], fun _ => rfl⟩
  · subst hquot
    exact ⟨by simp [IsHarmless], fun _ => rfl⟩
  · obtain rfl : c = '\'' := Char.toNat_inj.1 hapos
    exact ⟨by simp [IsHarmless], fun _ => rfl⟩
  · refine writes_self ⟨hlt, hgt, hquot, ?_⟩ hamp
    rintro rfl
    exact hapos rfl

/-- What the page without a template shows stands for the message. -/
theorem stands_escapeMarkup (message : String) :
    Stands (String.ofList (message.toList.flatMap Http.escapeMarkup)) message :=
  stands_flatMap writes_escapeMarkup message

end ObjectGateway.Markup
