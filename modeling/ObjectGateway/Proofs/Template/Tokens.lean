import Mathlib.Logic.Basic
import Mathlib.Tactic.Conv
import ObjectGateway.Proofs.Text.Split
import ObjectGateway.Template.Token

/-!
# Templates part by part

A template is read part by part: text without marks, and the tag behind it.  What a part is read as
does not depend on what comes behind it, so the tokens of a template are those of its parts,
`read_eq_of_reads`, whatever the texts between the tags are.
-/

namespace ObjectGateway.Template

variable {mode : Mode} {margin : Margin} {c : Char} {cs inner rest blanks : List Char} {fuel : Nat}
  {token : Token} {ts : List Token}

/-! ## Steps of the reader -/

theorem splitAtMark_cons (h : c ≠ '{') (cs : List Char) :
    splitAtMark (c :: cs) = (c :: (splitAtMark cs).1, (splitAtMark cs).2) := by
  conv_lhs => unfold splitAtMark
  split
  · next heq => cases heq
  · next heq => exact absurd (List.cons.inj heq).1 h
  · next heq => exact absurd (List.cons.inj heq).1 h
  · next heq => exact absurd (List.cons.inj heq).1 h
  · next heq =>
    obtain ⟨rfl, rfl⟩ := List.cons.inj heq
    rfl

/-- Text without braces is no mark. -/
theorem splitAtMark_append (h : '{' ∉ cs) (rest : List Char) :
    splitAtMark (cs ++ rest) = (cs ++ (splitAtMark rest).1, (splitAtMark rest).2) := by
  induction cs with
  | nil => rfl
  | cons c cs ih =>
    obtain ⟨hc, hcs⟩ := not_or.1 (List.mem_cons.not.1 h)
    rw [List.cons_append, splitAtMark_cons (Ne.symm hc), ih hcs]
    rfl

/-- Text up to the end of the template. -/
theorem lexFrom_last (h : '{' ∉ cs) :
    lexFrom (fuel + 1) (.text false) cs = .ok (dataToken cs []) := by
  have hsplit := splitAtMark_append h []
  rw [List.append_nil] at hsplit
  simp [lexFrom, hsplit, splitAtMark]

/-- Text up to a value. -/
theorem lexFrom_value (h : '{' ∉ cs) (hmargin : takeMargin inner = (.plain, inner))
    (hinner : lexFrom fuel .value inner = .ok ts) :
    lexFrom (fuel + 1) (.text false) (cs ++ '{' :: '{' :: inner) =
      .ok (dataToken cs (.valueStart :: ts)) := by
  simp [lexFrom, splitAtMark_append h, splitAtMark, hmargin, hinner]

/-- Text up to a statement. -/
theorem lexFrom_block (h : '{' ∉ cs) (hmargin : takeMargin rest = (margin, inner))
    (hraw : skipWordTag "raw" inner = none) (hinner : lexFrom fuel .block inner = .ok ts) :
    lexFrom (fuel + 1) (.text false) (cs ++ '{' :: '%' :: rest) =
      .ok (dataToken (if margin = .trimmed then Text.dropTrailing Text.isBlank cs else cs)
        (.blockStart :: ts)) := by
  simp [lexFrom, splitAtMark_append h, splitAtMark, hmargin, hraw, hinner]

/-- A token inside of a tag. -/
theorem lexFrom_token (hmode : ∀ b, mode ≠ .text b)
    (hclose : closing? mode (cs.dropWhile isAsciiBlank) = none)
    (htoken : lexInner (cs.dropWhile isAsciiBlank) = .ok (token, rest))
    (hrest : lexFrom fuel mode rest = .ok ts) : lexFrom (fuel + 1) mode cs = .ok (token :: ts) := by
  have hbind : (lexFrom fuel mode rest >>= fun ts => pure (token :: ts)) = .ok (token :: ts) := by
    rw [hrest]
    rfl
  cases hcs : cs.dropWhile isAsciiBlank with
  | nil =>
    rw [hcs] at htoken
    cases htoken
  | cons d ds =>
    rw [hcs] at hclose htoken
    cases mode with
    | text b => exact absurd rfl (hmode b)
    | value =>
      simp only [lexFrom, hcs, hclose, htoken]
      exact hbind
    | block =>
      simp only [lexFrom, hcs, hclose, htoken]
      exact hbind

/-- The end of a tag. -/
theorem lexFrom_close (hclose : closing? mode (cs.dropWhile isAsciiBlank) = some (.plain, rest))
    (hrest : lexFrom fuel (.text false) rest = .ok ts) :
    lexFrom (fuel + 1) mode cs =
      .ok ((if mode = .value then Token.valueEnd else .blockEnd) :: ts) := by
  cases mode with
  | text b => simp [closing?] at hclose
  | value => simp [lexFrom, hclose, hrest]
  | block => simp [lexFrom, hclose, hrest]

/-! ## Tags -/

/-- The tokens inside of a tag with that of its end, if there are so many, and the characters behind
the tag. -/
def inside (mode : Mode) : Nat → List Char → Option (List Token × List Char)
  | 0, _ => none
  | n + 1, cs =>
    let cs := cs.dropWhile isAsciiBlank
    match closing? mode cs with
    | some (.plain, rest) => some ([if mode = .value then .valueEnd else .blockEnd], rest)
    | some (.trimmed, _) => none
    | none =>
      match lexInner cs with
      | .ok (token, rest) => (inside mode n rest).map fun (ts, rest) => (token :: ts, rest)
      | .error _ => none

theorem lexFrom_inside {n : Nat} {tokens : List Token} (hmode : ∀ b, mode ≠ .text b)
    (hinside : inside mode n cs = some (tokens, rest))
    (hrest : lexFrom fuel (.text false) rest = .ok ts) :
    lexFrom (fuel + tokens.length) mode cs = .ok (tokens ++ ts) := by
  induction n generalizing cs tokens with
  | zero => cases hinside
  | succ n ih =>
    cases hclose : closing? mode (cs.dropWhile isAsciiBlank) with
    | some closed =>
      obtain ⟨margin, behind⟩ := closed
      cases margin with
      | plain =>
        simp only [inside, hclose] at hinside
        obtain ⟨rfl, rfl⟩ := Prod.mk.inj (Option.some.inj hinside)
        exact lexFrom_close hclose hrest
      | trimmed => simp [inside, hclose] at hinside
    | none =>
      cases htoken : lexInner (cs.dropWhile isAsciiBlank) with
      | error e => simp [inside, hclose, htoken] at hinside
      | ok read =>
        obtain ⟨token, behind⟩ := read
        simp only [inside, hclose, htoken] at hinside
        obtain ⟨⟨tokens, behind⟩, htail, heq⟩ := Option.map_eq_some_iff.1 hinside
        obtain ⟨rfl, rfl⟩ := Prod.mk.inj heq
        exact lexFrom_token hmode hclose htoken (ih htail)

/-! ## Parts -/

/-- A text that is read as some tokens, whatever is behind it. -/
def Reads (s : String) (tokens : List Token) : Prop :=
  ∃ n ≤ 2 * s.toList.length, ∀ {fuel : Nat} {rest : List Char} {ts : List Token},
    lexFrom fuel (.text false) rest = .ok ts →
      lexFrom (fuel + n) (.text false) (s.toList ++ rest) = .ok (tokens ++ ts)

theorem Reads.append {s t : String} {ts us : List Token} (h : Reads s ts) (h' : Reads t us) :
    Reads (s ++ t) (ts ++ us) := by
  obtain ⟨n, hn, h⟩ := h
  obtain ⟨k, hk, h'⟩ := h'
  refine ⟨k + n, ?_, fun hrest => ?_⟩
  · rw [String.toList_append, List.length_append]
    omega
  · rw [String.toList_append, List.append_assoc, List.append_assoc, ← Nat.add_assoc]
    exact h (h' hrest)

/-- A tag that is read as some tokens, whatever is before it and behind it.  A tag may take the
blanks before it away, and is then written together with all of them. -/
def TagReads (trims : Bool) (tag : String) (tokens : List Token) : Prop :=
  ∃ n ≤ 2 * tag.toList.length, ∀ {cs : List Char}, '{' ∉ cs →
    (trims → cs.getLast?.any Text.isBlank = false) →
    ∀ {fuel : Nat} {rest : List Char} {ts : List Token},
      lexFrom fuel (.text false) rest = .ok ts →
        lexFrom (fuel + n) (.text false) (cs ++ (tag.toList ++ rest)) =
          .ok (dataToken cs (tokens ++ ts))

theorem dataToken_toList {t : String} (h : t ≠ "") (ts : List Token) :
    dataToken t.toList ts = .data t :: ts := by
  have hne : t.toList.isEmpty = false := by simpa using h
  rw [dataToken, hne, String.ofList_toList]
  rfl

namespace TagReads

variable {trims : Bool} {tag : String} {tokens : List Token}

/-- A tag behind a text. -/
theorem behind (h : TagReads trims tag tokens) {t : String} (hne : t ≠ "")
    (hplain : '{' ∉ t.toList) (htrims : trims → t.toList.getLast?.any Text.isBlank = false) :
    Reads (t ++ tag) (.data t :: tokens) := by
  obtain ⟨n, hn, hreads⟩ := h
  refine ⟨n, ?_, fun hrest => ?_⟩
  · rw [String.toList_append, List.length_append]
    omega
  · rw [String.toList_append, List.append_assoc, hreads hplain htrims hrest, dataToken_toList hne]
    rfl

/-- A tag with no text before it. -/
theorem bare (h : TagReads trims tag tokens) : Reads tag tokens := by
  obtain ⟨n, hn, hreads⟩ := h
  exact ⟨n, hn, hreads List.not_mem_nil fun _ => rfl⟩

/-- A value. -/
theorem value (htag : tag.toList = '{' :: '{' :: ' ' :: inner)
    (hlength : tokens.length ≤ inner.length)
    (hinside : ∀ rest, inside .value tokens.length (' ' :: inner ++ rest) = some (tokens, rest)) :
    TagReads false tag (.valueStart :: tokens) := by
  refine ⟨tokens.length + 1, ?_, ?_⟩
  · simp only [htag, List.length_cons]
    omega
  · intro cs hplain _ fuel rest ts hrest
    rw [htag, ← Nat.add_assoc]
    exact lexFrom_value hplain rfl (lexFrom_inside nofun (hinside _) hrest)

/-- A statement. -/
theorem block (htag : tag.toList = '{' :: '%' :: ' ' :: inner)
    (hlength : tokens.length ≤ inner.length)
    (hraw : ∀ rest, skipWordTag "raw" (' ' :: inner ++ rest) = none)
    (hinside : ∀ rest, inside .block tokens.length (' ' :: inner ++ rest) = some (tokens, rest)) :
    TagReads false tag (.blockStart :: tokens) := by
  refine ⟨tokens.length + 1, ?_, ?_⟩
  · simp only [htag, List.length_cons]
    omega
  · intro cs hplain _ fuel rest ts hrest
    rw [htag, ← Nat.add_assoc]
    exact lexFrom_block hplain rfl (hraw _) (lexFrom_inside nofun (hinside _) hrest)

/-- A statement that takes the blanks before it away, and is written together with them. -/
theorem trimmed (blanks : List Char)
    (htag : tag.toList = blanks ++ '{' :: '%' :: '-' :: inner)
    (hblanks : blanks.all Text.isBlank) (hlength : tokens.length ≤ inner.length)
    (hraw : ∀ rest, skipWordTag "raw" (inner ++ rest) = none)
    (hinside : ∀ rest, inside .block tokens.length (inner ++ rest) = some (tokens, rest)) :
    TagReads true tag (.blockStart :: tokens) := by
  refine ⟨tokens.length + 1, ?_, ?_⟩
  · simp only [htag, List.length_append, List.length_cons]
    omega
  · intro cs hplain hlast fuel rest ts hrest
    have hmargin : takeMargin ('-' :: (inner ++ rest)) = (.trimmed, inner ++ rest) := rfl
    have hblanks : ∀ c ∈ blanks, Text.isBlank c := List.all_eq_true.1 hblanks
    have hlast : ∀ c ∈ cs.getLast?, Text.isBlank c = false :=
      (Option.any_eq_false _ _).1 (hlast rfl)
    have hboth : '{' ∉ cs ++ blanks := by
      rw [List.mem_append, not_or]
      exact ⟨hplain, fun hmem => absurd (hblanks '{' hmem) (by decide)⟩
    have htrim : Text.dropTrailing Text.isBlank (cs ++ blanks) = cs := by
      rw [Text.dropTrailing_append hblanks, Text.dropTrailing_eq_self hlast]
    have hblock :=
      lexFrom_block hboth hmargin (hraw rest) (lexFrom_inside nofun (hinside rest) hrest)
    rw [if_pos rfl, htrim] at hblock
    rw [htag, List.append_assoc, ← List.append_assoc, ← Nat.add_assoc]
    exact hblock

end TagReads

/-- A template of parts, the text behind them, and a line break. -/
theorem read_eq_of_reads {s last : String} {tokens : List Token} (hparts : Reads s tokens)
    (hne : last ≠ "") (hplain : '{' ∉ last.toList) (hlast : last.toList.getLast? ≠ some '\r') :
    Token.read (s ++ last ++ "\n") = .ok (tokens ++ [.data last]) := by
  have hlastNe : last.toList ≠ [] := by simpa using hne
  have hdrop : dropFinalBreak (s ++ last ++ "\n").toList = s.toList ++ last.toList := by
    have hreturn : ¬(s.toList ++ last.toList).getLast? = some '\r' := by
      rwa [List.getLast?_append_of_ne_nil _ hlastNe]
    have hchars : (s ++ last ++ "\n").toList = s.toList ++ last.toList ++ ['\n'] := by simp
    simp only [dropFinalBreak, hchars, List.getLast?_concat, if_true, List.dropLast_concat,
      if_neg hreturn]
  obtain ⟨n, hn, hreads⟩ := hparts
  obtain ⟨fuel, hfuel⟩ : ∃ fuel, 2 * (s.toList ++ last.toList).length + 2 = fuel + 1 + n := by
    rw [List.length_append]
    exact ⟨2 * (s.toList.length + last.toList.length) + 1 - n, by omega⟩
  rw [Token.read, hdrop]
  simp only [hfuel]
  rw [hreads (lexFrom_last hplain), dataToken_toList hne]

end ObjectGateway.Template
