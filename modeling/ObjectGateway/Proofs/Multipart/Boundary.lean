import ObjectGateway.Http.Header
import ObjectGateway.Proofs.Multipart.Parts
import ObjectGateway.Proofs.Text.Split
import ObjectGateway.Proofs.Text.Utf8

/-!
# Boundaries

The boundaries that clients put between the parts of a form, and how they are read back from the
content types that declare them.  They are printed in ASCII, so a header carries them as they are
and no line break cuts the delimiter that is made of one.
-/

namespace ObjectGateway.Multipart

/-- The characters that may stand in a boundary. -/
def isBoundaryChar (c : Char) : Bool :=
  (('0' ≤ c && c ≤ '9') || ('A' ≤ c && c ≤ 'Z') || ('a' ≤ c && c ≤ 'z')) ||
    "'()+_,-./:=? ".toList.contains c

/-- A boundary between the parts of a form. -/
structure Boundary where
  text : String
  nonempty : text ≠ ""
  length_le : text.length ≤ 70
  chars : text.toList.all isBoundaryChar = true
  noSpaceAtEnd : text.toList.getLast? ≠ some ' '

/-- Content types that declare a boundary.  The quotes may be left out where it has no space. -/
inductive Boundary.Declared (b : Boundary) : String → Prop
  | quoted : b.Declared ("multipart/form-data; boundary=\"" ++ b.text ++ "\"")
  | bare (h : ' ' ∉ b.text.toList) : b.Declared ("multipart/form-data; boundary=" ++ b.text)

section Reading

variable {b : Boundary} {c : Char} {value : String}

/-- The characters of a boundary are printed in ASCII, and end neither a parameter nor its value. -/
theorem isBoundaryChar_printed (h : isBoundaryChar c = true) :
    32 ≤ c.toNat ∧ c.toNat < 127 ∧ c ≠ ';' ∧ c ≠ '"' := by
  rw [isBoundaryChar, Bool.or_eq_true] at h
  rcases h with hletter | hmark
  · have hends : c ≠ ';' ∧ c ≠ '"' := by
      constructor <;> (rintro rfl; exact absurd hletter (by decide))
    simp only [Bool.or_eq_true, Bool.and_eq_true, decide_eq_true_eq, Char.le_def,
      UInt32.le_iff_toNat_le] at hletter
    have hcode : (((48 ≤ c.toNat ∧ c.toNat ≤ 57) ∨ (65 ≤ c.toNat ∧ c.toNat ≤ 90)) ∨
        (97 ≤ c.toNat ∧ c.toNat ≤ 122)) := hletter
    exact ⟨by omega, by omega, hends⟩
  · have hmarks : ("'()+_,-./:=? ".toList.all fun m =>
        decide (32 ≤ m.toNat ∧ m.toNat < 127 ∧ m ≠ ';' ∧ m ≠ '"')) = true := by decide
    exact of_decide_eq_true (List.all_eq_true.1 hmarks c (List.contains_iff_mem.1 hmark))

theorem Boundary.printed (b : Boundary) (h : c ∈ b.text.toList) :
    32 ≤ c.toNat ∧ c.toNat < 127 ∧ c ≠ ';' ∧ c ≠ '"' :=
  isBoundaryChar_printed (List.all_eq_true.1 b.chars c h)

theorem isBlank_of_printed (hlow : 32 < c.toNat) (hhigh : c.toNat < 127) :
    Text.isBlank c = false := by
  have hval : c.val.toNat = c.toNat := rfl
  simp only [Text.isBlank, hval, Bool.or_eq_false_iff, Bool.and_eq_false_iff,
    decide_eq_false_iff_not, beq_eq_false_iff_ne]
  omega

theorem Boundary.isSolid (b : Boundary) : IsSolid (delimiter b.text) := by
  have hnone : ∀ {c : Char}, c.toNat < 32 → c.toNat.toUInt8 ∉ Text.Utf8.encode b.text := by
    intro c hc hmem
    have hchar := (Text.Utf8.mem_encodeList_iff (by omega)).1 hmem
    have hprinted := b.printed hchar
    omega
  refine ⟨by simp [delimiter, hyphens], fun h => ?_, fun h => ?_⟩
  · exact hnone (c := '\r') (by decide) ((List.mem_append.1 h).resolve_left (by decide))
  · exact hnone (c := '\n') (by decide) ((List.mem_append.1 h).resolve_left (by decide))

/-- Printed ASCII can be read in a header. -/
theorem valueText?_encode {s : String} (h : ∀ c ∈ s.toList, 32 ≤ c.toNat ∧ c.toNat < 127) :
    Http.valueText? (Text.Utf8.encode s) = some s := by
  have hbytes : Text.Utf8.encode s = s.toList.map fun c => c.toNat.toUInt8 :=
    Text.Utf8.encodeList_of_ascii fun c hc => by
      have := h c hc
      omega
  have hcode : ∀ c ∈ s.toList, c.toNat.toUInt8.toNat = c.toNat := fun c hc =>
    Text.Utf8.toNat_toUInt8 (by have := h c hc; omega)
  have hall : (Text.Utf8.encode s).all Http.isTextByte = true := by
    rw [hbytes, List.all_map, List.all_eq_true]
    intro c hc
    have := h c hc
    simp only [Function.comp_apply, Http.isTextByte, Bool.or_eq_true, Bool.and_eq_true,
      decide_eq_true_eq, UInt8.le_iff_toNat_le, UInt8.lt_iff_toNat_lt, hcode c hc]
    exact .inr this
  have hback : s.toList.map ((fun b : UInt8 => Char.ofNat b.toNat) ∘ fun c => c.toNat.toUInt8) =
      s.toList.map id := List.map_congr_left fun c hc => by
    rw [Function.comp_apply, hcode c hc, Char.ofNat_toNat, id]
  rw [Http.valueText?, if_pos hall, hbytes, List.map_map, hback, List.map_id, String.ofList_toList]

theorem Boundary.Declared.printed (h : b.Declared value) :
    ∀ c ∈ value.toList, 32 ≤ c.toNat ∧ c.toNat < 127 := by
  have htext : ∀ c ∈ b.text.toList, 32 ≤ c.toNat ∧ c.toNat < 127 := fun c hc =>
    ⟨(b.printed hc).1, (b.printed hc).2.1⟩
  have hall : ("multipart/form-data; boundary=\"".toList.all fun c =>
      decide (32 ≤ c.toNat ∧ c.toNat < 127)) = true := by decide
  have hstart : ∀ c ∈ "multipart/form-data; boundary=\"".toList, 32 ≤ c.toNat ∧ c.toNat < 127 :=
    fun c hc => of_decide_eq_true (List.all_eq_true.1 hall c hc)
  intro c hc
  cases h with
  | quoted =>
    simp only [String.toList_append, List.mem_append] at hc
    rcases hc with (hc | hc) | hc
    · exact hstart c hc
    · exact htext c hc
    · rw [List.mem_singleton.1 hc]
      decide
  | bare hbare =>
    simp only [String.toList_append, List.mem_append] at hc
    rcases hc with hc | hc
    · exact hstart c (List.mem_append_left ['"'] hc)
    · exact htext c hc

/-- The boundary is the second piece of the content type, without the quotes around it. -/
theorem readBoundary_append {v : List Char} (hpiece : ';' ∉ v)
    (hlast : ∀ c ∈ v.getLast?, Text.isBlank c = false)
    (hquotes : Text.trimList (· == '"') v = b.text.toList) :
    readBoundary (String.ofList ("multipart/form-data; boundary=".toList ++ v)) = .ok b.text := by
  have hsplit : Text.splitOn ';' ("multipart/form-data; boundary=".toList ++ v) =
      ["multipart/form-data".toList, ' ' :: ("boundary=".toList ++ v)] := by
    have hpieces : ∀ piece ∈ [' ' :: ("boundary=".toList ++ v)], ';' ∉ piece := by
      simp [hpiece]
    have hbefore : ';' ∉ "multipart/form-data".toList := by decide
    have hsplit := Text.splitOn_flatMap hbefore hpieces
    simpa using hsplit
  -- A boundary may begin with blanks, but not end with one, so only the blank before it is dropped.
  have htrim : trim (' ' :: ("boundary=".toList ++ v)) = "boundary=".toList ++ v := by
    rw [trim, Text.trimList_cons (by decide)]
    refine Text.trimList_eq_self ?_ ?_
    · rintro c ⟨⟩
      decide
    · intro c hc
      rw [List.getLast?_append] at hc
      cases hend : v.getLast? with
      | none =>
        rw [hend] at hc
        cases hc
        decide
      | some last =>
        rw [hend] at hc
        cases hc
        exact hlast c hend
  have hsecond : boundaryOf? (' ' :: ("boundary=".toList ++ v)) = some b.text := by
    rw [boundaryOf?, htrim, Text.stripStart?_eq_some_iff.2 rfl, Option.map_some, hquotes,
      String.ofList_toList]
  have hfirst : boundaryOf? "multipart/form-data".toList = none := by decide
  have hstart : startsIgnoringCase "multipart/form-data"
      ("multipart/form-data; boundary=".toList ++ v) = true :=
    List.isPrefixOf_iff_prefix.2 ⟨("; boundary=".toList ++ v).map Char.toLower, rfl⟩
  have hempty : b.text.isEmpty = false := by
    rw [Bool.eq_false_iff]
    exact fun h => b.nonempty (String.isEmpty_iff.1 h)
  rw [readBoundary, String.toList_ofList, if_neg (by rw [hstart]; exact Bool.false_ne_true), hsplit]
  simp only [List.findSome?_cons, hfirst, hsecond, hempty, Bool.false_eq_true, if_false]

theorem readBoundary_of_declared (h : b.Declared value) : readBoundary value = .ok b.text := by
  have hpiece : ';' ∉ b.text.toList := fun hmem =>
    (b.printed hmem).2.2.1 rfl
  have hquote : ∀ c ∈ b.text.toList, (c == '"') = false := fun c hc =>
    beq_eq_false_iff_ne.2 (b.printed hc).2.2.2
  have hhead : ∀ c ∈ b.text.toList.head?, (c == '"') = false := fun c hc =>
    hquote c (List.mem_of_mem_head? hc)
  have hlast : ∀ c ∈ b.text.toList.getLast?, (c == '"') = false := fun c hc =>
    hquote c (List.mem_of_mem_getLast? hc)
  cases h with
  | quoted =>
    have hvalue : "multipart/form-data; boundary=\"" ++ b.text ++ "\"" =
        String.ofList ("multipart/form-data; boundary=".toList ++
          ('"' :: b.text.toList ++ ['"'])) := by
      refine String.toList_inj.1 ?_
      simp
    rw [hvalue]
    refine readBoundary_append (by simp [hpiece]) ?_ ?_
    · rw [List.getLast?_concat]
      rintro c ⟨⟩
      decide
    · have hsome : b.text.toList ≠ [] := fun h => b.nonempty (String.toList_eq_nil_iff.1 h)
      have hfront : ∀ c ∈ (b.text.toList ++ ['"']).head?, (c == '"') = false := by
        rwa [List.head?_append_of_ne_nil _ hsome]
      -- One quote is dropped at each end, since the boundary has none of its own.
      rw [List.cons_append, Text.trimList_cons rfl, Text.trimList, Text.dropWhile_eq_self hfront,
        Text.dropTrailing_append_singleton rfl, Text.dropTrailing_eq_self hlast]
  | bare hbare =>
    have hvalue : "multipart/form-data; boundary=" ++ b.text =
        String.ofList ("multipart/form-data; boundary=".toList ++ b.text.toList) := by
      rw [String.ofList_append, String.ofList_toList, String.ofList_toList]
    rw [hvalue]
    refine readBoundary_append hpiece (fun c hc => ?_) (Text.trimList_eq_self hhead hlast)
    have hmem := List.mem_of_mem_getLast? hc
    obtain ⟨hlow, hhigh, -⟩ := b.printed hmem
    refine isBlank_of_printed (Nat.lt_of_le_of_ne hlow fun hspace => hbare ?_) hhigh
    have hc : c = ' ' := by
      rw [← Char.ofNat_toNat c, ← hspace]
    exact hc ▸ hmem

end Reading

end ObjectGateway.Multipart
