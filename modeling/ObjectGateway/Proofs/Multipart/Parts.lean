import Mathlib.Data.List.Infix
import ObjectGateway.Multipart

/-!
# Cutting a body into parts

A delimiter has no octet of a line break in it, so it cannot occur across one.  Hence the first
occurrence of a delimiter behind a part in which it does not occur is the one that ends the part,
and cutting a body at its delimiters undoes putting it together: `contents_parts`.
-/

namespace ObjectGateway.Multipart

variable {d : Bytes} {x : UInt8}

/-! ## The search for octets -/

theorem find?_append (h : d ≠ []) (rest : Bytes) : find? d (d ++ rest) = some 0 := by
  obtain ⟨b, tail, rfl⟩ := List.exists_cons_of_ne_nil h
  have hstart : (b :: tail).isPrefixOf (b :: (tail ++ rest)) = true :=
    List.isPrefixOf_iff_prefix.2 (List.prefix_append (b :: tail) rest)
  rw [List.cons_append, find?, if_neg (by simp), if_pos hstart]

theorem find?_cons_of_not_start {b : UInt8} {rest : Bytes} (h : ¬d <+: b :: rest) :
    find? d (b :: rest) = (find? d rest).map (· + 1) := by
  have hne : ¬d.isEmpty = true := fun hnil =>
    h (List.isEmpty_iff.1 hnil ▸ List.nil_prefix)
  rw [find?, if_neg hne, if_neg (fun hstart => h (List.isPrefixOf_iff_prefix.1 hstart))]

/-- Octets that start before an octet which they do not have end before it. -/
theorem prefix_of_prefix_append_cons {a rest : Bytes} (hx : x ∉ d) (h : d <+: a ++ x :: rest) :
    d <+: a := by
  have hbefore : a ++ [x] <+: a ++ x :: rest := ⟨rest, by simp⟩
  rcases List.prefix_or_prefix_of_prefix h hbefore with hshort | hlong
  · rcases List.prefix_concat_iff.1 hshort with rfl | hstart
    · exact absurd (List.mem_append_right a (List.mem_singleton_self x)) hx
    · exact hstart
  · exact absurd (hlong.subset (List.mem_append_right a (List.mem_singleton_self x))) hx

/-- Octets without an octet lie on one side of it. -/
theorem infix_of_infix_append_cons {a rest : Bytes} (hx : x ∉ d) (h : d <:+: a ++ x :: rest) :
    d <:+: a ∨ d <:+: rest := by
  induction a with
  | nil =>
    rcases List.infix_cons_iff.1 h with hstart | hinside
    · exact .inl (prefix_of_prefix_append_cons (a := []) hx hstart).isInfix
    · exact .inr hinside
  | cons b a ih =>
    rcases List.infix_cons_iff.1 h with hstart | hinside
    · exact .inl (prefix_of_prefix_append_cons (a := b :: a) hx hstart).isInfix
    · exact (ih hinside).imp_left fun ha => ha.trans (List.suffix_cons b a).isInfix

/-- The search goes on behind an octet that is not among those which are looked for. -/
theorem find?_append_cons {a : Bytes} (hx : x ∉ d) (ha : ¬d <:+: a) (rest : Bytes) :
    find? d (a ++ x :: rest) = (find? d rest).map (· + (a.length + 1)) := by
  induction a with
  | nil =>
    refine find?_cons_of_not_start fun hstart => ha ?_
    exact (prefix_of_prefix_append_cons (a := []) hx hstart).isInfix
  | cons b a ih =>
    have hfirst : ¬d <+: b :: (a ++ x :: rest) := fun hstart =>
      ha (prefix_of_prefix_append_cons (a := b :: a) hx hstart).isInfix
    have hrest : ¬d <:+: a := fun hinside => ha (hinside.trans (List.suffix_cons b a).isInfix)
    rw [List.cons_append, find?_cons_of_not_start hfirst, ih hrest, Option.map_map]
    rfl

/-- What is looked for does not start among octets that lack its first one. -/
theorem find?_append_of_notMem {a : Bytes} (hx : x ∉ a) (rest : Bytes) :
    find? (x :: d) (a ++ rest) = (find? (x :: d) rest).map (· + a.length) := by
  induction a with
  | nil => simp
  | cons b a ih =>
    rw [List.mem_cons, not_or] at hx
    have hfirst : ¬x :: d <+: b :: (a ++ rest) := fun hstart =>
      hx.1 (List.cons_prefix_cons.1 hstart).1
    rw [List.cons_append, find?_cons_of_not_start hfirst, ih hx.2, Option.map_map]
    rfl

section Occurrences

variable {body : Bytes} {start n : Nat}

/-- Octets stand in a body at an offset. -/
def OccursAt (d body : Bytes) (n : Nat) : Prop := d <+: body.drop n

theorem OccursAt.le (h : OccursAt d body n) (hd : d ≠ []) : n + d.length ≤ body.length := by
  have hlength : d.length ≤ (body.drop n).length := List.IsPrefix.length_le h
  have hpos := List.length_pos_iff.2 hd
  rw [List.length_drop] at hlength
  omega

theorem occursAt_drop_iff : OccursAt d (body.drop start) n ↔ OccursAt d body (start + n) := by
  rw [OccursAt, OccursAt, List.drop_drop]

/-- The search finds the first occurrence. -/
theorem find?_eq_some_iff :
    find? d body = some n ↔ d ≠ [] ∧ OccursAt d body n ∧ ∀ m < n, ¬OccursAt d body m := by
  induction body generalizing n with
  | nil =>
    refine iff_of_false (by simp [find?]) ?_
    rintro ⟨hd, hoccurs, -⟩
    exact hd (by simpa [OccursAt] using hoccurs)
  | cons b rest ih =>
    by_cases hd : d = []
    · simp [find?, hd]
    by_cases hstart : d <+: b :: rest
    · have hfirst : find? d (b :: rest) = some 0 := by
        obtain ⟨tail, htail⟩ := hstart
        rw [← htail, find?_append hd]
      have hzero : OccursAt d (b :: rest) 0 := hstart
      rw [hfirst, Option.some.injEq]
      constructor
      · rintro rfl
        exact ⟨hd, hzero, by simp⟩
      · rintro ⟨-, -, hnone⟩
        by_contra hne
        exact hnone 0 (by omega) hzero
    · have hzero : ¬OccursAt d (b :: rest) 0 := hstart
      rw [find?_cons_of_not_start hstart, Option.map_eq_some_iff]
      constructor
      · rintro ⟨k, hk, rfl⟩
        obtain ⟨-, hoccurs, hnone⟩ := ih.1 hk
        refine ⟨hd, hoccurs, fun m hm => ?_⟩
        cases m with
        | zero => exact hzero
        | succ m => exact hnone m (by omega)
      · rintro ⟨-, hoccurs, hnone⟩
        cases n with
        | zero => exact absurd hoccurs hzero
        | succ k => exact ⟨k, ih.2 ⟨hd, hoccurs, fun m hm => hnone (m + 1) (by omega)⟩, rfl⟩

theorem isPrefixOf_drop_iff : d.isPrefixOf (body.drop n) = true ↔ OccursAt d body n :=
  List.isPrefixOf_iff_prefix

end Occurrences

/-! ## Parts -/

/-- Octets that no line break cuts. -/
structure IsSolid (d : Bytes) : Prop where
  nonempty : d ≠ []
  noReturn : (13 : UInt8) ∉ d
  noFeed : (10 : UInt8) ∉ d

theorem IsSolid.not_infix_nil (hd : IsSolid d) : ¬d <:+: [] := fun h =>
  hd.nonempty (List.infix_nil.1 h)

theorem not_infix_append_lineBreak {a rest : Bytes} (hd : IsSolid d) (ha : ¬d <:+: a)
    (hrest : ¬d <:+: rest) : ¬d <:+: a ++ lineBreak ++ rest := by
  have hbreak : a ++ lineBreak ++ rest = a ++ 13 :: ([] ++ 10 :: rest) := by simp [lineBreak]
  rw [hbreak]
  intro h
  rcases infix_of_infix_append_cons hd.noReturn h with h | h
  · exact ha h
  rcases infix_of_infix_append_cons hd.noFeed h with h | h
  · exact hd.not_infix_nil h
  · exact hrest h

/-- The delimiter behind a part and a line break is found there. -/
theorem find?_delimiter {content : Bytes} (hd : IsSolid d) (hcontent : ¬d <:+: content)
    (tail : Bytes) :
    find? d (content ++ lineBreak ++ d ++ tail) = some (content.length + 2) := by
  have hbreak : content ++ lineBreak ++ d ++ tail = content ++ 13 :: ([] ++ 10 :: (d ++ tail)) := by
    simp [lineBreak]
  rw [hbreak, find?_append_cons hd.noReturn hcontent,
    find?_append_cons hd.noFeed hd.not_infix_nil, find?_append hd.nonempty]
  simp
  omega

theorem partsFrom_hyphens (d : Bytes) (offset : Nat) (rest : Bytes) :
    partsFrom d offset (hyphens ++ rest) = [] := by
  have hstart : hyphens.isPrefixOf (hyphens ++ rest) = true :=
    List.isPrefixOf_iff_prefix.2 (List.prefix_append _ _)
  rw [partsFrom, if_pos hstart]

/-- What follows the next delimiter is shorter, so the search for parts goes on with it. -/
theorem partsFrom_of_found {n : Nat} {rest : Bytes} (offset : Nat)
    (hhyphens : hyphens.isPrefixOf rest = false)
    (hfind : find? d (rest.drop (leadingBreak rest)) = some n) :
    partsFrom d offset rest =
      let start := offset + leadingBreak rest
      let content := rest.drop (leadingBreak rest)
      let stop := start + n - trailingBreak (content.take n)
      let later := partsFrom d (start + n + d.length) (content.drop (n + d.length))
      if start < stop then ⟨start, stop⟩ :: later else later := by
  obtain ⟨hd, hoccurs, -⟩ := find?_eq_some_iff.1 hfind
  have hfits := hoccurs.le hd
  have hpos := List.length_pos_iff.2 hd
  have hshorter : ((rest.drop (leadingBreak rest)).drop (n + d.length)).length < rest.length := by
    rw [List.length_drop] at hfits ⊢
    rw [List.length_drop]
    omega
  rw [partsFrom, if_neg (by rw [hhyphens]; exact Bool.false_ne_true)]
  simp only [hfind, dif_pos hshorter]

/-- A part lies between the line breaks, and the next one begins behind its delimiter. -/
theorem partsFrom_lineBreak {content : Bytes} (hd : IsSolid d) (hcontent : ¬d <:+: content)
    (hne : content ≠ []) (offset : Nat) (tail : Bytes) :
    partsFrom d offset (lineBreak ++ content ++ lineBreak ++ d ++ tail) =
      ⟨offset + 2, offset + 2 + content.length⟩ ::
        partsFrom d (offset + 2 + content.length + 2 + d.length) tail := by
  have hhyphens : hyphens.isPrefixOf (lineBreak ++ (content ++ lineBreak ++ d ++ tail)) = false :=
    rfl
  -- The line break before the part is passed over, and the one behind it is left out.
  have hleading : leadingBreak (lineBreak ++ (content ++ lineBreak ++ d ++ tail)) = 2 :=
    if_pos (List.isPrefixOf_iff_prefix.2 (List.prefix_append _ _))
  have hdrop : (lineBreak ++ (content ++ lineBreak ++ d ++ tail)).drop 2 =
      content ++ lineBreak ++ d ++ tail := rfl
  have htake : (content ++ lineBreak ++ d ++ tail).take (content.length + 2) =
      content ++ lineBreak := by
    rw [List.append_assoc]
    exact List.take_left' (by simp [lineBreak])
  have htrailing : trailingBreak (content ++ lineBreak) = 2 :=
    if_pos (List.isSuffixOf_iff_suffix.2 (List.suffix_append _ _))
  have hlater : (content ++ lineBreak ++ d ++ tail).drop (content.length + 2 + d.length) = tail :=
    List.drop_left' (by simp [lineBreak]; omega)
  have hfound := partsFrom_of_found offset hhyphens
    (by rw [hleading, hdrop]; exact find?_delimiter hd hcontent tail)
  have hstop : offset + 2 + (content.length + 2) - 2 = offset + 2 + content.length := by omega
  have hoffset : offset + 2 + (content.length + 2) + d.length =
      offset + 2 + content.length + 2 + d.length := by omega
  have hsome : offset + 2 < offset + 2 + content.length := by
    have := List.length_pos_iff.2 hne
    omega
  rw [show lineBreak ++ content ++ lineBreak ++ d ++ tail =
    lineBreak ++ (content ++ lineBreak ++ d ++ tail) by simp only [List.append_assoc]]
  rw [hfound]
  simp only [hleading, hdrop, htake, htrailing, hlater, hstop, hoffset, if_pos hsome]

theorem Part.content_append (before content after : Bytes) :
    Part.content ⟨before.length, before.length + content.length⟩ (before ++ content ++ after) =
      content := by
  rw [Part.content, List.take_left' (by simp), List.drop_left]

/-- The body whose parts have these contents. -/
def body (d : Bytes) (contents : List Bytes) : Bytes :=
  (contents.flatMap fun content => d ++ lineBreak ++ content ++ lineBreak) ++ d ++ hyphens ++
    lineBreak

/-- What stands behind the first delimiter of a body. -/
def behind (d : Bytes) : List Bytes → Bytes
  | [] => hyphens ++ lineBreak
  | content :: rest => lineBreak ++ content ++ lineBreak ++ d ++ behind d rest

theorem body_eq (d : Bytes) (contents : List Bytes) : body d contents = d ++ behind d contents := by
  unfold body
  induction contents with
  | nil => simp [behind]
  | cons content rest ih =>
    rw [List.flatMap_cons, behind]
    simp only [List.append_assoc] at ih ⊢
    rw [ih]

/-- The induction is on the parts that are left; `before` is what has been read. -/
theorem contents_partsFrom {contents : List Bytes} (hd : IsSolid d)
    (hcontents : ∀ content ∈ contents, content ≠ [] ∧ ¬d <:+: content) (before : Bytes) :
    (partsFrom d before.length (behind d contents)).map (·.content (before ++ behind d contents)) =
      contents := by
  induction contents generalizing before with
  | nil =>
    rw [behind, partsFrom_hyphens]
    rfl
  | cons content rest ih =>
    obtain ⟨hne, hcontent⟩ := hcontents content List.mem_cons_self
    have hrest := ih (fun c hc => hcontents c (List.mem_cons_of_mem content hc))
      (before ++ lineBreak ++ content ++ lineBreak ++ d)
    have hoffset : (before ++ lineBreak ++ content ++ lineBreak ++ d).length =
        before.length + 2 + content.length + 2 + d.length := by
      simp [lineBreak]
      omega
    have hbody : before ++ behind d (content :: rest) =
        before ++ lineBreak ++ content ++ lineBreak ++ d ++ behind d rest := by
      simp only [behind, List.append_assoc]
    have hfirst : Part.content ⟨before.length + 2, before.length + 2 + content.length⟩
        (before ++ lineBreak ++ content ++ lineBreak ++ d ++ behind d rest) = content := by
      have hstart : (before ++ lineBreak).length = before.length + 2 := by simp [lineBreak]
      have hmiddle := Part.content_append (before ++ lineBreak) content
        (lineBreak ++ d ++ behind d rest)
      simp only [hstart, List.append_assoc] at hmiddle ⊢
      exact hmiddle
    rw [hoffset] at hrest
    rw [hbody, behind, partsFrom_lineBreak hd hcontent hne, List.map_cons, hfirst, hrest]

/-- Cutting a body at its delimiters gives the parts from which it was put together. -/
theorem contents_parts {contents : List Bytes} (hd : IsSolid d)
    (hcontents : ∀ content ∈ contents, content ≠ [] ∧ ¬d <:+: content) :
    (parts d (body d contents)).map (·.content (body d contents)) = contents := by
  have hparts : parts d (body d contents) = partsFrom d d.length (behind d contents) := by
    rw [body_eq, parts, find?_append hd.nonempty]
    simp only [Nat.zero_add, List.drop_left]
  rw [hparts, body_eq]
  exact contents_partsFrom hd hcontents d

end ObjectGateway.Multipart
