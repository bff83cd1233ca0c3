import ObjectGateway.Proofs.Multipart.Parts

/-!
# Scanning arbitrary bodies

Nothing is known of the body of a request: it may be cut off anywhere, have no delimiter, or end
inside one.  Here a body is scanned by a cursor, turn by turn, and whatever is looked at is cut out
of the body between two offsets, which fails unless both are within it.  No turn fails (`turn?_eq`),
each turn but the last one moves the cursor behind a further delimiter (`between_of_turn?`), and so
every scan ends (`exists_scans`) with the parts of the body (`Scans.eq_parts`).  The main statement,
`scanned_within_body`, says where these lie and that nothing else is looked at to read them.
-/

namespace ObjectGateway.Multipart

variable {d body : Bytes} {cursor start n : Nat} {p : Part}

/-! ## One turn of a scan -/

/-- The octets of a body from one offset up to another; it fails unless both are within the body. -/
def slice? (body : Bytes) (start stop : Nat) : Option Bytes :=
  if start ≤ stop ∧ stop ≤ body.length then some ((body.take stop).drop start) else none

/-- What a turn comes to: it is the last one, or there are octets up to the next delimiter. -/
inductive Turn
  | last
  | next (octets : Part) (delimiterAt : Nat)

/-- A turn of a scan whose cursor is behind a delimiter. -/
def turn? (d body : Bytes) (cursor : Nat) : Option Turn := do
  let rest ← slice? body cursor body.length
  if hyphens.isPrefixOf rest then
    return .last
  let start := cursor + leadingBreak rest
  let content ← slice? body start body.length
  match find? d content with
  | none => return .last
  | some n =>
    -- A line break that begins before the octets is not at their end.
    if 2 ≤ n then
      let before ← slice? body 0 (start + n)
      return .next ⟨start, start + n - trailingBreak before⟩ (start + n)
    else
      return .next ⟨start, start + n⟩ (start + n)

theorem slice?_of_le {stop : Nat} (hstart : start ≤ stop) (hstop : stop ≤ body.length) :
    slice? body start stop = some ((body.take stop).drop start) :=
  if_pos ⟨hstart, hstop⟩

theorem slice?_to_end (h : start ≤ body.length) :
    slice? body start body.length = some (body.drop start) := by
  rw [slice?_of_le h le_rfl, List.take_length]

theorem le_of_turn? {t : Turn} (h : turn? d body cursor = some t) : cursor ≤ body.length := by
  by_contra hbeyond
  have hnone : slice? body cursor body.length = none := if_neg fun hle => hbeyond hle.1
  rw [turn?, hnone] at h
  cases h

theorem start_le_length (h : cursor ≤ body.length) :
    cursor + leadingBreak (body.drop cursor) ≤ body.length := by
  rw [leadingBreak]
  split
  next hbreak =>
    have hoccurs : OccursAt lineBreak body cursor := isPrefixOf_drop_iff.1 hbreak
    exact hoccurs.le (List.cons_ne_nil _ _)
  next => exact h

/-- The line break that the octets between two delimiters end with is looked for in all of the body
before the second one.  So it is theirs only if there are two of them. -/
theorem trailingBreak_take (h : 2 ≤ n) (hstop : start + n ≤ body.length) :
    trailingBreak (body.take (start + n)) = trailingBreak ((body.drop start).take n) := by
  have hsuffix : (body.drop start).take n <:+ body.take (start + n) := by
    have hdrop : (body.take (start + n)).drop start = (body.drop start).take n := by
      rw [List.drop_take, Nat.add_sub_cancel_left]
    exact hdrop ▸ List.drop_suffix _ _
  have hlong : lineBreak.length ≤ ((body.drop start).take n).length := by
    simp only [lineBreak, List.length_cons, List.length_nil, List.length_take, List.length_drop]
    omega
  have hiff : lineBreak <:+ body.take (start + n) ↔ lineBreak <:+ (body.drop start).take n := by
    constructor
    · intro hall
      exact List.suffix_of_suffix_length_le hall hsuffix hlong
    · intro hpart
      exact hpart.trans hsuffix
  simp only [trailingBreak, List.isSuffixOf_iff_suffix, hiff]

theorem trailingBreak_of_short {bs : Bytes} (h : bs.length < 2) : trailingBreak bs = 0 := by
  refine if_neg fun hend => ?_
  have hlength := (List.isSuffixOf_iff_suffix.1 hend).length_le
  simp only [lineBreak, List.length_cons, List.length_nil] at hlength
  omega

/-- No turn fails whose cursor is within the body. -/
theorem turn?_eq (h : cursor ≤ body.length) :
    turn? d body cursor = some (
      if hyphens.isPrefixOf (body.drop cursor) then .last
      else
        let start := cursor + leadingBreak (body.drop cursor)
        match find? d (body.drop start) with
        | none => .last
        | some n =>
          .next ⟨start, start + n - trailingBreak ((body.drop start).take n)⟩ (start + n)) := by
  have hstart := start_le_length h
  simp only [turn?, slice?_to_end h, slice?_to_end hstart, Option.bind_eq_bind, Option.bind_some]
  split
  next => rfl
  next =>
    cases hfind : find? d (body.drop (cursor + leadingBreak (body.drop cursor))) with
    | none => rfl
    | some n =>
      obtain ⟨hd, hoccurs, -⟩ := find?_eq_some_iff.1 hfind
      have hstop := (occursAt_drop_iff.1 hoccurs).le hd
      by_cases hlong : 2 ≤ n
      · simp only [if_pos hlong, slice?_of_le (Nat.zero_le _) (Nat.le_of_add_right_le hstop),
          List.drop_zero, Option.bind_some, trailingBreak_take hlong (Nat.le_of_add_right_le hstop)]
        rfl
      · have hshort : trailingBreak ((body.drop
            (cursor + leadingBreak (body.drop cursor))).take n) = 0 :=
          trailingBreak_of_short (by rw [List.length_take]; omega)
        simp only [if_neg hlong, hshort, Nat.sub_zero]
        rfl

/-- A turn is the last one behind hyphens, and where no delimiter follows. -/
theorem ended_of_last (h : turn? d body cursor = some .last) :
    hyphens.isPrefixOf (body.drop cursor) = true ∨
      find? d (body.drop (cursor + leadingBreak (body.drop cursor))) = none := by
  rw [turn?_eq (le_of_turn? h)] at h
  split at h
  next hhyphens => exact .inl hhyphens
  next =>
    cases hfind : find? d (body.drop (cursor + leadingBreak (body.drop cursor))) with
    | none => exact .inr rfl
    | some k => simp [hfind] at h

/-- Any other turn goes on to the next delimiter. -/
theorem exists_of_next (h : turn? d body cursor = some (.next p n)) :
    hyphens.isPrefixOf (body.drop cursor) = false ∧
      p.start = cursor + leadingBreak (body.drop cursor) ∧
      ∃ k, find? d (body.drop p.start) = some k ∧ p.start + k = n ∧
        p.stop = n - trailingBreak ((body.drop p.start).take k) := by
  rw [turn?_eq (le_of_turn? h)] at h
  split at h
  next => cases h
  next hhyphens =>
    cases hfind : find? d (body.drop (cursor + leadingBreak (body.drop cursor))) with
    | none => simp [hfind] at h
    | some k =>
      simp only [hfind, Option.some.injEq, Turn.next.injEq] at h
      obtain ⟨rfl, rfl⟩ := h
      exact ⟨Bool.eq_false_iff.2 hhyphens, rfl, k, hfind, rfl, rfl⟩

/-! ## What a turn finds -/

/-- The octets `p` lie between a delimiter that ends at `cursor` and the next one, which begins at
`n`; a line break at either end of them is left out. -/
structure Between (d body : Bytes) (cursor : Nat) (p : Part) (n : Nat) : Prop where
  begins : OccursAt lineBreak body cursor ∧ p.start = cursor + 2 ∨
    ¬OccursAt lineBreak body cursor ∧ p.start = cursor
  start_le : p.start ≤ p.stop
  ends : OccursAt lineBreak body p.stop ∧ p.stop + 2 = n ∨
    ¬lineBreak <:+ p.content body ∧ p.stop = n
  delimiter : OccursAt d body n
  first : ∀ m, p.start ≤ m → m < n → ¬OccursAt d body m

/-- The line break at the start of octets is passed over. -/
theorem begins_of_start (h : p.start = cursor + leadingBreak (body.drop cursor)) :
    OccursAt lineBreak body cursor ∧ p.start = cursor + 2 ∨
      ¬OccursAt lineBreak body cursor ∧ p.start = cursor := by
  rw [leadingBreak] at h
  split at h
  next hbreak => exact .inl ⟨isPrefixOf_drop_iff.1 hbreak, h⟩
  next hbreak => exact .inr ⟨fun hoccurs => hbreak (isPrefixOf_drop_iff.2 hoccurs), h⟩

/-- The line break at the end of octets is left out, if it does not begin before them. -/
theorem ends_of_stop {k : Nat} (hfits : p.start + k ≤ body.length)
    (h : p.stop = p.start + k - trailingBreak ((body.drop p.start).take k)) :
    p.start ≤ p.stop ∧ (OccursAt lineBreak body p.stop ∧ p.stop + 2 = p.start + k ∨
      ¬lineBreak <:+ p.content body ∧ p.stop = p.start + k) := by
  rw [trailingBreak] at h
  split at h
  next hbreak =>
    -- What is before the line break ends at the part's end, two octets before the delimiter.
    obtain ⟨before, hbefore⟩ := List.isSuffixOf_iff_suffix.1 hbreak
    have hlength := congrArg List.length hbefore
    simp only [List.length_append, List.length_take, List.length_drop, lineBreak, List.length_cons,
      List.length_nil] at hlength
    refine ⟨by omega, .inl ⟨?_, by omega⟩⟩
    have hdrop : (body.drop p.start).drop before.length =
        lineBreak ++ (body.drop p.start).drop k := by
      conv_lhs => rw [← List.take_append_drop k (body.drop p.start), ← hbefore]
      rw [List.append_assoc, List.drop_left]
    have hstop : p.start + before.length = p.stop := by omega
    rw [List.drop_drop, hstop] at hdrop
    exact ⟨_, hdrop.symm⟩
  next hbreak =>
    have hcontent : p.content body = (body.drop p.start).take k := by
      rw [Part.content, h, Nat.sub_zero, List.drop_take, Nat.add_sub_cancel_left]
    refine ⟨by omega, .inr ⟨fun hend => hbreak ?_, by omega⟩⟩
    exact List.isSuffixOf_iff_suffix.2 (hcontent ▸ hend)

/-- A turn that is not the last one finds the next delimiter and what lies before it. -/
theorem between_of_turn? (h : turn? d body cursor = some (.next p n)) :
    Between d body cursor p n := by
  obtain ⟨-, hstart, k, hfind, rfl, hstop⟩ := exists_of_next h
  obtain ⟨hd, hoccurs, hnone⟩ := find?_eq_some_iff.1 hfind
  have hdelimiter : OccursAt d body (p.start + k) := occursAt_drop_iff.1 hoccurs
  obtain ⟨hle, hends⟩ := ends_of_stop (Nat.le_of_add_right_le (hdelimiter.le hd)) hstop
  refine ⟨begins_of_start hstart, hle, hends, hdelimiter, fun m hm hbefore hat => ?_⟩
  obtain ⟨i, rfl⟩ := Nat.exists_eq_add_of_le hm
  exact hnone i (by omega) (occursAt_drop_iff.2 hat)

theorem Between.cursor_le (h : Between d body cursor p n) : cursor ≤ p.start := by
  rcases h.begins with ⟨-, hstart⟩ | ⟨-, hstart⟩ <;> omega

theorem Between.stop_le (h : Between d body cursor p n) : p.stop ≤ n := by
  rcases h.ends with ⟨-, hstop⟩ | ⟨-, hstop⟩ <;> omega

/-- The parts found from a cursor on are those of its turn and those found behind the delimiter. -/
theorem partsFrom_of_next (h : turn? d body cursor = some (.next p n)) :
    partsFrom d cursor (body.drop cursor) =
      if p.start < p.stop then p :: partsFrom d (n + d.length) (body.drop (n + d.length))
      else partsFrom d (n + d.length) (body.drop (n + d.length)) := by
  obtain ⟨hhyphens, hstart, k, hfind, rfl, hstop⟩ := exists_of_next h
  have hdrop : (body.drop cursor).drop (leadingBreak (body.drop cursor)) = body.drop p.start := by
    rw [List.drop_drop, hstart]
  have hfound := partsFrom_of_found cursor hhyphens (hdrop ▸ hfind)
  simp only [hdrop, ← hstart, ← hstop, List.drop_drop, ← Nat.add_assoc] at hfound
  exact hfound

theorem partsFrom_of_last (h : turn? d body cursor = some .last) :
    partsFrom d cursor (body.drop cursor) = [] := by
  rcases ended_of_last h with hhyphens | hnone
  · rw [partsFrom, if_pos hhyphens]
  · rw [← List.drop_drop] at hnone
    rw [partsFrom]
    split
    next => rfl
    next => simp only [hnone]

/-! ## Whole scans -/

/-- `ScansFrom d body cursor turns ps`: a scan from a cursor on ends after so many turns and finds
these parts.  There is no rule for a turn that fails, and a scan that goes on for ever has no
derivation. -/
inductive ScansFrom (d body : Bytes) : Nat → Nat → List Part → Prop
  | last {cursor : Nat} (h : turn? d body cursor = some .last) : ScansFrom d body cursor 1 []
  | next {cursor n turns : Nat} {p : Part} {ps : List Part}
      (h : turn? d body cursor = some (.next p n))
      (later : ScansFrom d body (n + d.length) turns ps) :
      ScansFrom d body cursor (turns + 1) (if p.start < p.stop then p :: ps else ps)

/-- The same for a whole body, which is scanned from behind the first delimiter. -/
inductive Scans (d body : Bytes) : Nat → List Part → Prop
  | nowhere (h : find? d body = none) : Scans d body 0 []
  | behind {n turns : Nat} {ps : List Part} (h : find? d body = some n)
      (later : ScansFrom d body (n + d.length) turns ps) : Scans d body turns ps

section Runs

variable {turns : Nat} {ps : List Part}

/-- A scan ends, since each turn brings its cursor nearer to the end of the body. -/
theorem exists_scansFrom (hd : d ≠ []) (h : cursor ≤ body.length) :
    ∃ turns ps, ScansFrom d body cursor turns ps := by
  -- The measure is what is left of the body behind the cursor: a delimiter is passed in each turn.
  induction hleft : body.length - cursor using Nat.strong_induction_on generalizing cursor with
  | _ left ih =>
    obtain ⟨t, ht⟩ : ∃ t, turn? d body cursor = some t := ⟨_, turn?_eq h⟩
    cases t with
    | last => exact ⟨1, [], .last ht⟩
    | next p n =>
      have hbetween := between_of_turn? ht
      have hinside : n + d.length ≤ body.length := hbetween.delimiter.le hd
      have hfar : cursor < n + d.length := by
        have hstart := hbetween.cursor_le
        have hstop := hbetween.start_le.trans hbetween.stop_le
        have hpos := List.length_pos_iff.2 hd
        omega
      obtain ⟨turns, ps, hlater⟩ := ih _ (by omega) hinside rfl
      exact ⟨turns + 1, _, .next ht hlater⟩

theorem ScansFrom.eq_partsFrom (h : ScansFrom d body cursor turns ps) :
    ps = partsFrom d cursor (body.drop cursor) := by
  induction h with
  | last h => rw [partsFrom_of_last h]
  | next h later ih => rw [partsFrom_of_next h, ← ih]

/-- Each turn but the last one passes a delimiter. -/
theorem ScansFrom.turns_le (h : ScansFrom d body cursor turns ps) :
    turns * d.length + cursor ≤ body.length + d.length := by
  induction h with
  | last h =>
    have := le_of_turn? h
    omega
  | next h later ih =>
    have hbetween := between_of_turn? h
    have hcursor := hbetween.cursor_le
    have hstop := hbetween.start_le.trans hbetween.stop_le
    rw [Nat.succ_mul]
    omega

/-- Parts stand in the order of the body, and a delimiter lies between any two of them. -/
theorem ScansFrom.ordered (h : ScansFrom d body cursor turns ps) :
    (∀ p ∈ ps, cursor ≤ p.start) ∧ ps.Pairwise fun p q => p.stop + d.length ≤ q.start := by
  induction h with
  | last => exact ⟨by simp, .nil⟩
  | @next cursor n turns p ps h later ih =>
    obtain ⟨hlater, hordered⟩ := ih
    have hbetween := between_of_turn? h
    have hcursor := hbetween.cursor_le
    have hstart := hbetween.start_le
    have hstop := hbetween.stop_le
    have hbehind : ∀ q ∈ ps, p.stop + d.length ≤ q.start := fun q hq => by
      have := hlater q hq
      omega
    have hall : ∀ q ∈ ps, cursor ≤ q.start := fun q hq => by
      have := hbehind q hq
      omega
    split
    next => exact ⟨List.forall_mem_cons.2 ⟨hcursor, hall⟩, .cons hbehind hordered⟩
    next => exact ⟨hall, hordered⟩

/-- Octets that nowhere begin in a part do not lie in it. -/
theorem not_infix_content (hd : d ≠ []) (h : ∀ m, p.start ≤ m → m < p.stop → ¬OccursAt d body m) :
    ¬d <:+: p.content body := by
  -- They would begin behind the octets of the part that stand before them.
  rintro ⟨before, after, hcontent⟩
  have hlength := congrArg List.length hcontent
  have hpos := List.length_pos_iff.2 hd
  simp only [List.length_append, Part.content, List.length_drop, List.length_take] at hlength
  have hoccurs : OccursAt d body (p.start + before.length) := by
    have hdrop : (p.content body).drop before.length = d ++ after := by
      rw [← hcontent, List.append_assoc, List.drop_left]
    rw [Part.content, List.drop_drop, List.drop_take] at hdrop
    exact (List.prefix_append d after).trans (hdrop ▸ List.take_prefix _ _)
  exact h _ (by omega) (by omega) hoccurs

/-- A part that is not empty, and lies between a delimiter and the next one. -/
structure Part.Delimited (d body : Bytes) (p : Part) : Prop where
  nonempty : p.start < p.stop
  within : p.stop ≤ body.length
  between : ∃ m n, OccursAt d body m ∧ Between d body (m + d.length) p n
  bare : ¬d <:+: p.content body

theorem Between.delimited {m : Nat} (hd : d ≠ []) (hbefore : OccursAt d body m)
    (h : Between d body (m + d.length) p n) (hsome : p.start < p.stop) : p.Delimited d body where
  nonempty := hsome
  within := by
    have hfits := h.delimiter.le hd
    have hstop := h.stop_le
    omega
  between := ⟨m, n, hbefore, h⟩
  bare := not_infix_content hd fun i hi hstop => h.first i hi (hstop.trans_le h.stop_le)

theorem ScansFrom.delimited {m : Nat} (hd : d ≠ []) (hbefore : OccursAt d body m)
    (h : ScansFrom d body (m + d.length) turns ps) : ∀ p ∈ ps, p.Delimited d body := by
  -- The invariant is that a delimiter ends at the cursor; `m` is where it begins.
  generalize hcursor : m + d.length = cursor at h
  induction h generalizing m with
  | last => simp
  | next h later ih =>
    subst hcursor
    have hbetween := between_of_turn? h
    have hlater := ih hbetween.delimiter rfl
    split
    next hsome => exact List.forall_mem_cons.2 ⟨hbetween.delimited hd hbefore hsome, hlater⟩
    next => exact hlater

theorem exists_scans (d body : Bytes) : ∃ turns ps, Scans d body turns ps := by
  cases hfind : find? d body with
  | none => exact ⟨0, [], .nowhere hfind⟩
  | some n =>
    obtain ⟨hd, hoccurs, -⟩ := find?_eq_some_iff.1 hfind
    obtain ⟨turns, ps, hlater⟩ := exists_scansFrom hd (hoccurs.le hd)
    exact ⟨turns, ps, .behind hfind hlater⟩

/-- A scan finds the parts of the body. -/
theorem Scans.eq_parts (h : Scans d body turns ps) : ps = parts d body := by
  cases h with
  | nowhere h => rw [parts, h]
  | behind h later => rw [parts, h, later.eq_partsFrom]

theorem Scans.turns_le (h : Scans d body turns ps) : turns * d.length ≤ body.length := by
  cases h with
  | nowhere => simp
  | behind _ later =>
    have := later.turns_le
    omega

theorem Scans.ordered (h : Scans d body turns ps) :
    ps.Pairwise fun p q => p.stop + d.length ≤ q.start := by
  cases h with
  | nowhere => exact .nil
  | behind _ later => exact later.ordered.2

theorem Scans.delimited (h : Scans d body turns ps) : ∀ p ∈ ps, p.Delimited d body := by
  cases h with
  | nowhere => simp
  | behind hfind later =>
    obtain ⟨hd, hoccurs, -⟩ := find?_eq_some_iff.1 hfind
    exact later.delimited hd hoccurs

end Runs

/-! ## Reading a part -/

/-- The upload that a part holds, with whatever is looked at cut out of the body or of the part. -/
def Part.uploadWithin? (p : Part) (body : Bytes) : Option (Option Upload) := do
  let content ← slice? body p.start p.stop
  let some n := find? (lineBreak ++ lineBreak) content | return none
  let head ← slice? content 0 n
  let lines := splitLines (Text.Utf8.decodeLossy head).toList
  let some line := disposition? lines | return none
  if parameter? line "name" = some "file" then
    let data ← slice? body (p.start + n + 4) p.stop
    return some {
      filename := (parameter? line "filename").getD ""
      contentType := (lines.findSome? contentTypeOf?).getD ""
      data := data }
  else return none

/-- What a body is read as: the first upload in the parts that a scan of it finds.  There is no rule
for a part that cannot be read within the body. -/
inductive ReadsAs (body : Bytes) (boundary : String) : Answer Upload → Prop
  | file {turns : Nat} {ps : List Part} {u : Upload}
      (scan : Scans (delimiter boundary) body turns ps)
      (first : ps.findSomeM? (·.uploadWithin? body) = some (some u)) : ReadsAs body boundary (.ok u)
  | missing {turns : Nat} {ps : List Part} (scan : Scans (delimiter boundary) body turns ps)
      (nowhere : ps.findSomeM? (·.uploadWithin? body) = some none) :
      ReadsAs body boundary (.error (.badRequest "missing file field in multipart form data"))

/-- Nothing outside of a part that lies in the body is looked at to read it. -/
theorem Part.uploadWithin?_eq (hstart : p.start ≤ p.stop) (hstop : p.stop ≤ body.length) :
    p.uploadWithin? body = some (p.upload? body) := by
  have hcontent : slice? body p.start p.stop = some (p.content body) := slice?_of_le hstart hstop
  simp only [uploadWithin?, upload?, hcontent, Option.bind_eq_bind, Option.bind_some]
  cases hfind : find? (lineBreak ++ lineBreak) (p.content body) with
  | none => rfl
  | some n =>
    obtain ⟨hbreak, hoccurs, -⟩ := find?_eq_some_iff.1 hfind
    have hfits : n + 4 ≤ (p.content body).length := hoccurs.le hbreak
    have hlength : (p.content body).length = p.stop - p.start := by
      rw [content, List.length_drop, List.length_take, Nat.min_eq_left hstop]
    have hhead : slice? (p.content body) 0 n = some ((p.content body).take n) :=
      slice?_of_le (Nat.zero_le _) (by omega)
    -- The content of a file is cut out of the body, not of the part, and is the same.
    have hdata : slice? body (p.start + n + 4) p.stop = some ((p.content body).drop (n + 4)) := by
      rw [slice?_of_le (by omega) hstop, content, List.drop_drop, Nat.add_assoc]
    simp only [hhead, hdata, Option.bind_some]
    cases disposition? (splitLines (Text.Utf8.decodeLossy ((p.content body).take n)).toList) with
    | none => rfl
    | some line =>
      by_cases hname : parameter? line "name" = some "file"
      · simp only [if_pos hname, Option.bind_some]
        rfl
      · simp only [if_neg hname, Option.bind_some]
        rfl

/-- The octets of an upload are the end of the part that holds it. -/
theorem Part.data_suffix {u : Upload} (h : p.upload? body = some u) :
    u.data <:+ p.content body := by
  simp only [upload?, Option.bind_eq_bind, Option.bind_eq_some_iff] at h
  obtain ⟨n, -, line, -, hupload⟩ := h
  split at hupload
  next =>
    cases hupload
    exact List.drop_suffix _ _
  next => cases hupload

theorem findSomeM?_uploadWithin? {ps : List Part}
    (h : ∀ p ∈ ps, p.start ≤ p.stop ∧ p.stop ≤ body.length) :
    ps.findSomeM? (·.uploadWithin? body) = some (ps.findSome? (·.upload? body)) := by
  induction ps with
  | nil => rfl
  | cons p ps ih =>
    obtain ⟨⟨hstart, hstop⟩, hrest⟩ := List.forall_mem_cons.1 h
    rw [List.findSomeM?_cons, p.uploadWithin?_eq hstart hstop, ih hrest, List.findSome?_cons]
    cases p.upload? body <;> rfl

/-- No body makes reading fail. -/
theorem readsAs_readUpload (body : Bytes) (boundary : String) :
    ReadsAs body boundary (readUpload body boundary) := by
  obtain ⟨turns, ps, hscan⟩ := exists_scans (delimiter boundary) body
  have hread := findSomeM?_uploadWithin? fun p hp =>
    ⟨(hscan.delimited p hp).nonempty.le, (hscan.delimited p hp).within⟩
  rw [readUpload, ← hscan.eq_parts]
  cases hfirst : ps.findSome? (·.upload? body) with
  | none => exact .missing hscan (hfirst ▸ hread)
  | some u => exact .file hscan (hfirst ▸ hread)

/-- An upload lies in one of the parts, so no delimiter lies in it. -/
theorem not_infix_data {boundary : String} {u : Upload} (h : readUpload body boundary = .ok u) :
    ¬delimiter boundary <:+: u.data := by
  obtain ⟨turns, ps, hscan⟩ := exists_scans (delimiter boundary) body
  rw [readUpload, ← hscan.eq_parts] at h
  cases hfirst : ps.findSome? (·.upload? body) with
  | none =>
    rw [hfirst] at h
    cases h
  | some first =>
    rw [hfirst] at h
    cases h
    obtain ⟨p, hp, hupload⟩ := List.exists_of_findSome?_eq_some hfirst
    exact fun hinside => (hscan.delimited p hp).bare (hinside.trans (p.data_suffix hupload).isInfix)

/-- Whatever a body and a boundary are, the scan of the body ends after at most as many turns as
delimiters fit in it, and cuts nothing out that is not within it.  The parts that it finds are not
empty, have no delimiter in them, follow one another with a delimiter between any two of them, and
each lies between a delimiter and the next one, without the line breaks beside them.  Reading the
parts cuts nothing out either that is not within the body, and ends with an upload, in which there
is no delimiter, or with the refusal of the request. -/
theorem scanned_within_body (body : Bytes) (boundary : String) :
    let d := delimiter boundary
    (∃ turns, Scans d body turns (parts d body) ∧ turns * d.length ≤ body.length) ∧
      (∀ p ∈ parts d body, p.Delimited d body) ∧
      ((parts d body).Pairwise fun p q => p.stop + d.length ≤ q.start) ∧
      ReadsAs body boundary (readUpload body boundary) ∧
      ((∃ u, readUpload body boundary = .ok u ∧ ¬d <:+: u.data) ∨
        readUpload body boundary =
          .error (.badRequest "missing file field in multipart form data")) := by
  intro d
  obtain ⟨turns, ps, hscan⟩ := exists_scans d body
  obtain rfl := hscan.eq_parts
  have hreads := readsAs_readUpload body boundary
  refine ⟨⟨turns, hscan, hscan.turns_le⟩, hscan.delimited, hscan.ordered, hreads, ?_⟩
  cases hanswer : readUpload body boundary with
  | ok u => exact .inl ⟨u, rfl, not_infix_data hanswer⟩
  | error e =>
    rw [hanswer] at hreads
    cases hreads
    exact .inr rfl

/-- A body that ends within the line break behind a delimiter. -/
example : parts (delimiter "b") (Text.Utf8.encode "--b\r\nx\r\n--b\r") = [⟨5, 6⟩] := by cbv

end ObjectGateway.Multipart
