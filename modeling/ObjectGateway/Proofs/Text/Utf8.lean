import Mathlib.Tactic.SplitIfs
import ObjectGateway.Text.Utf8

/-!
# Encoding and decoding

The decoder reads back each character from the octets that encode it, whatever follows them:
`pieces_encodeChar`.  So decoding undoes encoding, and no replacement character comes in.  In turn it
reads a character from no other octets, `exists_encodeChar_append`, so that octets are UTF-8 where
they encode some text and nowhere else: `decode_eq_ok_iff`.
-/

namespace ObjectGateway.Text.Utf8

variable {start seen n : Nat} {b : UInt8} {p : Pending} {bs rest : Bytes} {c : Char}
  {cs : List Char} {ps : List Piece}

/-! ## Steps of the decoder -/

theorem pieces_of_whole {c : Char} (h : Lead.of b.toNat = .whole c) :
    pieces start 0 none (b :: rest) = .char c :: pieces (start + 1) 0 none rest := by
  simp only [pieces, h]

theorem pieces_of_begins (h : Lead.of b.toNat = .begins p) :
    pieces start 0 none (b :: rest) = pieces start 1 (some p) rest := by
  simp only [pieces, h]

/-- An octet inside a character. -/
theorem pieces_of_owed (hrange : p.low ≤ b.toNat ∧ b.toNat ≤ p.high) (howed : ¬p.owed ≤ 1) :
    pieces start seen (some p) (b :: rest) =
      pieces start (seen + 1) (some ⟨p.bits * 64 + (b.toNat - 0x80), p.owed - 1, 0x80, 0xBF⟩)
        rest := by
  simp only [pieces, if_pos hrange, if_neg howed]

/-- The last octet of a character. -/
theorem pieces_of_last (hrange : p.low ≤ b.toNat ∧ b.toNat ≤ p.high) (howed : p.owed ≤ 1) :
    pieces start seen (some p) (b :: rest) =
      .char (Char.ofNat (p.bits * 64 + (b.toNat - 0x80))) ::
        pieces (start + seen + 1) 0 none rest := by
  simp only [pieces, if_pos hrange, if_pos howed]

theorem toNat_toUInt8 (h : n < 256) : n.toUInt8.toNat = n := by
  rw [Nat.toUInt8, UInt8.toNat_ofNat', Nat.mod_eq_of_lt h]

/-! ## First octets -/

theorem Lead.of_two (hlow : 2 ≤ n) (hhigh : n < 32) :
    Lead.of (0xC0 + n) = .begins ⟨n, 1, 0x80, 0xBF⟩ := by
  rw [Lead.of, if_neg (by omega), if_neg (by omega), if_pos (by omega), Nat.add_sub_cancel_left]

/-- The range of the second octet leaves out what fits in fewer octets, and the surrogates. -/
theorem Lead.of_three : ∀ {n : Nat}, n < 16 → Lead.of (0xE0 + n) =
    .begins ⟨n, 2, if n = 0 then 0xA0 else 0x80, if n = 0xD then 0x9F else 0xBF⟩ := by
  decide

/-- The range of the second octet leaves out what fits in fewer octets, and what is no code
point. -/
theorem Lead.of_four : ∀ {n : Nat}, n < 5 → Lead.of (0xF0 + n) =
    .begins ⟨n, 3, if n = 0 then 0x90 else 0x80, if n = 4 then 0x8F else 0xBF⟩ := by
  decide

/-! ## Characters -/

theorem pieces_encodeNat_one (h : n < 0x80) :
    pieces start 0 none (encodeNat n ++ rest) =
      .char (Char.ofNat n) :: pieces (start + 1) 0 none rest := by
  have hlead : Lead.of n.toUInt8.toNat = .whole (Char.ofNat n) := by
    rw [toNat_toUInt8 (by omega), Lead.of, if_pos h]
  rw [encodeNat, if_pos h]
  exact pieces_of_whole hlead

theorem pieces_encodeNat_two (hlow : 0x80 ≤ n) (hhigh : n < 0x800) :
    pieces start 0 none (encodeNat n ++ rest) =
      .char (Char.ofNat n) :: pieces (start + 2) 0 none rest := by
  have hfirst : (0xC0 + n / 64).toUInt8.toNat = 0xC0 + n / 64 := toNat_toUInt8 (by omega)
  have hlast : (0x80 + n % 64).toUInt8.toNat = 0x80 + n % 64 := toNat_toUInt8 (by omega)
  have hlead : Lead.of (0xC0 + n / 64).toUInt8.toNat = .begins ⟨n / 64, 1, 0x80, 0xBF⟩ := by
    rw [hfirst]
    exact Lead.of_two (by omega) (by omega)
  have hbits : n / 64 * 64 + (0x80 + n % 64 - 0x80) = n := by omega
  rw [encodeNat, if_neg (by omega), if_pos hhigh]
  simp only [List.cons_append, List.nil_append]
  rw [pieces_of_begins hlead, pieces_of_last (by simp only [hlast]; omega) (Nat.le_refl 1)]
  simp only [hlast, hbits]

theorem pieces_encodeNat_three (hlow : 0x800 ≤ n) (hhigh : n < 0x10000)
    (hscalar : n < 0xD800 ∨ 0xDFFF < n) :
    pieces start 0 none (encodeNat n ++ rest) =
      .char (Char.ofNat n) :: pieces (start + 3) 0 none rest := by
  have hfirst : (0xE0 + n / 4096).toUInt8.toNat = 0xE0 + n / 4096 := toNat_toUInt8 (by omega)
  have hsecond : (0x80 + n / 64 % 64).toUInt8.toNat = 0x80 + n / 64 % 64 :=
    toNat_toUInt8 (by omega)
  have hlast : (0x80 + n % 64).toUInt8.toNat = 0x80 + n % 64 := toNat_toUInt8 (by omega)
  have hlead := Lead.of_three (n := n / 4096) (by omega)
  rw [← hfirst] at hlead
  -- The second octet is in range since the code point is neither too small nor a surrogate.
  have hrange : (if n / 4096 = 0 then 0xA0 else 0x80) ≤ 0x80 + n / 64 % 64 ∧
      0x80 + n / 64 % 64 ≤ (if n / 4096 = 0xD then 0x9F else 0xBF) := by
    split <;> split <;> omega
  have hbits : (n / 4096 * 64 + (0x80 + n / 64 % 64 - 0x80)) * 64 + (0x80 + n % 64 - 0x80) = n := by
    omega
  rw [encodeNat, if_neg (by omega), if_neg (by omega), if_pos hhigh]
  simp only [List.cons_append, List.nil_append]
  rw [pieces_of_begins hlead,
    pieces_of_owed (by rw [hsecond]; exact hrange) (show ¬2 ≤ 1 by decide),
    pieces_of_last (by simp only [hlast]; omega) (Nat.le_refl 1)]
  simp only [hsecond, hlast, hbits]

theorem pieces_encodeNat_four (hlow : 0x10000 ≤ n) (hhigh : n < 0x110000) :
    pieces start 0 none (encodeNat n ++ rest) =
      .char (Char.ofNat n) :: pieces (start + 4) 0 none rest := by
  have hfirst : (0xF0 + n / 262144).toUInt8.toNat = 0xF0 + n / 262144 := toNat_toUInt8 (by omega)
  have hsecond : (0x80 + n / 4096 % 64).toUInt8.toNat = 0x80 + n / 4096 % 64 :=
    toNat_toUInt8 (by omega)
  have hthird : (0x80 + n / 64 % 64).toUInt8.toNat = 0x80 + n / 64 % 64 :=
    toNat_toUInt8 (by omega)
  have hlast : (0x80 + n % 64).toUInt8.toNat = 0x80 + n % 64 := toNat_toUInt8 (by omega)
  have hlead := Lead.of_four (n := n / 262144) (by omega)
  rw [← hfirst] at hlead
  -- The second octet is in range since the code point is neither too small nor too large.
  have hrange : (if n / 262144 = 0 then 0x90 else 0x80) ≤ 0x80 + n / 4096 % 64 ∧
      0x80 + n / 4096 % 64 ≤ (if n / 262144 = 4 then 0x8F else 0xBF) := by
    split <;> split <;> omega
  have hbits : ((n / 262144 * 64 + (0x80 + n / 4096 % 64 - 0x80)) * 64 +
      (0x80 + n / 64 % 64 - 0x80)) * 64 + (0x80 + n % 64 - 0x80) = n := by
    omega
  rw [encodeNat, if_neg (by omega), if_neg (by omega), if_neg (by omega)]
  simp only [List.cons_append, List.nil_append]
  rw [pieces_of_begins hlead,
    pieces_of_owed (by rw [hsecond]; exact hrange) (show ¬3 ≤ 1 by decide),
    pieces_of_owed (by simp only [hthird]; omega) (show ¬2 ≤ 1 by decide),
    pieces_of_last (by simp only [hlast]; omega) (Nat.le_refl 1)]
  simp only [hsecond, hthird, hlast, hbits]

/-- A character is read back, and the decoder goes on with what follows it. -/
theorem pieces_encodeChar (c : Char) (start : Nat) (rest : Bytes) :
    ∃ next, pieces start 0 none (encodeChar c ++ rest) = .char c :: pieces next 0 none rest := by
  have hscalar : c.val.toNat < 0xD800 ∨ 0xDFFF < c.val.toNat ∧ c.val.toNat < 0x110000 := c.valid
  have hchar : Char.ofNat c.val.toNat = c := Char.ofNat_toNat c
  generalize hn : c.val.toNat = n at hscalar hchar
  rw [encodeChar, hn, ← hchar]
  by_cases hone : n < 0x80
  · exact ⟨start + 1, pieces_encodeNat_one hone⟩
  by_cases htwo : n < 0x800
  · exact ⟨start + 2, pieces_encodeNat_two (by omega) htwo⟩
  by_cases hthree : n < 0x10000
  · exact ⟨start + 3, pieces_encodeNat_three (by omega) hthree (by omega)⟩
  · exact ⟨start + 4, pieces_encodeNat_four (by omega) (by omega)⟩

/-! ## Texts -/

theorem encodeList_append (cs ds : List Char) :
    encodeList (cs ++ ds) = encodeList cs ++ encodeList ds := List.flatMap_append

theorem encodeList_cons (c : Char) (cs : List Char) :
    encodeList (c :: cs) = encodeChar c ++ encodeList cs := List.flatMap_cons

theorem encodeChar_ne_nil (c : Char) : encodeChar c ≠ [] := by
  unfold encodeChar encodeNat
  repeat' split
  all_goals exact List.cons_ne_nil _ _

theorem encodeList_ne_nil {cs : List Char} (h : cs ≠ []) : encodeList cs ≠ [] := by
  obtain ⟨c, rest, rfl⟩ := List.exists_cons_of_ne_nil h
  rw [encodeList_cons]
  exact List.append_ne_nil_of_left_ne_nil (encodeChar_ne_nil c) _

theorem pieces_encodeList (cs : List Char) (start : Nat) :
    pieces start 0 none (encodeList cs) = cs.map .char := by
  induction cs generalizing start with
  | nil => rfl
  | cons c rest ih =>
    obtain ⟨next, hnext⟩ := pieces_encodeChar c start (encodeList rest)
    rw [encodeList_cons, hnext, ih, List.map_cons]

/-- No character is replaced in the octets of a text. -/
theorem decodeLossy_encodeList (cs : List Char) :
    decodeLossy (encodeList cs) = String.ofList cs := by
  rw [decodeLossy, pieces_encodeList, List.map_map]
  exact congrArg String.ofList (List.map_id cs)

theorem collect_map_char (cs : List Char) : collect (cs.map .char) = .ok cs := by
  induction cs with
  | nil => rfl
  | cons c rest ih => rw [List.map_cons, collect, ih, Except.map]

/-- The octets of a text are read as that text. -/
theorem decode_encode (s : String) : decode (encode s) = .ok s := by
  have hpieces : collect (pieces 0 0 none (encode s)) = .ok s.toList := by
    rw [encode, pieces_encodeList, collect_map_char]
  rw [decode, decodeList, hpieces, Except.map, String.ofList_toList]

/-! ## ASCII -/

/-- The octets of a character that is not ASCII are not ASCII. -/
theorem le_of_mem_encodeNat (hlow : 0x80 ≤ n) (hhigh : n < 0x110000) (h : b ∈ encodeNat n) :
    0x80 ≤ b.toNat := by
  have hle : ∀ {k : Nat}, 0x80 ≤ k ∧ k < 256 → 0x80 ≤ k.toUInt8.toNat := fun hk => by
    rw [toNat_toUInt8 hk.2]
    exact hk.1
  rw [encodeNat, if_neg (by omega)] at h
  by_cases htwo : n < 0x800
  · rw [if_pos htwo, List.mem_cons, List.mem_singleton] at h
    rcases h with rfl | rfl <;> exact hle (by omega)
  rw [if_neg htwo] at h
  by_cases hthree : n < 0x10000
  · rw [if_pos hthree, List.mem_cons, List.mem_cons, List.mem_singleton] at h
    rcases h with rfl | rfl | rfl <;> exact hle (by omega)
  · rw [if_neg hthree, List.mem_cons, List.mem_cons, List.mem_cons, List.mem_singleton] at h
    rcases h with rfl | rfl | rfl | rfl <;> exact hle (by omega)

theorem encodeChar_of_ascii {c : Char} (h : c.toNat < 0x80) :
    encodeChar c = [c.toNat.toUInt8] := if_pos h

theorem encodeList_cons_of_ascii (h : c.toNat < 0x80) (cs : List Char) :
    encodeList (c :: cs) = c.toNat.toUInt8 :: encodeList cs := by
  rw [encodeList_cons, encodeChar_of_ascii h, List.singleton_append]

/-- An octet of ASCII stands for its character and for nothing else. -/
theorem mem_encodeChar_iff {c d : Char} (h : c.toNat < 0x80) :
    c.toNat.toUInt8 ∈ encodeChar d ↔ c = d := by
  have hc : c.toNat.toUInt8.toNat = c.toNat := toNat_toUInt8 (by omega)
  constructor
  · intro hmem
    by_cases hd : d.toNat < 0x80
    · rw [encodeChar_of_ascii hd, List.mem_singleton] at hmem
      have hcodes := congrArg UInt8.toNat hmem
      rw [hc, toNat_toUInt8 (by omega)] at hcodes
      rw [← Char.ofNat_toNat c, hcodes, Char.ofNat_toNat]
    · have hvalid : d.toNat < 0xD800 ∨ 0xDFFF < d.toNat ∧ d.toNat < 0x110000 := d.valid
      have hle := le_of_mem_encodeNat (n := d.toNat) (by omega) (by omega) hmem
      omega
  · rintro rfl
    rw [encodeChar_of_ascii h]
    exact List.mem_singleton_self _

theorem mem_encodeList_iff {c : Char} (h : c.toNat < 0x80) {cs : List Char} :
    c.toNat.toUInt8 ∈ encodeList cs ↔ c ∈ cs := by
  simp only [encodeList, List.mem_flatMap, mem_encodeChar_iff h, exists_eq_right']

/-- An octet of ASCII splits the octets of a text where its character splits the text. -/
theorem encodeList_eq_append_cons_iff (h : c.toNat < 0x80) :
    encodeList cs = bs ++ c.toNat.toUInt8 :: rest ↔
      ∃ before after, cs = before ++ c :: after ∧ encodeList before = bs ∧
        encodeList after = rest := by
  constructor
  · intro hcs
    induction cs generalizing bs with
    | nil => simp [encodeList] at hcs
    | cons d ds ih =>
      rw [encodeList_cons] at hcs
      rcases List.append_eq_append_iff.1 hcs with ⟨middle, rfl, hds⟩ | ⟨ending, hd, hrest⟩
      · obtain ⟨before, after, rfl, rfl, rfl⟩ := ih hds
        exact ⟨d :: before, after, rfl, encodeList_cons d before, rfl⟩
      · cases ending with
        | nil =>
          -- The octet comes right behind those of the first character.
          have hnext : encodeList ds = [] ++ c.toNat.toUInt8 :: rest := hrest.symm
          obtain ⟨before, after, rfl, hbefore, rfl⟩ := ih hnext
          refine ⟨d :: before, after, rfl, ?_, rfl⟩
          rw [encodeList_cons, hbefore, hd, List.append_nil, List.append_nil]
        | cons b ending =>
          obtain ⟨rfl, rfl⟩ := List.cons.inj hrest
          obtain rfl : c = d := (mem_encodeChar_iff h).1 (by rw [hd]; simp)
          rw [encodeChar_of_ascii h] at hd
          obtain ⟨rfl, hnil⟩ : bs = [] ∧ ending = [] := by
            cases bs with
            | nil => exact ⟨rfl, (List.cons.inj hd).2.symm⟩
            | cons b bs => simp at hd
          refine ⟨[], ds, rfl, rfl, ?_⟩
          rw [hnil]
          rfl
  · rintro ⟨before, after, rfl, rfl, rfl⟩
    rw [encodeList_append, encodeList_cons_of_ascii h]

/-- The octets of an ASCII text are the codes of its characters. -/
theorem encodeList_of_ascii {cs : List Char} (h : ∀ c ∈ cs, c.toNat < 0x80) :
    encodeList cs = cs.map fun c => c.toNat.toUInt8 := by
  induction cs with
  | nil => rfl
  | cons c rest ih =>
    have hrest := ih fun d hd => h d (List.mem_cons_of_mem c hd)
    rw [encodeList_cons_of_ascii (h c List.mem_cons_self), hrest, List.map_cons]

/-! ## Octets that are decoded -/

theorem toUInt8_eq (h : n = b.toNat) : n.toUInt8 = b := by
  rw [h]
  exact UInt8.ofNat_toNat

theorem encodeChar_ofNat (h : n.isValidChar) : encodeChar (Char.ofNat n) = encodeNat n := by
  have hcode : (Char.ofNat n).val.toNat = n := by
    rw [Char.ofNat, dif_pos h]
    exact rfl
  rw [encodeChar, hcode]

theorem Lead.of_eq_whole (h : Lead.of n = .whole c) : n < 0x80 ∧ c = Char.ofNat n := by
  unfold Lead.of at h
  split_ifs at h with hn
  exact ⟨hn, (Lead.whole.inj h).symm⟩

/-- A first octet that does not stand for itself tells how many octets follow, and what the next of
them can be. -/
theorem Lead.of_eq_begins (h : Lead.of n = .begins p) :
    (∃ k, 2 ≤ k ∧ k < 32 ∧ n = 0xC0 + k ∧ p = ⟨k, 1, 0x80, 0xBF⟩) ∨
      (∃ k < 16, n = 0xE0 + k ∧
        p = ⟨k, 2, if k = 0 then 0xA0 else 0x80, if k = 0xD then 0x9F else 0xBF⟩) ∨
      ∃ k < 5, n = 0xF0 + k ∧
        p = ⟨k, 3, if k = 0 then 0x90 else 0x80, if k = 4 then 0x8F else 0xBF⟩ := by
  by_cases hlow : n < 0xC2
  · unfold Lead.of at h
    split_ifs at h
  by_cases htwo : n < 0xE0
  · obtain ⟨k, rfl⟩ : ∃ k, n = 0xC0 + k := ⟨n - 0xC0, by omega⟩
    rw [Lead.of_two (by omega) (by omega)] at h
    exact .inl ⟨k, by omega, by omega, rfl, (Lead.begins.inj h).symm⟩
  by_cases hthree : n < 0xF0
  · obtain ⟨k, rfl⟩ : ∃ k, n = 0xE0 + k := ⟨n - 0xE0, by omega⟩
    rw [Lead.of_three (by omega)] at h
    exact .inr (.inl ⟨k, by omega, rfl, (Lead.begins.inj h).symm⟩)
  by_cases hfour : n < 0xF5
  · obtain ⟨k, rfl⟩ : ∃ k, n = 0xF0 + k := ⟨n - 0xF0, by omega⟩
    rw [Lead.of_four (by omega)] at h
    exact .inr (.inr ⟨k, by omega, rfl, (Lead.begins.inj h).symm⟩)
  · unfold Lead.of at h
    split_ifs at h <;> omega

theorem pieces_pending_ne_nil (bs : Bytes) (start seen : Nat) (p : Pending) :
    pieces start seen (some p) bs ≠ [] := by
  induction bs generalizing start seen p with
  | nil => simp [pieces]
  | cons b rest ih =>
    by_cases hrange : p.low ≤ b.toNat ∧ b.toNat ≤ p.high
    · by_cases howed : p.owed ≤ 1
      · rw [pieces_of_last hrange howed]
        exact List.cons_ne_nil _ _
      · rw [pieces_of_owed hrange howed]
        exact ih _ _ _
    · simp [pieces, hrange]

theorem eq_nil_of_pieces (h : pieces start 0 none bs = []) : bs = [] := by
  cases bs with
  | nil => rfl
  | cons b rest =>
    cases hlead : Lead.of b.toNat with
    | whole c => simp [pieces, hlead] at h
    | begins p =>
      rw [pieces_of_begins hlead] at h
      exact absurd h (pieces_pending_ne_nil rest start 1 p)
    | refused => simp [pieces, hlead] at h

/-- Where a character is read, the next of its octets is in range. -/
theorem exists_of_pending (h : pieces start seen (some p) bs = .char c :: ps) :
    ∃ b rest, bs = b :: rest ∧ p.low ≤ b.toNat ∧ b.toNat ≤ p.high := by
  cases bs with
  | nil => simp [pieces] at h
  | cons b rest =>
    by_cases hrange : p.low ≤ b.toNat ∧ b.toNat ≤ p.high
    · exact ⟨b, rest, rfl, hrange⟩
    · simp [pieces, hrange] at h

theorem exists_of_owed (howed : ¬p.owed ≤ 1) (h : pieces start seen (some p) bs = .char c :: ps) :
    ∃ b rest, bs = b :: rest ∧ p.low ≤ b.toNat ∧ b.toNat ≤ p.high ∧
      pieces start (seen + 1) (some ⟨p.bits * 64 + (b.toNat - 0x80), p.owed - 1, 0x80, 0xBF⟩)
        rest = .char c :: ps := by
  obtain ⟨b, rest, rfl, hlow, hhigh⟩ := exists_of_pending h
  rw [pieces_of_owed ⟨hlow, hhigh⟩ howed] at h
  exact ⟨b, rest, rfl, hlow, hhigh, h⟩

theorem exists_of_last (howed : p.owed ≤ 1) (h : pieces start seen (some p) bs = .char c :: ps) :
    ∃ b rest, bs = b :: rest ∧ p.low ≤ b.toNat ∧ b.toNat ≤ p.high ∧
      c = Char.ofNat (p.bits * 64 + (b.toNat - 0x80)) ∧
      ps = pieces (start + seen + 1) 0 none rest := by
  obtain ⟨b, rest, rfl, hlow, hhigh⟩ := exists_of_pending h
  rw [pieces_of_last ⟨hlow, hhigh⟩ howed] at h
  obtain ⟨hchar, hrest⟩ := List.cons.inj h
  exact ⟨b, rest, rfl, hlow, hhigh, (Piece.char.inj hchar).symm, hrest.symm⟩

theorem encodeChar_two {k x : Nat} (hlow : 2 ≤ k) (hhigh : k < 32) (hx : 0x80 ≤ x ∧ x ≤ 0xBF) :
    encodeChar (Char.ofNat (k * 64 + (x - 0x80))) = [(0xC0 + k).toUInt8, x.toUInt8] := by
  obtain ⟨y, rfl⟩ : ∃ y, x = 0x80 + y := ⟨x - 0x80, by omega⟩
  rw [Nat.add_sub_cancel_left]
  have hhead : (k * 64 + y) / 64 = k := by omega
  have hlast : (k * 64 + y) % 64 = y := by omega
  rw [encodeChar_ofNat (.inl (by omega)), encodeNat, if_neg (by omega), if_pos (by omega), hhead,
    hlast]

/-- The range of the second octet is the one that leaves a code point of three octets, and no
surrogate. -/
theorem encodeChar_three {k x y : Nat} (hk : k < 16)
    (hx : (if k = 0 then 0xA0 else 0x80) ≤ x ∧ x ≤ (if k = 0xD then 0x9F else 0xBF))
    (hy : 0x80 ≤ y ∧ y ≤ 0xBF) :
    encodeChar (Char.ofNat ((k * 64 + (x - 0x80)) * 64 + (y - 0x80))) =
      [(0xE0 + k).toUInt8, x.toUInt8, y.toUInt8] := by
  obtain ⟨hx₁, hx₂, hx₃, hx₄⟩ : 0x80 ≤ x ∧ x ≤ 0xBF ∧ (k = 0 → 0xA0 ≤ x) ∧ (k = 0xD → x ≤ 0x9F) := by
    split_ifs at hx <;> omega
  obtain ⟨u, rfl⟩ : ∃ u, x = 0x80 + u := ⟨x - 0x80, by omega⟩
  obtain ⟨v, rfl⟩ : ∃ v, y = 0x80 + v := ⟨y - 0x80, by omega⟩
  rw [Nat.add_sub_cancel_left, Nat.add_sub_cancel_left]
  have hhead : ((k * 64 + u) * 64 + v) / 4096 = k := by omega
  have hmiddle : ((k * 64 + u) * 64 + v) / 64 % 64 = u := by omega
  have hlast : ((k * 64 + u) * 64 + v) % 64 = v := by omega
  have hvalid : ((k * 64 + u) * 64 + v).isValidChar := by
    by_cases hsmall : (k * 64 + u) * 64 + v < 0xD800
    · exact .inl hsmall
    · exact .inr ⟨by omega, by omega⟩
  rw [encodeChar_ofNat hvalid, encodeNat, if_neg (by omega), if_neg (by omega), if_pos (by omega),
    hhead, hmiddle, hlast]

/-- The range of the second octet is the one that leaves a code point of four octets. -/
theorem encodeChar_four {k x y z : Nat} (hk : k < 5)
    (hx : (if k = 0 then 0x90 else 0x80) ≤ x ∧ x ≤ (if k = 4 then 0x8F else 0xBF))
    (hy : 0x80 ≤ y ∧ y ≤ 0xBF) (hz : 0x80 ≤ z ∧ z ≤ 0xBF) :
    encodeChar (Char.ofNat (((k * 64 + (x - 0x80)) * 64 + (y - 0x80)) * 64 + (z - 0x80))) =
      [(0xF0 + k).toUInt8, x.toUInt8, y.toUInt8, z.toUInt8] := by
  obtain ⟨hx₁, hx₂, hx₃, hx₄⟩ : 0x80 ≤ x ∧ x ≤ 0xBF ∧ (k = 0 → 0x90 ≤ x) ∧ (k = 4 → x ≤ 0x8F) := by
    split_ifs at hx <;> omega
  obtain ⟨u, rfl⟩ : ∃ u, x = 0x80 + u := ⟨x - 0x80, by omega⟩
  obtain ⟨v, rfl⟩ : ∃ v, y = 0x80 + v := ⟨y - 0x80, by omega⟩
  obtain ⟨w, rfl⟩ : ∃ w, z = 0x80 + w := ⟨z - 0x80, by omega⟩
  rw [Nat.add_sub_cancel_left, Nat.add_sub_cancel_left, Nat.add_sub_cancel_left]
  have hhead : (((k * 64 + u) * 64 + v) * 64 + w) / 262144 = k := by omega
  have hsecond : (((k * 64 + u) * 64 + v) * 64 + w) / 4096 % 64 = u := by omega
  have hthird : (((k * 64 + u) * 64 + v) * 64 + w) / 64 % 64 = v := by omega
  have hlast : (((k * 64 + u) * 64 + v) * 64 + w) % 64 = w := by omega
  rw [encodeChar_ofNat (.inr ⟨by omega, by omega⟩), encodeNat, if_neg (by omega),
    if_neg (by omega), if_neg (by omega), hhead, hsecond, hthird, hlast]

/-- A character is read from the octets that encode it, and from no others. -/
theorem exists_encodeChar_append (h : pieces start 0 none bs = .char c :: ps) :
    ∃ rest next, bs = encodeChar c ++ rest ∧ ps = pieces next 0 none rest := by
  cases bs with
  | nil => cases h
  | cons b rest =>
    cases hlead : Lead.of b.toNat with
    | refused => simp [pieces, hlead] at h
    | whole d =>
      rw [pieces_of_whole hlead] at h
      obtain ⟨hchar, hrest⟩ := List.cons.inj h
      obtain rfl := Piece.char.inj hchar
      obtain ⟨hascii, hd⟩ := Lead.of_eq_whole hlead
      refine ⟨rest, _, ?_, hrest.symm⟩
      rw [hd, encodeChar_ofNat (.inl (by omega)), encodeNat, if_pos hascii, toUInt8_eq rfl,
        List.singleton_append]
    | begins p =>
      rw [pieces_of_begins hlead] at h
      rcases Lead.of_eq_begins hlead with
        ⟨k, hlow, hhigh, hfirst, rfl⟩ | ⟨k, hk, hfirst, rfl⟩ | ⟨k, hk, hfirst, rfl⟩
      · obtain ⟨b₁, rest, rfl, hl₁, hh₁, hc, hps⟩ := exists_of_last (Nat.le_refl 1) h
        refine ⟨rest, _, ?_, hps⟩
        rw [hc, encodeChar_two hlow hhigh ⟨hl₁, hh₁⟩, toUInt8_eq hfirst.symm, toUInt8_eq rfl]
        rfl
      · obtain ⟨b₁, rest, rfl, hl₁, hh₁, h⟩ := exists_of_owed (show ¬2 ≤ 1 by decide) h
        obtain ⟨b₂, rest, rfl, hl₂, hh₂, hc, hps⟩ := exists_of_last (Nat.le_refl 1) h
        refine ⟨rest, _, ?_, hps⟩
        rw [hc, encodeChar_three hk ⟨hl₁, hh₁⟩ ⟨hl₂, hh₂⟩, toUInt8_eq hfirst.symm, toUInt8_eq rfl,
          toUInt8_eq rfl]
        rfl
      · obtain ⟨b₁, rest, rfl, hl₁, hh₁, h⟩ := exists_of_owed (show ¬3 ≤ 1 by decide) h
        obtain ⟨b₂, rest, rfl, hl₂, hh₂, h⟩ := exists_of_owed (show ¬2 ≤ 1 by decide) h
        obtain ⟨b₃, rest, rfl, hl₃, hh₃, hc, hps⟩ := exists_of_last (Nat.le_refl 1) h
        refine ⟨rest, _, ?_, hps⟩
        rw [hc, encodeChar_four hk ⟨hl₁, hh₁⟩ ⟨hl₂, hh₂⟩ ⟨hl₃, hh₃⟩, toUInt8_eq hfirst.symm,
          toUInt8_eq rfl, toUInt8_eq rfl, toUInt8_eq rfl]
        rfl

theorem eq_encodeList_of_pieces (h : pieces start 0 none bs = cs.map .char) :
    bs = encodeList cs := by
  induction cs generalizing start bs with
  | nil => exact eq_nil_of_pieces h
  | cons c cs ih =>
    obtain ⟨rest, next, rfl, hrest⟩ := exists_encodeChar_append h
    rw [ih hrest.symm, encodeList_cons]

theorem collect_eq_ok_iff : collect ps = .ok cs ↔ ps = cs.map .char := by
  constructor
  · intro h
    induction ps generalizing cs with
    | nil =>
      cases h
      rfl
    | cons piece rest ih =>
      cases piece with
      | broken d => cases h
      | char c =>
        rw [collect] at h
        cases hrest : collect rest with
        | error d =>
          rw [hrest] at h
          cases h
        | ok ds =>
          rw [hrest] at h
          cases h
          rw [ih hrest, List.map_cons]
  · rintro rfl
    exact collect_map_char cs

theorem encode_ofList (cs : List Char) : encode (String.ofList cs) = encodeList cs := by
  rw [encode, String.toList_ofList]

/-- A text is read from the octets that encode it, and from no others. -/
theorem decode_eq_ok_iff {s : String} : decode bs = .ok s ↔ bs = encode s := by
  constructor
  · intro h
    unfold decode decodeList at h
    cases hcollect : collect (pieces 0 0 none bs) with
    | error d =>
      rw [hcollect] at h
      cases h
    | ok cs =>
      rw [hcollect] at h
      obtain rfl : String.ofList cs = s := Except.ok.inj h
      rw [encode_ofList]
      exact eq_encodeList_of_pieces (collect_eq_ok_iff.1 hcollect)
  · rintro rfl
    exact decode_encode s

end ObjectGateway.Text.Utf8
