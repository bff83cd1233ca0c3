import ObjectGateway.Http.Input
import ObjectGateway.Proofs.Failure
import ObjectGateway.Proofs.Text.Percent

/-!
# Decoded paths

A path is decoded to the text whose octets its escapes stand for, `decodePath_eq_ok_iff`, and there
is no such text exactly where decoding fails, `decodePath_fails_iff`.  A slash can be no part of an
escape, so a path is decoded piece by piece between its slashes: `decodePath_slash_iff`.
-/

namespace ObjectGateway.Http

open Text

variable {raw path : String}

theorem decodePath_eq_ok_iff :
    decodePath raw = .ok path ↔ Percent.decode (Utf8.encode raw) = Utf8.encode path := by
  rw [← Utf8.decode_eq_ok_iff]
  unfold decodePath
  cases Utf8.decode (Percent.decode (Utf8.encode raw)) with
  | error d => simp
  | ok s => simp

/-- Decoding fails exactly where the octets are not those of any text. -/
theorem decodePath_fails_iff :
    Fails (decodePath raw) ↔ ∀ s, Percent.decode (Utf8.encode raw) ≠ Utf8.encode s := by
  simp only [ne_eq, ← decodePath_eq_ok_iff]
  cases decodePath raw with
  | error f => simp
  | ok s => simp

theorem decodePath_eq_self (h : '%' ∉ path.toList) : decodePath path = .ok path := by
  have hoctets : '%'.toNat.toUInt8 ∉ Utf8.encode path := by
    rw [Utf8.encode, Utf8.mem_encodeList_iff (by decide)]
    exact h
  rw [decodePath_eq_ok_iff, Percent.decode_eq_self hoctets]

/-- Whichever of its characters are escaped, a path is decoded to its text. -/
theorem decodePath_of_spells (h : Percent.Spells path.toList raw.toList) :
    decodePath raw = .ok path :=
  decodePath_eq_ok_iff.2 (Percent.decode_encodeList h)

theorem encode_slash (before after : String) :
    Utf8.encode (before ++ "/" ++ after) =
      Utf8.encode before ++ '/'.toNat.toUInt8 :: Utf8.encode after := by
  simp only [Utf8.encode, String.toList_append, Utf8.encodeList_append, List.append_assoc]
  rfl

theorem decode_encode_slash (before after : String) :
    Percent.decode (Utf8.encode (before ++ "/" ++ after)) =
      Percent.decode (Utf8.encode before) ++
        '/'.toNat.toUInt8 :: Percent.decode (Utf8.encode after) := by
  rw [encode_slash]
  exact Percent.decode_append_cons (by decide) (by decide) _ _

/-- What stands before a slash and what stands behind it are decoded apart. -/
theorem decodePath_slash_iff {before after : String} :
    decodePath (before ++ "/" ++ after) = .ok path ↔
      ∃ first last, decodePath before = .ok first ∧ decodePath after = .ok last ∧
        path = first ++ "/" ++ last := by
  simp only [decodePath_eq_ok_iff, decode_encode_slash]
  constructor
  · intro h
    obtain ⟨first, last, hpath, hfirst, hlast⟩ :=
      (Utf8.encodeList_eq_append_cons_iff (c := '/') (by decide)).1 h.symm
    refine ⟨String.ofList first, String.ofList last, ?_, ?_, ?_⟩
    · rw [Utf8.encode_ofList, hfirst]
    · rw [Utf8.encode_ofList, hlast]
    · rw [← String.toList_inj, hpath]
      simp
  · rintro ⟨first, last, hfirst, hlast, rfl⟩
    rw [hfirst, hlast, encode_slash]

theorem decodePath_empty : decodePath "" = .ok "" := decodePath_eq_self (by simp)

theorem decodePath_leading_slash_iff {below : String} :
    decodePath ("/" ++ below) = .ok path ↔
      ∃ text, decodePath below = .ok text ∧ path = "/" ++ text := by
  rw [← String.empty_append (s := "/"), decodePath_slash_iff]
  simp [decodePath_empty]

theorem decodePath_trailing_slash_iff {before : String} :
    decodePath (before ++ "/") = .ok path ↔
      ∃ text, decodePath before = .ok text ∧ path = text ++ "/" := by
  rw [← String.append_empty (s := before ++ "/"), decodePath_slash_iff]
  simp [decodePath_empty]

end ObjectGateway.Http
