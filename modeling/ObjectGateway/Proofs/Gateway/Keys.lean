import ObjectGateway.Proofs.Gateway.Links

/-!
# The keys that paths name

Below a mount, the path of a request is the start of the keys of the target and the text that the
path spells, so every text below this start has a path, in whatever way it is escaped, and two paths
for one key spell the same text: `paths_name_keys`.  The only paths without a key are those that spell
no text at all.
-/

namespace ObjectGateway

open Text

variable {mount path raw : String} {host : Option String} {targets : List Target} {target : Target}

/-- The path of a request is the mount that it is routed to and what lies below it. -/
theorem route_below (hmount : Mount.isRooted mount = true)
    (h : route (fun t : Target => t.config.mount) targets host path = some ⟨target, mount, raw⟩) :
    ∃ before below : String, mount = before ++ "/" ∧ path = mount ++ below ∧
      raw = "/" ++ below := by
  obtain ⟨before, below, hbefore, hpath, hcut⟩ :=
    cut_of_rooted hmount (bestMatch_of_route h).isMatch.below
  exact ⟨before, below, hbefore, hpath, (route_rawPath h).trans hcut⟩

namespace Gateway

theorem startKey_slash (g : Gateway) (text : String) :
    g.startKey ("/" ++ text) = g.rootPrefix ++ text := by
  rw [startKey, dropLeadingSlash_slash]

/-- Without rules, a path below a mount names the key that it spells below the start of all keys,
whichever of its characters are escaped.  Two paths that name one key spell the same text.  A path
names no key only where the octets that its escapes stand for are not those of any text. -/
theorem paths_name_keys {g : Gateway} (hrules : g.target.rules = [])
    (hmount : Mount.isRooted mount = true) :
    (∀ (s e : String) (targets : List Target) (host : Option String) (raw : String),
      Percent.Spells s.toList e.toList →
      route (fun t : Target => t.config.mount) targets host (mount ++ e) =
          some ⟨g.target, mount, raw⟩ →
        ∃ path, Http.decodePath raw = .ok path ∧ g.startKey path = g.rootPrefix ++ s ∧
          ∀ ctx, g.objectKey ctx path = .ok (g.rootPrefix ++ s)) ∧
    (∀ (targets targets' : List Target) (host host' : Option String)
      (path path' raw raw' first second : String),
      route (fun t : Target => t.config.mount) targets host path = some ⟨g.target, mount, raw⟩ →
      route (fun t : Target => t.config.mount) targets' host' path' =
          some ⟨g.target, mount, raw'⟩ →
      Http.decodePath raw = .ok first → Http.decodePath raw' = .ok second →
      g.startKey first = g.startKey second →
        first = second ∧
          Percent.decode (Utf8.encode path) = Percent.decode (Utf8.encode path')) ∧
    ∀ raw, Fails (Http.decodePath raw) ↔
      ∀ s, Percent.decode (Utf8.encode raw) ≠ Utf8.encode s := by
  refine ⟨?_, ?_, fun raw => Http.decodePath_fails_iff⟩
  · intro s e targets host raw hspells hroute
    obtain ⟨before, below, -, hpath, rfl⟩ := route_below hmount hroute
    obtain rfl : e = below := by simpa using hpath
    have hdecode : Http.decodePath ("/" ++ e) = .ok ("/" ++ s) :=
      Http.decodePath_leading_slash_iff.2 ⟨s, Http.decodePath_of_spells hspells, rfl⟩
    exact ⟨"/" ++ s, hdecode, startKey_slash g s, fun ctx => objectKey_of_no_rules hrules s⟩
  · intro targets targets' host host' path path' raw raw' first second hroute hroute' hfirst hsecond
      hkey
    obtain ⟨before, below, hbefore, rfl, rfl⟩ := route_below hmount hroute
    obtain ⟨-, below', -, rfl, rfl⟩ := route_below hmount hroute'
    obtain ⟨text, htext, rfl⟩ := Http.decodePath_leading_slash_iff.1 hfirst
    obtain ⟨text', htext', rfl⟩ := Http.decodePath_leading_slash_iff.1 hsecond
    rw [startKey_slash, startKey_slash] at hkey
    obtain rfl : text = text' := by simpa using hkey
    -- The mount ends with a slash, before which no escape can have begun.
    have hoctets : Percent.decode (Utf8.encode below) = Percent.decode (Utf8.encode below') :=
      (Http.decodePath_eq_ok_iff.1 htext).trans (Http.decodePath_eq_ok_iff.1 htext').symm
    rw [hbefore, Http.decode_encode_slash, Http.decode_encode_slash, hoctets]
    exact ⟨rfl, rfl⟩

/-- A text that begins with a slash and looks escaped, below the longer of two mounts. -/
theorem paths_name_keys_docs :
    let config := (Gateway.docs [] ⟨none, none, none⟩).target.config
    let target : Target :=
      { config := { config with
          mount := ⟨none, ["/", "/a b/"]⟩, bucket := { config.bucket with keyPrefix := "data" } }
        rules := []
        helpers := "" }
    let g : Gateway := ⟨target, .standard⟩
    let raw := "//%C3%a9é%2541"
    Percent.Spells "/éé%41".toList "/%C3%a9é%2541".toList ∧
      route (fun t : Target => t.config.mount) [target] none ("/a b/" ++ "/%C3%a9é%2541") =
        some ⟨target, "/a b/", raw⟩ ∧
      ∃ path, Http.decodePath raw = .ok path ∧ g.startKey path = "data/" ++ "/éé%41" := by
  intro config target g raw
  have hletter : Percent.Escapes (Utf8.encodeChar 'é') "%C3%a9".toList := by
    have hoctets : Utf8.encodeChar 'é' = [0xC3, 0xA9] := by decide
    rw [hoctets]
    exact .cons (.inr (by decide)) (.inl (by decide)) <|
      .cons (.inl (by decide)) (.inl (by decide)) .nil
  have hpercent : Percent.Escapes (Utf8.encodeChar '%') "%25".toList := by
    have hoctets : Utf8.encodeChar '%' = [0x25] := by decide
    rw [hoctets]
    exact .cons (.inl (by decide)) (.inl (by decide)) .nil
  have hspells : Percent.Spells "/éé%41".toList "/%C3%a9é%2541".toList :=
    .plain (by decide) <| .escaped hletter <| .plain (by decide) <| .escaped hpercent <|
      .plain (by decide) <| .plain (by decide) .nil
  have hroute : route (fun t : Target => t.config.mount) [target] none
      ("/a b/" ++ "/%C3%a9é%2541") = some ⟨target, "/a b/", raw⟩ := by
    simp [route, target, raw, Mount.acceptsHost?, Mount.candidates, Candidate.best,
      Candidate.choose, Candidate.better]
  have hrooted : Mount.isRooted "/a b/" = true := by decide
  have hroot : g.rootPrefix = "data/" := by decide +kernel
  obtain ⟨path, hdecode, hkey, -⟩ :=
    (paths_name_keys (g := g) rfl hrooted).1 _ _ [target] none raw hspells hroute
  rw [hroot] at hkey
  exact ⟨hspells, hroute, path, hdecode, hkey⟩

end Gateway

end ObjectGateway
