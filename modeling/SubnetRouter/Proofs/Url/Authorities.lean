import SubnetRouter.Proofs.Outcome
import SubnetRouter.Proofs.Url.Coding
import SubnetRouter.Url.Reader
import Mathlib.Algebra.Group.Nat.Defs
import Mathlib.Data.List.TakeWhile

/-!
# Schemes and authorities

* `avoids_of_readScheme?`: schemes.
* `wellFormed_of_readHost`: hosts, whatever the forms of international names are.
* `wellFormed_of_readAuthority`, `wellFormed_of_readFileHost`: authorities.
-/

namespace SubnetRouter.Url

open Text

/-! ## Schemes -/

theorem eq_true_of_ascii {p : Char → Bool} (h : ∀ n < 128, p (Char.ofNat n) = true) {c : Char}
    (hc : c.toNat < 128) : p c = true := by
  have hchar := h c.toNat hc
  rwa [Char.ofNat_toNat] at hchar

theorem toNat_lt_of_isAlphanum {c : Char} (h : c.isAlphanum = true) : c.toNat < 128 := by
  change (decide (65 ≤ c.toNat ∧ c.toNat ≤ 90) ||
    (decide (97 ≤ c.toNat) && decide (c.toNat ≤ 122)) ||
    (decide (48 ≤ c.toNat) && decide (c.toNat ≤ 57))) = true at h
  simp only [Bool.or_eq_true, Bool.and_eq_true, decide_eq_true_eq] at h
  omega

theorem endsName_toLower_of_isAlphanum {c : Char} (h : c.isAlphanum = true) :
    endsName c.toLower = false := by
  have hall : ∀ n < 128, (!(Char.ofNat n).isAlphanum || !endsName (Char.ofNat n).toLower) = true := by
    decide
  have hchar := eq_true_of_ascii (p := fun c => !c.isAlphanum || !endsName c.toLower) hall
    (toNat_lt_of_isAlphanum h)
  simpa [h] using hchar

theorem avoids_of_readScheme? {text scheme rest : List Char}
    (h : readScheme? text = some (scheme, rest)) : Avoids endsName scheme := by
  unfold readScheme? at h
  dsimp only at h
  split at h
  · split at h
    · cases h
      intro c hc
      obtain ⟨d, hd, rfl⟩ := List.mem_map.1 hc
      have hchar := List.mem_takeWhile_imp hd
      simp only [Bool.or_eq_true, decide_eq_true_eq] at hchar
      rcases hchar with ((halphanum | rfl) | rfl) | rfl
      · exact endsName_toLower_of_isAlphanum halphanum
      all_goals decide
    · cases h
  · cases h

/-! ## Hosts -/

/-- The host can be told from its written form.  A host of a plain scheme is never an IPv4 address,
and where such addresses are read no domain name looks like one. -/
def Host.WellFormed (kind : SchemeKind) : Host → Prop
  | .domain name => Avoids endsName name ∧ (kind ≠ .plain → endsInNumber name = false)
  | .ipv4 address => kind ≠ .plain ∧ address < 256 ^ 4
  | .ipv6 groups => groups.length = 8

/-- The groups and the gap fit into an address. -/
def Groups.Fits (g : Groups) : Prop :=
  g.places ≤ 8

theorem Groups.places_push (g : Groups) (group : Nat) : (g.push group).places = g.places + 1 := by
  unfold places push
  dsimp only
  rw [List.length_append, List.length_singleton]
  omega

theorem fits_of_readGroups? {fuel : Nat} {g g' : Groups} {text : List Char} (hg : g.Fits)
    (h : readGroups? fuel g text = some g') : g'.Fits := by
  induction fuel generalizing g text with
  | zero =>
      cases text with
      | nil =>
          cases h
          exact hg
      | cons c rest => cases h
  | succ fuel ih =>
      cases text with
      | nil =>
          cases h
          exact hg
      | cons c rest =>
          unfold readGroups? at h
          dsimp only at h
          split at h
          · cases h
          · rename_i hplaces
            have hroom : g.places < 8 := lt_of_le_of_ne hg hplaces
            have hpush : ∀ group, (g.push group).Fits := by
              intro group
              rw [Groups.Fits, g.places_push]
              exact hroom
            split at h
            · -- A gap takes a place like a group, and there was none before.
              split at h
              · cases h
              · rename_i hgap
                refine ih ?_ h
                unfold Groups.places at hroom
                rw [if_neg hgap] at hroom
                exact hroom
            · split at h
              · cases h
                exact hpush _
              · split at h
                · cases h
                · rename_i hsix
                  obtain ⟨⟨high, low⟩, -, rfl⟩ := Option.map_eq_some_iff.1 h
                  simp only [Bool.or_eq_true, decide_eq_true_eq, not_or, Nat.not_lt] at hsix
                  rw [Groups.Fits, Groups.places_push, Groups.places_push]
                  omega
              · cases h
              · exact ih (hpush _) h
              · cases h

theorem length_of_finish? {g : Groups} {groups : List Nat} (hg : g.Fits)
    (h : g.finish? = some groups) : groups.length = 8 := by
  unfold Groups.finish? at h
  unfold Groups.Fits Groups.places at hg
  split at h
  · split at h
    · rename_i hlength
      cases h
      exact hlength
    · cases h
  · rename_i gap hgap
    cases h
    rw [hgap, Option.isSome_some, if_pos rfl] at hg
    simp only [List.length_append, List.length_take, List.length_replicate, List.length_drop]
    omega

theorem length_of_readIpv6? {text : List Char} {groups : List Nat} (h : readIpv6? text = some groups) :
    groups.length = 8 := by
  unfold readIpv6? at h
  split at h
  · cases h
  · split at h
    · obtain ⟨g, hg, hfinish⟩ := Option.bind_eq_some_iff.1 h
      exact length_of_finish? (fits_of_readGroups? (Nat.le_of_ble_eq_true rfl) hg) hfinish
    · cases h
    · obtain ⟨g, hg, hfinish⟩ := Option.bind_eq_some_iff.1 h
      exact length_of_finish? (fits_of_readGroups? (Nat.le_of_ble_eq_true rfl) hg) hfinish

theorem wellFormed_of_readBracketed {kind : SchemeKind} {text : List Char} {host : Host}
    (h : readBracketed text = .ok host) : host.WellFormed kind := by
  unfold readBracketed at h
  split at h
  · split at h
    · rename_i groups hgroups
      cases h
      exact length_of_readIpv6? hgroups
    · cases h
  · cases h

theorem foldl_bytes_lt {bytes : List Nat} (h : ∀ byte ∈ bytes, byte ≤ 255) (value : Nat) :
    bytes.foldl (fun value byte => value * 256 + byte) value < (value + 1) * 256 ^ bytes.length := by
  induction bytes generalizing value with
  | nil => simp
  | cons byte rest ih =>
      rw [List.forall_mem_cons] at h
      have hrest := ih h.2 (value * 256 + byte)
      have hbyte : value * 256 + byte + 1 ≤ (value + 1) * 256 := by omega
      calc
        _ < (value * 256 + byte + 1) * 256 ^ rest.length := hrest
        _ ≤ (value + 1) * 256 * 256 ^ rest.length := Nat.mul_le_mul_right _ hbyte
        _ = (value + 1) * 256 ^ (rest.length + 1) := by rw [Nat.pow_succ']; exact Nat.mul_assoc _ _ _

theorem length_of_mapM {α β : Type} {f : α → Option β} {l : List α} {l' : List β}
    (h : l.mapM f = some l') : l'.length = l.length := by
  induction l generalizing l' with
  | nil =>
      cases h
      rfl
  | cons a l ih =>
      rw [List.mapM_cons] at h
      obtain ⟨b, -, h⟩ := Option.bind_eq_some_iff.1 h
      obtain ⟨rest, hrest, h⟩ := Option.bind_eq_some_iff.1 h
      cases h
      rw [List.length_cons, List.length_cons, ih hrest]

theorem wellFormed_of_readIpv4 {kind : SchemeKind} {name : List Char} {host : Host}
    (hkind : kind ≠ .plain) (h : readIpv4 name = .ok host) : host.WellFormed kind := by
  unfold readIpv4 at h
  dsimp only at h
  split at h
  · cases h
  · rename_i numbers hnumbers
    split at h
    · cases h
    · rename_i last hlast
      split at h
      · cases h
      · rename_i hvalid
        cases h
        refine ⟨hkind, ?_⟩
        simp only [Bool.or_eq_true, decide_eq_true_eq, not_or, Nat.not_lt, Nat.not_le,
          Bool.not_eq_true, List.any_eq_false] at hvalid
        obtain ⟨⟨hparts, hbytes⟩, hlow⟩ := hvalid
        have hlength := length_of_mapM hnumbers
        have hfour : numbers.dropLast.length ≤ 4 := by
          rw [List.length_dropLast]
          omega
        have hbytes : ∀ byte ∈ numbers.dropLast, byte ≤ 255 := by
          intro byte hbyte
          have := hbytes byte hbyte
          omega
        generalize numbers.dropLast = bytes at *
        have hhigh := foldl_bytes_lt hbytes 0
        rw [Nat.zero_add, Nat.one_mul] at hhigh
        generalize bytes.foldl (fun value byte => value * 256 + byte) 0 = high at hhigh ⊢
        calc
          high * 256 ^ (4 - bytes.length) + last < (high + 1) * 256 ^ (4 - bytes.length) := by
            rw [Nat.add_mul, Nat.one_mul]
            exact Nat.add_lt_add_left hlow _
          _ ≤ 256 ^ bytes.length * 256 ^ (4 - bytes.length) := Nat.mul_le_mul_right _ hhigh
          _ = 256 ^ 4 := by rw [← Nat.pow_add, Nat.add_sub_cancel' hfour]

theorem forbiddenInDomain_of_endsName (c : Char) (h : endsName c = true) :
    forbiddenInDomain c = true := by
  rw [endsName, Bool.or_eq_true] at h
  rcases h with h | h
  · simp only [isControl, Bool.or_eq_true, decide_eq_true_eq] at h
    simp only [forbiddenInDomain, Bool.or_eq_true, decide_eq_true_eq]
    omega
  · exact eq_true_of_contains (by decide) h

theorem avoids_of_domainName {idna : Idna} {bytes : List UInt8} {name : List Char}
    (h : domainName idna bytes = .ok name) : Avoids endsName name := by
  have hallowed : name.any forbiddenInDomain = false := by
    unfold domainName at h
    dsimp only at h
    split at h
    · split at h
      · rename_i hname
        cases h
        exact idna.allowed _ _ hname
      · cases h
    · split at h
      · cases h
      · rename_i hallowed
        cases h
        exact Bool.not_eq_true _ ▸ hallowed
  rw [List.any_eq_false] at hallowed
  exact fun c hc => eq_false_of_imp forbiddenInDomain_of_endsName (Bool.not_eq_true _ ▸ hallowed c hc)

theorem wellFormed_of_readSpecialHost {idna : Idna} {kind : SchemeKind} {text : List Char}
    {host : Host} (hkind : kind ≠ .plain) (h : readSpecialHost idna text = .ok host) :
    host.WellFormed kind := by
  unfold readSpecialHost at h
  split at h
  · exact wellFormed_of_readBracketed h
  · obtain ⟨name, hname, h⟩ := (bind_eq_ok_iff _ _ _).1 h
    split at h
    · cases h
    · split at h
      · exact wellFormed_of_readIpv4 hkind h
      · rename_i hnumber
        cases h
        exact ⟨avoids_of_domainName hname, fun _ => Bool.not_eq_true _ ▸ hnumber⟩

theorem forbiddenInHost_of_endsName (c : Char) (h : endsName c = true) (hc : isControl c = false) :
    forbiddenInHost c = true := by
  rw [endsName, hc, Bool.false_or] at h
  exact eq_true_of_contains (by decide) h

theorem wellFormed_of_readPlainHost {text : List Char} {host : Host}
    (h : readPlainHost text = .ok host) : host.WellFormed .plain := by
  unfold readPlainHost at h
  split at h
  · exact wellFormed_of_readBracketed h
  · split at h
    · cases h
    · rename_i hallowed
      cases h
      rw [Bool.not_eq_true, List.any_eq_false] at hallowed
      refine ⟨avoids_encode (by decide) fun c hc hcontrol => ?_, fun hplain => absurd rfl hplain⟩
      rw [← Bool.not_eq_true]
      exact fun hends => hallowed c hc (forbiddenInHost_of_endsName c hends hcontrol)

theorem wellFormed_of_readHost {idna : Idna} {kind : SchemeKind} {text : List Char} {host : Host}
    (h : readHost idna kind text = .ok host) : host.WellFormed kind := by
  unfold readHost at h
  split at h
  · rename_i hkind
    rw [hkind]
    exact wellFormed_of_readPlainHost h
  · rename_i hkind
    split at h
    · cases h
    · exact wellFormed_of_readSpecialHost hkind h

/-! ## Authorities -/

/-- No part of the authority has a character in it that would end the part. -/
structure Authority.WellFormed (kind : SchemeKind) (a : Authority) : Prop where
  username : Avoids endsName a.username
  password : Avoids endsName a.password
  host : a.host.WellFormed kind

theorem avoids_readUser (text : List Char) :
    Avoids endsName (readUser text).1 ∧ Avoids endsName (readUser text).2 :=
  ⟨avoids_encode_of_imp (by decide) codedInUser_of_endsName _,
    avoids_encode_of_imp (by decide) codedInUser_of_endsName _⟩

theorem wellFormed_localFiles (kind : SchemeKind) : localFiles.WellFormed kind where
  username := avoids_nil endsName
  password := avoids_nil endsName
  host := ⟨avoids_nil endsName, fun _ => by decide⟩

theorem wellFormed_of_readAuthority {idna : Idna} {kind : SchemeKind} {scheme text rest : List Char}
    {atEnd : Bool} {a : Authority} (h : readAuthority idna kind scheme text atEnd = .ok (a, rest)) :
    a.WellFormed kind := by
  unfold readAuthority at h
  dsimp only at h
  -- Three checks stand between the parts, and each may refuse the whole.
  have h := eq_ok_of_check h
  obtain ⟨host, hhost, h⟩ := (bind_eq_ok_iff _ _ _).1 h
  have h := eq_ok_of_check h
  obtain ⟨port, -, h⟩ := (bind_eq_ok_iff _ _ _).1 h
  have h := eq_ok_of_check h
  cases h
  exact ⟨(avoids_readUser _).1, (avoids_readUser _).2, wellFormed_of_readHost hhost⟩

theorem wellFormed_of_readFileHost {idna : Idna} {text : List Char} {a : Authority}
    (h : readFileHost idna text = .ok a) : a.WellFormed .file := by
  unfold readFileHost at h
  split at h
  · cases h
    exact wellFormed_localFiles .file
  · split at h
    · cases h
    · rename_i host hhost
      cases h
      split
      · exact wellFormed_localFiles .file
      · exact ⟨avoids_nil endsName, avoids_nil endsName, wellFormed_of_readSpecialHost nofun hhost⟩

end SubnetRouter.Url
