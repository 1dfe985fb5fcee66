import SubnetRouter.Proofs.Url.HostTexts
import SubnetRouter.Proofs.Url.WellFormed

/-!
# Texts of URLs

A well-formed URL is determined by its text, which is printable ASCII.

* `Authority.WellFormed.inner_inj`, `body_inj`, `tail_inj`: the parts.
* `chars_inj`, `avoids_chars`: whole URLs.
-/

namespace SubnetRouter.Url

open Text

/-! ## Authorities -/

/-- The user of an authority without the sign after it. -/
def Authority.user (a : Authority) : List Char :=
  a.username ++ if a.password.isEmpty then [] else ':' :: a.password

def portChars (port : Option Nat) : List Char :=
  (port.map fun port => ':' :: Nat.toDigits 10 port).getD []

/-- The text of an authority after the two slashes. -/
def Authority.inner (a : Authority) : List Char :=
  a.userChars ++ (a.host.chars ++ portChars a.port)

theorem Authority.chars_eq (a : Authority) : a.chars = '/' :: '/' :: a.inner := by
  unfold chars inner portChars
  simp only [List.cons_append, List.append_assoc]

theorem Authority.userChars_eq (a : Authority) :
    a.userChars = if a.user.isEmpty then [] else a.user ++ ['@'] :=
  rfl

theorem beginsIn_portChars (port : Option Nat) : BeginsIn (· = ':') (portChars port) := by
  cases port with
  | none => exact beginsIn_nil _
  | some port => exact beginsIn_cons (decide_eq_true rfl) _

theorem portChars_inj {port port' : Option Nat} (h : portChars port = portChars port') :
    port = port' := by
  cases port <;> cases port'
  · rfl
  · cases h
  · cases h
  · exact congrArg some (toDigits_injective (by omega) (by omega) (List.cons.inj h).2)

theorem avoids_portChars (port : Option Nat) : Avoids endsUser (portChars port) :=
  avoids_getD_map fun port _ =>
    avoids_cons.2 ⟨by decide, avoids_toDigits (by omega) (by omega) (by decide) port⟩

theorem Host.WellFormed.avoids {kind : SchemeKind} {host : Host} (h : host.WellFormed kind) :
    Avoids endsUser host.chars := by
  cases host with
  | domain name => exact Avoids.mono h.1 endsName_of_endsUser
  | ipv4 address => exact avoids_ipv4Chars (by decide) (by decide) address
  | ipv6 groups =>
      have hgroups : Avoids endsUser (ipv6Chars groups) :=
        avoids_ipv6Chars (by decide) (by decide) groups
      exact avoids_cons.2 ⟨by decide, avoids_append.2 ⟨hgroups, by decide⟩⟩

namespace Authority.WellFormed

variable {kind : SchemeKind} {a b : Authority}

theorem avoids_user (h : a.WellFormed kind) : Avoids endsUser a.user := by
  unfold user
  rw [avoids_append]
  refine ⟨h.username.mono endsName_of_endsUser, ?_⟩
  split
  · exact avoids_nil endsUser
  · exact avoids_cons.2 ⟨by decide, h.password.mono endsName_of_endsUser⟩

theorem avoids_inner (h : a.WellFormed kind) : Avoids endsSegment a.inner := by
  have hhost := (h.host.avoids).mono endsUser_of_endsSegment
  have hport := (avoids_portChars a.port).mono endsUser_of_endsSegment
  unfold inner
  rw [avoids_append, avoids_append, userChars_eq]
  refine ⟨?_, hhost, hport⟩
  split
  · exact avoids_nil endsSegment
  · rw [avoids_append]
    exact ⟨h.avoids_user.mono endsUser_of_endsSegment, by decide⟩

/-- The user determines the name and the password: a password that is there is not empty. -/
theorem user_inj (ha : a.WellFormed kind) (hb : b.WellFormed kind) (h : a.user = b.user) :
    a.username = b.username ∧ a.password = b.password := by
  have hbegins : ∀ password : List Char,
      BeginsIn (· = ':') (if password.isEmpty then [] else ':' :: password) := by
    intro password
    split
    · exact beginsIn_nil _
    · exact beginsIn_cons (decide_eq_true rfl) _
  obtain ⟨hname, hpassword⟩ := append_inj_of_avoids (ha.username.of_mem (by decide))
    (hb.username.of_mem (by decide)) (hbegins _) (hbegins _) h
  refine ⟨hname, ?_⟩
  generalize a.password = password at hpassword ⊢
  generalize b.password = password' at hpassword ⊢
  cases password <;> cases password'
  · rfl
  · cases hpassword
  · cases hpassword
  · exact (List.cons.inj hpassword).2

theorem userChars_append_inj (ha : a.WellFormed kind) (hb : b.WellFormed kind) {y y' : List Char}
    (hy : Avoids endsUser y) (hy' : Avoids endsUser y') (h : a.userChars ++ y = b.userChars ++ y') :
    a.user = b.user ∧ y = y' := by
  have hat : endsUser '@' = true := by decide
  rw [userChars_eq, userChars_eq] at h
  split at h <;> split at h
  · rename_i hnone hnone'
    rw [List.isEmpty_iff.1 hnone, List.isEmpty_iff.1 hnone']
    exact ⟨rfl, h⟩
  · rw [List.nil_append] at h
    exact absurd (h ▸ by simp) (hy.not_mem hat)
  · rw [List.nil_append] at h
    exact absurd (h ▸ by simp) (hy'.not_mem hat)
  · rw [List.append_assoc, List.append_assoc] at h
    have hbegins : ∀ y, BeginsIn (· = '@') ('@' :: y) := beginsIn_cons (decide_eq_true rfl)
    obtain ⟨huser, hrest⟩ := append_inj_of_avoids (ha.avoids_user.of_mem hat)
      (hb.avoids_user.of_mem hat) (hbegins y) (hbegins y') h
    exact ⟨huser, (List.cons.inj hrest).2⟩

theorem inner_inj (ha : a.WellFormed kind) (hb : b.WellFormed kind) (h : a.inner = b.inner) :
    a = b := by
  have hrest : ∀ {a : Authority}, a.WellFormed kind →
      Avoids endsUser (a.host.chars ++ portChars a.port) :=
    fun ha => avoids_append.2 ⟨ha.host.avoids, avoids_portChars _⟩
  obtain ⟨huser, h⟩ := userChars_append_inj ha hb (hrest ha) (hrest hb) h
  obtain ⟨hname, hpassword⟩ := user_inj ha hb huser
  obtain ⟨hhost, hport⟩ :=
    host_append_inj ha.host hb.host (beginsIn_portChars _) (beginsIn_portChars _) h
  cases a
  cases b
  simp only [mk.injEq]
  exact ⟨hname, hpassword, hhost, portChars_inj hport⟩

end Authority.WellFormed

/-! ## Paths -/

theorem chars_segments_cons (first : List Char) (rest : List (List Char)) :
    (Path.segments (first :: rest)).chars = '/' :: (first ++ (Path.segments rest).chars) :=
  List.flatMap_cons

theorem beginsIn_segments (segments : List (List Char)) :
    BeginsIn (· = '/') (Path.segments segments).chars := by
  cases segments with
  | nil => exact beginsIn_nil _
  | cons first rest => exact beginsIn_cons (decide_eq_true rfl) _

theorem segments_inj {segments segments' : List (List Char)}
    (h : ∀ segment ∈ segments, Avoids endsSegment segment)
    (h' : ∀ segment ∈ segments', Avoids endsSegment segment)
    (heq : (Path.segments segments).chars = (Path.segments segments').chars) :
    segments = segments' := by
  have hslash : ∀ {segment}, Avoids endsSegment segment → Avoids (· = '/') segment :=
    fun hsegment => hsegment.of_mem (by decide)
  dsimp only [Path.chars] at heq
  rw [← List.append_nil (segments.flatMap _), ← List.append_nil (segments'.flatMap _)] at heq
  exact (flatMap_append_inj Function.injective_id (fun segment hmem => hslash (h segment hmem))
    (fun segment hmem => hslash (h' segment hmem)) (beginsIn_nil _) (beginsIn_nil _)
    (fun _ _ => nofun) (fun _ _ => nofun) heq).1

/-- What keeps a path without an authority apart from one. -/
def Path.guard (path : Path) : List Char :=
  if path.looksLikeAuthority then ['/', '.'] else []

theorem Path.looksLikeAuthority_iff (path : Path) :
    path.looksLikeAuthority = true ↔ ∃ rest, path.chars = '/' :: '/' :: rest := by
  unfold looksLikeAuthority
  rw [List.isPrefixOf_iff_prefix]
  exact ⟨fun ⟨rest, h⟩ => ⟨rest, h.symm⟩, fun ⟨rest, h⟩ => ⟨rest, h.symm⟩⟩

/-- The text of an authority and a path. -/
def body (authority : Option Authority) (path : Path) : List Char :=
  match authority with
  | some a => '/' :: '/' :: (a.inner ++ path.chars)
  | none => path.guard ++ path.chars

/-- Without an authority there are not two slashes. -/
theorem guard_append_ne (path : Path) (rest : List Char) :
    path.guard ++ path.chars ≠ '/' :: '/' :: rest := by
  unfold Path.guard
  by_cases hlooks : path.looksLikeAuthority = true
  · rw [if_pos hlooks]
    nofun
  · rw [if_neg hlooks]
    exact fun h => hlooks (path.looksLikeAuthority_iff.2 ⟨rest, h⟩)

/-- No path has the guard of another path as its first segment. -/
theorem guarded_ne {first : List Char} (hdot : first ≠ ['.']) (h : Avoids endsSegment first)
    (rest : List (List Char)) (path : List Char) :
    ['/', '.'] ++ '/' :: path ≠ (Path.segments (first :: rest)).chars := by
  intro heq
  rw [chars_segments_cons] at heq
  have hsplit := append_inj_of_avoids (x := ['.']) (by decide) (h.of_mem (c := '/') (by decide))
    (beginsIn_cons (decide_eq_true rfl) path) (beginsIn_segments rest) (List.cons.inj heq).2
  exact hdot hsplit.1.symm

theorem guard_append_inj {first first' : List Char} {rest rest' : List (List Char)}
    (hdot : first ≠ ['.']) (hdot' : first' ≠ ['.'])
    (h : Avoids endsSegment first) (h' : Avoids endsSegment first')
    (heq : (Path.segments (first :: rest)).guard ++ (Path.segments (first :: rest)).chars =
      (Path.segments (first' :: rest')).guard ++ (Path.segments (first' :: rest')).chars) :
    (Path.segments (first :: rest)).chars = (Path.segments (first' :: rest')).chars := by
  unfold Path.guard at heq
  split at heq <;> split at heq
  · exact List.append_cancel_left heq
  · rw [chars_segments_cons first] at heq
    exact absurd heq (guarded_ne hdot' h' rest' _)
  · rw [chars_segments_cons first'] at heq
    exact absurd heq.symm (guarded_ne hdot h rest _)
  · exact heq

theorem guard_raw {text : List Char} (hslash : text.head? ≠ some '/') : (Path.raw text).guard = [] := by
  refine if_neg fun hlooks => ?_
  obtain ⟨rest, hchars⟩ := (Path.looksLikeAuthority_iff _).1 hlooks
  have htext : text = '/' :: '/' :: rest := hchars
  rw [htext] at hslash
  exact hslash rfl

/-- A path of segments begins with a slash, guarded or not, and another text does not. -/
theorem guard_append_ne_raw {text : List Char} (hslash : text.head? ≠ some '/') (first : List Char)
    (rest : List (List Char)) :
    (Path.segments (first :: rest)).guard ++ (Path.segments (first :: rest)).chars ≠
      (Path.raw text).guard ++ (Path.raw text).chars := by
  rw [guard_raw hslash, List.nil_append, chars_segments_cons]
  change _ ≠ text
  rintro rfl
  unfold Path.guard at hslash
  split at hslash <;> exact hslash rfl

theorem body_inj {kind : SchemeKind} {authority authority' : Option Authority} {path path' : Path}
    (ha : ∀ a, authority = some a → a.WellFormed kind)
    (ha' : ∀ a, authority' = some a → a.WellFormed kind) (hpath : PathWellFormed authority path)
    (hpath' : PathWellFormed authority' path') (h : body authority path = body authority' path') :
    authority = authority' ∧ path = path' := by
  cases hpath with
  | @behind a segments hsegments =>
      cases hpath' with
      | @behind a' segments' hsegments' =>
          obtain ⟨hinner, hchars⟩ := append_inj_of_avoids
            ((ha a rfl).avoids_inner.of_mem (c := '/') (by decide))
            ((ha' a' rfl).avoids_inner.of_mem (c := '/') (by decide)) (beginsIn_segments segments)
            (beginsIn_segments segments') (List.cons.inj (List.cons.inj h).2).2
          rw [(ha a rfl).inner_inj (ha' a' rfl) hinner, segments_inj hsegments hsegments' hchars]
          exact ⟨rfl, rfl⟩
      | rooted | raw => exact absurd h.symm (guard_append_ne _ _)
  | @rooted first rest hdot hsegments =>
      cases hpath' with
      | behind => exact absurd h (guard_append_ne _ _)
      | @rooted first' rest' hdot' hsegments' =>
          have hchars := guard_append_inj hdot hdot' (hsegments first List.mem_cons_self)
            (hsegments' first' List.mem_cons_self) h
          rw [segments_inj hsegments hsegments' hchars]
          exact ⟨rfl, rfl⟩
      | raw hslash => exact absurd h (guard_append_ne_raw hslash first rest)
  | @raw text hslash =>
      cases hpath' with
      | behind => exact absurd h (guard_append_ne _ _)
      | @rooted first' rest' => exact absurd h.symm (guard_append_ne_raw hslash first' rest')
      | @raw text' hslash' =>
          unfold body at h
          rw [guard_raw hslash, guard_raw hslash', List.nil_append, List.nil_append] at h
          exact ⟨rfl, congrArg Path.raw h⟩

theorem avoids_segments {segments : List (List Char)}
    (h : ∀ segment ∈ segments, Avoids endsSegment segment) :
    Avoids endsPath (Path.segments segments).chars :=
  avoids_flatMap fun segment hmem =>
    avoids_cons.2 ⟨by decide, (h segment hmem).mono endsSegment_of_endsPath⟩

theorem avoids_body {kind : SchemeKind} {authority : Option Authority} {path : Path}
    (ha : ∀ a, authority = some a → a.WellFormed kind) (hpath : PathWellFormed authority path) :
    Avoids endsPath (body authority path) := by
  have hguard : ∀ path : Path, Avoids endsPath path.guard := by
    intro path
    unfold Path.guard
    split <;> decide
  cases hpath with
  | @behind a segments hsegments =>
      have hinner := (ha a rfl).avoids_inner.mono endsSegment_of_endsPath
      exact avoids_cons.2 ⟨by decide, avoids_cons.2 ⟨by decide,
        avoids_append.2 ⟨hinner, avoids_segments hsegments⟩⟩⟩
  | rooted hdot hsegments => exact avoids_append.2 ⟨hguard _, avoids_segments hsegments⟩
  | raw hslash htext => exact avoids_append.2 ⟨hguard _, htext⟩

/-! ## Whole URLs -/

/-- The text of a query and a fragment. -/
def tail (query fragment : Option (List Char)) : List Char :=
  (query.map ('?' :: ·)).getD [] ++ (fragment.map ('#' :: ·)).getD []

theorem chars_eq (u : Url) :
    u.chars = u.scheme ++ ':' :: (body u.authority u.path ++ tail u.query u.fragment) := by
  unfold chars body tail Path.guard
  cases u.authority with
  | none => simp only [Option.map_none, Option.getD_none, Option.isNone_none, Bool.true_and,
      List.append_assoc, List.cons_append, List.nil_append]
  | some a => simp only [Option.map_some, Option.getD_some, Option.isNone_some, Bool.false_and,
      Bool.false_eq_true, if_false, a.chars_eq, List.append_assoc, List.cons_append, List.nil_append]

theorem beginsIn_tail (query fragment : Option (List Char)) :
    BeginsIn (fun c => c = '?' || c = '#') (tail query fragment) := by
  cases query with
  | some query => exact beginsIn_cons (by decide) _
  | none =>
      cases fragment with
      | some fragment => exact beginsIn_cons (by decide) _
      | none => exact beginsIn_nil _

theorem fragment_inj {fragment fragment' : Option (List Char)}
    (h : (fragment.map ('#' :: ·)).getD [] = (fragment'.map ('#' :: ·)).getD []) :
    fragment = fragment' := by
  cases fragment <;> cases fragment'
  · rfl
  · cases h
  · cases h
  · exact congrArg some (List.cons.inj h).2

theorem query_ne_fragment (query : List Char) (rest : List Char) (fragment : Option (List Char)) :
    '?' :: query ++ rest ≠ (fragment.map ('#' :: ·)).getD [] := by
  cases fragment <;> nofun

theorem tail_inj {query query' fragment fragment' : Option (List Char)}
    (hquery : ∀ text, query = some text → Avoids endsQuery text)
    (hquery' : ∀ text, query' = some text → Avoids endsQuery text)
    (h : tail query fragment = tail query' fragment') : query = query' ∧ fragment = fragment' := by
  cases query with
  | none =>
      cases query' with
      | none => exact ⟨rfl, fragment_inj h⟩
      | some text' => exact absurd h.symm (query_ne_fragment text' _ fragment)
  | some text =>
      cases query' with
      | none => exact absurd h (query_ne_fragment text _ fragment')
      | some text' =>
          have hbegins : ∀ fragment : Option (List Char),
              BeginsIn (· = '#') ((fragment.map ('#' :: ·)).getD []) := by
            intro fragment
            cases fragment with
            | none => exact beginsIn_nil _
            | some fragment => exact beginsIn_cons (decide_eq_true rfl) _
          obtain ⟨htext, hrest⟩ := append_inj_of_avoids ((hquery text rfl).of_mem (by decide))
            ((hquery' text' rfl).of_mem (by decide)) (hbegins fragment) (hbegins fragment')
            (List.cons.inj h).2
          exact ⟨congrArg some htext, fragment_inj hrest⟩

/-- The text of a well-formed URL determines it. -/
theorem chars_inj {u v : Url} (hu : u.WellFormed) (hv : v.WellFormed) (h : u.chars = v.chars) :
    u = v := by
  rw [chars_eq, chars_eq] at h
  obtain ⟨hscheme, h⟩ := append_inj_of_avoids (hu.scheme.of_mem (by decide))
    (hv.scheme.of_mem (by decide)) (beginsIn_cons (decide_eq_true rfl) _)
    (beginsIn_cons (decide_eq_true rfl) _) h
  have hends : ∀ c, (decide (c = '?') || decide (c = '#')) = true → endsPath c = true := by
    intro c hc
    rw [Bool.or_eq_true, decide_eq_true_eq, decide_eq_true_eq] at hc
    rcases hc with rfl | rfl <;> decide
  have hvauthority : ∀ a, v.authority = some a → a.WellFormed (kindOf u.scheme) := by
    rw [hscheme]
    exact hv.authority
  obtain ⟨hbody, htail⟩ := append_inj_of_avoids ((avoids_body hu.authority hu.path).mono hends)
    ((avoids_body hv.authority hv.path).mono hends) (beginsIn_tail _ _) (beginsIn_tail _ _)
    (List.cons.inj h).2
  obtain ⟨hauthority, hpath⟩ := body_inj hu.authority hvauthority hu.path hv.path hbody
  obtain ⟨hquery, hfragment⟩ := tail_inj hu.query hv.query htail
  cases u
  cases v
  simp only [mk.injEq]
  exact ⟨hscheme, hauthority, hpath, hquery, hfragment⟩

/-- The text of a well-formed URL is printable ASCII. -/
theorem avoids_chars {u : Url} (h : u.WellFormed) : Avoids isControl u.chars := by
  have hcontrol : ∀ {ends : Char → Bool} {marks : List Char},
      (∀ c, ends c = (isControl c || marks.contains c)) → ∀ c, isControl c = true → ends c = true := by
    intro ends marks hends c hc
    rw [hends, hc, Bool.true_or]
  rw [chars_eq, avoids_append, avoids_cons, avoids_append]
  refine ⟨h.scheme.mono (hcontrol fun _ => rfl), by decide,
    (avoids_body h.authority h.path).mono (hcontrol fun _ => rfl), ?_⟩
  have hquery : ∀ c, isControl c = true → endsQuery c = true := by
    intro c hc
    rw [endsQuery, hc, Bool.true_or]
  exact avoids_append.2 ⟨avoids_getD_map fun query hmem => avoids_cons.2 ⟨by decide,
      (h.query query hmem).mono hquery⟩,
    avoids_getD_map fun fragment hmem => avoids_cons.2 ⟨by decide, h.fragment fragment hmem⟩⟩

end SubnetRouter.Url
