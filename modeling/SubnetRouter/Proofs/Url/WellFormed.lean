import SubnetRouter.Proofs.Url.Authorities
import Mathlib.Data.List.TakeDrop

/-!
# Well-formed URLs

Every URL that has been read is *well-formed*: where its parts are written one after the other, each of
them can be told from what follows it.

* `Trail.wellFormed_walk`: the levels of a path.
* `wellFormed_of_read`: whole URLs.
-/

namespace SubnetRouter.Url

open Text

/-! ## Paths -/

/-- A level is a segment as it is written.  Only in files a segment that is a single dot may be one. -/
structure LevelWellFormed (kind : SchemeKind) (level : List Char) : Prop where
  avoids : Avoids endsSegment level
  ne_dot : kind ≠ .file → level ≠ ['.']

def Trail.WellFormed (kind : SchemeKind) (trail : Trail) : Prop :=
  ∀ level ∈ trail.levels, LevelWellFormed kind level

theorem mem_of_mem_withoutBreaks {c : Char} {text : List Char} (h : c ∈ withoutBreaks text) :
    c ∈ text :=
  (List.mem_filter.1 h).1

theorem avoids_encode_segment {segment : List Char} (h : '/' ∉ segment) :
    Avoids endsSegment (encode codedInPath segment) := by
  apply avoids_encode (by decide)
  intro c hc hcoded
  have hpath := eq_false_of_imp codedInPath_of_endsPath hcoded
  have hslash : c ≠ '/' := by
    rintro rfl
    exact h hc
  simp only [endsPath, endsSegment, Bool.or_eq_false_iff, List.contains_cons, List.contains_nil,
    beq_eq_false_iff_ne] at hpath ⊢
  exact ⟨hpath.1, hpath.2.1, hslash, hpath.2.2⟩

theorem encode_cons (coded : Char → Bool) (c : Char) (text : List Char) :
    encode coded (c :: text) =
      (if coded c then (utf8Bytes [c]).flatMap codedByte else [c]) ++ encode coded text :=
  List.flatMap_cons

theorem head?_encode_cons (coded : Char → Bool) (c : Char) (text : List Char) :
    (encode coded (c :: text)).head? = some (if coded c then '%' else c) := by
  rw [encode_cons]
  by_cases hcoded : coded c = true
  · obtain ⟨byte, bytes, hbytes⟩ :=
      List.exists_cons_of_ne_nil (String.utf8EncodeChar_ne_nil (c := c))
    have hutf8 : utf8Bytes [c] = byte :: bytes := by
      rw [utf8Bytes, List.flatMap_singleton, hbytes]
    rw [if_pos hcoded, if_pos hcoded, hutf8]
    rfl
  · rw [if_neg hcoded, if_neg hcoded]
    rfl

theorem encode_eq_singleton {coded : Char → Bool} {text : List Char} {c : Char} (hc : c ≠ '%')
    (h : encode coded text = [c]) : text = [c] := by
  cases text with
  | nil => cases h
  | cons d rest =>
      have hhead := head?_encode_cons coded d rest
      rw [h, List.head?_cons, Option.some.injEq] at hhead
      by_cases hcoded : coded d = true
      · rw [if_pos hcoded] at hhead
        exact absurd hhead hc
      · rw [if_neg hcoded] at hhead
        rw [encode_cons, if_neg hcoded, hhead, List.singleton_append, List.cons.injEq] at h
        cases rest with
        | nil => rw [hhead]
        | cons e rest =>
            have hnext := head?_encode_cons coded e rest
            rw [h.2] at hnext
            cases hnext

/-! ### Segments of a route -/

theorem avoids_of_mem_pieces {isMark : Char → Bool} {text piece : List Char}
    (h : piece ∈ pieces isMark text) : Avoids isMark piece := by
  suffices hcut : Avoids isMark (cut isMark text).1 ∧
      ∀ other ∈ (cut isMark text).2, Avoids isMark other by
    rcases List.mem_cons.1 h with rfl | h
    · exact hcut.1
    · exact hcut.2 piece h
  clear h
  induction text with
  | nil => exact ⟨avoids_nil isMark, nofun⟩
  | cons c rest ih =>
      unfold cut
      dsimp only
      by_cases hmark : isMark c = true
      · rw [if_pos hmark]
        exact ⟨avoids_nil isMark, List.forall_mem_cons.2 ih⟩
      · rw [if_neg hmark]
        exact ⟨avoids_cons.2 ⟨Bool.not_eq_true _ ▸ hmark, ih.1⟩, ih.2⟩

theorem slash_not_mem_of_mem_route {kind : SchemeKind} {text segment : List Char}
    (h : segment ∈ route kind text) : '/' ∉ segment := by
  rcases List.mem_append.1 h with h | h
  · apply (avoids_of_mem_pieces h).not_mem
    rw [SchemeKind.isSlash, decide_eq_true rfl, Bool.true_or]
  · split at h
    · rw [List.mem_singleton.1 h]
      exact List.not_mem_nil
    · cases h

/-- What comes last is a segment that is no dots. -/
theorem exists_route_eq (kind : SchemeKind) (text : List Char) :
    ∃ before last, route kind text = before ++ [last] ∧ isSingleDot (withoutBreaks last) = false ∧
      isDoubleDot (withoutBreaks last) = false := by
  unfold route
  dsimp only
  obtain ⟨before, last, hpieces⟩ : ∃ before last, pieces kind.isSlash text = before ++ [last] :=
    ⟨_, _, (List.dropLast_concat_getLast (List.cons_ne_nil _ _)).symm⟩
  rw [hpieces, List.getLast?_concat, Option.any_some]
  split
  · exact ⟨before ++ [last], [], rfl, by decide, by decide⟩
  · rename_i hdots
    rw [Bool.not_eq_true, Bool.or_eq_false_iff] at hdots
    exact ⟨before, last, List.append_nil _, hdots.1, hdots.2⟩

/-! ### Trails -/

namespace Trail

variable {kind : SchemeKind} {trail : Trail}

theorem WellFormed.leave (h : trail.WellFormed kind) : trail.leave.WellFormed kind := by
  unfold Trail.leave
  split
  · exact h
  · rename_i last above hlevels
    unfold WellFormed at h
    rw [hlevels] at h
    split
    · unfold WellFormed
      rwa [hlevels]
    · exact (List.forall_mem_cons.1 h).2

theorem WellFormed.push (h : trail.WellFormed kind) {segment : List Char} (hslash : '/' ∉ segment)
    (hdot : kind ≠ .file → isSingleDot segment = false) :
    (trail.push segment).WellFormed kind := by
  refine List.forall_mem_cons.2 ⟨⟨avoids_encode_segment hslash, fun hkind hlevel => ?_⟩, h⟩
  have hdot := hdot hkind
  rw [encode_eq_singleton (by decide) hlevel] at hdot
  cases hdot

theorem mem_of_splitDrive? {segment drive rest : List Char}
    (h : splitDrive? segment = some (drive, rest)) :
    (∀ c ∈ drive, c ∈ segment) ∧ ∀ c ∈ rest, c ∈ segment := by
  unfold splitDrive? at h
  split at h
  · rename_i letter after hletter
    have hsegment : ∀ c ∈ letter :: after, c ∈ segment :=
      fun c hc => (List.dropWhile_sublist isBreak).mem (hletter ▸ hc)
    split at h
    · rename_i text htext
      have hafter : ∀ c ∈ ':' :: text, c ∈ segment :=
        fun c hc => hsegment c (List.mem_cons_of_mem _
          ((List.dropWhile_sublist isBreak).mem (htext ▸ hc)))
      dsimp only at h
      split at h
      · cases h
        constructor
        · intro c hc
          simp only [List.mem_cons, List.not_mem_nil, or_false] at hc
          rcases hc with rfl | rfl
          · exact hsegment c List.mem_cons_self
          · exact hafter ':' List.mem_cons_self
        · exact fun c hc => hafter c (List.mem_cons_of_mem _ (mem_of_mem_withoutBreaks hc))
      · cases h
    · cases h
  · cases h

/-- A drive is not coded; it is a letter and a colon whatever was written after the letter. -/
theorem wellFormed_drive {letter : Char} (h : letter.isAlpha = true) :
    LevelWellFormed kind [letter, ':'] := by
  refine ⟨?_, fun _ => nofun⟩
  have hall : ∀ n < 128, (!(Char.ofNat n).isAlpha || !endsSegment (Char.ofNat n)) = true := by decide
  have hletter := eq_true_of_ascii (p := fun c => !c.isAlpha || !endsSegment c) hall
    (toNat_lt_of_isAlphanum (by rw [Char.isAlphanum, h, Bool.true_or]))
  rw [h] at hletter
  simp only [avoids_cons, avoids_nil, and_true]
  exact ⟨by simpa using hletter, by decide⟩

theorem WellFormed.enterTop (h : trail.WellFormed .file) {segment : List Char}
    (hslash : '/' ∉ segment) : (trail.enterTop segment).WellFormed .file := by
  have hpush : ∀ {trail : Trail} {part : List Char}, trail.WellFormed .file →
      (∀ c ∈ part, c ∈ segment) → (trail.push part).WellFormed .file :=
    fun htrail hpart => htrail.push (fun hc => hslash (hpart _ hc)) fun hkind => absurd rfl hkind
  have hname : ∀ c ∈ withoutBreaks segment, c ∈ segment := fun _ => mem_of_mem_withoutBreaks
  unfold Trail.enterTop
  split
  · rename_i letter mark hsegment
    split
    · rename_i hdrive
      rw [isDrive, Bool.and_eq_true] at hdrive
      intro level hlevel
      rw [List.mem_singleton.1 hlevel]
      exact wellFormed_drive hdrive.1
    · exact hpush h (hsegment ▸ hname)
  · rename_i hdrive _
    obtain ⟨hfront, hback⟩ := mem_of_splitDrive? hdrive
    exact hpush (hpush h hfront) hback
  · exact hpush h hname

theorem WellFormed.follow (h : trail.WellFormed kind) {segment : List Char} (hslash : '/' ∉ segment) :
    (trail.follow kind segment).WellFormed kind := by
  unfold Trail.follow
  dsimp only
  split
  · exact h.leave
  · split
    · exact h
    · rename_i hdot
      split
      · rename_i htop
        rw [Bool.and_eq_true, decide_eq_true_eq] at htop
        obtain ⟨rfl, -⟩ := htop
        exact h.enterTop hslash
      · exact h.push (fun hc => hslash (mem_of_mem_withoutBreaks hc)) fun _ => Bool.not_eq_true _ ▸ hdot

theorem wellFormed_walk (kind : SchemeKind) (text : List Char) : (walk kind text).WellFormed kind := by
  unfold walk
  apply List.foldlRecOn
  · exact nofun
  · exact fun trail h segment hsegment => h.follow (slash_not_mem_of_mem_route hsegment)

theorem mem_of_mem_dropLeadingEmpty {segments : List (List Char)} {segment : List Char}
    (h : segment ∈ dropLeadingEmpty segments) : segment ∈ segments := by
  fun_induction dropLeadingEmpty segments with
  | case1 next rest ih => exact List.mem_cons_of_mem _ (ih h)
  | case2 segments => exact h

end Trail

/-- Only files may have a path that leads nowhere. -/
theorem levels_walk_ne_nil {kind : SchemeKind} (hkind : kind ≠ .file) (text : List Char) :
    (walk kind text).levels ≠ [] := by
  obtain ⟨before, last, hroute, hsingle, hdouble⟩ := exists_route_eq kind text
  unfold walk
  rw [hroute, List.foldl_append, List.foldl_cons, List.foldl_nil]
  unfold Trail.follow
  dsimp only
  rw [if_neg (by rw [hdouble]; nofun), if_neg (by rw [hsingle]; nofun),
    if_neg (by simp [hkind])]
  exact List.cons_ne_nil _ _

/-! ### Paths of URLs -/

/-- Behind an authority a path is made of segments.  Without one, it has a first segment that is no
dot, or it is a text that does not begin with a slash. -/
inductive PathWellFormed : Option Authority → Path → Prop where
  | behind {a : Authority} {segments : List (List Char)}
      (h : ∀ segment ∈ segments, Avoids endsSegment segment) :
      PathWellFormed (some a) (.segments segments)
  | rooted {first : List Char} {rest : List (List Char)} (hdot : first ≠ ['.'])
      (h : ∀ segment ∈ first :: rest, Avoids endsSegment segment) :
      PathWellFormed none (.segments (first :: rest))
  | raw {text : List Char} (hslash : text.head? ≠ some '/') (h : Avoids endsPath text) :
      PathWellFormed none (.raw text)

theorem pathWellFormed_path {kind : SchemeKind} {trail : Trail} (h : trail.WellFormed kind)
    (a : Authority) : PathWellFormed (some a) (trail.path kind) := by
  refine .behind fun segment hsegment => (h segment ?_).avoids
  split at hsegment
  · exact List.mem_reverse.1 (Trail.mem_of_mem_dropLeadingEmpty hsegment)
  · exact List.mem_reverse.1 hsegment

theorem pathWellFormed_readPath (kind : SchemeKind) (text : List Char) (a : Authority) :
    PathWellFormed (some a) (readPath kind text) := by
  unfold readPath
  split
  · exact .behind nofun
  · exact pathWellFormed_path (Trail.wellFormed_walk kind _) a

theorem pathWellFormed_readSegments (text : List Char) :
    PathWellFormed none (readSegments .plain text) := by
  have hwalk := Trail.wellFormed_walk .plain text
  have hne : (walk .plain text).levels.reverse ≠ [] := by
    rw [ne_eq, List.reverse_eq_nil_iff]
    exact levels_walk_ne_nil (by decide) text
  obtain ⟨first, rest, hlevels⟩ := List.exists_cons_of_ne_nil hne
  have hlevel : ∀ level ∈ first :: rest, LevelWellFormed .plain level := by
    intro level hmem
    rw [← hlevels, List.mem_reverse] at hmem
    exact hwalk level hmem
  have hpath : readSegments .plain text = .segments (first :: rest) := by
    unfold readSegments Trail.path
    dsimp only
    rw [if_neg nofun, hlevels]
  rw [hpath]
  exact .rooted ((hlevel first List.mem_cons_self).ne_dot (by decide)) fun segment hmem =>
    (hlevel segment hmem).avoids

theorem pathWellFormed_raw {text : List Char} (h : text.head? ≠ some '/') :
    PathWellFormed none (.raw (encode isControl (spanPath text).1)) := by
  have hspan : (spanPath text).1 = text.takeWhile fun c => c ≠ '?' && c ≠ '#' := by
    rw [spanPath, List.span_eq_takeWhile_dropWhile]
  rw [hspan]
  constructor
  · cases text with
    | nil => nofun
    | cons c rest =>
        rw [List.takeWhile_cons]
        split
        · rw [head?_encode_cons, ne_eq, Option.some.injEq]
          split
          · decide
          · exact fun hc => h (congrArg some hc)
        · nofun
  · apply avoids_encode (by decide)
    intro c hc hcontrol
    have hchar := List.mem_takeWhile_imp hc
    simp only [Bool.and_eq_true, decide_eq_true_eq] at hchar
    simp [endsPath, hcontrol, hchar]

/-! ## Whole URLs -/

/-- Each part can be told from the text of the whole. -/
structure WellFormed (u : Url) : Prop where
  scheme : Avoids endsName u.scheme
  authority : ∀ a, u.authority = some a → a.WellFormed (kindOf u.scheme)
  path : PathWellFormed u.authority u.path
  query : ∀ query, u.query = some query → Avoids endsQuery query
  fragment : ∀ fragment, u.fragment = some fragment → Avoids isControl fragment

theorem avoids_readTail (kind : SchemeKind) (text : List Char) :
    (∀ query, (readTail kind text).1 = some query → Avoids endsQuery query) ∧
      ∀ fragment, (readTail kind text).2 = some fragment → Avoids isControl fragment := by
  have hfragment : ∀ text, Avoids isControl (encode codedInFragment text) :=
    avoids_encode_of_imp (by decide) codedInFragment_of_isControl
  have hquery : ∀ text, Avoids endsQuery
      (encode (if kind = .plain then codedInQuery else codedInSpecialQuery) text) := by
    apply avoids_encode_of_imp (by decide)
    intro c hc
    split
    · exact codedInQuery_of_endsQuery c hc
    · exact codedInSpecialQuery_of_endsQuery c hc
  unfold readTail
  dsimp only
  split
  · refine ⟨fun query h => ?_, fun fragment h => ?_⟩
    · cases h
      exact hquery _
    · dsimp only at h
      split at h
      · cases h
        exact hfragment _
      · cases h
  · refine ⟨nofun, fun fragment h => ?_⟩
    dsimp only at h
    split at h
    · cases h
      exact hfragment _
    · cases h

theorem wellFormed_assemble {kind : SchemeKind} {scheme rest : List Char}
    {authority : Option Authority} {path : Path} (hscheme : Avoids endsName scheme)
    (hauthority : ∀ a, authority = some a → a.WellFormed (kindOf scheme))
    (hpath : PathWellFormed authority path) :
    (assemble kind scheme authority path rest).WellFormed :=
  ⟨hscheme, hauthority, hpath, (avoids_readTail kind rest).1, (avoids_readTail kind rest).2⟩

theorem wellFormed_of_readAfterSlashes {idna : Idna} {kind : SchemeKind} {scheme text : List Char}
    {u : Url} (hscheme : Avoids endsName scheme) (hkind : kindOf scheme = kind)
    (h : readAfterSlashes idna kind scheme text = .ok u) : u.WellFormed := by
  unfold readAfterSlashes at h
  dsimp only at h
  obtain ⟨⟨a, begun⟩, hread, h⟩ := (bind_eq_ok_iff _ _ _).1 h
  cases h
  apply wellFormed_assemble hscheme
  · intro other hother
    cases hother
    rw [hkind]
    exact wellFormed_of_readAuthority hread
  · exact pathWellFormed_readPath kind _ a

theorem wellFormed_of_readPlain {idna : Idna} {scheme text : List Char} {u : Url}
    (hscheme : Avoids endsName scheme) (hkind : kindOf scheme = .plain)
    (h : readPlain idna scheme text = .ok u) : u.WellFormed := by
  unfold readPlain at h
  dsimp only at h
  split at h
  · exact wellFormed_of_readAfterSlashes hscheme hkind h
  · cases h
    exact wellFormed_assemble hscheme nofun (pathWellFormed_readSegments _)
  · rename_i hslash
    cases h
    refine wellFormed_assemble hscheme nofun (pathWellFormed_raw fun hhead => ?_)
    obtain ⟨rest, rfl⟩ := List.head?_eq_some_iff.1 hhead
    exact hslash rest rfl

theorem wellFormed_fileAt {scheme text : List Char} {a : Authority}
    (hscheme : Avoids endsName scheme) (hkind : kindOf scheme = .file) (ha : a.WellFormed .file) :
    (fileAt scheme a text).WellFormed := by
  unfold fileAt
  apply wellFormed_assemble hscheme
  · intro other hother
    rw [Option.some.injEq] at hother
    rw [← hother, hkind]
    split
    · exact wellFormed_localFiles .file
    · exact ha
  · exact pathWellFormed_path (Trail.wellFormed_walk .file _) _

theorem wellFormed_of_readFile {idna : Idna} {scheme text : List Char} {u : Url}
    (hscheme : Avoids endsName scheme) (hkind : kindOf scheme = .file)
    (h : readFile idna scheme text = .ok u) : u.WellFormed := by
  unfold readFile at h
  dsimp only at h
  split at h
  · cases h
    exact wellFormed_fileAt hscheme hkind (wellFormed_localFiles .file)
  · split at h
    · cases h
      exact wellFormed_fileAt hscheme hkind (wellFormed_localFiles .file)
    · obtain ⟨a, ha, h⟩ := (bind_eq_ok_iff _ _ _).1 h
      cases h
      exact wellFormed_fileAt hscheme hkind (wellFormed_of_readFileHost ha)

/-- Whatever it was read from, and whatever the forms of international names are, a URL is well
formed. -/
theorem wellFormed_of_read {idna : Idna} {text : String} {u : Url} (h : read idna text = .ok u) :
    u.WellFormed := by
  unfold read at h
  dsimp only at h
  split at h
  · cases h
  · rename_i scheme rest hread
    have hscheme := avoids_of_readScheme? hread
    split at h
    · rename_i hkind
      exact wellFormed_of_readFile hscheme hkind h
    · rename_i hkind
      exact wellFormed_of_readAfterSlashes hscheme hkind h
    · rename_i hkind
      exact wellFormed_of_readPlain hscheme hkind h

/-- The one international name with a form is `bücher.de`. -/
def Idna.bookshop : Idna where
  toAscii? bytes :=
    if bytes = utf8Bytes "bücher.de".toList then some "xn--bcher-kva.de".toList else none
  allowed bytes name h := by
    split at h
    · cases h
      decide
    · cases h

example : (read .bookshop "http://b%C3%BCcher.de").toOption.map text =
    some "http://xn--bcher-kva.de/" := by
  decide +kernel

end SubnetRouter.Url
