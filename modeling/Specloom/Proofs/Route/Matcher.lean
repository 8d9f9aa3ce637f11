import Specloom.Proofs.Route.Decomposition
import Specloom.Proofs.Route.Pattern
import Specloom.Proofs.Route.RoundTrip

/-!
# Matching by regular expression

The compiled pattern of a path captures the pieces that a route takes for its placeholders, each in
the group with the placeholder's number. The pattern begins at the begin of the text only, its
literals leave one way or none, and a group lists its ways from the longest piece to the shortest,
so the preferred way is the one that trying longer pieces first finds.

## Main definitions

* `Cursor.skip`: a cursor some characters further

## Main results

* `ways_group`: the ways of a placeholder, from the longest piece to the shortest
* `captures?_matcher`: the pattern of a path captures the pieces of the route
* `matchPath?_of_parse`: the parameters of a path
-/

namespace Specloom.Regex.Cursor

/-- A cursor some characters further. -/
def skip : Nat → Cursor → Cursor
  | 0, s => s
  | count + 1, s =>
    match s.rest with
    | [] => s
    | c :: rest => skip count ⟨some c, rest, s.groups⟩

theorem rest_skip (count : Nat) (s : Cursor) : (s.skip count).rest = s.rest.drop count := by
  induction count generalizing s with
  | zero => rfl
  | succ count ih =>
    rw [skip]
    split
    · rename_i hrest
      rw [hrest, List.drop_nil]
    · rename_i c rest hrest
      rw [ih, hrest, List.drop_succ_cons]

theorem groups_skip (count : Nat) (s : Cursor) : (s.skip count).groups = s.groups := by
  induction count generalizing s with
  | zero => rfl
  | succ count ih =>
    rw [skip]
    split
    · rfl
    · exact ih _

end Specloom.Regex.Cursor

namespace Specloom.Route

open Specloom.Path Regex

variable {before : Option Char} {groups : List (Nat × List Char)}

/-! ## Sequences -/

theorem ways_seqOf_cons (p : Pattern) (ps : List Pattern) (first : Nat) (s : Cursor) :
    (seqOf (p :: ps)).ways first s =
      (p.ways first s).flatMap ((seqOf ps).ways (first + p.groupCount)) := rfl

/-! ## Literals -/

theorem contains_between (c d : Char) :
    (CharSet.between c c).contains d.toNat = decide (d = c) := by
  rw [Bool.eq_iff_iff, decide_eq_true_iff, ← Char.toNat_inj]
  simp [CharSet.between, CharSet.contains, Text.CodeRange.anyContains, Text.CodeRange.contains]
  omega

/-- A literal leaves one way if the text goes on with it, and none otherwise. -/
theorem ways_literal (text : List Char) (ps : List Pattern) (first : Nat) (s : Cursor) :
    (seqOf (text.map charPattern ++ ps)).ways first s =
      if text.isPrefixOf s.rest then (seqOf ps).ways first (s.skip text.length) else [] := by
  induction text generalizing s with
  | nil => rfl
  | cons c text ih =>
    obtain ⟨before, rest, groups⟩ := s
    rw [List.map_cons, List.cons_append, ways_seqOf_cons]
    change (Cursor.step (.between c c) _).flatMap
      ((seqOf (text.map charPattern ++ ps)).ways first) = _
    cases rest with
    | nil => rfl
    | cons d rest =>
      rw [Cursor.step_cons, contains_between]
      by_cases hd : d = c
      · simp [hd, ih, Cursor.skip]
      · simp [hd, Ne.symm hd]

/-! ## Placeholders -/

/-- The numbers from a bound down to one. -/
def descending (bound : Nat) : List Nat :=
  (List.range bound).map (bound - ·)

theorem descending_succ (bound : Nat) :
    descending (bound + 1) = (descending bound).map (· + 1) ++ [1] := by
  rw [descending, List.range_succ, List.map_append, descending, List.map_map]
  refine congrArg₂ _ (List.map_congr_left fun i hi => ?_) (by simp)
  have hlt := List.mem_range.mp hi
  simp only [Function.comp]
  omega

/-- The characters of a placeholder. -/
def pieceSet : CharSet :=
  .compl (.between '/' '/')

theorem contains_pieceSet (c : Char) : pieceSet.contains c.toNat = decide (c ≠ '/') := by
  rw [pieceSet, CharSet.contains_compl, contains_between, decide_not]

theorem reach_cons_of_ne {c : Char} (hc : c ≠ '/') (rest : List Char) :
    reach (c :: rest) = reach rest + 1 := by
  simp [reach, hc]

theorem reach_slash (rest : List Char) : reach ('/' :: rest) = 0 := by
  simp [reach]

/-- The ways over the characters of a placeholder, from the longest piece down to the one of one
character, and those with no piece at all. -/
theorem waysUpTo_pieceSet (before : Option Char) (rest : List Char)
    (groups : List (Nat × List Char)) {count : Nat} (h : rest.length ≤ count) :
    waysUpTo (Cursor.step pieceSet) true count ⟨before, rest, groups⟩ =
      (descending (reach rest)).map (fun n => Cursor.skip n ⟨before, rest, groups⟩) ++
        [⟨before, rest, groups⟩] := by
  induction rest generalizing before count with
  | nil => cases count <;> rfl
  | cons c rest ih =>
    obtain ⟨count, rfl⟩ := Nat.exists_eq_add_of_le' (Nat.le_trans (Nat.le_add_left 1 _) h)
    rw [waysUpTo, Cursor.step_cons, contains_pieceSet, if_pos rfl]
    by_cases hc : c = '/'
    · subst hc
      rw [reach_slash]
      rfl
    · have hrest := ih (some c) (show rest.length ≤ count by simpa using h)
      simp [hc, hrest, reach_cons_of_ne, descending_succ, Cursor.skip]

/-- **The ways of a placeholder**, from the longest piece to the shortest, each with its piece noted
under the number of the group. -/
theorem ways_group (first : Nat) (s : Cursor) : groupPattern.ways first s =
    (descending (reach s.rest)).map fun n => (s.skip n).capture first s.rest := by
  obtain ⟨before, rest, groups⟩ := s
  change ((((Cursor.step pieceSet ⟨before, rest, groups⟩).flatMap fun s => [s]).flatMap fun s =>
    waysUpTo (Cursor.step pieceSet) true (s.rest.length + 1) s).map _) = _
  cases rest with
  | nil => rfl
  | cons c rest =>
    rw [Cursor.step_cons, contains_pieceSet]
    by_cases hc : c = '/'
    · subst hc
      rw [reach_slash]
      rfl
    · have hrest := waysUpTo_pieceSet (some c) rest groups (Nat.le_add_right rest.length 1)
      simp [hc, hrest, reach_cons_of_ne, descending_succ, Cursor.skip]

/-! ## The whole pattern -/

/-- Pieces with the numbers of their groups. -/
def numbered (first : Nat) (pieces : List (List Char)) : List (Nat × List Char) :=
  (List.range' first pieces.length).zip pieces

theorem numbered_cons (first : Nat) (piece : List Char) (pieces : List (List Char)) :
    numbered first (piece :: pieces) = (first, piece) :: numbered (first + 1) pieces := rfl

/-- What a group notes behind a piece is that piece. -/
theorem groups_capture_skip (n first : Nat) (s : Cursor) :
    ((s.skip n).capture first s.rest).groups = (first, s.rest.take n) :: s.groups := by
  have hpiece : s.rest.take (s.rest.length - (s.rest.drop n).length) = s.rest.take n := by
    rcases Nat.le_total n s.rest.length with hle | hle
    · rw [List.length_drop, Nat.sub_sub_self hle]
    · rw [List.drop_of_length_le hle, List.take_of_length_le hle]
      exact List.take_length
  rw [Cursor.capture, Cursor.rest_skip, Cursor.groups_skip, hpiece]

/-- **The preferred way through the segments captures what the route captures.** -/
theorem head?_ways_segments (segs : List Segment) (first : Nat) (s : Cursor) :
    ((seqOf (segs.flatMap patterns ++ [.look .stop])).ways first s).head?.map (·.groups) =
      (capture? segs s.rest).map fun pieces => (numbered first pieces).reverse ++ s.groups := by
  induction segs generalizing first s with
  | nil =>
    obtain ⟨before, rest, groups⟩ := s
    cases rest <;> rfl
  | cons segment segs ih =>
    cases segment with
    | literal text =>
      rw [List.flatMap_cons, List.append_assoc, patterns, ways_literal, capture?]
      split
      · rw [ih, Cursor.rest_skip, Cursor.groups_skip]
      · rfl
    | placeholder name =>
      rw [List.flatMap_cons, patterns, List.singleton_append, List.cons_append, ways_seqOf_cons,
        ways_group, List.head?_flatMap, List.findSome?_map, List.map_findSome?, capture?,
        List.map_findSome?]
      -- both sides try the same lengths in the same order
      refine congrArg (List.findSome? · _) (funext fun n => ?_)
      simp only [Function.comp, Option.map_map]
      rw [ih, groups_capture_skip]
      change (capture? segs (s.skip n).rest).map _ = _
      rw [Cursor.rest_skip]
      refine congrArg (Option.map · _) (funext fun pieces => ?_)
      simp only [Function.comp, numbered_cons, List.reverse_cons, List.append_assoc]
      rfl

/-- A search begins with the text, and every other place comes after a character. -/
theorem cursorsFrom_eq (before : Option Char) (text : List Char) :
    ∃ later, cursorsFrom before text = ⟨before, text, []⟩ :: later ∧
      ∀ s ∈ later, s.before.isSome := by
  induction text generalizing before with
  | nil => exact ⟨[], rfl, List.forall_mem_nil _⟩
  | cons c rest ih =>
    obtain ⟨later, hlater, hsome⟩ := ih (some c)
    refine ⟨cursorsFrom (some c) rest, rfl, ?_⟩
    rw [hlater, List.forall_mem_cons]
    exact ⟨rfl, hsome⟩

/-- The first anchor lets a match begin at the begin of the text only. -/
theorem ways_matcher (segs : List Segment) (s : Cursor) : (matcher segs).ways 1 s =
    if s.before.isNone then (seqOf (segs.flatMap patterns ++ [.look .stop])).ways 1 s else [] := by
  obtain ⟨before, rest, groups⟩ := s
  cases before with
  | some c => rfl
  | none => exact List.flatMap_singleton _ _

theorem groupCount_seqOf_append (ps qs : List Pattern) :
    (seqOf (ps ++ qs)).groupCount = (seqOf ps).groupCount + (seqOf qs).groupCount := by
  induction ps with
  | nil => exact (Nat.zero_add _).symm
  | cons p ps ih =>
    change p.groupCount + (seqOf (ps ++ qs)).groupCount =
      p.groupCount + (seqOf ps).groupCount + (seqOf qs).groupCount
    rw [ih, Nat.add_assoc]

/-- There is a group for each placeholder, and no other. -/
theorem groupCount_matcher (segs : List Segment) :
    (matcher segs).groupCount = (segs.filterMap Segment.name?).length := by
  have hsegments : (seqOf (segs.flatMap patterns)).groupCount =
      (segs.filterMap Segment.name?).length := by
    induction segs with
    | nil => rfl
    | cons segment segs ih =>
      rw [List.flatMap_cons, groupCount_seqOf_append, ih]
      cases segment with
      | placeholder name => exact Nat.add_comm 1 _
      | literal text =>
        have htext : (seqOf (text.map charPattern)).groupCount = 0 := by
          induction text with
          | nil => rfl
          | cons c text ih => exact (Nat.zero_add _).trans ih
        rw [patterns, htext, Nat.zero_add]
        rfl
  change 0 + (seqOf (segs.flatMap patterns ++ [.look .stop])).groupCount = _
  rw [groupCount_seqOf_append, hsegments]
  exact Nat.zero_add _

/-- There is a piece for each placeholder. -/
theorem length_of_decomposes {segs : List Segment} {cs : List Char} {pieces : List (List Char)}
    (h : Decomposes segs cs pieces) : pieces.length = (segs.filterMap Segment.name?).length := by
  induction h with
  | nil => rfl
  | literal text _ ih => exact ih
  | placeholder name _ _ _ ih => exact congrArg Nat.succ ih

/-- The numbers of the groups are distinct, so each of them has its own piece. -/
theorem lookup_reverse_numbered (first : Nat) (pieces : List (List Char)) :
    (List.range' first pieces.length).map
      (fun group => (numbered first pieces).reverse.lookup group) = pieces.map some := by
  induction pieces generalizing first with
  | nil => rfl
  | cons piece pieces ih =>
    have hfirst : (numbered (first + 1) pieces).reverse.lookup first = none := by
      rw [List.lookup_eq_none_iff]
      rintro ⟨group, _⟩ hmem
      have hgroup := (List.of_mem_zip (List.mem_reverse.mp hmem)).1
      have hle := (List.mem_range'_1.mp hgroup).1
      simpa using show first ≠ group by omega
    rw [List.length_cons, List.range'_succ, List.map_cons, numbered_cons, List.reverse_cons,
      List.lookup_append, hfirst, List.map_cons]
    refine congrArg₂ _ (by simp) ?_
    rw [← ih (first + 1)]
    refine List.map_congr_left fun group hgroup => ?_
    -- the group has a piece among the later ones, which is found first
    have hmem : (numbered (first + 1) pieces).reverse.lookup group ∈ pieces.map some := by
      rw [← ih (first + 1)]
      exact List.mem_map_of_mem hgroup
    obtain ⟨found, -, hfound⟩ := List.mem_map.mp hmem
    rw [List.lookup_append, ← hfound]
    rfl

/-- **The pattern of a path captures the pieces of the route**, each in the group with the number of
its placeholder. -/
theorem captures?_matcher (segs : List Segment) (text : String) :
    (matcher segs).captures? text = (capture? segs text.toList).map (·.map some) := by
  obtain ⟨later, hcursors, hlater⟩ := cursorsFrom_eq none text.toList
  have hrest : later.flatMap ((matcher segs).ways 1) = [] := by
    rw [List.flatMap_eq_nil_iff]
    intro s hs
    rw [ways_matcher, if_neg]
    simpa [Option.isSome_iff_ne_none] using hlater s hs
  -- what was noted under the numbers of the groups, for the preferred way
  let noted (groups : List (Nat × List Char)) : List (Option (List Char)) :=
    (List.range' 1 (matcher segs).groupCount).map fun group => groups.lookup group
  have hgroups := congrArg (Option.map noted)
    (head?_ways_segments segs 1 ⟨none, text.toList, []⟩)
  rw [Option.map_map, Option.map_map] at hgroups
  rw [Pattern.captures?, hcursors, List.flatMap_cons, hrest, List.append_nil, ways_matcher]
  refine hgroups.trans ?_
  cases hcapture : capture? segs text.toList with
  | none => rfl
  | some pieces =>
    have hlength := length_of_decomposes (decomposes_of_capture hcapture)
    change some (noted ((numbered 1 pieces).reverse ++ [])) = some (pieces.map some)
    rw [List.append_nil]
    simp only [noted]
    rw [groupCount_matcher, ← hlength, lookup_reverse_numbered]

/-! ## Matching a path -/

/-- Distinct placeholders keep their pieces. -/
theorem foldl_bind_pieces {names : List String} (hn : names.Nodup) {pieces : List (List Char)}
    (hlength : pieces.length = names.length) :
    (names.zip pieces).foldl (fun (params : Params) (name, piece) =>
        params.bind name (pieceValue piece)) [] =
      (names.zip pieces).map fun (name, piece) => (name, pieceValue piece) := by
  have hkeys : (((names.zip pieces).map fun (name, piece) => (name, pieceValue piece)).map
      (·.1)).Nodup := by
    rw [List.map_map]
    change ((names.zip pieces).map Prod.fst).Nodup
    rwa [List.map_fst_zip (Nat.le_of_eq hlength.symm)]
  have hfresh (key : String) : key ∉ ([] : Params).map (·.1) := by simp
  have hbind := Params.foldl_bind hkeys fun key _ => hfresh key
  rwa [List.foldl_map] at hbind

/-- **The parameters of a path.** The pattern of an accepted template compiles. A path matches
exactly if it is made of the literals of the template and a piece for each placeholder, not empty
and without a slash. Of all ways to choose the pieces, the pattern captures the one whose first
placeholder is longest, then the second, and so on. The parameters are the placeholders, each with
its piece decoded, or as it stands if what it encodes is no text. -/
theorem matchPath?_of_parse {raw : String} {t : PathTemplate} (h : PathTemplate.parse raw = .ok t)
    (id : String) (query : List QueryParam) :
    ∃ m, Pattern.compile (pattern t.path) = .ok m ∧ ∀ path : String,
      ((UiRoute.matchPath? ⟨id, t, query⟩ path).isSome ↔
        ∃ pieces, Decomposes t.segments path.toList pieces) ∧
      ((m.captures? path).isSome ↔ ∃ pieces, Decomposes t.segments path.toList pieces) ∧
      ∀ params, UiRoute.matchPath? ⟨id, t, query⟩ path = some params →
        ∃ pieces, Decomposes t.segments path.toList pieces ∧
          m.captures? path = some (pieces.map some) ∧
          (∀ other, Decomposes t.segments path.toList other → other ≠ pieces →
            Precedes pieces other) ∧
          pieces.length = t.placeholders.length ∧
          params = (t.placeholders.zip pieces).map fun (name, piece) =>
            (name, .text (String.ofList ((Url.decode? piece).getD piece))) := by
  have hnames := PathTemplate.placeholders_of_parse h
  have hnodup := PathTemplate.nodup_placeholders_of_parse h
  have hsome (path : String) : (capture? t.segments path.toList).isSome ↔
      ∃ pieces, Decomposes t.segments path.toList pieces := by
    rw [Option.isSome_iff_ne_none, ne_eq, capture?_eq_none_iff, not_forall_not]
  refine ⟨matcher t.segments, compile_pattern t.path, fun path =>
    ⟨?_, ?_, fun params hparams => ?_⟩⟩
  · rw [UiRoute.matchPath?, Option.isSome_map, hsome]
  · rw [captures?_matcher, Option.isSome_map, hsome]
  · obtain ⟨pieces, hpieces, rfl⟩ := Option.map_eq_some_iff.mp hparams
    have hwhole := decomposes_of_capture hpieces
    have hlength : pieces.length = t.placeholders.length := by
      rw [hnames, List.length_map, length_of_decomposes hwhole]
    refine ⟨pieces, hwhole, ?_, fun other => precedes_of_capture hpieces, hlength,
      foldl_bind_pieces hnodup hlength⟩
    rw [captures?_matcher, hpieces, Option.map_some]

/-- Two placeholders with a hyphen between them, in a path with three hyphens: the first takes two
of them. It stays as it is, for what it encodes is no text. -/
theorem matchPath?_of_parse_file :
    ∃ m pieces, Pattern.compile (pattern "/f/{a}-{b}.x") = .ok m ∧
      m.captures? "/f/%C3%A9-%FF-1-2.x" = some (pieces.map some) ∧
      (∀ other, Decomposes (segments "/f/{a}-{b}.x".toList) "/f/%C3%A9-%FF-1-2.x".toList other →
        other ≠ pieces → Precedes pieces other) ∧
      [("a", .text "%C3%A9-%FF-1"), ("b", .text "2")] =
        (["a", "b"].zip pieces).map fun (name, piece) =>
          (name, ParamValue.text (String.ofList ((Url.decode? piece).getD piece))) := by
  obtain ⟨m, hm, hmatch⟩ := matchPath?_of_parse
    (show PathTemplate.parse "/f/{a}-{b}.x" = .ok ⟨"/f/{a}-{b}.x", "/f/{a}-{b}.x", ["a", "b"], []⟩
      by decide +kernel) "file" []
  obtain ⟨pieces, -, hcaptures, hfirst, -, hparams⟩ := (hmatch "/f/%C3%A9-%FF-1-2.x").2.2
    [("a", .text "%C3%A9-%FF-1"), ("b", .text "2")] (by decide +kernel)
  exact ⟨m, pieces, hm, hcaptures, hfirst, hparams⟩

end Specloom.Route
