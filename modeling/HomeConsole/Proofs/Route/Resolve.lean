import HomeConsole.Backend.Endpoint
import HomeConsole.Proofs.Text.Percent
import HomeConsole.Route

/-!
# Pieces of paths

A path that is written piece by piece, each behind a slash, is cut into just those pieces again as
long as none of them holds a slash itself; encoded pieces hold none. So the path of a read tells
which read it is, and the paths of the pages resolve to their pages.
-/

namespace HomeConsole

/-- A path whose pieces are given. -/
def Route.ofPieces (pieces : List String) : String :=
  String.ofList (pieces.flatMap fun piece => '/' :: piece.toList)

namespace Route

theorem splitWhere_pieces {pieces : List (List Char)}
    (h : ∀ piece ∈ pieces, ∀ c ∈ piece, (c == '/') = false) (cs : List Char)
    (hcs : ∀ c ∈ cs, (c == '/') = false) :
    splitWhere (· == '/') (cs ++ pieces.flatMap ('/' :: ·)) = cs :: pieces := by
  induction pieces generalizing cs with
  | nil => simpa using splitWhere_eq_singleton hcs
  | cons piece pieces ih =>
      rw [List.flatMap_cons, List.cons_append, splitWhere_append_cons hcs rfl]
      rw [ih (fun p hp => h p (List.mem_cons_of_mem _ hp)) piece (h piece List.mem_cons_self)]

theorem segments_ofPieces {pieces : List String}
    (h : ∀ piece ∈ pieces, '/' ∉ piece.toList) : segments (ofPieces pieces) = "" :: pieces := by
  have hs : ∀ piece ∈ pieces.map String.toList, ∀ c ∈ piece, (c == '/') = false := by
    intro piece hp c hc
    obtain ⟨s, hm, rfl⟩ := List.mem_map.mp hp
    rw [beq_eq_false_iff_ne]
    rintro rfl
    exact h s hm hc
  have := splitWhere_pieces hs [] (by simp)
  simp only [List.nil_append, List.flatMap_map] at this
  simp only [segments, ofPieces, String.toList_ofList, this, List.map_cons, List.map_map]
  simp [Function.comp_def]

theorem slash_not_mem_encode (s : String) : '/' ∉ (Percent.encode s).toList := by
  intro h
  have := Percent.isPlain_of_mem_encode h
  simp [Percent.isPlain] at this

/-! ## Matching -/

theorem matchSegments_literal {expected : String} (h : expected.toList.head? ≠ some ':')
    (params : Params) (segment : String) (pattern path : List String) :
    matchSegments params (expected :: pattern) (segment :: path) =
      if expected = segment then matchSegments params pattern path else none := by
  rw [matchSegments]
  split
  · rename_i he
    simp [he] at h
  · rfl

theorem matchSegments_name {expected : String} {name : List Char}
    (h : expected.toList = ':' :: name) (params : Params) (segment : String)
    (pattern path : List String) :
    matchSegments params (expected :: pattern) (segment :: path) =
      if segment.isEmpty then none
      else
        matchSegments (params.bind (String.ofList name) (Percent.decode segment)) pattern path := by
  rw [matchSegments]
  split
  · rename_i he
    rw [h] at he
    cases he
    rfl
  · rename_i hne
    exact absurd h (hne name)

theorem resolve_of_first? {path canonical : String} {route : Route} {params : Params}
    (hn : normalize path = canonical) (hf : first? table canonical = some (route, params)) :
    resolve path = ⟨route, canonical, params, none⟩ := by
  unfold resolve
  simp only [hn, hf]

theorem segments_patterns : segments "/" = ["", ""] ∧ segments "/modules" = ["", "modules"] ∧
    segments "/dashi" = ["", "dashi"] ∧ segments "/module/:id" = ["", "module", ":id"] := by
  decide

theorem first?_detail {path piece : String} (hs : segments path = ["", "module", piece])
    (hne : piece ≠ "") :
    first? table path = some (⟨"/module/:id", .detail⟩, [("id", Percent.decode piece)]) := by
  obtain ⟨h0, h1, h2, h3⟩ := segments_patterns
  have hempty : ∀ pattern path, matchSegments [] ("" :: pattern) ("" :: path) =
      matchSegments [] pattern path := by
    intro pattern path
    rw [matchSegments_literal (by simp), if_pos rfl]
  have hmodule : matchSegments [] ["module", ":id"] ["module", piece] =
      some [("id", Percent.decode piece)] := by
    rw [matchSegments_literal (by decide), if_pos rfl,
      @matchSegments_name _ ['i', 'd'] (by decide), if_neg (by simpa using hne)]
    rfl
  have hother : ∀ other ∈ ["", "modules", "dashi"],
      matchSegments [] [other] ["module", piece] = none := by
    intro other ho
    have hlit : other.toList.head? ≠ some ':' ∧ other ≠ "module" := by
      revert other
      decide
    rw [matchSegments_literal hlit.1, if_neg hlit.2]
  simp [first?, table, root, matchPath?, hs, h0, h1, h2, h3, hempty, hmodule, hother]

/-- A path with one piece below `module` leads to the detail page of that piece. -/
theorem resolve_of_detail {path piece : String} (hn : normalize path = ofPieces ["module", piece])
    (hslash : '/' ∉ piece.toList) (hne : piece ≠ "") :
    resolve path = ⟨⟨"/module/:id", .detail⟩, ofPieces ["module", piece],
      [("id", Percent.decode piece)], none⟩ := by
  have hs : segments (ofPieces ["module", piece]) = ["", "module", piece] :=
    segments_ofPieces (by simp [hslash])
  exact resolve_of_first? hn (first?_detail hs hne)

theorem resolve_overview :
    resolve "/modules" = ⟨⟨"/modules", .overview⟩, "/modules", [], none⟩ := by
  decide

end Route

namespace Endpoint

theorem path_eq_ofPieces (endpoint : Endpoint) :
    endpoint.path = Route.ofPieces (endpoint.segments.map Percent.encode) := by
  cases endpoint <;> simp [path, segments, Route.ofPieces, ← String.toList_inj]

/-- The path of a read, cut at its slashes and with the escapes undone, gives the read back. -/
theorem decode_segments_path (endpoint : Endpoint) :
    (Route.segments endpoint.path).mapM Percent.decode? = some ("" :: endpoint.segments) := by
  have hp : ∀ piece ∈ endpoint.segments.map Percent.encode, '/' ∉ piece.toList := by
    intro piece hp
    obtain ⟨s, _, rfl⟩ := List.mem_map.mp hp
    exact Route.slash_not_mem_encode s
  have h0 : Percent.decode? "" = some "" := Percent.decode?_encode ""
  rw [path_eq_ofPieces, Route.segments_ofPieces hp]
  cases endpoint <;> simp [segments, h0, Percent.decode?_encode]

end Endpoint

end HomeConsole
