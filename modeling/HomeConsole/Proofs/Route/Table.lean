import HomeConsole.Proofs.Route.Resolve
import Mathlib.Data.List.Forall2
import Mathlib.Data.List.Nodup

/-!
# The table of routes

A pattern fits a path segment by segment, so whether it does is told by the two lists of segments
alone. No path fits two routes of the table, the path of a resolution fits its route, and what the
route of the detail page takes from a path is never empty.
-/

namespace HomeConsole

namespace Percent

theorem decodeBytes_ne_nil {bytes : List UInt8} (h : bytes ≠ []) : decodeBytes bytes ≠ [] := by
  unfold decodeBytes
  split
  · split <;> simp
  · exact h

/-- Undoing escapes leaves something of every text that is not empty. -/
theorem decode_ne_empty {s : String} (h : s ≠ "") : decode s ≠ "" := by
  unfold decode
  cases hd : decode? s with
  | none => exact h
  | some t =>
      rintro rfl
      obtain ⟨cs, hcs, ht⟩ := Option.map_eq_some_iff.mp hd
      obtain rfl : cs = [] := by simpa using congrArg String.toList ht
      refine decodeBytes_ne_nil ?_ (Utf8.decode?_eq_some.mp hcs).symm
      intro hnil
      have := Utf8.decode?_encode s.toList
      rw [hnil] at this
      simp [Utf8.decode?, h] at this

end Percent

namespace Route

/-! ## Segments -/

/-- A pattern segment takes a path segment: itself, or any that is not empty if it is a name. -/
def Fits (expected segment : String) : Prop :=
  expected = segment ∨ expected.toList.head? = some ':' ∧ segment ≠ ""

theorem fits_literal {expected segment : String} (h : expected.toList.head? ≠ some ':') :
    Fits expected segment ↔ expected = segment := by
  simp [Fits, h]

theorem fits_name {expected segment : String} (h : expected.toList.head? = some ':') :
    Fits expected segment ↔ segment ≠ "" := by
  constructor
  · rintro (rfl | ⟨_, hne⟩)
    · rintro rfl
      cases h
    · exact hne
  · exact fun hne => Or.inr ⟨h, hne⟩

theorem isSome_matchSegments {params : Params} {pattern path : List String} :
    (matchSegments params pattern path).isSome = true ↔ List.Forall₂ Fits pattern path := by
  induction pattern generalizing params path with
  | nil => cases path <;> simp [matchSegments]
  | cons expected pattern ih =>
      cases path with
      | nil => simp [matchSegments]
      | cons segment path =>
          by_cases hname : expected.toList.head? = some ':'
          · obtain ⟨name, hlist⟩ : ∃ name, expected.toList = ':' :: name := by
              simpa [List.head?_eq_some_iff] using hname
            rw [matchSegments_name hlist, List.forall₂_cons, fits_name hname]
            split
            · rename_i hempty
              have hnone : segment = "" := String.isEmpty_iff.mp hempty
              exact iff_of_false Bool.false_ne_true fun hfits => hfits.1 hnone
            · rename_i hfilled
              have hsome : segment ≠ "" := fun hnone => hfilled (String.isEmpty_iff.mpr hnone)
              rw [ih, and_iff_right hsome]
          · rw [matchSegments_literal hname, List.forall₂_cons, fits_literal hname]
            split
            · rename_i hsame
              rw [ih, and_iff_right hsame]
            · rename_i hother
              exact iff_of_false Bool.false_ne_true fun hfits => hother hfits.1

theorem isSome_matchPath? {route : Route} {path : String} :
    (route.matchPath? path).isSome = true ↔
      List.Forall₂ Fits (segments route.pattern) (segments path) :=
  isSome_matchSegments

/-- A pattern without names takes nothing from a path. -/
theorem matchSegments_literals {params taken : Params} {pattern path : List String}
    (hliteral : ∀ expected ∈ pattern, expected.toList.head? ≠ some ':')
    (h : matchSegments params pattern path = some taken) : taken = params := by
  induction pattern generalizing path with
  | nil =>
      cases path with
      | nil => exact (Option.some.inj h).symm
      | cons segment path => cases h
  | cons expected pattern ih =>
      cases path with
      | nil => cases h
      | cons segment path =>
          rw [matchSegments_literal (hliteral expected List.mem_cons_self)] at h
          split at h
          · exact ih (fun e he => hliteral e (List.mem_cons_of_mem _ he)) h
          · cases h

/-! ## At most one route -/

/-- Two patterns of which no path fits both: one is longer, or somewhere both have a segment that
is no name, and not the same one. -/
def apart : List String → List String → Bool
  | [], [] => false
  | expected :: pattern, other :: others =>
    (expected.toList.head? != some ':' && other.toList.head? != some ':' && expected != other) ||
      apart pattern others
  | _, _ => true

theorem not_fits_of_apart {pattern others path : List String} (h : apart pattern others = true)
    (hfits : List.Forall₂ Fits pattern path) : ¬ List.Forall₂ Fits others path := by
  intro hothers
  induction hfits generalizing others with
  | nil =>
      cases hothers
      cases h
  | @cons expected segment pattern path hfit _ ih =>
      cases hothers with
      | @cons other _ others _ hother hothers =>
          simp only [apart, Bool.or_eq_true, Bool.and_eq_true, bne_iff_ne] at h
          rcases h with ⟨⟨hliteral, hotherLiteral⟩, hne⟩ | h
          · rw [fits_literal hliteral] at hfit
            rw [fits_literal hotherLiteral] at hother
            exact hne (hfit.trans hother.symm)
          · exact ih h hothers

theorem table_apart : ∀ route ∈ table, ∀ other ∈ table, route ≠ other →
    apart (segments route.pattern) (segments other.pattern) = true := by
  decide

/-- No path fits two routes of the table. -/
theorem eq_of_isSome_matchPath? {route other : Route} {path : String} (hroute : route ∈ table)
    (hother : other ∈ table) (h : (route.matchPath? path).isSome = true)
    (ho : (other.matchPath? path).isSome = true) : route = other := by
  by_contra hne
  rw [isSome_matchPath?] at h ho
  exact not_fits_of_apart (table_apart route hroute other hother hne) h ho

theorem filter_isSome_matchPath? {route : Route} {path : String} (hroute : route ∈ table)
    (h : (route.matchPath? path).isSome = true) :
    (table.filter fun other => (other.matchPath? path).isSome) = [route] := by
  have hsame : ∀ other ∈ table, (other.matchPath? path).isSome = (other == route) := by
    intro other hother
    rw [Bool.eq_iff_iff, beq_iff_eq]
    exact ⟨fun ho => eq_of_isSome_matchPath? hother hroute ho h, fun heq => heq ▸ h⟩
  have hnodup : table.Nodup := by decide
  rw [List.filter_congr hsame, List.filter_beq, List.count_eq_one_of_mem hnodup hroute]
  rfl

/-! ## The end of a path -/

theorem segments_concat_slash {path : String} {front : List Char}
    (h : path.toList = front ++ ['/']) : segments path = segments (String.ofList front) ++ [""] := by
  rw [segments, segments, h, splitWhere_append (d := '/') rfl, List.map_append,
    String.toList_ofList]
  rfl

theorem eq_empty_of_segments {path : String} (h : segments path = [""]) : path = "" := by
  unfold segments at h
  cases hlist : path.toList with
  | nil => exact String.toList_eq_nil_iff.mp hlist
  | cons c cs =>
      exfalso
      rw [hlist, splitWhere] at h
      split at h
      · simp [splitWhere_ne_nil] at h
      · cases hs : splitWhere (· == '/') cs with
        | nil => exact splitWhere_ne_nil _ cs hs
        | cons piece pieces => simp [hs] at h

/-- No path that fits a route ends in a slash, but the root alone. -/
theorem eq_root_or_getLast?_ne_slash {route : Route} {path : String} (h : route ∈ table)
    (hm : (route.matchPath? path).isSome = true) :
    path = "/" ∨ path.toList.getLast? ≠ some '/' := by
  by_cases hlast : path.toList.getLast? = some '/'
  · left
    obtain ⟨front, hfront⟩ := List.getLast?_eq_some_iff.mp hlast
    have hfits := List.forall₂_reverse_iff.mpr (isSome_matchPath?.mp hm)
    rw [segments_concat_slash hfront, List.reverse_append] at hfits
    obtain ⟨h0, h1, h2, h3⟩ := segments_patterns
    simp only [table, List.mem_cons, List.not_mem_nil, or_false] at h
    rcases h with rfl | rfl | rfl | rfl
    · simp [root, h0, Fits] at hfits
      obtain ⟨piece, more, hpiece, hmore, hpieces⟩ := List.forall₂_cons_left_iff.mp hfits
      obtain rfl := List.forall₂_nil_left_iff.mp hmore
      obtain rfl : "" = piece := (fits_literal (by simp)).mp hpiece
      have hempty := eq_empty_of_segments (List.reverse_eq_iff.mp hpieces)
      rw [String.ofList_eq_empty_iff.mp hempty] at hfront
      exact String.toList_inj.mp hfront
    · simp [h1, Fits] at hfits
    · simp [h2, Fits] at hfits
    · simp [h3, Fits] at hfits
  · exact Or.inr hlast

/-! ## What the routes take -/

theorem mem_of_first? {routes : List Route} {path : String} {route : Route} {params : Params}
    (h : first? routes path = some (route, params)) :
    route ∈ routes ∧ route.matchPath? path = some params := by
  obtain ⟨found, hm, hfound⟩ := List.exists_of_findSome?_eq_some h
  obtain ⟨taken, htaken, heq⟩ := Option.map_eq_some_iff.mp hfound
  cases heq
  exact ⟨hm, htaken⟩

theorem eq_detail_of_page {route : Route} (h : route ∈ table) (hp : route.page = .detail) :
    route = ⟨"/module/:id", .detail⟩ := by
  revert route
  decide

theorem literals_of_page {route : Route} (h : route ∈ table) (hp : route.page ≠ .detail) :
    ∀ expected ∈ segments route.pattern, expected.toList.head? ≠ some ':' := by
  revert route
  decide

/-- The route of the detail page takes the one segment below `module`, with its escapes undone. -/
theorem matchPath?_detail {route : Route} {path : String} {params : Params} (h : route ∈ table)
    (hp : route.page = .detail) (hm : route.matchPath? path = some params) : ∃ piece,
    segments path = ["", "module", piece] ∧ piece ≠ "" ∧ params = [("id", Percent.decode piece)] := by
  obtain rfl := eq_detail_of_page h hp
  have hfits : List.Forall₂ Fits ["", "module", ":id"] (segments path) := by
    have := isSome_matchPath?.mp (Option.isSome_of_eq_some hm)
    rwa [segments_patterns.2.2.2] at this
  simp only [List.forall₂_cons_left_iff, List.forall₂_nil_left_iff] at hfits
  obtain ⟨first, _, hfirst, ⟨second, _, hsecond, ⟨piece, _, hpiece, rfl, rfl⟩, rfl⟩, hs⟩ := hfits
  obtain rfl : "" = first := (fits_literal (by decide)).mp hfirst
  obtain rfl : "module" = second := (fits_literal (by decide)).mp hsecond
  have hne : piece ≠ "" := (fits_name (by decide)).mp hpiece
  refine ⟨piece, hs, hne, ?_⟩
  have htaken := (mem_of_first? (first?_detail hs hne)).2
  exact Option.some.inj (hm.symm.trans htaken)

/-- No other route takes an id from a path. -/
theorem get?_id_eq_none {route : Route} {path : String} {params : Params} (h : route ∈ table)
    (hp : route.page ≠ .detail) (hm : route.matchPath? path = some params) :
    params.get? "id" = none := by
  rw [matchSegments_literals (literals_of_page h hp) hm]
  rfl

/-! ## Resolution -/

/-- A path leads to the first route of the table that fits its canonical form. One that fits none
leads to the root page, and the resolution notes where it came from. -/
theorem resolve_cases (path : String) :
    (∃ before route after params, table = before ++ route :: after ∧
        (∀ other ∈ before, other.matchPath? (normalize path) = none) ∧
        route.matchPath? (normalize path) = some params ∧
        resolve path = ⟨route, normalize path, params, none⟩) ∨
      (∀ route ∈ table, route.matchPath? (normalize path) = none) ∧
        resolve path = ⟨root, "/", [], some (normalize path)⟩ := by
  unfold resolve
  simp only
  split
  · rename_i route params hfirst
    left
    obtain ⟨before, found, after, htable, hfound, hbefore⟩ := List.findSome?_eq_some_iff.mp hfirst
    obtain ⟨taken, htaken, heq⟩ := Option.map_eq_some_iff.mp hfound
    cases heq
    exact ⟨before, route, after, params, htable,
      fun other hother => Option.map_eq_none_iff.mp (hbefore other hother), htaken, rfl⟩
  · rename_i hfirst
    right
    refine ⟨?_, rfl⟩
    intro route hroute
    exact Option.map_eq_none_iff.mp (List.findSome?_eq_none_iff.mp hfirst route hroute)

theorem resolve_found_or_root (path : String) :
    (∃ route ∈ table, ∃ params, route.matchPath? (normalize path) = some params ∧
        resolve path = ⟨route, normalize path, params, none⟩) ∨
      resolve path = ⟨root, "/", [], some (normalize path)⟩ := by
  rcases resolve_cases path with ⟨_, route, _, params, htable, _, hmatch, hfound⟩ | ⟨_, hroot⟩
  · exact Or.inl ⟨route, by simp [htable], params, hmatch, hfound⟩
  · exact Or.inr hroot

theorem resolve_root : resolve "/" = ⟨root, "/", [], none⟩ := by
  decide

/-- The path of a resolution fits its route, which takes the values of the resolution from it; this
holds for the root page too, to which unknown paths lead. -/
theorem resolve_fits (path : String) : (resolve path).route ∈ table ∧
    (resolve path).route.matchPath? (resolve path).path = some (resolve path).params := by
  rcases resolve_found_or_root path with ⟨route, hroute, _, hmatch, hfound⟩ | hroot
  · rw [hfound]
    exact ⟨hroute, hmatch⟩
  · rw [hroot]
    exact ⟨List.mem_cons_self, show root.matchPath? root.pattern = some [] by decide⟩

end Route

end HomeConsole
