import HomeConsole.Proofs.Route.Resolve
import HomeConsole.Url.Parser

/-!
# Paths of addresses

A path that was read holds no slash inside a segment, so that the segments can be told from the
text: they are its pieces between the slashes. Under a scheme of the web there is at least one.
-/

namespace HomeConsole

namespace UrlPath

/-- The pieces of a path between its slashes, as it is written. -/
def pieces (path : UrlPath) : List String := (Route.segments path.text).tail

/-- No segment holds a slash. -/
def Clean (list : List String) : Prop := ∀ segment ∈ list, '/' ∉ segment.toList

variable {list : List String}

theorem text_segments (list : List String) : (segments list).text = Route.ofPieces list := by
  induction list with
  | nil => rfl
  | cons segment list ih =>
      simp only [text, List.map_cons, String.join_cons, Route.ofPieces, List.flatMap_cons] at ih ⊢
      rw [ih, ← String.toList_inj]
      simp

theorem pieces_segments (h : Clean list) : (segments list).pieces = list := by
  rw [pieces, text_segments, Route.segments_ofPieces h]
  rfl

theorem Clean.append {more : List String} (h : Clean list) (h' : Clean more) :
    Clean (list ++ more) := by
  intro segment hm
  rcases List.mem_append.mp hm with hm | hm
  · exact h segment hm
  · exact h' segment hm

theorem Clean.dropLast (h : Clean list) : Clean list.dropLast :=
  fun segment hm => h segment (List.dropLast_subset list hm)

theorem Clean.singleton {segment : String} (h : '/' ∉ segment.toList) : Clean [segment] := by
  intro other hm
  rw [List.mem_singleton.mp hm]
  exact h

theorem Clean.addSegment {scheme : String} (hw : Url.isFile scheme = false) (h : Clean list)
    {segment : String} (hs : '/' ∉ segment.toList) (last : Bool) :
    Clean (Url.addSegment scheme list segment last) := by
  have hempty : Clean [""] := .singleton (by simp)
  unfold Url.addSegment
  split
  · split
    · exact h.dropLast.append hempty
    · exact h.dropLast
  · split
    · split
      · exact h.append hempty
      · exact h
    · rw [hw]
      exact h.append (.singleton hs)

end UrlPath

namespace Url

open UrlPath

variable {scheme : String}

theorem addSegment_last_ne_nil (scheme : String) (list : List String) (segment : String) :
    addSegment scheme list segment true ≠ [] := by
  unfold addSegment
  split
  · simp
  · split <;> simp

theorem settle_of_not_file (hw : isFile scheme = false) (list : List String) :
    settle scheme list = list := by
  simp [settle, hw]

/-! ## Reading a path -/

theorem slash_not_mem_escape_path {cs : List Char} (h : '/' ∉ cs) :
    '/' ∉ (String.ofList (Percent.escape keptInPath cs)).toList := by
  rw [String.toList_ofList]
  exact fun hm => h (Percent.slash_of_mem_escape hm).2

theorem clean_addPieces (hw : isFile scheme = false) {pieces : List (List Char)}
    (hp : ∀ piece ∈ pieces, '/' ∉ piece) {list : List String} (h : Clean list) :
    Clean (addPieces scheme list pieces) := by
  induction pieces generalizing list with
  | nil => exact h
  | cons piece pieces ih =>
      have hpiece := slash_not_mem_escape_path (hp piece List.mem_cons_self)
      cases pieces with
      | nil => exact h.addSegment hw hpiece true
      | cons next pieces =>
          exact ih (fun other hm => hp other (List.mem_cons_of_mem _ hm))
            (h.addSegment hw hpiece false)

theorem addPieces_ne_nil {pieces : List (List Char)} (h : pieces ≠ []) (list : List String) :
    addPieces scheme list pieces ≠ [] := by
  induction pieces generalizing list with
  | nil => exact absurd rfl h
  | cons piece pieces ih =>
      cases pieces with
      | nil => exact addSegment_last_ne_nil scheme list _
      | cons next pieces => exact ih (List.cons_ne_nil _ _) _

theorem slash_not_mem_of_mem_splitWhere {special : Bool} {cs piece : List Char}
    (h : piece ∈ splitWhere (isSlash special) cs) : '/' ∉ piece := by
  intro hm
  have := not_cut_of_mem_splitWhere h '/' hm
  simp [isSlash] at this

theorem pathAfterAuthority_eq (hs : isSpecial scheme = true) (hw : isFile scheme = false)
    (cs : List Char) : ∃ list, pathAfterAuthority scheme cs = .segments list ∧ Clean list ∧
      list ≠ [] := by
  unfold pathAfterAuthority
  cases cs with
  | nil => exact ⟨[""], by simp [hs], .singleton (by simp), by simp⟩
  | cons c rest =>
      refine ⟨_, rfl, ?_, ?_⟩
      · rw [pathSegments, settle_of_not_file hw]
        exact clean_addPieces hw (fun _ => slash_not_mem_of_mem_splitWhere) (by simp [Clean])
      · rw [pathSegments, settle_of_not_file hw]
        exact addPieces_ne_nil (splitWhere_ne_nil _ _) _

/-! ## Reading an address -/

theorem afterSlashes_eq {cs : List Char} {url : Url} (h : afterSlashes scheme cs = .ok url) :
    url.scheme = scheme ∧ ∃ rest, url.path = pathAfterAuthority scheme rest := by
  unfold afterSlashes at h
  simp only [bind, Except.bind] at h
  split at h
  · cases h
  · cases h
    exact ⟨rfl, _, rfl⟩

theorem file_scheme {cs : List Char} {url : Url} (h : file scheme cs = .ok url) :
    url.scheme = scheme := by
  unfold file at h
  simp only at h
  split at h
  · split at h
    · split at h
      · cases h
        rfl
      · split at h
        · cases h
        · cases h
          rfl
    · cases h
      rfl
  · cases h
    rfl

theorem other_scheme {cs : List Char} {url : Url} (h : other scheme cs = .ok url) :
    url.scheme = scheme := by
  unfold other at h
  split at h
  · exact (afterSlashes_eq h).1
  · cases h
    rfl
  · cases h
    rfl

/-- The path of an address of the web has at least one segment, and none of them holds a slash. -/
theorem path_of_parse {text : String} {url : Url} (h : parse text = .ok url)
    (hs : isSpecial url.scheme = true) (hw : isFile url.scheme = false) :
    ∃ list, url.path = .segments list ∧ Clean list ∧ list ≠ [] := by
  unfold parse at h
  split at h
  · cases h
  · rename_i scheme rest _
    split at h
    · rename_i hfile
      rw [file_scheme h, hfile] at hw
      cases hw
    · split at h
      · rename_i hnot hspecial
        obtain ⟨_, after, hp⟩ := afterSlashes_eq h
        rw [hp]
        exact pathAfterAuthority_eq hspecial (by simpa using hnot) after
      · rename_i hspecial
        rw [other_scheme h] at hs
        exact absurd hs hspecial

end Url

end HomeConsole
