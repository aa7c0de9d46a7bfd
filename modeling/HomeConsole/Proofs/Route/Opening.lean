import HomeConsole.Proofs.Console.Step
import HomeConsole.Proofs.Json.Integer
import HomeConsole.Proofs.Route.Canonical
import HomeConsole.Proofs.Route.Resolve

/-!
# Opening a record

The path that opens a record is encoded, brought into canonical form, cut at its slashes, matched
and decoded. Whatever the id of the record is, what comes out is that id: it reaches the view, and
through the view the read, unchanged.
-/

namespace HomeConsole

/-! ## Ids -/

/-- An id is never empty. -/
theorem Record.id?_ne_empty {record : Record} {id : String} (h : record.id? = some id) :
    id ≠ "" := by
  unfold Record.id? at h
  split at h
  · rename_i n _
    cases h
    exact n.text_ne_empty
  · rename_i s _
    split at h
    · cases h
    · rename_i hs
      cases h
      simpa using hs
  · cases h

/-! ## The way of an id -/

theorem Route.sound_opening {id : String} (h : id ≠ "") :
    (Spelling.bare false ("module/" ++ Percent.encode id)).Sound := by
  have hplain : ∀ c ∈ (Percent.encode id).toList, Percent.isPlain c = true :=
    fun _ => Percent.isPlain_of_mem_encode
  have hne : (Percent.encode id).toList ≠ [] := by
    simpa using Percent.encode_ne_empty h
  have hlist : ("module/" ++ Percent.encode id).toList =
      ['m', 'o', 'd', 'u', 'l', 'e', '/'] ++ (Percent.encode id).toList := by simp
  apply Spelling.sound_bare
  · intro c hc
    obtain rfl : 'm' = c := by simpa [hlist] using hc
    decide
  · intro c hc
    rw [hlist, List.mem_append] at hc
    rcases hc with hc | hc
    · have hmodule : ∀ c ∈ ['m', 'o', 'd', 'u', 'l', 'e', '/'], c ≠ '?' ∧ c ≠ '#' := by simp
      exact hmodule c hc
    · have := hplain c hc
      simp_all [Percent.isPlain]
  · intro c hc
    rw [hlist, List.getLast?_append, List.getLast?_eq_some_getLast hne] at hc
    obtain rfl := Option.some.inj hc
    have := hplain _ (List.getLast_mem hne)
    simp_all [Percent.isPlain]
  · simp

theorem Route.normalize_opening {id : String} (h : id ≠ "") :
    Route.normalize ("module/" ++ Percent.encode id) =
      Route.ofPieces ["module", Percent.encode id] := by
  have hcanonical := (sound_opening h).normalize_text
  rw [Spelling.text_bare, if_neg Bool.false_ne_true, String.empty_append] at hcanonical
  rw [hcanonical, ← String.toList_inj]
  simp [Route.ofPieces, Spelling.bare]

/-- Opening a record leads to the detail page of just its id, and asks for just that id. -/
theorem opened_id_is_requested (console : Console) {record : Record} {id : String}
    (h : record.id? = some id) :
    (console.update (.openRecord record)).console =
        { console with
          path := "/module/" ++ Percent.encode id
          page := .detail
          view := .detail id .loading
          activation := console.activation + 1
          status := "" } ∧
      (console.update (.openRecord record)).effect = .fetch ⟨console.activation + 1, .one id⟩ ∧
      (Route.segments (Endpoint.one id).path).mapM Percent.decode? =
        some ["", "api", "getmodule", id] ∧
      ∀ other, (Endpoint.one other).path = (Endpoint.one id).path → other = id := by
  have hne := Record.id?_ne_empty h
  have hres := Route.resolve_of_detail (Route.normalize_opening hne)
    (Route.slash_not_mem_encode id) (Percent.encode_ne_empty hne)
  have hpath : Route.ofPieces ["module", Percent.encode id] = "/module/" ++ Percent.encode id := by
    simp [Route.ofPieces, ← String.toList_inj]
  have hview : View.activate (Route.resolve ("module/" ++ Percent.encode id)) =
      .detail id .notLoaded := by
    rw [hres]
    simp [View.activate, Params.get?, Percent.decode_encode]
  have harrive : console.arrive ("module/" ++ Percent.encode id) =
      { console with
        path := "/module/" ++ Percent.encode id
        page := .detail
        view := .detail id .notLoaded
        status := "" } := by
    rw [Console.arrive, hview, hres, hpath]
    rfl
  obtain ⟨hc, he⟩ := @Console.update_openRecord console _ _ h
  refine ⟨?_, ?_, Endpoint.decode_segments_path (.one id), ?_⟩
  · rw [hc, harrive]
    rfl
  · rw [he, harrive]
    rfl
  · intro other ho
    have := Endpoint.decode_segments_path (.one other)
    rw [ho, Endpoint.decode_segments_path] at this
    simpa [Endpoint.segments, eq_comm] using this

/-- An id of reserved characters, an escape, a blank and a letter beyond ASCII. -/
def awkward : Record := ⟨.object [("id", .string "a/b?%2F+#. ü")]⟩

theorem awkward_is_requested : awkward.id? = some "a/b?%2F+#. ü" ∧
    (Console.new.update (.openRecord awkward)).effect = .fetch ⟨1, .one "a/b?%2F+#. ü"⟩ := by
  have h : awkward.id? = some "a/b?%2F+#. ü" := by decide +kernel
  exact ⟨h, (opened_id_is_requested Console.new h).2.1⟩

end HomeConsole
