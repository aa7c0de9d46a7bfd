import HomeConsole.Proofs.Route.Opening
import HomeConsole.Proofs.Session.Attuned

/-!
# Opening a row

The key of the overview leads from any other page to the overview with its choice on the first row.
Each key down moves the choice by one row, and enter opens the record in the chosen row. The reads
in between end, and their answers are taken in.
-/

namespace HomeConsole

namespace Overview

variable {overview : Overview} {count : Nat}

theorem press_down (h : overview.chosen + 1 < count) :
    (overview.resize count).press .down =
      ((overview.resize count).choose (overview.chosen + 1), none) := by
  have hne : count ≠ 0 := by omega
  have hfirst : min overview.chosen (count - 1) = overview.chosen := by omega
  have hnext : min (overview.chosen + 1) (count - 1) = overview.chosen + 1 := by omega
  simp [press, resize, hne, hfirst, hnext]

theorem press_enter (h : overview.chosen < count) :
    (overview.resize count).press .enter = (overview.resize count, some overview.chosen) := by
  have hne : count ≠ 0 := by omega
  have hfirst : min overview.chosen (count - 1) = overview.chosen := by omega
  simp [press, resize, hne, hfirst]

end Overview

theorem View.activate_opening {id : String} (h : id ≠ "") :
    View.activate (Route.resolve ("module/" ++ Percent.encode id)) = .detail id .notLoaded := by
  rw [Route.resolve_of_detail (Route.normalize_opening h) (Route.slash_not_mem_encode id)
    (Percent.encode_ne_empty h)]
  simp [View.activate, Params.get?, Percent.decode_encode]

/-- Where no two records have the same id, a record can be told from its id. -/
theorem Record.eq_of_nodup_ids {records : List Record} (h : (records.filterMap Record.id?).Nodup)
    {record other : Record} {id : String} (hm : record ∈ records) (ho : other ∈ records)
    (hid : record.id? = some id) (hoid : other.id? = some id) : record = other := by
  induction records with
  | nil => cases hm
  | cons first rest ih =>
      have hmem {r : Record} (hr : r ∈ rest) (hi : r.id? = some id) :
          id ∈ rest.filterMap Record.id? := List.mem_filterMap.mpr ⟨r, hr, hi⟩
      have hfirst (hf : first.id? = some id) : id ∉ rest.filterMap Record.id? := by
        rw [List.filterMap_cons_some hf] at h
        exact (List.nodup_cons.mp h).1
      rcases List.mem_cons.mp hm with rfl | hrest
      · rcases List.mem_cons.mp ho with rfl | horest
        · rfl
        · exact absurd (hmem horest hoid) (hfirst hid)
      · rcases List.mem_cons.mp ho with rfl | horest
        · exact absurd (hmem hrest hid) (hfirst hoid)
        · refine ih (h.sublist ?_) hrest horest
          exact (List.sublist_cons_self first rest).filterMap Record.id?

namespace Session

variable {session : Session}

/-! ## To the overview -/

/-- The session at rest after the key of the overview. -/
def listed (session : Session) (source : Source) : Session :=
  (session.press (.char 'm')).session.settle source

/-- The session is at rest, with the list of records in its overview and a row chosen. -/
structure Lists (session : Session) (records : List Record) (row : Nat) : Prop where
  tended : Tended session
  idle : ∀ place, ¬ session.Running place
  waiting : session.waiting = []
  path : session.console.path = "/modules"
  view : session.console.view = .overview (.loaded records)
  prompt : session.presentation.prompt = none
  chosen : session.presentation.overview.chosen = row

theorem press_modules (h : session.presentation.prompt = none) :
    (session.press (.char 'm')).session =
      (session.advance (session.console.arrive "/modules")).follow := by
  have hp : session.presentation.press session.console.view (.char 'm') =
      (session.presentation, some (.navigate "/modules")) := Presentation.press_global h rfl _
  simp only [press, hp]
  rw [← dispatch_navigate]

theorem lists_listed (ht : Tended session) (ha : Attuned session)
    (hprompt : session.presentation.prompt = none) (hpath : session.console.path ≠ "/modules")
    (records : List Record) : Lists (session.listed (Catalogue.source { records })) records 0 := by
  have harrive : (session.console.arrive "/modules").view = .overview .notLoaded ∧
      (session.console.arrive "/modules").path = "/modules" := by
    rw [Console.arrive, Route.resolve_overview]
    exact ⟨rfl, rfl⟩
  have htended := ht.press (.char 'm')
  rw [press_modules hprompt] at htended
  obtain ⟨hpath', hview, hpresentation, _⟩ :=
    ht.settle_advance (by rw [harrive.1]; rfl) (Catalogue.source { records })
  -- the choice starts afresh because the presentation belongs to another page
  have hfresh : session.presentation.follow "/modules" =
      { session.presentation with overview := {}, detail := {}, path := "/modules" } := by
    have hne : session.presentation.path ≠ "/modules" := ha.symm ▸ hpath
    simp [Presentation.follow, hne]
  rw [harrive.2, hfresh] at hpresentation
  rw [listed, press_modules hprompt]
  exact {
    tended := htended.settle _
    idle := htended.running_settle _
    waiting := drain_waiting _
    path := hpath'.trans harrive.2
    view := by
      rw [hview, harrive.1]
      rfl
    prompt := by
      rw [hpresentation]
      exact hprompt
    chosen := by rw [hpresentation] }

/-! ## To a row -/

variable {records : List Record} {row : Nat}

theorem pressAll_fst (session : Session) (keys : List Key) :
    (session.pressAll keys).1 =
      keys.foldl (fun session key => (session.press key).session) session := by
  suffices hall : ∀ (quits : Bool) (session : Session),
      (keys.foldl (fun (pair : Session × Bool) key =>
        ((pair.1.press key).session, pair.2 || (pair.1.press key).quits)) (session, quits)).1 =
          keys.foldl (fun session key => (session.press key).session) session from
    hall false session
  induction keys with
  | nil => exact fun _ _ => rfl
  | cons key keys ih => exact fun _ _ => ih _ _

/-- A key down moves the choice to the next row and changes nothing else. -/
theorem Lists.press_down (h : Lists session records row) (hrow : row + 1 < records.length) :
    Lists (session.press .down).session records (row + 1) ∧
      (session.press .down).session.console = session.console ∧
      (session.press .down).session.reads = session.reads := by
  have hdown := @Overview.press_down session.presentation.overview records.length
    (by rw [h.chosen]; exact hrow)
  rw [h.chosen] at hdown
  have hs : (session.press .down).session = { session with presentation :=
      { session.presentation with
        overview := (session.presentation.overview.resize records.length).choose (row + 1) } } := by
    simp [press, Presentation.press, h.prompt, h.view, Presentation.globalAction?,
      Presentation.pressPage, hdown]
  have htended := h.tended.press .down
  rw [hs] at htended ⊢
  exact ⟨⟨htended, h.idle, h.waiting, h.path, h.view, h.prompt, rfl⟩, rfl, rfl⟩

theorem Lists.press_downs {count : Nat} (h : Lists session records 0)
    (hrow : count < records.length) :
    Lists (session.pressAll (List.replicate count .down)).1 records count ∧
      (session.pressAll (List.replicate count .down)).1.console = session.console ∧
      (session.pressAll (List.replicate count .down)).1.reads = session.reads := by
  induction count with
  | zero => exact ⟨h, rfl, rfl⟩
  | succ count ih =>
      obtain ⟨hlists, hconsole, hreads⟩ := ih (by omega)
      obtain ⟨hnext, hconsole', hreads'⟩ := hlists.press_down hrow
      simp only [pressAll_fst, List.replicate_succ', List.foldl_append, List.foldl_cons,
        List.foldl_nil] at hnext hconsole' hreads' hconsole hreads ⊢
      exact ⟨hnext, hconsole'.trans hconsole, hreads'.trans hreads⟩

/-! ## Into the row -/

theorem Lists.press_enter (h : Lists session records row) {record : Record}
    (hrecord : records[row]? = some record) : ∃ presentation,
    (session.press .enter).session =
      ({ session with presentation }.dispatch (.openRecord record)).1.follow := by
  obtain ⟨hrow, _⟩ := List.getElem?_eq_some_iff.mp hrecord
  have henter := @Overview.press_enter session.presentation.overview records.length
    (by rw [h.chosen]; exact hrow)
  rw [h.chosen] at henter
  refine ⟨{ session.presentation with
    overview := session.presentation.overview.resize records.length }, ?_⟩
  simp [press, Presentation.press, h.prompt, h.view, Presentation.globalAction?,
    Presentation.pressPage, henter, hrecord]

theorem Lists.settle_enter (h : Lists session records row) {record : Record} {id : String}
    (hrecord : records[row]? = some record) (hid : record.id? = some id) (source : Source) :
    ((session.press .enter).session.settle source).console.view =
        .detail id (.ofOutcome (source.get id)) ∧
      ((session.press .enter).session.settle source).reads.back? =
        some ⟨⟨((session.press .enter).session.settle source).console.activation, .one id⟩,
          .finished⟩ := by
  obtain ⟨presentation, hpress⟩ := h.press_enter hrecord
  have hdispatch : ({ session with presentation }.dispatch (.openRecord record)).1 =
      { session with presentation }.advance
        (session.console.arrive ("module/" ++ Percent.encode id)) := dispatch_openRecord _ hid
  have hview : (session.console.arrive ("module/" ++ Percent.encode id)).view =
      .detail id .notLoaded := by
    simp only [Console.arrive, View.activate_opening (Record.id?_ne_empty hid)]
  obtain ⟨_, hshown, _, hlast⟩ := (h.tended.congr _ rfl rfl presentation).settle_advance
    (show _ = some (Endpoint.one id) by rw [hview]; rfl) source
  rw [hpress, hdispatch]
  refine ⟨?_, hlast⟩
  rw [hshown, hview]
  rfl

theorem Lists.settle_enter_none (h : Lists session records row) {record : Record}
    (hrecord : records[row]? = some record) (hid : record.id? = none) (source : Source) :
    ((session.press .enter).session.settle source).console =
        { session.console with status := "Module has no id" } ∧
      ((session.press .enter).session.settle source).reads = session.reads := by
  obtain ⟨presentation, hpress⟩ := h.press_enter hrecord
  have hdispatch : ({ session with presentation }.dispatch (.openRecord record)).1 =
      { session with
        console := { session.console with status := "Module has no id" }
        presentation } := by
    simp [dispatch, Console.update_openRecord_none hid]
  rw [hpress, hdispatch, settle_of_idle]
  · exact ⟨rfl, rfl⟩
  · exact h.idle
  · exact h.waiting

/-- The session at rest after the record in a row of the overview was opened, from any other
page. -/
def openRow (session : Session) (source : Source) (row : Nat) : Session :=
  ((session.listed source).pressAll (List.replicate row .down ++ [.enter])).1.settle source

/-- From any page but the overview, whatever is under way or waits, the keys to a row end at the
record that the source has for the id in this row; a row without an id only leaves a complaint. -/
theorem opened_row_is_shown (path : String) (run : List Happening) (records : List Record)
    {row : Nat} (hrow : row < records.length)
    (hprompt : (after path run).presentation.prompt = none)
    (hpath : (after path run).console.path ≠ "/modules") :
    let source := Catalogue.source { records }
    let listed := (after path run).listed source
    let opened := (after path run).openRow source row
    (listed.console.path = "/modules" ∧ listed.console.view = .overview (.loaded records)) ∧
      (∀ id, records[row].id? = some id →
        ∃ record, records.find? (·.id? == some id) = some record ∧
          opened.console.view = .detail id (.loaded record) ∧
          opened.reads.back? = some ⟨⟨opened.console.activation, .one id⟩, .finished⟩ ∧
          ((records.filterMap Record.id?).Nodup → record = records[row])) ∧
      (records[row].id? = none →
        opened.console = { listed.console with status := "Module has no id" } ∧
          opened.reads = listed.reads) := by
  intro source listed opened
  have hlisted : Lists listed records 0 :=
    lists_listed (tended_after path run) (attuned_after path run) hprompt hpath records
  obtain ⟨hchosen, hconsole, hreads⟩ := hlisted.press_downs hrow
  have hrecord : records[row]? = some records[row] := List.getElem?_eq_getElem hrow
  have hopened : opened =
      ((listed.pressAll (List.replicate row .down)).1.press .enter).session.settle source := by
    simp only [opened, openRow, pressAll_fst, List.foldl_append, List.foldl_cons, List.foldl_nil]
    rfl
  refine ⟨⟨hlisted.path, hlisted.view⟩, ?_, ?_⟩
  · intro id hid
    obtain ⟨hview, hlast⟩ := hchosen.settle_enter hrecord hid source
    rw [← hopened] at hview hlast
    have hsome : (records.find? (·.id? == some id)).isSome = true := by
      rw [List.find?_isSome]
      exact ⟨records[row], List.getElem_mem hrow, by simp [hid]⟩
    obtain ⟨record, hfind⟩ := Option.isSome_iff_exists.mp hsome
    refine ⟨record, hfind, ?_, hlast, ?_⟩
    · rw [hview]
      simp [source, Catalogue.source, Catalogue.get, hfind, Load.ofOutcome]
    · intro hnodup
      exact Record.eq_of_nodup_ids hnodup (List.mem_of_find?_eq_some hfind)
        (List.getElem_mem hrow) (by simpa using List.find?_some hfind) hid
  · intro hid
    rw [hopened, ← hconsole, ← hreads]
    exact hchosen.settle_enter_none hrecord hid source

/-- A record without an id, and one whose id needs escapes. -/
def pair : List Record := [⟨.object [("name", .string "lamp")]⟩, awkward]

theorem second_row_is_shown :
    ((after "/" []).openRow (Catalogue.source { records := pair }) 1).console.view =
      .detail "a/b?%2F+#. ü" (.loaded awkward) := by
  obtain ⟨_, hopened, _⟩ := @opened_row_is_shown "/" [] pair 1 (by decide) (by decide +kernel)
    (by decide +kernel)
  have hid : awkward.id? = some "a/b?%2F+#. ü" := by decide +kernel
  obtain ⟨record, _, hview, _, hdistinct⟩ := hopened "a/b?%2F+#. ü" hid
  rw [hview, hdistinct (by decide +kernel)]
  rfl

end Session

end HomeConsole
