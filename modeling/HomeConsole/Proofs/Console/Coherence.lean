import HomeConsole.Proofs.Console.Step
import HomeConsole.Proofs.Route.Table
import Mathlib.Data.List.Induction

/-!
# The path tells what is shown

After every run of actions, whatever answers come under whatever numbers, exactly one route fits the
path of the console; its page is that of the console and of the view, and the id of the view is the
one that the route takes from the path. So the path alone tells what is shown.
-/

namespace HomeConsole

/-- A view that is activated is about just the id that its route takes from the path. -/
theorem View.id?_activate {found : Resolution} (hroute : found.route ∈ Route.table)
    (hmatch : found.route.matchPath? found.path = some found.params) :
    (activate found).id? = found.params.get? "id" := by
  unfold activate
  cases hp : found.route.page with
  | detail =>
      obtain ⟨piece, _, _, hparams⟩ := Route.matchPath?_detail hroute hp hmatch
      simp [hparams, id?, Params.get?]
  | home => exact (Route.get?_id_eq_none hroute (by simp [hp]) hmatch).symm
  | overview => exact (Route.get?_id_eq_none hroute (by simp [hp]) hmatch).symm
  | dashboard => exact (Route.get?_id_eq_none hroute (by simp [hp]) hmatch).symm

namespace Console

/-- A path has led to the console; how far the data of the view have come since does not matter. -/
def Reached (console : Console) : Prop :=
  ∃ path, console.path = (Route.resolve path).path ∧
    console.page = (Route.resolve path).route.page ∧
    console.view.loading = (View.activate (Route.resolve path)).loading

/-- The page and the view with its id are those of the route that fits the path. -/
def Coherent (console : Console) : Prop :=
  ∃ route ∈ Route.table, ∃ params, route.matchPath? console.path = some params ∧
    console.page = route.page ∧ console.view.page = route.page ∧
    console.view.id? = params.get? "id"

variable {console : Console}

/-! ## What each step keeps -/

theorem reached_new : Reached new := by
  refine ⟨"/", ?_⟩
  rw [Route.resolve_root]
  exact ⟨rfl, rfl, rfl⟩

theorem Reached.congr (h : Reached console) {other : Console} (hpath : other.path = console.path)
    (hpage : other.page = console.page) (hview : other.view.loading = console.view.loading) :
    Reached other := by
  unfold Reached
  rw [hpath, hpage, hview]
  exact h

theorem Reached.begin (h : Reached console) : Reached console.begin.console :=
  h.congr (begin_path _) (begin_page _) (by simp)

theorem Reached.deliver (h : Reached console) (activation : UInt64) (answer : Answer) :
    Reached (console.deliver activation answer).console := by
  unfold Console.deliver
  split
  · exact h.congr (receive_path ..) (receive_page ..) (by simp)
  · exact h

theorem reached_arrive (console : Console) (path : String) : Reached (console.arrive path) := by
  refine ⟨path, ?_⟩
  unfold arrive
  generalize Route.resolve path = found
  exact ⟨rfl, rfl, rfl⟩

theorem Reached.update (h : Reached console) (action : Action) :
    Reached (console.update action).console := by
  cases action with
  | navigate path =>
      rw [(update_navigate console path).1]
      exact (reached_arrive console path).begin
  | openRecord record =>
      cases hid : record.id? with
      | some id =>
          rw [(update_openRecord hid).1]
          exact (reached_arrive console _).begin
      | none =>
          rw [update_openRecord_none hid]
          exact h
  | reload => exact h.begin
  | listLoaded activation outcome => exact h.deliver activation (.list outcome)
  | recordLoaded activation outcome => exact h.deliver activation (.one outcome)
  | quit => exact h

theorem Reached.takeAll (h : Reached console) (actions : List Action) :
    Reached (console.takeAll actions) := by
  induction actions generalizing console with
  | nil => exact h
  | cons action actions ih => exact ih (h.update action)

theorem Reached.coherent (h : Reached console) : Coherent console := by
  obtain ⟨path, hpath, hpage, hview⟩ := h
  obtain ⟨hroute, hmatch⟩ := Route.resolve_fits path
  refine ⟨_, hroute, _, hpath ▸ hmatch, hpage, ?_, ?_⟩
  · rw [← View.page_loading, hview, View.page_loading]
    exact View.page_activate _
  · rw [← View.id?_loading, hview, View.id?_loading]
    exact View.id?_activate hroute hmatch

/-! ## What the path tells -/

/-- Two coherent consoles at one path show the same page, about the same record. -/
theorem Coherent.eq_of_path (h : Coherent console) {other : Console} (ho : Coherent other)
    (hpath : other.path = console.path) :
    other.page = console.page ∧ other.view.page = console.view.page ∧
      other.view.id? = console.view.id? := by
  obtain ⟨route, hroute, params, hmatch, hpage, hview, hid⟩ := h
  obtain ⟨otherRoute, hotherRoute, otherParams, hotherMatch, hotherPage, hotherView, hotherId⟩ := ho
  rw [hpath] at hotherMatch
  obtain rfl := Route.eq_of_isSome_matchPath? hroute hotherRoute
    (Option.isSome_of_eq_some hmatch) (Option.isSome_of_eq_some hotherMatch)
  obtain rfl := Option.some.inj (hmatch.symm.trans hotherMatch)
  exact ⟨hotherPage.trans hpage.symm, hotherView.trans hview.symm, hotherId.trans hid.symm⟩

/-- After every run of actions exactly one route fits the path of the console. Its page is that of
the console and of the view, and the route of the detail page takes the id of the view from the
path. So consoles at one path show the same page about the same record, and no view is ever about an
empty id. -/
theorem path_tells_view (run : List Action) :
    let console := new.takeAll run
    (∃ route params,
        (Route.table.filter fun other => (other.matchPath? console.path).isSome) = [route] ∧
        route.matchPath? console.path = some params ∧
        console.page = route.page ∧ console.view.page = route.page ∧
        (route.page = .detail → ∃ piece id,
          Route.segments console.path = ["", "module", piece] ∧ piece ≠ "" ∧
          id = (Percent.decode? piece).getD piece ∧ id ≠ "" ∧
          params.get? "id" = some id ∧ console.view.id? = some id)) ∧
      (∀ other, (new.takeAll other).path = console.path →
        (new.takeAll other).view.page = console.view.page ∧
          (new.takeAll other).view.id? = console.view.id?) ∧
      ∀ path, (Route.resolve path).route.page = .detail → ∃ id,
        (Route.resolve path).params.get? "id" = some id ∧ id ≠ "" := by
  intro console
  have hcoherent : Coherent console := (reached_new.takeAll run).coherent
  refine ⟨?_, ?_, ?_⟩
  · obtain ⟨route, hroute, params, hmatch, hpage, hview, hid⟩ := hcoherent
    refine ⟨route, params,
      Route.filter_isSome_matchPath? hroute (Option.isSome_of_eq_some hmatch), hmatch, hpage, hview,
      ?_⟩
    intro hdetail
    obtain ⟨piece, hsegments, hne, hparams⟩ := Route.matchPath?_detail hroute hdetail hmatch
    have hget : params.get? "id" = some (Percent.decode piece) := by
      rw [hparams]
      rfl
    exact ⟨piece, Percent.decode piece, hsegments, hne, rfl, Percent.decode_ne_empty hne, hget,
      hid.trans hget⟩
  · intro other hpath
    exact (hcoherent.eq_of_path (reached_new.takeAll other).coherent hpath).2
  · intro path hdetail
    obtain ⟨hroute, hmatch⟩ := Route.resolve_fits path
    obtain ⟨piece, _, hne, hparams⟩ := Route.matchPath?_detail hroute hdetail hmatch
    refine ⟨Percent.decode piece, ?_, Percent.decode_ne_empty hne⟩
    rw [hparams]
    rfl

end Console

end HomeConsole
