import HomeConsole.Proofs.Json.Shape

/-!
# How deep a value is nested

The reader counts the containers around what it reads and gives up at its limit, for lists and
objects alike and wherever they stand. So whatever it gives is nested less deep than that.
-/

namespace HomeConsole.Json

mutual

/-- How many containers are inside one another in a value, at most. -/
def nesting : Json → Nat
  | array items => nestingOfItems items + 1
  | object members => nestingOfMembers members + 1
  | _ => 0

/-- The deepest nesting of some items. -/
def nestingOfItems : List Json → Nat
  | [] => 0
  | item :: items => max item.nesting (nestingOfItems items)

/-- The deepest nesting of the values of some members. -/
def nestingOfMembers : List (String × Json) → Nat
  | [] => 0
  | (_, value) :: members => max value.nesting (nestingOfMembers members)

end

variable {item : List Char → Reading Json} {first : Bool} {fuel : Nat} {cs rest : List Char}
  {found : Json} {P : Json → Prop}

theorem nestingOfItems_lt {items : List Json} {bound : Nat} (hbound : 0 < bound)
    (h : ∀ v ∈ items, v.nesting < bound) : nestingOfItems items < bound := by
  induction items with
  | nil => exact hbound
  | cons v items ih =>
      obtain ⟨hv, hitems⟩ := List.forall_mem_cons.mp h
      exact Nat.max_lt.mpr ⟨hv, ih hitems⟩

theorem nestingOfMembers_lt {members : List (String × Json)} {bound : Nat} (hbound : 0 < bound)
    (h : ∀ m ∈ members, m.2.nesting < bound) : nestingOfMembers members < bound := by
  induction members with
  | nil => exact hbound
  | cons m members ih =>
      obtain ⟨hm, hmembers⟩ := List.forall_mem_cons.mp h
      exact Nat.max_lt.mpr ⟨hm, ih hmembers⟩

/-! ## What holds of every part -/

/-- What holds of all that a reader of items gives holds of all items of a list. -/
theorem forall_of_listRest {done items : List Json}
    (hitem : ∀ {cs found rest}, item cs = .ok (found, rest) → P found) (hdone : ∀ v ∈ done, P v)
    (h : listRest item done first fuel cs = .ok (items, rest)) : ∀ v ∈ items, P v := by
  fun_induction listRest item done first fuel cs with
  | case3 done first fuel cs rest hend =>
      cases h
      simpa using hdone
  | case5 done fuel cs c rest hc hspace value more hvalue ih =>
      exact ih (List.forall_mem_cons.mpr ⟨hitem hvalue, hdone⟩) h
  | case9 done first fuel cs rest hfirst value more hc hspace hnil hend hvalue ih =>
      exact ih (List.forall_mem_cons.mpr ⟨hitem hvalue, hdone⟩) h
  | case1 | case2 | case4 | case6 | case7 | case8 | case10 => cases h

theorem forall_insertMember {name : String} {value : Json} {members : List (String × Json)}
    (hvalue : P value) (h : ∀ m ∈ members, P m.2) : ∀ m ∈ insertMember name value members, P m.2 := by
  induction members with
  | nil => simpa [insertMember] using hvalue
  | cons m members ih =>
      obtain ⟨hm, hmembers⟩ := List.forall_mem_cons.mp h
      rw [insertMember]
      split
      · exact List.forall_mem_cons.mpr ⟨hvalue, hmembers⟩
      · split
        · exact List.forall_mem_cons.mpr ⟨hvalue, h⟩
        · exact List.forall_mem_cons.mpr ⟨hm, ih hmembers⟩

theorem of_member {name : String} (hitem : ∀ {cs found rest}, item cs = .ok (found, rest) → P found)
    (h : member item cs = .ok ((name, found), rest)) : P found := by
  unfold member at h
  split at h
  · cases h
  · split at h
    · cases h
    · split at h
      · cases h
      · rename_i hvalue
        cases h
        exact hitem hvalue
    · cases h

/-- What holds of all that a reader of items gives holds of the values of all members of an
object. -/
theorem forall_of_objectRest {done members : List (String × Json)}
    (hitem : ∀ {cs found rest}, item cs = .ok (found, rest) → P found)
    (hdone : ∀ m ∈ done, P m.2)
    (h : objectRest item done first fuel cs = .ok (members, rest)) : ∀ m ∈ members, P m.2 := by
  fun_induction objectRest item done first fuel cs with
  | case3 done first fuel cs rest hend =>
      cases h
      exact hdone
  | case5 done fuel cs rest name value more hmember hc hspace ih =>
      exact ih (forall_insertMember (of_member hitem hmember) hdone) h
  | case9 done first fuel cs rest hfirst rest' hquote name value more hmember hc hspace ih =>
      exact ih (forall_insertMember (of_member hitem hmember) hdone) h
  | case1 | case2 | case4 | case6 | case7 | case8 | case10 | case11 | case12 => cases h

/-! ## The limit -/

/-- A value that is read within a limit is nested less deep than it. -/
theorem nesting_lt_of_value {depth : Nat} (h : value depth cs = .ok (found, rest)) :
    found.nesting < depth := by
  induction depth generalizing cs found rest with
  | zero => cases h
  | succ depth ih =>
      rw [value] at h
      split at h
      case h_1 => cases h
      case h_2 | h_3 | h_4 =>
        rw [eq_of_word h]
        exact Nat.succ_pos depth
      case h_5 | h_8 =>
        split at h <;> cases h
        exact Nat.succ_pos depth
      case h_6 =>
        split at h
        · cases h
        · rename_i hdepth
          split at h
          · cases h
          · rename_i hlist
            cases h
            have hitems := forall_of_listRest ih (by simp) hlist
            exact Nat.succ_lt_succ (nestingOfItems_lt (Nat.pos_of_ne_zero hdepth) hitems)
      case h_7 =>
        split at h
        · cases h
        · rename_i hdepth
          split at h
          · cases h
          · rename_i hobject
            cases h
            have hmembers := forall_of_objectRest ih (by simp) hobject
            exact Nat.succ_lt_succ (nestingOfMembers_lt (Nat.pos_of_ne_zero hdepth) hmembers)
      case h_9 =>
        split at h
        · split at h <;> cases h
          exact Nat.succ_pos depth
        · cases h

theorem nesting_lt_of_parse {text : String} (h : parse text = .ok found) :
    found.nesting < maxDepth := by
  rw [parse, Except.mapError_eq_ok, parseChars, finish_eq_ok] at h
  obtain ⟨_, hvalue, _⟩ := h
  exact nesting_lt_of_value hvalue

end HomeConsole.Json
