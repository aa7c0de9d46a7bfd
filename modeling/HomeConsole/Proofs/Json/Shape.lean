import HomeConsole.Backend.Record

/-!
# The shape of a text

A text is read as a list of values just where it is read as one value and that value is a list, and
then it is the same list. A text that is no list is refused either way of reading it as one.
-/

theorem Except.mapError_eq_ok {ε ε' α : Type} {f : ε → ε'} {result : Except ε α} {a : α} :
    result.mapError f = .ok a ↔ result = .ok a := by
  cases result <;> constructor <;> intro h <;> cases h <;> rfl

theorem Except.map_eq_ok {ε α β : Type} {f : α → β} {result : Except ε α} {b : β} :
    result.map f = .ok b ↔ ∃ a, result = .ok a ∧ f a = b := by
  constructor
  · intro h
    cases result with
    | error cause => cases h
    | ok a =>
        cases h
        exact ⟨a, rfl, rfl⟩
  · rintro ⟨a, rfl, rfl⟩
    rfl

namespace HomeConsole

namespace Json

variable {depth : Nat} {cs rest : List Char} {items : List Json}

theorem eq_of_word {expected : List Char} {meant found : Json}
    (h : word meant expected cs = .ok (found, rest)) : found = meant := by
  induction expected generalizing cs with
  | nil =>
      simp only [word, Except.ok.injEq, Prod.mk.injEq] at h
      exact h.1.symm
  | cons c expected ih =>
      cases cs with
      | nil => cases h
      | cons c' cs =>
          rw [word] at h
          split at h
          · exact ih h
          · cases h

/-- A value that is a list begins with a bracket and is read item by item. -/
theorem value_eq_array : value depth cs = .ok (.array items, rest) ↔
    ∃ inner more, depth = inner + 2 ∧ skipSpace cs = '[' :: more ∧
      listRest (value (inner + 1)) [] true (more.length + 1) more = .ok (items, rest) := by
  constructor
  · intro h
    unfold value at h
    split at h
    · cases h
    · -- a word gives the value it stands for, and of the other heads only a bracket gives a list
      split at h
      case h_2 => cases eq_of_word h
      case h_3 => cases eq_of_word h
      case h_4 => cases eq_of_word h
      case h_6 inner _ more hspace =>
        split at h
        · cases h
        · rename_i hinner
          obtain ⟨inner, rfl⟩ := Nat.exists_eq_succ_of_ne_zero hinner
          refine ⟨inner, more, rfl, hspace, ?_⟩
          split at h
          · cases h
          · rename_i hlist
            cases h
            exact hlist
      all_goals
        repeat' split at h
        all_goals cases h
  · rintro ⟨inner, more, rfl, hspace, hlist⟩
    rw [value]
    simp only [hspace]
    rw [if_neg (Nat.succ_ne_zero inner), hlist]

theorem list_eq_ok : list depth cs = .ok (items, rest) ↔
    ∃ inner more, depth = inner + 2 ∧ skipSpace cs = '[' :: more ∧
      listRest (value (inner + 1)) [] true (more.length + 1) more = .ok (items, rest) := by
  constructor
  · intro h
    unfold list at h
    split at h
    case h_1 more hspace =>
      split at h
      · cases h
      · rename_i hdepth
        obtain ⟨inner, rfl⟩ : ∃ inner, depth = inner + 2 := ⟨depth - 2, by omega⟩
        exact ⟨inner, more, rfl, hspace, h⟩
    case h_2 => cases h
    case h_3 => split at h <;> cases h
  · rintro ⟨inner, more, rfl, hspace, hlist⟩
    have hdepth : ¬ inner + 2 ≤ 1 := by omega
    simp only [list, hspace, if_neg hdepth]
    exact hlist

theorem list_iff_value : list depth cs = .ok (items, rest) ↔
    value depth cs = .ok (.array items, rest) :=
  list_eq_ok.trans value_eq_array.symm

/-- Where a list begins, the two ways of reading do the same, faults included. -/
theorem value_of_open {more : List Char} (hdepth : 0 < depth) (h : skipSpace cs = '[' :: more) :
    value depth cs = (list depth cs).map fun read => (.array read.1, read.2) := by
  obtain ⟨inner, rfl⟩ := Nat.exists_eq_add_of_lt hdepth
  simp only [Nat.zero_add, value, list, h]
  by_cases hinner : inner = 0
  · subst hinner
    rfl
  · have hdeep : ¬ inner + 1 ≤ 1 := by omega
    rw [if_neg hinner, if_neg hdeep, Nat.add_sub_cancel]
    cases listRest (value inner) [] true (more.length + 1) more <;> rfl

/-! ## Whole texts -/

theorem finish_map {α β : Type} (reading : Reading α) (f : α → β) :
    finish (reading.map fun read => (f read.1, read.2)) = (finish reading).map f := by
  cases reading with
  | error fault => rfl
  | ok read =>
      show finish (.ok (f read.1, read.2)) = _
      simp only [finish]
      split <;> rfl

theorem finish_eq_ok {α : Type} {reading : Reading α} {a : α} :
    finish reading = .ok a ↔ ∃ rest, reading = .ok (a, rest) ∧ skipSpace rest = [] := by
  cases reading with
  | error fault => simp [finish]
  | ok read =>
      obtain ⟨found, rest⟩ := read
      simp only [finish, Except.ok.injEq, Prod.mk.injEq]
      constructor
      · intro h
        split at h
        · cases h
          exact ⟨rest, ⟨rfl, rfl⟩, ‹_›⟩
        · cases h
      · rintro ⟨_, ⟨rfl, rfl⟩, hspace⟩
        rw [hspace]

theorem parseListChars_eq_ok : parseListChars cs = .ok items ↔ parseChars cs = .ok (.array items) := by
  simp only [parseListChars, parseChars, finish_eq_ok, list_iff_value]

theorem parseList_eq_ok {text : String} :
    parseList text = .ok items ↔ parse text = .ok (.array items) := by
  simp only [parseList, parse, Except.mapError_eq_ok, parseListChars_eq_ok]

/-- A text that opens a list fails as a list just as it fails as a value. -/
theorem parse_of_open {text : String} {more : List Char}
    (h : skipSpace text.toList = '[' :: more) : parse text = (parseList text).map array := by
  rw [parse, parseList, parseChars, parseListChars, value_of_open (by decide) h,
    finish_map]
  cases finish (list maxDepth text.toList) <;> rfl

end Json

namespace Record

theorem parse_eq_ok {text : String} {record : Record} :
    parse text = .ok record ↔ Json.parse text = .ok record.value := by
  simp only [parse, Except.map_eq_ok]
  constructor
  · rintro ⟨value, hvalue, rfl⟩
    exact hvalue
  · intro h
    exact ⟨record.value, h, rfl⟩

theorem values_map_mk (items : List Json) : (items.map mk).map (·.value) = items := by
  rw [List.map_map]
  exact List.map_id items

theorem parseList_eq_ok {text : String} {records : List Record} :
    parseList text = .ok records ↔ Json.parse text = .ok (.array (records.map (·.value))) := by
  simp only [parseList, Except.map_eq_ok, Json.parseList_eq_ok]
  constructor
  · rintro ⟨items, hitems, rfl⟩
    rwa [values_map_mk]
  · intro h
    refine ⟨records.map (·.value), h, ?_⟩
    rw [List.map_map]
    exact List.map_id records

end Record

end HomeConsole
