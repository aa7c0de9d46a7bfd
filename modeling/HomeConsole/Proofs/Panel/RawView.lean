import HomeConsole.Command.Run
import HomeConsole.Panel.Detail
import HomeConsole.Proofs.Json.Layout

/-!
# A record as indented text

The raw form of a record cuts the indented text into lines, and a dump prints that text. Cutting
forgets which line breaks were there and drops a last empty line, but the indented form has no other
line breaks than those of its layout and does not end in one, so nothing is lost.
-/

namespace HomeConsole

/-- The text of a line, without its styles. -/
def Line.text (line : Line) : String := String.join (line.map Span.text)

namespace Detail

theorem text_rawLines (record : Record) :
    (rawLines record).map Line.text = linesOf record.value.pretty := by
  rw [rawLines, List.map_map, List.map_congr_left (g := id), List.map_id]
  intro line _
  rw [Function.comp_apply]
  split
  · rename_i hempty
    rw [String.isEmpty_iff.mp hempty]
    rfl
  · exact String.empty_append

theorem fieldLines_of_no_object {record : Record}
    (h : ∀ members, record.value ≠ .object members) : fieldLines record = rawLines record := by
  unfold fieldLines
  split
  · rename_i members heq
    exact absurd heq (h members)
  · rfl

/-- The number of lines of the raw form is known from the layout of the value. -/
theorem length_rawLines (record : Record) :
    (rawLines record).length = record.value.breaks + 1 := by
  rw [← (Json.linesOf_pretty record.value).1, rawLines, List.length_map]

/-- The first line of a list that is not empty is its bracket. -/
theorem bracket_mem_rawLines (item : Json) (items : List Json) :
    [⟨"[", .plain⟩] ∈ rawLines ⟨.array (item :: items)⟩ := by
  obtain ⟨more, hmore⟩ := Json.toList_pretty_array item items
  refine List.mem_map.mpr ⟨"[", ?_, rfl⟩
  rw [linesOf, hmore]
  exact List.mem_cons_self

/-- The raw form of a record shows just what a dump of its value prints. Its lines with line breaks
between them are the dump without the last line break. None of them holds a line break, and there
are as many as the layout of the value has, whatever its names, strings and numbers are. What has no
members to list is shown in the same lines. -/
theorem raw_form_shows_dump (record : Record) :
    (Report.dump (.ok record.value)).output =
      "\n".intercalate ((rawLines record).map Line.text) ++ "\n" ∧
    (∀ line ∈ rawLines record, '\n' ∉ line.text.toList) ∧
    (rawLines record).length = record.value.breaks + 1 ∧
    ((∀ members, record.value ≠ .object members) → fieldLines record = rawLines record) := by
  obtain ⟨-, hjoin, hlines⟩ := Json.linesOf_pretty record.value
  refine ⟨?_, fun line hline => ?_, length_rawLines record, fieldLines_of_no_object⟩
  · rw [text_rawLines, hjoin]
    rfl
  · have htext : line.text ∈ linesOf record.value.pretty := by
      rw [← text_rawLines]
      exact List.mem_map_of_mem hline
    exact hlines _ htext

/-- A text of two lines takes one line of a list, in either form. -/
theorem broken_text_takes_one_line :
    let record : Record := ⟨.array [.string "a\r\nb"]⟩
    (rawLines record).length = 3 ∧ fieldLines record = rawLines record := by
  obtain ⟨-, -, hlength, hfields⟩ := raw_form_shows_dump ⟨.array [.string "a\r\nb"]⟩
  refine ⟨hlength, hfields ?_⟩
  rintro members ⟨⟩

end Detail

end HomeConsole
