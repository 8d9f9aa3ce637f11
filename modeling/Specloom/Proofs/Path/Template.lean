import Specloom.Path.Template
import Specloom.Proofs.Checked

/-!
# Accepted path templates

What is known of a path template once it is read: its path is the text before the first question
mark, its placeholders are those of the path, and no name repeats.

## Main results

* `exists_of_parse`: what reading a template has done
* `not_mem_path_of_parse`: the path holds no question mark
* `placeholders_of_parse`, `nodup_placeholders_of_parse`: the placeholders
-/

namespace Specloom.Path

open Text

theorem mem_of_mem_written {text : List Char} {s : Segment} {c : Char} (hs : s ∈ segments text)
    (hc : c ∈ s.written) : c ∈ text := by
  rw [← flatMap_written_segments text]
  exact List.mem_flatMap.mpr ⟨s, hs, hc⟩

namespace PathTemplate

/-- What stands before the first question mark of a template, and what stands after it. -/
def parts (raw : String) : List Char × List Char :=
  (splitFirst? '?' raw.toList).getD (raw.toList, [])

theorem not_mem_parts_fst (raw : String) : '?' ∉ (parts raw).1 := by
  unfold parts
  cases h : splitFirst? '?' raw.toList with
  | none => exact splitFirst?_eq_none_iff.mp h
  | some cut => exact (splitFirst?_eq_some_iff.mp h).2

/-- The path of a template without the hash of a hash route. -/
def withoutHash (path : List Char) : List Char :=
  if path.head? = some '#' then path.tail else path

theorem parse_eq (raw : String) :
    parse raw = (do
      checkBraces (withoutHash (parts raw).1)
      let query ← parseQuery (parts raw).2
      let template : PathTemplate := ⟨raw, String.ofList (parts raw).1,
        (Path.placeholders (parts raw).1).map String.ofList, query⟩
      match firstRepeat? template.allPlaceholders with
      | some name => .error (.duplicatePlaceholder name)
      | none => .ok template) := by
  unfold parse parts withoutHash
  cases splitFirst? '?' raw.toList <;> rfl

/-- **What reading a template has done**: the braces of the path and the parts of the query were
accepted, the placeholders are those of the path, and no name repeats. -/
theorem exists_of_parse {raw : String} {t : PathTemplate} (h : parse raw = .ok t) :
    ∃ query, checkBraces (withoutHash (parts raw).1) = .ok () ∧
      parseQuery (parts raw).2 = .ok query ∧
      t = ⟨raw, String.ofList (parts raw).1,
        (Path.placeholders (parts raw).1).map String.ofList, query⟩ ∧
      t.allPlaceholders.Nodup := by
  rw [parse_eq] at h
  simp only [bind_eq_ok] at h
  obtain ⟨_, hbraces, query, hquery, h⟩ := h
  split at h
  · cases h
  · rename_i hnone
    cases h
    exact ⟨query, hbraces, hquery, rfl, (firstRepeat?_eq_none_iff _).mp hnone⟩

/-- The path of a template has no question mark. -/
theorem not_mem_path_of_parse {raw : String} {t : PathTemplate} (h : parse raw = .ok t) :
    '?' ∉ t.path.toList := by
  obtain ⟨query, -, -, rfl, -⟩ := exists_of_parse h
  simpa using not_mem_parts_fst raw

/-- The placeholders of a template are those of its path, in order. -/
theorem placeholders_of_parse {raw : String} {t : PathTemplate} (h : parse raw = .ok t) :
    t.placeholders = (t.segments.filterMap Segment.name?).map String.ofList := by
  obtain ⟨query, -, -, rfl, -⟩ := exists_of_parse h
  simp [PathTemplate.segments, Path.placeholders]

/-- The placeholders of the path of a template are distinct. -/
theorem nodup_placeholders_of_parse {raw : String} {t : PathTemplate} (h : parse raw = .ok t) :
    t.placeholders.Nodup := by
  obtain ⟨query, -, -, -, hnodup⟩ := exists_of_parse h
  exact (List.nodup_append.mp hnodup).1

end PathTemplate

end Specloom.Path
