import Specloom.Proofs.Text.Split
import Specloom.Proofs.Url.Percent

/-!
# Queries read back

A query made of encoded keys and values, with the separators between them, is read as those keys
and values: encoded texts hold no separator, so each cut is where a separator was written.

## Main definitions

* `writeQuery`: the query of some keys and values

## Main results

* `parseQuery_writeQuery`: reading undoes writing
-/

namespace Specloom

namespace Url

open Text

/-- A key and its value as a part of a query. -/
def writePart (part : String × String) : List Char :=
  encode part.1.toList ++ '=' :: encode part.2.toList

/-- Keys and values as a query. -/
def writeQuery (parts : List (String × String)) : List Char :=
  List.intercalate ['&'] (parts.map writePart)

theorem parsePart_writePart (part : String × String) : parsePart (writePart part) = part := by
  -- no equals sign is left in an encoded key, so the first one is the separator
  have hcut : splitFirst? '=' (writePart part) =
      some (encode part.1.toList, encode part.2.toList) :=
    splitFirst?_eq_some_iff.mpr ⟨rfl, not_mem_encode (by decide) _⟩
  rw [parsePart, hcut]
  simp only [Option.getD_some, decodeForm_encode, String.ofList_toList]

theorem not_mem_writePart {c : Char} (hc : isSafe c = false) (he : c ≠ '=')
    (part : String × String) : c ∉ writePart part := by
  simp [writePart, he, not_mem_encode hc]

/-- **Reading a query undoes writing it**, for every list of keys and values. -/
theorem parseQuery_writeQuery {parts : List (String × String)} (hne : parts ≠ []) :
    parseQuery (writeQuery parts) = parts := by
  have hsplit : splitOn '&' (writeQuery parts) = parts.map writePart := by
    refine splitOn_intercalate (by simpa using hne) fun piece hpiece => ?_
    obtain ⟨part, -, rfl⟩ := List.mem_map.mp hpiece
    exact not_mem_writePart (by decide) (by decide) part
  -- a part holds at least its equals sign, so none of them is dropped as empty
  have hkept : (parts.map writePart).filter (· ≠ []) = parts.map writePart := by
    refine List.filter_eq_self.mpr fun piece hpiece => ?_
    obtain ⟨part, -, rfl⟩ := List.mem_map.mp hpiece
    simp [writePart]
  rw [parseQuery, hsplit, hkept, List.map_map]
  exact (List.map_congr_left fun part _ => parsePart_writePart part).trans (List.map_id _)

end Url

end Specloom
