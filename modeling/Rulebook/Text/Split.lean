/-!
Taking a text apart at the first occurrence of another.
-/

namespace Rulebook.Text

-- What stands before and behind the first occurrence of the separator.
def splitAt? (separator : List Char) : List Char → Option (List Char × List Char)
  | [] => if separator.isEmpty then some ([], []) else none
  | c :: cs =>
    if separator.isPrefixOf (c :: cs) then some ([], (c :: cs).drop separator.length)
    else (splitAt? separator cs).map fun (front, rest) => (c :: front, rest)

theorem eq_of_splitAt? {separator cs front rest : List Char}
    (h : splitAt? separator cs = some (front, rest)) : front ++ separator ++ rest = cs := by
  induction cs generalizing front with
  | nil =>
    simp only [splitAt?] at h
    split at h
    · cases h; simp_all
    · simp at h
  | cons c cs ih =>
    simp only [splitAt?] at h
    split at h
    · rename_i hp
      cases h
      obtain ⟨t, ht⟩ := List.isPrefixOf_iff_prefix.1 hp
      simp [← ht]
    · obtain ⟨⟨front', rest'⟩, h', e⟩ := Option.map_eq_some_iff.1 h
      cases e
      simpa using ih h'

end Rulebook.Text
