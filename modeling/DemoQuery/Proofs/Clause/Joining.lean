import DemoQuery.Proofs.Clause.Complete
import DemoQuery.Proofs.Query.Conjunction

/-!
# Joining filters

Two filters with a comma between them are read as the clauses of the first and the clauses of the
second, provided that the first does not itself end in a comma. Nothing in the second filter, well
formed or not, changes how the first is read: the comma between them completes the clauses of the
first.
-/

namespace DemoQuery

open Text Grammar

variable {cs ds : List Char} {l : List Clause}

/-- A text that ends in no comma is read as it was if a comma and any other text follow. -/
lemma readClauses_append_comma {c : Char} (h : readClauses cs = .ok l)
    (hlast : lastNonBlank? cs = some c) (hc : c ≠ ',') :
    readClauses (cs ++ ',' :: ds) = (readClauses ds).map (l ++ ·) := by
  obtain ⟨hw, hs⟩ := readClauses_eq_ok_iff.1 h
  rw [lastNonBlank?_append, lastNonBlank?_blanks hw, Option.or_none] at hlast
  simpa using readClauses_complete_append (hs.complete_comma hw hlast hc)

/-- A filter that ends in no comma and any text behind a comma: the clauses of both, or what is
wrong with the second. Their query, if both have one, is the conjunction of the two. -/
theorem Query.parse_append_comma {a : String} {xs : List Clause} {c : Char}
    (ha : Clause.parse a = .ok xs) (hlast : lastNonBlank? a.toList = some c) (hc : c ≠ ',')
    (b : String) :
    Clause.parse (a ++ "," ++ b) = (Clause.parse b).map (xs ++ ·) ∧
      ∀ p q, Query.parse a = .ok p → Query.parse b = .ok q →
        Query.parse (a ++ "," ++ b) = .ok (p.and q) ∧
          ∀ r, (p.and q).matches r ↔ p.matches r ∧ q.matches r := by
  have hjoin : Clause.parse (a ++ "," ++ b) = (Clause.parse b).map (xs ++ ·) := by
    have htext : (a ++ "," ++ b).toList = a.toList ++ ',' :: b.toList := by simp
    rw [Clause.parse, htext]
    exact readClauses_append_comma ha hlast hc
  refine ⟨hjoin, fun p q hp hq => ⟨?_, fun r => by rw [matches_and, Bool.and_eq_true]⟩⟩
  obtain ⟨xs', ha', hxs⟩ := bind_eq_ok_iff.1 hp
  obtain ⟨ys, hb, hys⟩ := bind_eq_ok_iff.1 hq
  obtain rfl := Except.ok.inj (ha.symm.trans ha')
  rw [hb] at hjoin
  exact bind_eq_ok_iff.2 ⟨xs ++ ys, hjoin, ofClauses_append hxs hys⟩

/-- A tuple with commas inside and behind its values, and a range without an upper bound: neither
goes on behind the comma, where a clause can follow or something that is none. -/
theorem Query.parse_append_comma_tuple_range :
    Clause.parse "name:('x,',\"y\" ,) ,bookmarks: 1.. ,2" = .error (.expectedKey "2") ∧
      ∃ p q, Query.parse "name:('x,',\"y\" ,) ,bookmarks: 1.. " = .ok p ∧
        Query.parse "!map:z" = .ok q ∧
        Query.parse "name:('x,',\"y\" ,) ,bookmarks: 1.. ,!map:z" = .ok (p.and q) := by
  have ha : Clause.parse "name:('x,',\"y\" ,) ,bookmarks: 1.. " =
      .ok [⟨"name", false, .list ["x,", "y"]⟩, ⟨"bookmarks", false, .range (some "1") none⟩] := by
    decide +kernel
  have hlast : lastNonBlank? "name:('x,',\"y\" ,) ,bookmarks: 1.. ".toList = some '.' := by
    decide +kernel
  have hjoin := Query.parse_append_comma ha hlast (by decide)
  obtain ⟨p, hp⟩ : ∃ p, Query.parse "name:('x,',\"y\" ,) ,bookmarks: 1.. " = .ok p :=
    exists_ok_of_isOk (by decide +kernel)
  obtain ⟨q, hq⟩ : ∃ q, Query.parse "!map:z" = .ok q := exists_ok_of_isOk (by decide +kernel)
  have hb : Clause.parse "2" = .error (.expectedKey "2") := by decide +kernel
  refine ⟨(hjoin "2").1.trans ?_, p, q, hp, hq, ((hjoin "!map:z").2 p q hp hq).1⟩
  rw [hb]
  rfl

end DemoQuery
