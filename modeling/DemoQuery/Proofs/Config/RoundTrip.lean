import DemoQuery.Config
import DemoQuery.Proofs.Toml.Lines

/-!
# Kept settings are read back

The text that is kept for some settings is read as these settings, whatever the paths in them
contain.
-/

namespace DemoQuery.Config

open Toml

/-- The lines of the text for some settings. -/
def textLines (c : Config) : List String :=
  pairLine "version" (Text.ofInteger version) ::
    (c.records.toList.map (fun path => pairLine "records" (quote path)) ++
      (c.demoDirectory.toList.map (fun path => pairLine "demo_dir" (quote path)) ++
        "\n" :: headerLine "output" ::
          c.colour.toList.map (fun on => pairLine "color" (booleanWord on))))

/-- The statements on these lines. -/
def statements (c : Config) : List (List Statement) :=
  [.pair ["version"] (.integer 1)] ::
    (c.records.toList.map (fun path => [.pair ["records"] (.string path)]) ++
      (c.demoDirectory.toList.map (fun path => [.pair ["demo_dir"] (.string path)]) ++
        [] :: [.header ["output"]] ::
          c.colour.toList.map (fun on => [.pair ["color"] (.boolean on)])))

lemma text_eq_join (c : Config) : c.text = String.join c.textLines := by
  rcases c with ⟨_ | records, _ | demoDirectory, _ | colour⟩ <;>
    simp [text, textLines, String.join, String.append_assoc]

/-- Lines for a setting are there if the setting is made. -/
lemma forall₂_toList {α : Type} {line : α → String} {here : α → List Statement}
    (h : ∀ a, IsLine (line a) (here a)) (setting : Option α) :
    List.Forall₂ IsLine (setting.toList.map line) (setting.toList.map here) := by
  rw [List.forall₂_map_left_iff, List.forall₂_map_right_iff, List.forall₂_same]
  exact fun a _ => h a

lemma isLine_textLines (c : Config) : List.Forall₂ IsLine c.textLines c.statements := by
  have hversion : IsScalar (Text.ofInteger version).toList (.integer 1) := isScalar_one
  refine .cons (isLine_pair (by decide) hversion) (List.rel_append ?_ (List.rel_append ?_ ?_))
  · exact forall₂_toList (fun path => isLine_pair (by decide) (isScalar_quote path)) _
  · exact forall₂_toList (fun path => isLine_pair (by decide) (isScalar_quote path)) _
  · refine .cons isLine_blank (.cons (isLine_header (by decide)) ?_)
    exact forall₂_toList (fun on => isLine_pair (by decide) (isScalar_booleanWord on)) _

/-- The text starts with the version, and so with no byte order mark. -/
lemma toml_parse?_text (c : Config) :
    Toml.parse? c.text = Entries.ofStatements? c.statements.flatten := by
  have hstatements := statements?_lines c.isLine_textLines
  rw [← text_eq_join] at hstatements
  have hmark : ∀ cs, c.text.toList ≠ '\ufeff' :: cs := by
    intro cs h
    simp [text, pairLine] at h
  rw [Toml.parse?]
  split
  · next h => exact absurd h (hmark _)
  · rw [hstatements]
    rfl

/-- The settings that have been written down are read. -/
theorem parse?_text (c : Config) : parse? c.text = some c := by
  rw [parse?, toml_parse?_text]
  rcases c with ⟨_ | records, _ | demoDirectory, _ | colour⟩ <;> rfl

end DemoQuery.Config
