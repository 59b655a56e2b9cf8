import Mathlib.Data.List.TakeWhile
import PocketCalc.NumberFormat.Basic

/-!
# Which locales have a decimal comma

The language of a locale is what stands before its first `_` or `-`.  Eight languages, written with
letters of either case, have a decimal comma.  All other locales have a point, those included whose
language only begins like one of the eight.
-/

namespace PocketCalc.NumberFormat

/-- The language of the locale is one of those that have a decimal comma. -/
def WritesComma (locale : String) : Prop :=
  ∃ language others : List Char,
    locale.toList = language ++ others ∧
      ('_' ∉ language ∧ '-' ∉ language) ∧
      (others = [] ∨ others.head? = some '_' ∨ others.head? = some '-') ∧
      String.ofList (language.map Char.toLower) ∈ ["fr", "de", "es", "it", "pt", "ru", "nl", "pl"]

/-- Is the character part of the language, if it stands in front of every separator? -/
private def belongs (character : Char) : Bool :=
  character != '_' && character != '-'

private theorem takeWhile_others
    {others : List Char}
    (ends : others = [] ∨ others.head? = some '_' ∨ others.head? = some '-') :
    others.takeWhile belongs = [] := by
  rcases ends with rfl | underscore | hyphen
  · rfl
  · obtain ⟨region, rfl⟩ := List.head?_eq_some_iff.mp underscore
    rfl
  · obtain ⟨region, rfl⟩ := List.head?_eq_some_iff.mp hyphen
    rfl

/-- The listed languages are those that have a decimal comma. -/
theorem language_mem_commaLanguages_iff (format : NumberFormat) :
    format.language ∈ commaLanguages ↔ WritesComma format.locale := by
  constructor
  · intro known
    refine ⟨_, _, (List.takeWhile_append_dropWhile (p := belongs)).symm, ⟨?_, ?_⟩, ?_, known⟩
    · intro member
      exact absurd (List.mem_takeWhile_imp member) (by decide)
    · intro member
      exact absurd (List.mem_takeWhile_imp member) (by decide)
    · have stops := List.head?_dropWhile_not belongs format.locale.toList
      cases others : format.locale.toList.dropWhile belongs with
      | nil =>
          exact Or.inl rfl
      | cons separator region =>
          rw [others, List.head?_cons] at stops
          have separates : separator = '_' ∨ separator = '-' := by
            simpa [belongs, or_iff_not_imp_left] using stops
          rcases separates with rfl | rfl
          · exact Or.inr (Or.inl rfl)
          · exact Or.inr (Or.inr rfl)
  · rintro ⟨language, others, split, ⟨noUnderscore, noHyphen⟩, ends, known⟩
    have allBelong : ∀ character ∈ language, belongs character = true := by
      intro character member
      rw [belongs, Bool.and_eq_true, bne_iff_ne, bne_iff_ne]
      constructor
      · rintro rfl
        exact noUnderscore member
      · rintro rfl
        exact noHyphen member
    have cut : format.locale.toList.takeWhile belongs = language := by
      rw [split, List.takeWhile_append_of_pos allBelong, takeWhile_others ends, List.append_nil]
    rw [NumberFormat.language]
    change String.ofList ((format.locale.toList.takeWhile belongs).map Char.toLower) ∈ _
    rw [cut]
    exact known

instance (locale : String) : Decidable (WritesComma locale) :=
  decidable_of_iff _ (language_mem_commaLanguages_iff { locale := locale })

/-- The decimal mark is a comma if the locale asks for one, and a point otherwise. -/
theorem decimalMark_eq (format : NumberFormat) :
    format.decimalMark = if WritesComma format.locale then ',' else '.' := by
  simp only [decimalMark, language_mem_commaLanguages_iff]

example : WritesComma "Fr-CA" ∧ WritesComma "nl" ∧ ¬WritesComma "frr_DE" := by
  decide

end PocketCalc.NumberFormat
