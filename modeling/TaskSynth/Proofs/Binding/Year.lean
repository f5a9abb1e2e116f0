import TaskSynth.Binding.Support
import TaskSynth.Binding.Synthesis
import TaskSynth.Proofs.Text.Replacement

/-! The year in a licence text. Every placeholder gives way to the year and the rest of the text
stays. A year that neither holds a space nor starts like the placeholder goes on leaves no
placeholder behind, also none that the year and the text around it make up together. -/
namespace TaskSynth.Binding

theorem synthesize_congr {header header' : LicenseHeader} (same : header.text = header'.text)
    (p : Package) : synthesize p header = synthesize p header' := by
  simp only [synthesize, Index.source, same]

theorem supportFiles_congr {header header' : LicenseHeader} (same : header.text = header'.text)
    (packageName : String) :
    supportFiles packageName header = supportFiles packageName header' := by
  simp only [supportFiles, same]

namespace LicenseHeader

def placeholder : String := " YEAR"

/-- What comes of a text whose placeholders stand between the given pieces. These cut it at every
occurrence, no two of which overlap, and the year is put where they were. No placeholder is left, so
a second replacement has nothing to do, and a result that is blank is as good as no header. -/
structure Dates (text year : String) (pieces : List (List Char)) : Prop where
  cuts : Text.CutsAt placeholder.toList text.toList pieces
  only : ∀ {others}, Text.CutsAt placeholder.toList text.toList others → others = pieces
  occurrence_iff : ∀ {before after}, text.toList = before ++ (placeholder.toList ++ after) ↔
    ∃ front back, front ≠ [] ∧ back ≠ [] ∧ pieces = front ++ back ∧
      before = placeholder.toList.intercalate front ∧ after = placeholder.toList.intercalate back
  apart : ∀ {before after before' after'}, text.toList = before ++ (placeholder.toList ++ after) →
    text.toList = before' ++ (placeholder.toList ++ after') → before.length < before'.length →
    before.length + placeholder.length ≤ before'.length
  put : (ofText text year).content.toList = (" " ++ year).toList.intercalate pieces
  gone : ¬ placeholder.toList <:+: (ofText text year).content.toList
  again : ∀ other, ofText (ofText text year).content other = ofText text year
  again_shown : ∀ other, ofText (ofText text year).text other = ⟨(ofText text year).text⟩
  blank : (∀ c ∈ (ofText text year).content.toList, Text.isBlank c) →
    (∀ p, synthesize p (ofText text year) = synthesize p none) ∧
      ∀ packageName, supportFiles packageName (ofText text year) = supportFiles packageName none

theorem toList_placeholder : placeholder.toList = ' ' :: 'Y' :: ['E', 'A', 'R'] := rfl

theorem toList_content_ofText (text year : String) : (ofText text year).content.toList =
    Text.replaceAll placeholder.toList (" " ++ year).toList text.toList :=
  String.toList_ofList

theorem ofText_of_not_infix {text : String} (plain : ¬ placeholder.toList <:+: text.toList)
    (year : String) : ofText text year = ⟨text⟩ := by
  have content : (ofText text year).content = text := by
    rw [← String.toList_inj, toList_content_ofText]
    exact Text.replaceAll_of_not_infix (by decide) plain
  exact congrArg LicenseHeader.mk content

theorem text_of_blank {header : LicenseHeader}
    (blank : ∀ c ∈ header.content.toList, Text.isBlank c) : header.text = none.text := by
  have empty : header.isEmpty := List.all_eq_true.mpr blank
  rw [text, if_pos empty]
  rfl

theorem not_infix_text {header : LicenseHeader}
    (plain : ¬ placeholder.toList <:+: header.content.toList) :
    ¬ placeholder.toList <:+: header.text.toList := by
  rw [text]
  split
  · decide
  · exact plain

theorem not_infix_intercalate_year {year : String} (filled : year ≠ "") (clear : ' ' ∉ year.toList)
    (other : year.toList.head? ≠ some 'Y') {pieces : List (List Char)}
    (plain : ∀ p ∈ pieces, ¬ placeholder.toList <:+: p) :
    ¬ placeholder.toList <:+: (" " ++ year).toList.intercalate pieces := by
  obtain ⟨d, rest, chars⟩ := List.exists_cons_of_ne_nil (mt String.toList_eq_nil_iff.mp filled)
  rw [chars] at clear other
  have image : (" " ++ year).toList = ' ' :: d :: rest := by
    rw [String.toList_append, chars]
    rfl
  rw [image, toList_placeholder]
  exact Text.not_infix_intercalate (by decide) clear (by simpa using other) plain

theorem ofText_dates (text year : String) (filled : year ≠ "") (clear : ' ' ∉ year.toList)
    (other : year.toList.head? ≠ some 'Y') : ∃ pieces, Dates text year pieces := by
  have once : ' ' ∉ 'Y' :: ['E', 'A', 'R'] := by decide
  obtain ⟨pieces, cuts, replaced⟩ := Text.exists_cutsAt ' ' ('Y' :: ['E', 'A', 'R']) text.toList
  have put : (ofText text year).content.toList = (" " ++ year).toList.intercalate pieces := by
    rw [toList_content_ofText]
    exact replaced _
  have gone : ¬ placeholder.toList <:+: (ofText text year).content.toList := by
    rw [put]
    exact not_infix_intercalate_year filled clear other cuts.plain
  refine ⟨pieces, {
    cuts := cuts
    only := fun others => others.unique once cuts
    occurrence_iff := cuts.occurrence_iff once
    apart := ?_
    put := put
    gone := gone
    again := ofText_of_not_infix gone
    again_shown := ofText_of_not_infix (not_infix_text gone)
    blank := fun blank => ⟨synthesize_congr (text_of_blank blank),
      supportFiles_congr (text_of_blank blank)⟩ }⟩
  intro before after before' after' first second earlier
  obtain ⟨between, rfl, _⟩ := Text.occurrences_apart once (first.symm.trans second) earlier
  rw [← String.length_toList, toList_placeholder, List.length_append, List.length_append]
  omega

theorem dates_of_dashed_year :
    Dates "Copyright YEAR, Y YEAR YEARLY" "-YEAR"
      ["Copyright".toList, ", Y".toList, [], "LY".toList] ∧
    supportFiles "tekton" (ofText "\n YEAR" "\t") = supportFiles "tekton" none := by
  constructor
  · obtain ⟨pieces, dates⟩ := ofText_dates "Copyright YEAR, Y YEAR YEARLY" "-YEAR" (by decide)
      (by decide) (by decide)
    have cuts : Text.CutsAt placeholder.toList "Copyright YEAR, Y YEAR YEARLY".toList
        ["Copyright".toList, ", Y".toList, [], "LY".toList] :=
      ⟨by decide, by decide +kernel, by decide⟩
    obtain rfl := dates.only cuts
    exact dates
  · obtain ⟨pieces, dates⟩ := ofText_dates "\n YEAR" "\t" (by decide) (by decide) (by decide)
    exact (dates.blank (List.all_eq_true.mp (by decide))).2 "tekton"

/- A year that starts like the rest of the placeholder would make one up with the text behind it. -/
example : (ofText "(c) YEAREAR" "Y").content = "(c) YEAR" := by decide

end LicenseHeader

end TaskSynth.Binding
