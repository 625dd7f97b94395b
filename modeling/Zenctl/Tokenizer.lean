import Mathlib.Data.List.Basic
import Mathlib.Data.List.TakeWhile

namespace Tokenizer

/-!
# Words between separators

The words of a text are its longest non-empty parts without a separator, in
order: what repeated calls of `strtok` deliver.
-/

variable {α : Type*} (sep : α → Bool)

def words (text : List α) : List (List α) :=
  (text.splitOnP sep).filter fun part => !part.isEmpty

variable {sep}

@[simp] theorem words_nil : words sep [] = [] := by
  simp [words, List.splitOnP_nil]

theorem words_append_sep
    {c : α} (separates : sep c = true) (before after : List α) :
    words sep (before ++ c :: after) = words sep before ++ words sep after := by
  unfold words
  rw [List.splitOnP_append_cons before after separates, List.filter_append]

/-- A separator in front belongs to no word. -/
theorem words_cons_sep
    {c : α} (separates : sep c = true) (text : List α) :
    words sep (c :: text) = words sep text := by
  have split := words_append_sep separates [] text
  rwa [words_nil] at split

/-- Nor does any number of them. -/
theorem words_gap
    {gap : List α} (separates : ∀ c ∈ gap, sep c = true) (text : List α) :
    words sep (gap ++ text) = words sep text := by
  induction gap with
  | nil =>
      rfl
  | cons c gap inductionHypothesis =>
      rw [List.cons_append, words_cons_sep (separates c List.mem_cons_self)]
      exact inductionHypothesis fun d member => separates d (List.mem_cons_of_mem c member)

/-- Nor do separators at the end. -/
theorem words_append_gap
    {gap : List α} (separates : ∀ c ∈ gap, sep c = true) (text : List α) :
    words sep (text ++ gap) = words sep text := by
  cases gap with
  | nil =>
      rw [List.append_nil]
  | cons c gap =>
      have empty := words_gap (fun d member => separates d (List.mem_cons_of_mem c member)) []
      rw [List.append_nil, words_nil] at empty
      rw [words_append_sep (separates c List.mem_cons_self), empty, List.append_nil]

theorem words_single
    {word : List α} (nonempty : word ≠ []) (plain : ∀ c ∈ word, sep c = false) :
    words sep word = [word] := by
  unfold words
  rw [List.splitOnP_eq_singleton plain]
  simp [nonempty]

/-- The first word goes on to the next separator. -/
theorem words_head
    {word : List α} (nonempty : word ≠ []) (plain : ∀ c ∈ word, sep c = false) (text : List α) :
    words sep (word ++ text) =
      (word ++ text.takeWhile (!sep ·)) :: words sep (text.dropWhile (!sep ·)) := by
  induction text generalizing word with
  | nil =>
      simp [words_single nonempty plain]
  | cons c text inductionHypothesis =>
      by_cases separates : sep c = true
      · rw [words_append_sep separates, words_single nonempty plain,
          List.takeWhile_cons_of_neg (by simp [separates]),
          List.dropWhile_cons_of_neg (by simp [separates]), words_cons_sep separates]
        simp
      · have longer : ∀ d ∈ word ++ [c], sep d = false := by
          intro d member
          rcases List.mem_append.mp member with inside | last
          · exact plain d inside
          · rw [List.mem_singleton.mp last]
            exact Bool.eq_false_iff.mpr separates
        have moved := inductionHypothesis (by simp) longer
        rw [List.append_assoc] at moved
        rw [List.takeWhile_cons_of_pos (by simp [separates]),
          List.dropWhile_cons_of_pos (by simp [separates])]
        simpa using moved

/-- A word in front of a separator, or at the end. -/
theorem words_word
    {word : List α} (nonempty : word ≠ []) (plain : ∀ c ∈ word, sep c = false)
    {text : List α} (ends : ∀ c ∈ text.head?, sep c = true) :
    words sep (word ++ text) = word :: words sep text := by
  rw [words_head nonempty plain]
  cases text with
  | nil => simp
  | cons c text =>
      have separates : sep c = true := ends c rfl
      rw [List.takeWhile_cons_of_neg (by simp [separates]),
        List.dropWhile_cons_of_neg (by simp [separates]), List.append_nil]

/-- A text cut short has no more words. -/
theorem words_length_le (text rest : List α) :
    (words sep text).length ≤ (words sep (text ++ rest)).length := by
  have grows : ∀ word : List α, (∀ c ∈ word, sep c = false) →
      (words sep (word ++ text)).length ≤ (words sep (word ++ (text ++ rest))).length := by
    induction text with
    | nil =>
        intro word plain
        by_cases empty : word = []
        · simp [empty]
        · rw [List.append_nil, List.nil_append, words_single empty plain, words_head empty plain]
          simp
    | cons c text inductionHypothesis =>
        intro word plain
        by_cases separates : sep c = true
        · rw [List.cons_append, words_append_sep separates, words_append_sep separates,
            List.length_append, List.length_append]
          exact Nat.add_le_add_left (inductionHypothesis [] nofun) _
        · have longer : ∀ d ∈ word ++ [c], sep d = false := by
            intro d member
            rcases List.mem_append.mp member with inside | last
            · exact plain d inside
            · rw [List.mem_singleton.mp last]
              exact Bool.eq_false_iff.mpr separates
          have moved := inductionHypothesis (word ++ [c]) longer
          simpa using moved
  exact grows [] nofun

end Tokenizer
