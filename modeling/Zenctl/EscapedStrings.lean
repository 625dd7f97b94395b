import Zenctl.Output
import Zenctl.JsonStrings

namespace Zenctl

open CString Json

/-!
# Escaped strings

The text `out_json_escape` prints for a string, read back by the rules of the
JSON grammar.
-/

/-- The two digits of a control character spell its code. -/
theorem hexUnit_control
    {c : Char} (control : c.toNat < 32) :
    hexUnit '0' '0' (hexDigit (c.toNat / 16 % 16)) (hexDigit (c.toNat % 16)) =
      some c.toNat := by
  have digits : ∀ n < 32,
      hexUnit '0' '0' (hexDigit (n / 16 % 16)) (hexDigit (n % 16)) = some n := by
    decide
  exact digits _ control

/-- An escaped character is read as one piece, which stands for the character. -/
theorem escapeChar_piece
    (c : Char) :
    ∃ piece,
      (∀ {rest read}, pieces rest = some read →
        pieces (escapeChar c ++ rest) = some (piece :: read)) ∧
      ∀ {read s}, bytes read = some s → bytes (piece :: read) = some (c :: s) := by
  have char : ∀ {read s}, bytes read = some s → bytes (.char c :: read) = some (c :: s) := by
    intro read s answer
    rw [bytes, answer]
    rfl
  have short : ∀ e, escapeValue e = some c → e ≠ 'u' → ∀ {rest read},
      pieces rest = some read → pieces ('\\' :: e :: rest) = some (.char c :: read) := by
    intro e value notUnit rest read answer
    rw [pieces, value, answer]
    · rfl
    · rintro _ _ _ _ _ rfl
      exact (notUnit rfl).elim
  unfold escapeChar
  split_ifs with quote backslash backspace formFeed newline return' tab control
  · exact ⟨.char c, short '"' (by rw [quote]; rfl) (by decide), char⟩
  · exact ⟨.char c, short '\\' (by rw [backslash]; rfl) (by decide), char⟩
  · exact ⟨.char c, short 'b' (by rw [backspace]; rfl) (by decide), char⟩
  · exact ⟨.char c, short 'f' (by rw [formFeed]; rfl) (by decide), char⟩
  · exact ⟨.char c, short 'n' (by rw [newline]; rfl) (by decide), char⟩
  · exact ⟨.char c, short 'r' (by rw [return']; rfl) (by decide), char⟩
  · exact ⟨.char c, short 't' (by rw [tab]; rfl) (by decide), char⟩
  · refine ⟨.unit c.toNat, ?_, ?_⟩
    · intro rest read answer
      exact pieces_unit (hexUnit_control control) answer
    · intro read s answer
      have oneByte : utf8 c.toNat = [c] := by
        rw [utf8, if_pos (by omega), Char.ofNat_toNat]
      rw [bytes_unit (by omega) answer, oneByte]
      rfl
  · refine ⟨.char c, ?_, char⟩
    intro rest read answer
    have plain : isPlain c = true := by
      simp only [isPlain, Bool.and_eq_true, decide_eq_true_eq]
      exact ⟨⟨by omega, quote⟩, backslash⟩
    rw [List.singleton_append, pieces, if_pos plain, answer]
    · rfl
    · exact quote
    · rintro _ _ _ _ _ rfl
      exact (backslash rfl).elim
    · rintro _ _ rfl
      exact (backslash rfl).elim

theorem decodeString_outJsonEscape
    (s : CStr) :
    decodeString (outJsonEscape s) = some s := by
  have body : ∃ read, pieces (s.flatMap escapeChar ++ ['"']) = some read ∧
      bytes read = some s := by
    induction s with
    | nil => exact ⟨[], rfl, rfl⟩
    | cons c rest inductionHypothesis =>
        obtain ⟨read, answer, text⟩ := inductionHypothesis
        obtain ⟨piece, reads, means⟩ := escapeChar_piece c
        refine ⟨piece :: read, ?_, means text⟩
        rw [List.flatMap_cons, List.append_assoc]
        exact reads answer
  obtain ⟨read, answer, text⟩ := body
  simp only [decodeString, outJsonEscape, answer]
  exact text

/--
The printed text is a string literal that stands for the string.  Nothing in it
is a raw control character, every quote between the two outer ones stands
behind its backslash, and different strings have different texts.
-/
theorem outJsonEscape_literal :
    (∀ s : CStr, decodeString (outJsonEscape s) = some s ∧
      (∃ body, outJsonEscape s = quoted body ∧ StringBody body) ∧
      ∀ c ∈ outJsonEscape s, 32 ≤ c.toNat) ∧
    ∀ s t : CStr, s ≠ t → outJsonEscape s ≠ outJsonEscape t := by
  constructor
  · intro s
    have decoded := decodeString_outJsonEscape s
    obtain ⟨body, text, derived⟩ := quoted_of_decodeString decoded
    refine ⟨decoded, ⟨body, text, derived⟩, ?_⟩
    rw [text]
    simp only [quoted, List.forall_mem_cons, List.forall_mem_append]
    exact ⟨by decide, derived.printable, by decide, by simp⟩
  · intro s t different same
    have decoded := decodeString_outJsonEscape s
    rw [same, decodeString_outJsonEscape t] at decoded
    exact different (Option.some.inj decoded).symm

end Zenctl
