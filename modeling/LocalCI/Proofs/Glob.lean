import LocalCI.Glob
import Mathlib.Computability.Language

/-! What branch patterns mean. A pattern stands for a set of texts, the product of what its pieces stand
for. The matcher keeps what may be left of a text after each piece, and after a star only the longest
candidate is looked at; it accepts exactly the texts of the set. -/
namespace LocalCI

namespace Glob

/-- The texts that a piece stands for. -/
def Piece.language : Piece → Language Char
  | .anything => ⊤
  | p => {text | ∃ c, p.fits c = true ∧ text = [c]}

def language (g : Glob) : Language Char := (g.map Piece.language).prod

theorem language_cons (p : Piece) (g : Glob) : language (p :: g) = p.language * language g := by
  rw [language, List.map_cons, List.prod_cons]
  rfl

section Matching

variable {p : Piece} {g : Glob} {rests : List (List Char)} {rest : List Char}

theorem suffixes_eq_tails (cs : List Char) : suffixes cs = cs.tails := by
  induction cs with
  | nil => rfl
  | cons c cs ih => rw [suffixes, ih, List.tails_cons]

/-- Each text ends with all that come after it. -/
def Nested (rests : List (List Char)) : Prop := rests.Pairwise fun long short => short <:+ long

theorem nested_suffixes (cs : List Char) : Nested (suffixes cs) := by
  induction cs with
  | nil => exact List.pairwise_singleton _ _
  | cons c cs ih =>
    refine List.pairwise_cons.mpr ⟨fun short member => ?_, ih⟩
    rw [suffixes_eq_tails, List.mem_tails] at member
    exact member.trans (List.suffix_cons c cs)

theorem Piece.eat?_eq_some {text : List Char} :
    p.eat? text = some rest ↔ ∃ c, p.fits c = true ∧ text = c :: rest := by
  cases text with
  | nil => simp [eat?]
  | cons d text =>
    by_cases fits : p.fits d = true
    · simp only [eat?, if_pos fits, Option.some.injEq, List.cons.injEq]
      constructor
      · intro same
        exact ⟨d, fits, rfl, same⟩
      · rintro ⟨_, _, _, same⟩
        exact same
    · simp only [eat?, if_neg fits, List.cons.injEq]
      constructor
      · nofun
      · rintro ⟨c, other, rfl, _⟩
        exact absurd other fits

/-- Two texts that both lose a character stay one the end of the other. -/
theorem Piece.suffix_of_eat? {long short left right : List Char} (nested : short <:+ long)
    (first : p.eat? long = some left) (second : p.eat? short = some right) : right <:+ left := by
  obtain ⟨c, _, rfl⟩ := eat?_eq_some.mp first
  obtain ⟨d, _, rfl⟩ := eat?_eq_some.mp second
  rcases List.suffix_cons_iff.mp nested with same | inside
  · exact (List.cons.inj same).2 ▸ List.suffix_refl _
  · exact (List.suffix_cons d right).trans inside

theorem Nested.step (nested : Nested rests) (p : Piece) : Nested (Piece.step rests p) := by
  have eaten : Nested (rests.filterMap p.eat?) := by
    refine List.Pairwise.filterMap p.eat? ?_ nested
    intro long short inside left first right second
    exact p.suffix_of_eat? inside first second
  cases p with
  | anything =>
    cases rests with
    | nil => exact List.Pairwise.nil
    | cons longest others => exact nested_suffixes longest
  | oneOf | one | char => exact eaten

/-- One piece takes off the front of a candidate what the piece stands for. -/
theorem mem_step (nested : Nested rests) :
    rest ∈ Piece.step rests p ↔ ∃ text ∈ rests, ∃ front ∈ p.language, front ++ rest = text := by
  have eaten : rest ∈ rests.filterMap p.eat? ↔
      ∃ text ∈ rests, ∃ front, (∃ c, p.fits c = true ∧ front = [c]) ∧ front ++ rest = text := by
    simp only [List.mem_filterMap, Piece.eat?_eq_some]
    constructor
    · rintro ⟨text, member, c, fits, rfl⟩
      exact ⟨_, member, [c], ⟨c, fits, rfl⟩, rfl⟩
    · rintro ⟨text, member, front, ⟨c, fits, rfl⟩, rfl⟩
      exact ⟨_, member, c, fits, rfl⟩
  cases p with
  | anything =>
    cases rests with
    | nil => simp [Piece.step]
    | cons longest others =>
      have shorter := (List.pairwise_cons.mp nested).1
      have longest_mem : longest ∈ longest :: others := List.mem_cons_self
      change rest ∈ suffixes longest ↔ _
      rw [suffixes_eq_tails, List.mem_tails]
      constructor
      · rintro ⟨front, rfl⟩
        exact ⟨_, longest_mem, front, trivial, rfl⟩
      · rintro ⟨text, member, front, _, rfl⟩
        -- What is left of a shorter candidate is also left of the longest one.
        rcases List.mem_cons.mp member with rfl | later
        · exact List.suffix_append front rest
        · exact (List.suffix_append front rest).trans (shorter _ later)
  | oneOf | one | char => exact eaten

/-- All the pieces take off what the pattern stands for. -/
theorem mem_foldl_step (nested : Nested rests) :
    rest ∈ g.foldl Piece.step rests ↔
      ∃ text ∈ rests, ∃ front ∈ language g, front ++ rest = text := by
  induction g generalizing rests with
  | nil => simp [language, Language.mem_one]
  | cons p g ih =>
    rw [List.foldl_cons, ih (nested.step p)]
    constructor
    · rintro ⟨middle, candidate, back, mem_back, rfl⟩
      obtain ⟨text, member, front, mem_front, rfl⟩ := (mem_step nested).mp candidate
      refine ⟨_, member, front ++ back, ?_, List.append_assoc front back rest⟩
      rw [language_cons]
      exact Language.append_mem_mul mem_front mem_back
    · rintro ⟨text, member, whole, mem_whole, rfl⟩
      rw [language_cons] at mem_whole
      obtain ⟨front, mem_front, back, mem_back, rfl⟩ := Language.mem_mul.mp mem_whole
      refine ⟨back ++ rest, (mem_step nested).mpr ?_, back, mem_back, rfl⟩
      exact ⟨_, member, front, mem_front, (List.append_assoc front back rest).symm⟩

theorem accepts_iff_mem_language {cs : List Char} : accepts g cs = true ↔ cs ∈ language g := by
  rw [accepts, List.contains_iff_mem, mem_foldl_step (List.pairwise_singleton _ cs)]
  simp

end Matching

section Patterns

/-- The texts of one character. -/
def oneCharacter : Language Char := {text | text.length = 1}

/-- The texts that a character of a pattern without brackets stands for. -/
def symbolLanguage (c : Char) : Language Char :=
  if c = '*' then ⊤
  else if c = '?' then oneCharacter
  else {[c]}

/-- The texts that a pattern without brackets stands for. -/
def patternLanguage (pattern : List Char) : Language Char := (pattern.map symbolLanguage).prod

theorem patternLanguage_cons (c : Char) (pattern : List Char) :
    patternLanguage (c :: pattern) = symbolLanguage c * patternLanguage pattern := by
  rw [patternLanguage, List.map_cons, List.prod_cons]
  rfl

/-- A star after a star stands for nothing more. -/
theorem top_mul_top : (⊤ : Language Char) * ⊤ = ⊤ := by
  apply top_unique
  intro text _
  exact Language.mem_mul.mpr ⟨[], trivial, text, trivial, rfl⟩

theorem language_addStar (g : Glob) : language (addStar g) = ⊤ * language g := by
  unfold addStar
  split
  next g =>
    have inner : language (.anything :: g) = ⊤ * language g := language_cons _ _
    rw [inner, ← mul_assoc, top_mul_top]
  next => exact language_cons _ _

theorem language_one : Piece.one.language = oneCharacter := by
  ext text
  constructor
  · rintro ⟨c, _, rfl⟩
    rfl
  · intro single
    obtain ⟨c, rfl⟩ := List.length_eq_one_iff.mp single
    exact ⟨c, rfl, rfl⟩

theorem language_char (c : Char) : (Piece.char c).language = {[c]} := by
  ext text
  constructor
  · rintro ⟨d, fits, rfl⟩
    have same : c = d := by simpa [Piece.fits] using fits
    exact congrArg (fun e => [e]) same.symm
  · rintro rfl
    exact ⟨c, by simp [Piece.fits], rfl⟩

/-- Without brackets every character is read on its own. -/
theorem language_ofCharsFrom {pattern : List Char} (plain : '[' ∉ pattern) :
    language (ofCharsFrom 0 pattern) = patternLanguage pattern := by
  induction pattern with
  | nil => rfl
  | cons c pattern ih =>
    obtain ⟨other, plain⟩ := List.ne_and_not_mem_of_not_mem_cons plain
    have read := ih plain
    rw [patternLanguage_cons, ← read, symbolLanguage, ofCharsFrom]
    by_cases star : c = '*'
    · rw [if_pos star, if_pos star, language_addStar]
    · rw [if_neg star, if_neg star]
      by_cases mark : c = '?'
      · rw [if_pos mark, if_pos mark, language_cons, language_one]
      · rw [if_neg mark, if_neg mark, if_neg (Ne.symm other), language_cons, language_char]

/-- Characters that are neither stars nor question marks stand for themselves. -/
theorem patternLanguage_of_literal {pattern : List Char} (starless : '*' ∉ pattern)
    (unmarked : '?' ∉ pattern) : patternLanguage pattern = {pattern} := by
  induction pattern with
  | nil => rfl
  | cons c pattern ih =>
    obtain ⟨noStar, starless⟩ := List.ne_and_not_mem_of_not_mem_cons starless
    obtain ⟨noMark, unmarked⟩ := List.ne_and_not_mem_of_not_mem_cons unmarked
    have itself : symbolLanguage c = {[c]} := by
      rw [symbolLanguage, if_neg (Ne.symm noStar), if_neg (Ne.symm noMark)]
    rw [patternLanguage_cons, ih starless unmarked, itself]
    ext text
    rw [Language.mem_mul]
    constructor
    · rintro ⟨_, rfl, _, rfl, rfl⟩
      rfl
    · rintro rfl
      exact ⟨[c], rfl, pattern, rfl, rfl⟩

end Patterns
end Glob

open Glob

theorem globMatches_iff {pattern : String} (plain : '[' ∉ pattern.toList) (text : String) :
    globMatches pattern text = true ↔ text.toList ∈ patternLanguage pattern.toList := by
  rw [globMatches, ofString, accepts_iff_mem_language, language_ofCharsFrom plain]

end LocalCI
