import LocalCI.Text.Search
import Mathlib.Data.List.Infix

/-! Looking for one text inside another as list infixes, and what replacing leaves behind: the parts
between the occurrences are joined anew, and a text that shares no character with its replacement does
not occur in the result, neither whole nor put together across the edge of a replacement. -/
namespace LocalCI.Text

variable {old new : List Char}

theorem occursIn_iff_infix (needle text : List Char) :
    occursIn needle text = true ↔ needle <:+: text := by
  induction text with
  | nil => simp [occursIn]
  | cons c rest ih =>
    simp only [occursIn, Bool.or_eq_true, List.isPrefixOf_iff_prefix, ih, List.infix_cons_iff]

theorem contains_iff_infix (s needle : String) :
    contains s needle = true ↔ needle.toList <:+: s.toList :=
  occursIn_iff_infix _ _

/-- What the result starts with and no replacement can have put there was there before. -/
theorem prefix_of_prefix_replaceFrom {start text : List Char} (filled : new ≠ [])
    (foreign : ∀ c ∈ start, c ∉ new) (begins : start <+: replaceFrom old new 0 text) :
    start <+: text := by
  induction text generalizing start with
  | nil => simpa [replaceFrom] using begins
  | cons c rest ih =>
    cases start with
    | nil => exact List.nil_prefix
    | cons first more =>
      simp only [replaceFrom] at begins
      split at begins
      · obtain ⟨d, others, rfl⟩ := List.exists_cons_of_ne_nil filled
        obtain ⟨rfl, _⟩ := List.cons_prefix_cons.mp begins
        exact absurd List.mem_cons_self (foreign first List.mem_cons_self)
      · obtain ⟨rfl, following⟩ := List.cons_prefix_cons.mp begins
        have before := ih (fun c member => foreign c (List.mem_cons_of_mem _ member)) following
        exact List.cons_prefix_cons.mpr ⟨rfl, before⟩

theorem infix_of_infix_append {needle before after : List Char} (filled : needle ≠ [])
    (foreign : ∀ c ∈ needle, c ∉ before) (occurs : needle <:+: before ++ after) :
    needle <:+: after := by
  induction before with
  | nil => exact occurs
  | cons c rest ih =>
    rcases List.infix_cons_iff.mp occurs with here | later
    · obtain ⟨first, more, rfl⟩ := List.exists_cons_of_ne_nil filled
      obtain ⟨rfl, _⟩ := List.cons_prefix_cons.mp here
      exact absurd List.mem_cons_self (foreign first List.mem_cons_self)
    · exact ih (fun d member inRest => foreign d member (List.mem_cons_of_mem _ inRest)) later

/-- Replacing is complete, however much of the last match is still to be passed. -/
theorem not_infix_replaceFrom (sought : old ≠ []) (filled : new ≠ []) (foreign : ∀ c ∈ old, c ∉ new)
    (skip : Nat) (text : List Char) : ¬ old <:+: replaceFrom old new skip text := by
  induction text generalizing skip with
  | nil => cases skip <;> simpa [replaceFrom] using sought
  | cons c rest ih =>
    cases skip with
    | succ skip => exact ih skip
    | zero =>
      simp only [replaceFrom]
      split
      next => exact fun occurs => ih _ (infix_of_infix_append sought foreign occurs)
      next unmatched =>
        intro occurs
        rcases List.infix_cons_iff.mp occurs with here | later
        · -- An occurrence in front was one before: the match would have been replaced.
          obtain ⟨first, more, rfl⟩ := List.exists_cons_of_ne_nil sought
          obtain ⟨rfl, following⟩ := List.cons_prefix_cons.mp here
          have before := prefix_of_prefix_replaceFrom filled
            (fun d member => foreign d (List.mem_cons_of_mem _ member)) following
          exact unmatched (List.isPrefixOf_iff_prefix.mpr (List.cons_prefix_cons.mpr ⟨rfl, before⟩))
        · exact ih 0 later

theorem contains_replaceAll {old new : String} (sought : old ≠ "") (filled : new ≠ "")
    (foreign : ∀ c ∈ old.toList, c ∉ new.toList) (s : String) :
    contains (replaceAll old new s) old = false := by
  rw [Bool.eq_false_iff, Ne, contains_iff_infix, replaceAll, String.toList_ofList]
  exact not_infix_replaceFrom (by simpa using sought) (by simpa using filled) foreign 0 s.toList

theorem prefix_intercalate (sep part : List Char) (parts : List (List Char)) :
    part <+: sep.intercalate (part :: parts) := by
  cases parts with
  | nil => simp
  | cons next others =>
    rw [List.intercalate_cons_cons, List.append_assoc]
    exact List.prefix_append _ _

/-- Replacing cuts the text at occurrences of what is replaced and joins the parts anew; no part has an
occurrence left in it. -/
theorem exists_parts_replaceFrom (sought : old ≠ []) (new : List Char) (skip : Nat)
    (text : List Char) :
    ∃ part parts, text.drop skip = old.intercalate (part :: parts) ∧
      replaceFrom old new skip text = new.intercalate (part :: parts) ∧
      ∀ p ∈ part :: parts, ¬ old <:+: p := by
  induction text generalizing skip with
  | nil =>
    refine ⟨[], [], by simp, by cases skip <;> simp [replaceFrom], ?_⟩
    simpa using sought
  | cons c rest ih =>
    cases skip with
    | succ skip => exact ih skip
    | zero =>
      simp only [replaceFrom, List.drop_zero]
      split
      next matched =>
        obtain ⟨part, parts, cut, joined, clean⟩ := ih (old.length - 1)
        obtain ⟨after, whole⟩ := List.isPrefixOf_iff_prefix.mp matched
        have passed : rest.drop (old.length - 1) = after := by
          obtain ⟨first, more, rfl⟩ := List.exists_cons_of_ne_nil sought
          obtain ⟨rfl, rfl⟩ := List.cons.inj whole
          simp
        refine ⟨[], part :: parts, ?_, ?_, ?_⟩
        · rw [List.intercalate_cons_cons, ← cut, passed, List.nil_append, whole]
        · rw [List.intercalate_cons_cons, ← joined, List.nil_append]
        · exact List.forall_mem_cons.mpr ⟨by simpa using sought, clean⟩
      next unmatched =>
        obtain ⟨part, parts, cut, joined, clean⟩ := ih 0
        rw [List.drop_zero] at cut
        refine ⟨c :: part, parts, ?_, ?_, ?_⟩
        · rw [List.intercalate_cons_cons_left, ← cut]
        · rw [List.intercalate_cons_cons_left, ← joined]
        · obtain ⟨here, later⟩ := List.forall_mem_cons.mp clean
          refine List.forall_mem_cons.mpr ⟨fun occurs => ?_, later⟩
          rcases List.infix_cons_iff.mp occurs with front | inside
          · -- What the part starts with, the text starts with.
            have begins : part <+: rest := cut ▸ prefix_intercalate old part parts
            exact unmatched (List.isPrefixOf_iff_prefix.mpr
              (front.trans (List.cons_prefix_cons.mpr ⟨rfl, begins⟩)))
          · exact here inside

theorem exists_parts_replaceAll {old : String} (sought : old ≠ "") (new s : String) :
    ∃ parts : List String, s = old.intercalate parts ∧ replaceAll old new s = new.intercalate parts ∧
      ∀ part ∈ parts, ¬ old.toList <:+: part.toList := by
  obtain ⟨part, parts, cut, joined, clean⟩ :=
    exists_parts_replaceFrom (by simpa using sought : old.toList ≠ []) new.toList 0 s.toList
  have chars : ((part :: parts).map String.ofList).map String.toList = part :: parts := by
    simp [Function.comp_def]
  refine ⟨(part :: parts).map String.ofList, ?_, ?_, ?_⟩
  · rw [← String.toList_inj, String.toList_intercalate, chars, ← cut, List.drop_zero]
  · rw [← String.toList_inj, String.toList_intercalate, chars, replaceAll, String.toList_ofList, joined]
  · rintro _ member
    obtain ⟨p, listed, rfl⟩ := List.mem_map.mp member
    rw [String.toList_ofList]
    exact clean p listed

/-- Where there is nothing to replace, nothing changes. -/
theorem replaceAll_of_absent {old : String} (new : String) {s : String}
    (absent : ¬ old.toList <:+: s.toList) : replaceAll old new s = s := by
  have sought : old ≠ "" := by
    rintro rfl
    exact absent List.nil_infix
  obtain ⟨parts, cut, joined, _⟩ := exists_parts_replaceAll sought new s
  rw [joined, cut]
  cases parts with
  | nil => rfl
  | cons part others =>
    cases others with
    | nil => rfl
    | cons next others =>
      -- Two parts have an occurrence between them.
      rw [cut, String.intercalate_cons_cons, String.toList_append, String.toList_append] at absent
      exact absurd (List.infix_append _ _ _) absent

theorem startsWith_append (start rest : String) : startsWith (start ++ rest) start = true := by
  rw [startsWith, List.isPrefixOf_iff_prefix, String.toList_append]
  exact List.prefix_append _ _

theorem after?_append (start rest : String) : after? start (start ++ rest) = some rest := by
  rw [after?, if_pos (startsWith_append start rest), String.toList_append, ← String.length_toList,
    List.drop_left, String.ofList_toList]

theorem after?_eq_some {start s rest : String} : after? start s = some rest ↔ s = start ++ rest := by
  constructor
  · intro found
    rw [after?] at found
    split at found
    next starts =>
      obtain ⟨tail, whole⟩ := List.isPrefixOf_iff_prefix.mp starts
      have dropped : s.toList.drop start.length = tail := by
        rw [← whole, ← String.length_toList, List.drop_left]
      have same : String.ofList tail = rest := dropped ▸ Option.some.inj found
      rw [← same, ← String.toList_inj, String.toList_append, String.toList_ofList, whole]
    next => cases found
  · rintro rfl
    exact after?_append start rest

theorem after?_eq_none {start s : String} : after? start s = none ↔ startsWith s start = false := by
  rw [after?]
  cases startsWith s start <;> simp

theorem cutChars_of_not_mem {c : Char} {text : List Char} (absent : c ∉ text) :
    cutChars c text = none := by
  induction text with
  | nil => rfl
  | cons d rest ih =>
    have different : d ≠ c := by
      rintro rfl
      exact absent List.mem_cons_self
    rw [cutChars, if_neg different, ih fun member => absent (List.mem_cons_of_mem d member)]
    rfl

theorem cutChars_append {c : Char} {before : List Char} (absent : c ∉ before) (after : List Char) :
    cutChars c (before ++ c :: after) = some (before, after) := by
  induction before with
  | nil => simp [cutChars]
  | cons d rest ih =>
    have different : d ≠ c := by
      rintro rfl
      exact absent List.mem_cons_self
    rw [List.cons_append, cutChars, if_neg different,
      ih fun member => absent (List.mem_cons_of_mem d member)]
    rfl

theorem cut?_of_not_mem {c : Char} {s : String} (absent : c ∉ s.toList) : cut? c s = none := by
  rw [cut?, cutChars_of_not_mem absent, Option.map_none]

/-- A text is cut at the first place where it can be cut. -/
theorem cut?_append {c : Char} {before : String} (absent : c ∉ before.toList) (after : String) :
    cut? c (before ++ String.singleton c ++ after) = some (before, after) := by
  have parts : (before ++ String.singleton c ++ after).toList = before.toList ++ c :: after.toList := by
    simp
  rw [cut?, parts, cutChars_append absent]
  simp

theorem splitChars_of_not_mem {c : Char} {text : List Char} (absent : c ∉ text) :
    splitChars c text = [text] := by
  induction text with
  | nil => rfl
  | cons d rest ih =>
    obtain ⟨different, absent⟩ := List.ne_and_not_mem_of_not_mem_cons absent
    rw [splitChars, if_neg (Ne.symm different), ih absent]

theorem splitChars_append {c : Char} {before : List Char} (absent : c ∉ before) (after : List Char) :
    splitChars c (before ++ c :: after) = before :: splitChars c after := by
  induction before with
  | nil => simp [splitChars]
  | cons d rest ih =>
    obtain ⟨different, absent⟩ := List.ne_and_not_mem_of_not_mem_cons absent
    rw [List.cons_append, splitChars, if_neg (Ne.symm different), ih absent]

theorem split_of_not_mem {c : Char} {s : String} (absent : c ∉ s.toList) : split c s = [s] := by
  simp [split, splitChars_of_not_mem absent]

/-- A part in front of a text is the first of its parts. -/
theorem split_append {c : Char} {before : String} (absent : c ∉ before.toList) (after : String) :
    split c (before ++ String.singleton c ++ after) = before :: split c after := by
  simp [split, splitChars_append absent]

end LocalCI.Text
