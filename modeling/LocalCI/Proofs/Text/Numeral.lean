import LocalCI.Text.Integer
import Mathlib.Data.List.TakeWhile

/-! Whole numbers as they are written. The grammar stands by itself: blanks around the number, a sign or
none, and digits of any script in groups with one underscore between two of them. Reading accepts just
what the grammar allows, and gives the number that is written. -/
namespace LocalCI.Text

/-- What a sign makes of a number. -/
inductive Sign : List Char → Nat → Int → Prop where
  | bare (n : Nat) : Sign [] n n
  | plus (n : Nat) : Sign ['+'] n n
  | minus (n : Nat) : Sign ['-'] n (-n)

/-- The whole number that is written; it has no more digits than are read. -/
inductive Numeral : List Char → Int → Prop where
  | written {before mark after : List Char} {groups : List (List Char)} {digits : List Nat} {n : Int}
      (blankBefore : ∀ c ∈ before, isNumberBlank c = true)
      (blankAfter : ∀ c ∈ after, isNumberBlank c = true)
      (grouped : groups ≠ []) (filled : ∀ group ∈ groups, group ≠ [])
      (valued : groups.flatten.mapM digitValue? = some digits) (short : digits.length ≤ digitLimit)
      (signed : Sign mark (ofDigits 10 digits) n) :
      Numeral (before ++ (mark ++ ['_'].intercalate groups) ++ after) n

section Digits

theorem digitValue?_lt {c : Char} {d : Nat} (digit : digitValue? c = some d) : d < 10 := by
  unfold digitValue? at digit
  dsimp only at digit
  split at digit
  · split at digit
    next range =>
      simp only [Bool.and_eq_true, decide_eq_true_eq] at range
      cases digit
      omega
    next => cases digit
  · obtain ⟨start, found, rfl⟩ := Option.map_eq_some_iff.mp digit
    have range := List.find?_some found
    simp only [Bool.and_eq_true, decide_eq_true_eq] at range
    omega

theorem digitValue?_of_ascii {c : Char} (ascii : c.toNat < 0x80) (beyond : 0x39 < c.toNat) :
    digitValue? c = none := by
  simp only [digitValue?, if_pos ascii]
  exact if_neg (by simp; omega)

/-- Letters are digits only from ten on. -/
theorem radixDigit?_ten (c : Char) : radixDigit? 10 c = digitValue? c := by
  unfold radixDigit?
  dsimp only
  split
  next range =>
    simp only [Bool.and_eq_true, decide_eq_true_eq] at range
    rw [digitValue?_of_ascii (by omega) (by omega), Option.filter_some, if_neg (by simp)]
  next =>
    split
    next range =>
      simp only [Bool.and_eq_true, decide_eq_true_eq] at range
      rw [digitValue?_of_ascii (by omega) (by omega), Option.filter_some, if_neg (by simp)]
    next =>
      cases value : digitValue? c with
      | none => rfl
      | some d => rw [Option.filter_some, if_pos (by simpa using digitValue?_lt value)]

/-- The numbers of the blank characters. -/
def blankCodes : List Nat :=
  List.range' 0x09 5 ++ List.range' 0x1C 5 ++ [0x85, 0xA0, 0x1680] ++ List.range' 0x2000 11 ++
    [0x2028, 0x2029, 0x202F, 0x205F, 0x3000]

theorem mem_blankCodes {c : Char} (blank : isBlank c = true) : c.toNat ∈ blankCodes := by
  simp only [isBlank, Bool.or_eq_true, Bool.and_eq_true, decide_eq_true_eq, beq_iff_eq] at blank
  simp only [blankCodes, List.mem_append, List.mem_range'_1, List.mem_cons, List.not_mem_nil, or_false]
  omega

theorem digitValue?_of_isBlank {c : Char} (blank : isBlank c = true) : digitValue? c = none := by
  have none : ∀ n ∈ blankCodes, ¬ (0x30 ≤ n ∧ n ≤ 0x39) ∧
      zeros.find? (fun start => start ≤ n && n < start + 10) = none := by decide
  obtain ⟨ascii, other⟩ := none _ (mem_blankCodes blank)
  simp only [digitValue?, other, Option.map_none]
  simpa using fun _ first => lt_of_not_ge fun last => ascii ⟨first, last⟩

/-- A digit is no blank, no sign and no underscore. -/
theorem of_digitValue? {c : Char} {d : Nat} (digit : digitValue? c = some d) :
    isNumberBlank c = false ∧ c ≠ '-' ∧ c ≠ '+' ∧ c ≠ '_' := by
  have apart : ∀ other : Char, digitValue? other = none → c ≠ other := by
    rintro other none rfl
    rw [none] at digit
    cases digit
  refine ⟨?_, apart _ (by decide), apart _ (by decide), apart _ (by decide)⟩
  rw [isNumberBlank, Bool.and_eq_false_iff]
  left
  rw [Bool.eq_false_iff]
  exact fun blank => apart c (digitValue?_of_isBlank blank) rfl

theorem digitValue?_of_mem {cs : List Char} {digits : List Nat} {c : Char}
    (valued : cs.mapM digitValue? = some digits) (member : c ∈ cs) : ∃ d, digitValue? c = some d := by
  induction cs generalizing digits with
  | nil => cases member
  | cons first rest ih =>
    rw [List.mapM_cons] at valued
    obtain ⟨d, found, valued⟩ := Option.bind_eq_some_iff.mp valued
    obtain ⟨_, others, _⟩ := Option.bind_eq_some_iff.mp valued
    rcases List.mem_cons.mp member with rfl | later
    · exact ⟨d, found⟩
    · exact ih others later

end Digits

section Groups

theorem splitChars_eq_splitOn (c : Char) (cs : List Char) : splitChars c cs = cs.splitOn c := by
  induction cs with
  | nil => rfl
  | cons d rest ih =>
    have some : splitChars c rest ≠ [] := ih ▸ List.splitOnP_ne_nil _ _
    rw [splitChars, List.splitOn, List.splitOnP_cons_eq_if_modifyHead, ← List.splitOn, ← ih]
    by_cases same : d = c
    · simp [same]
    · rw [if_neg same, if_neg (by simpa using same)]
      cases parts : splitChars c rest with
      | nil => exact absurd parts some
      | cons part parts => rfl

theorem groupedDigits?_eq_some {cs : List Char} {digits : List Nat} :
    groupedDigits? 10 cs = some digits ↔
      ∃ groups, groups ≠ [] ∧ (∀ group ∈ groups, group ≠ []) ∧
        groups.flatten.mapM digitValue? = some digits ∧ cs = ['_'].intercalate groups := by
  have decimal : radixDigit? 10 = digitValue? := funext radixDigit?_ten
  unfold groupedDigits?
  rw [splitChars_eq_splitOn, decimal]
  constructor
  · intro read
    dsimp only at read
    split at read
    next => cases read
    next filled =>
      refine ⟨cs.splitOn '_', List.splitOnP_ne_nil _ _, fun group member empty => ?_, read,
        (List.intercalate_splitOn '_').symm⟩
      exact filled (List.any_eq_true.mpr ⟨group, member, by simp [empty]⟩)
  · rintro ⟨groups, some, filled, valued, rfl⟩
    have apart : ∀ group ∈ groups, '_' ∉ group := by
      intro group member inside
      obtain ⟨d, digit⟩ := digitValue?_of_mem valued (List.mem_flatten.mpr ⟨group, member, inside⟩)
      exact (of_digitValue? digit).2.2.2 rfl
    rw [List.splitOn_intercalate '_' apart some]
    refine (if_neg fun empty => ?_).trans valued
    obtain ⟨group, member, empty⟩ := List.any_eq_true.mp empty
    exact filled group member (List.isEmpty_iff.mp empty)

theorem mem_intercalate {c sep : Char} {groups : List (List Char)}
    (member : c ∈ [sep].intercalate groups) : c = sep ∨ c ∈ groups.flatten := by
  induction groups with
  | nil => cases member
  | cons group rest ih =>
    cases rest with
    | nil => exact Or.inr (by simpa using member)
    | cons next others =>
      rw [List.intercalate_cons_cons, List.append_assoc, List.mem_append, List.mem_append,
        List.mem_singleton] at member
      rcases member with own | between | later
      · exact Or.inr (List.mem_append_left _ own)
      · exact Or.inl between
      · exact (ih later).imp_right (List.mem_append_right _)

theorem intercalate_ne_nil {sep : Char} {groups : List (List Char)} (some : groups ≠ [])
    (filled : ∀ group ∈ groups, group ≠ []) : [sep].intercalate groups ≠ [] := by
  obtain ⟨group, rest, rfl⟩ := List.exists_cons_of_ne_nil some
  have own := filled group List.mem_cons_self
  cases rest with
  | nil => simpa using own
  | cons next others => simp [List.intercalate_cons_cons]

end Groups

section Marks

theorem exists_trimNumber (cs : List Char) :
    ∃ before after, cs = before ++ trimNumber cs ++ after ∧
      (∀ c ∈ before, isNumberBlank c = true) ∧ ∀ c ∈ after, isNumberBlank c = true := by
  let rest := cs.dropWhile isNumberBlank
  refine ⟨cs.takeWhile isNumberBlank, (rest.reverse.takeWhile isNumberBlank).reverse, ?_,
    fun _ => List.mem_takeWhile_imp, fun _ member => List.mem_takeWhile_imp (List.mem_reverse.mp member)⟩
  have ending : rest = trimNumber cs ++ (rest.reverse.takeWhile isNumberBlank).reverse := by
    rw [trimNumber, ← List.reverse_append, List.takeWhile_append_dropWhile, List.reverse_reverse]
  rw [List.append_assoc, ← ending, List.takeWhile_append_dropWhile]

/-- Blanks around something that has none are taken off. -/
theorem trimNumber_append {before inner after : List Char} (filled : inner ≠ [])
    (blankBefore : ∀ c ∈ before, isNumberBlank c = true)
    (blankAfter : ∀ c ∈ after, isNumberBlank c = true)
    (solid : ∀ c ∈ inner, isNumberBlank c = false) :
    trimNumber (before ++ inner ++ after) = inner := by
  have stays : ∀ (rest : List Char) {cs : List Char}, cs ≠ [] → (∀ c ∈ cs, isNumberBlank c = false) →
      (cs ++ rest).dropWhile isNumberBlank = cs ++ rest := by
    intro rest cs some solid
    obtain ⟨c, others, rfl⟩ := List.exists_cons_of_ne_nil some
    rw [List.cons_append, List.dropWhile_cons_of_neg]
    simp [solid c List.mem_cons_self]
  rw [trimNumber, List.append_assoc, List.dropWhile_append_of_pos blankBefore, stays _ filled solid,
    List.reverse_append, List.dropWhile_append_of_pos fun c member =>
      blankAfter c (List.mem_reverse.mp member)]
  have back := stays [] (List.reverse_ne_nil_iff.mpr filled) fun c member =>
    solid c (List.mem_reverse.mp member)
  rw [List.append_nil] at back
  rw [back, List.reverse_reverse]

theorem exists_sign (cs : List Char) (n : Nat) :
    ∃ mark, cs = mark ++ (sign cs).2 ∧ Sign mark n (if (sign cs).1 then -n else n) := by
  unfold sign
  split
  · exact ⟨['-'], rfl, .minus n⟩
  · exact ⟨['+'], rfl, .plus n⟩
  · exact ⟨[], rfl, .bare n⟩

theorem sign_append {mark body : List Char} {n : Nat} {value : Int} (signed : Sign mark n value)
    (unsigned : ∀ c ∈ body, c ≠ '-' ∧ c ≠ '+') :
    (sign (mark ++ body)).2 = body ∧ (if (sign (mark ++ body)).1 then -(n : Int) else n) = value := by
  cases signed with
  | plus => exact ⟨rfl, rfl⟩
  | minus => exact ⟨rfl, rfl⟩
  | bare =>
    rw [List.nil_append]
    unfold sign
    split
    · exact absurd rfl (unsigned '-' List.mem_cons_self).1
    · exact absurd rfl (unsigned '+' List.mem_cons_self).2
    · exact ⟨rfl, rfl⟩

end Marks

/-- Reading accepts what is written as the grammar says, and gives the number that is written. -/
theorem integer_ok_iff {s : String} {n : Int} : integer s = .ok n ↔ Numeral s.toList n := by
  have bare (cs : List Char) : dropRadixMark 10 cs = cs := by
    simp only [dropRadixMark, Nat.reduceEqDiff, if_false, List.contains_nil, Bool.false_eq_true]
    split <;> rfl
  unfold integer integerIn
  simp only [bare]
  constructor
  · intro read
    split at read
    next => cases read
    next digits grouped =>
      split at read
      next => cases read
      next short =>
        obtain ⟨groups, some, filled, valued, written⟩ := groupedDigits?_eq_some.mp grouped
        obtain ⟨before, after, parts, blankBefore, blankAfter⟩ := exists_trimNumber s.toList
        obtain ⟨mark, marked, signed⟩ := exists_sign (trimNumber s.toList) (ofDigits 10 digits)
        rw [parts, marked, written, ← Except.ok.inj read]
        exact .written blankBefore blankAfter some filled valued (by simpa using short) signed
  · generalize s.toList = cs
    rintro ⟨blankBefore, blankAfter, some, filled, valued, short, signed⟩
    rename_i before mark after groups digits
    have inner : ∀ c ∈ ['_'].intercalate groups, isNumberBlank c = false ∧ c ≠ '-' ∧ c ≠ '+' := by
      intro c member
      rcases mem_intercalate member with rfl | member
      · decide
      · obtain ⟨d, digit⟩ := digitValue?_of_mem valued member
        obtain ⟨solid, minus, plus, _⟩ := of_digitValue? digit
        exact ⟨solid, minus, plus⟩
    have solid : ∀ c ∈ mark ++ ['_'].intercalate groups, isNumberBlank c = false := by
      intro c member
      rcases List.mem_append.mp member with front | member
      · cases signed with
        | bare => cases front
        | plus | minus =>
          rw [List.mem_singleton.mp front]
          decide
      · exact (inner c member).1
    have numbered : ['_'].intercalate groups ≠ [] := intercalate_ne_nil some filled
    have trimmed := trimNumber_append (List.append_ne_nil_of_right_ne_nil mark numbered)
      blankBefore blankAfter solid
    obtain ⟨body, value⟩ := sign_append signed fun c member => (inner c member).2
    rw [trimmed, body, groupedDigits?_eq_some.mpr ⟨groups, some, filled, valued, rfl⟩]
    dsimp only
    rw [if_neg (by simpa using short), value]

end LocalCI.Text
