import Mathlib
import RobotDriver.Address
import RobotDriver.Proofs.Ends

/-!
# Which texts are addresses

The grammar of addresses is told without the reader: `Trimmed` says what is left of a text without the blanks at both
ends, and `Reads` what that is read as, one rule for each answer. `parse_eq_iff` says that the reader gives the answer
of the grammar. Of the letters only the case is lost (`map_toUpper_eq_iff`), and the normal form is read as itself.
-/

namespace RobotDriver

/-! ## Blanks at both ends -/

namespace Text

variable {text core : List Char}

/-- What is left of a text when the blanks at both ends go. -/
structure Trimmed (text core : List Char) : Prop where
  split : ∃ before after, text = before ++ core ++ after ∧
    (∀ c ∈ before, isBlank c = true) ∧ (∀ c ∈ after, isBlank c = true)
  first : ∀ c ∈ core.head?, isBlank c = false
  last : ∀ c ∈ core.getLast?, isBlank c = false

theorem trim_eq_iff : trim text = core ↔ Trimmed text core := by
  have twice : trim text = (text.dropWhile isBlank).rdropWhile isBlank := rfl
  rw [twice]
  constructor
  · intro left
    obtain ⟨⟨after, split, blanks⟩, last⟩ := rdropWhile_eq_iff.1 left
    obtain ⟨⟨before, whole, blank⟩, boundary⟩ := dropWhile_eq_iff.1 split
    refine ⟨⟨before, after, ?_, blank, blanks⟩, fun c first => boundary c ?_, last⟩
    · rw [whole, List.append_assoc]
    · rw [Option.mem_def, List.head?_append, Option.mem_def.1 first, Option.some_or]
  · rintro ⟨⟨before, after, rfl, blank, blanks⟩, first, last⟩
    cases core with
    | nil =>
      -- All is blank and goes from the front.
      have none : (before ++ [] ++ after).dropWhile isBlank = [] := by
        rw [List.dropWhile_eq_nil_iff]
        intro c present
        rw [List.append_nil, List.mem_append] at present
        exact present.elim (blank c) (blanks c)
      rw [none, List.rdropWhile_nil]
    | cons c cs =>
      have ahead : (before ++ c :: cs ++ after).dropWhile isBlank = c :: cs ++ after :=
        dropWhile_eq_iff.2 ⟨⟨before, List.append_assoc _ _ _, blank⟩, first⟩
      rw [ahead]
      exact rdropWhile_eq_iff.2 ⟨⟨after, rfl, blanks⟩, last⟩

end Text

namespace Address

/-! ## Characters of an address -/

/-- The digits of base sixteen. -/
def hexDigits : List Char :=
  ['0', '1', '2', '3', '4', '5', '6', '7', '8', '9', 'a', 'b', 'c', 'd', 'e', 'f', 'A', 'B', 'C', 'D', 'E', 'F']

theorem isHexDigit_iff {c : Char} : isHexDigit c = true ↔ c ∈ hexDigits := by
  constructor
  · intro digit
    have ascii : c.toNat < 128 := by
      simp only [isHexDigit, Char.isDigit, Char.le_def, UInt32.le_iff_toNat_le, Char.reduceVal, UInt32.reduceToNat,
        Char.toNat_val, ge_iff_le, Bool.or_eq_true, Bool.and_eq_true, decide_eq_true_eq] at digit
      omega
    have all : ∀ n < 128, isHexDigit (Char.ofNat n) = true → Char.ofNat n ∈ hexDigits := by decide +kernel
    rw [← Char.ofNat_toNat c] at digit ⊢
    exact all _ ascii digit
  · have all : hexDigits.all isHexDigit = true := rfl
    exact List.all_eq_true.1 all c

theorem isBlank_of_mem {c : Char} (digit : c ∈ hexDigits) : Text.isBlank c = false := by
  have all : hexDigits.all (!Text.isBlank ·) = true := rfl
  simpa using List.all_eq_true.1 all c digit

theorem toUpper_mem {c : Char} (digit : c ∈ hexDigits) : c.toUpper ∈ hexDigits := by
  have all : hexDigits.all (hexDigits.contains ·.toUpper) = true := rfl
  exact List.contains_iff_mem.1 (List.all_eq_true.1 all c digit)

/-- The character may stand in an address. -/
def Legal (c : Char) : Prop :=
  c ∈ hexDigits ∨ c = ':' ∨ c = '-'

theorem legal_iff {c : Char} : (isSeparator c || isHexDigit c) = true ↔ Legal c := by
  rw [Bool.or_eq_true, isHexDigit_iff, isSeparator, Bool.or_eq_true, beq_iff_eq, beq_iff_eq, Legal, or_comm]

/-- The digits among some characters. -/
def digitsIn (cs : List Char) : List Char :=
  cs.filter (· ∈ hexDigits)

variable {cs ds : List Char}

theorem normalDigits_eq (cs : List Char) : normalDigits cs = (digitsIn cs).map Char.toUpper := by
  rw [normalDigits, digitsIn]
  congr 2
  funext c
  rw [Bool.eq_iff_iff, isHexDigit_iff, decide_eq_true_eq]

theorem digitsIn_upper (cs : List Char) :
    digitsIn ((digitsIn cs).map Char.toUpper) = (digitsIn cs).map Char.toUpper := by
  rw [digitsIn, List.filter_eq_self]
  intro c present
  obtain ⟨d, digit, rfl⟩ := List.mem_map.1 present
  exact decide_eq_true (toUpper_mem (of_decide_eq_true (List.mem_filter.1 digit).2))

/-- Capital letters are told apart just as far as small letters are. -/
theorem map_toUpper_eq_iff : cs.map Char.toUpper = ds.map Char.toUpper ↔ cs.map Char.toLower = ds.map Char.toLower := by
  have lower (cs : List Char) : (cs.map Char.toUpper).map Char.toLower = cs.map Char.toLower := by
    simp only [List.map_map, Function.comp_def, Char.toLower_toUpper_eq_toLower]
  have upper (cs : List Char) : (cs.map Char.toLower).map Char.toUpper = cs.map Char.toUpper := by
    simp only [List.map_map, Function.comp_def, Char.toUpper_toLower_eq_toUpper]
  constructor
  · intro same
    rw [← lower cs, same, lower]
  · intro same
    rw [← upper cs, same, upper]

/-- A figure is the capital of itself alone. -/
theorem toUpper_eq_iff {c d : Char} (figure : d.isAlpha = false) : c.toUpper = d ↔ c = d := by
  constructor
  · rintro rfl
    rw [Char.isAlpha_toUpper_eq_isAlpha, Char.isAlpha, Bool.or_eq_false_iff] at figure
    exact (Char.toUpper_eq_of_not_isLower (by simp [figure.2])).symm
  · rintro rfl
    rw [Char.isAlpha, Bool.or_eq_false_iff] at figure
    exact Char.toUpper_eq_of_not_isLower (by simp [figure.2])

theorem prefix_map_toUpper_iff {figures : List Char} (all : ∀ d ∈ figures, d.isAlpha = false) :
    figures <+: cs.map Char.toUpper ↔ figures <+: cs := by
  induction figures generalizing cs with
  | nil => simp
  | cons d figures ih =>
    rw [List.forall_mem_cons] at all
    cases cs with
    | nil => simp
    | cons c cs =>
      rw [List.map_cons, List.cons_prefix_cons, List.cons_prefix_cons, ih all.2, eq_comm, toUpper_eq_iff all.1, eq_comm]

/-! ## What a text is read as -/

/-- What a text without blanks at its ends is read as: the address of its digits in capital letters, or what is wrong
with it. -/
inductive Reads (cs : List Char) : Except AddressError Address → Prop where
  /-- Twelve digits, and the first of them are the maker's. -/
  | address (legal : ∀ c ∈ cs, Legal c) (twelve : (digitsIn cs).length = 12)
      (maker : ['0', '0', '0', '6', '6'] <+: digitsIn cs) :
      Reads cs (.ok ⟨.ofList ((digitsIn cs).map Char.toUpper)⟩)
  /-- The first character that may not stand in an address. -/
  | stray {before after : List Char} {c : Char} (split : cs = before ++ c :: after) (legal : ∀ d ∈ before, Legal d)
      (stray : ¬ Legal c) : Reads cs (.error (.character c))
  /-- None is stray, but the digits are not twelve. -/
  | miscounted (legal : ∀ c ∈ cs, Legal c) (count : (digitsIn cs).length ≠ 12) :
      Reads cs (.error (.length (digitsIn cs).length))
  /-- Twelve digits, and the first of them are not the maker's. -/
  | foreign (legal : ∀ c ∈ cs, Legal c) (twelve : (digitsIn cs).length = 12)
      (other : ¬ ['0', '0', '0', '6', '6'] <+: digitsIn cs) :
      Reads cs (.error (.vendor (.ofList ((digitsIn cs).map Char.toUpper))))

theorem firstStray?_eq_some_iff {c : Char} :
    firstStray? cs = some c ↔ ∃ before after, cs = before ++ c :: after ∧ (∀ d ∈ before, Legal d) ∧ ¬ Legal c := by
  rw [firstStray?, List.find?_eq_some_iff_append]
  simp only [Bool.not_not, legal_iff, Bool.not_eq_true', ← Bool.not_eq_true]
  constructor
  · rintro ⟨stray, before, after, split, legal⟩
    exact ⟨before, after, split, legal, stray⟩
  · rintro ⟨before, after, split, legal, stray⟩
    exact ⟨stray, before, after, split, legal⟩

theorem firstStray?_eq_none_iff : firstStray? cs = none ↔ ∀ c ∈ cs, Legal c := by
  rw [firstStray?, List.find?_eq_none]
  simp only [Bool.not_eq_true', Bool.not_eq_false, legal_iff]

/-- The reader, with the checks told as the grammar has them. -/
theorem parse_eq (text : String) :
    parse text =
      match firstStray? (Text.trim text.toList) with
      | some c => .error (.character c)
      | none =>
        let digits := digitsIn (Text.trim text.toList)
        if digits.length ≠ 12 then .error (.length digits.length)
        else if ['0', '0', '0', '6', '6'] <+: digits then .ok ⟨.ofList (digits.map Char.toUpper)⟩
        else .error (.vendor (.ofList (digits.map Char.toUpper))) := by
  have begins (digits : List Char) :
      vendorPrefix.isPrefixOf (digits.map Char.toUpper) = true ↔ ['0', '0', '0', '6', '6'] <+: digits := by
    rw [List.isPrefixOf_iff_prefix]
    exact prefix_map_toUpper_iff (by simp [vendorPrefix])
  rw [parse]
  cases firstStray? (Text.trim text.toList) with
  | some c => rfl
  | none => simp only [normalDigits_eq, List.length_map, begins, digitCount]

/-- The reader answers by one of the rules. -/
theorem reads_parse (text : String) : Reads (Text.trim text.toList) (parse text) := by
  rw [parse_eq]
  dsimp only
  split
  · next c found =>
    obtain ⟨before, after, split, legal, stray⟩ := firstStray?_eq_some_iff.1 found
    exact .stray split legal stray
  · next none =>
    have legal := firstStray?_eq_none_iff.1 none
    split_ifs with count maker
    · exact .miscounted legal count
    · exact .address legal (Decidable.of_not_not count) maker
    · exact .foreign legal (Decidable.of_not_not count) maker

/-- The rules leave the reader no choice. -/
theorem parse_of_reads {text : String} {r : Except AddressError Address} (reads : Reads (Text.trim text.toList) r) :
    parse text = r := by
  rw [parse_eq]
  dsimp only
  cases reads with
  | stray split legal stray => rw [firstStray?_eq_some_iff.2 ⟨_, _, split, legal, stray⟩]
  | address legal twelve maker =>
    rw [firstStray?_eq_none_iff.2 legal]
    exact (if_neg (not_not_intro twelve)).trans (if_pos maker)
  | miscounted legal count =>
    rw [firstStray?_eq_none_iff.2 legal]
    exact if_pos count
  | foreign legal twelve other =>
    rw [firstStray?_eq_none_iff.2 legal]
    exact (if_neg (not_not_intro twelve)).trans (if_neg other)

/-- The reader gives the answer of the grammar. -/
theorem parse_eq_iff {text : String} {r : Except AddressError Address} :
    parse text = r ↔ Reads (Text.trim text.toList) r :=
  ⟨fun read => read ▸ reads_parse text, parse_of_reads⟩

/-! ## Normal forms -/

/-- Blanks are no digits. -/
theorem digitsIn_of_trimmed {text core : List Char} (trimmed : Text.Trimmed text core) :
    digitsIn text = digitsIn core := by
  have none {blanks : List Char} (all : ∀ c ∈ blanks, Text.isBlank c = true) : digitsIn blanks = [] := by
    rw [digitsIn, List.filter_eq_nil_iff]
    intro c present digit
    have other := isBlank_of_mem (of_decide_eq_true digit)
    rw [all c present] at other
    cases other
  obtain ⟨before, after, rfl, blank, blanks⟩ := trimmed.split
  rw [digitsIn, List.filter_append, List.filter_append, ← digitsIn, ← digitsIn, ← digitsIn, none blank, none blanks,
    List.nil_append, List.append_nil]

/-- Digits have no blanks at their ends. -/
theorem trim_digits {digits : List Char} (all : digitsIn digits = digits) : Text.trim digits = digits := by
  have digit (c : Char) (present : c ∈ digits) : Text.isBlank c = false := by
    rw [← all] at present
    exact isBlank_of_mem (of_decide_eq_true (List.mem_filter.1 present).2)
  refine Text.trim_eq_iff.2 ⟨⟨[], [], (List.append_nil _).symm, ?_, ?_⟩, ?_, ?_⟩
  · simp
  · simp
  · exact fun c first => digit c (List.mem_of_mem_head? first)
  · exact fun c last => digit c (List.mem_of_mem_getLast? last)

/-- What is known of the digits of a text that is read as an address. -/
theorem digits_of_parse {text : String} {a : Address} (read : parse text = .ok a) :
    (digitsIn text.toList).length = 12 ∧ ['0', '0', '0', '6', '6'] <+: digitsIn text.toList ∧
      a.digits.toList = (digitsIn text.toList).map Char.toUpper := by
  rw [digitsIn_of_trimmed (Text.trim_eq_iff.1 rfl)]
  cases parse_eq_iff.1 read with
  | address legal twelve maker => exact ⟨twelve, maker, String.toList_ofList⟩

/-- An address is read as itself. -/
theorem parse_digits {text : String} {a : Address} (read : parse text = .ok a) : parse a.digits = .ok a := by
  obtain ⟨twelve, maker, shown⟩ := digits_of_parse read
  have digits : digitsIn a.digits.toList = a.digits.toList := by rw [shown, digitsIn_upper]
  have same : .ofList ((digitsIn a.digits.toList).map Char.toUpper) = a.digits := by
    rw [digits, shown, List.map_map]
    simp only [Function.comp_def, Char.toUpper_toUpper_eq_toUpper]
    rw [← shown, String.ofList_toList]
  have again : Reads a.digits.toList (.ok ⟨.ofList ((digitsIn a.digits.toList).map Char.toUpper)⟩) := by
    refine .address (fun c present => ?_) ?_ ?_
    · rw [← digits] at present
      exact .inl (of_decide_eq_true (List.mem_filter.1 present).2)
    · rw [digits, shown, List.length_map, twelve]
    · rw [digits, shown]
      exact (prefix_map_toUpper_iff (by simp)).2 maker
  rw [same] at again
  rw [parse_eq_iff, trim_digits digits]
  exact again

/-- **Which texts are addresses.** What is left of a text without the blanks at its ends, which is determined by the
text, has exactly one reading: it is an address if it is made of digits of base sixteen, colons and hyphens, and the
digits are twelve and begin with those of the maker; else the first character that is none of these is reported, or
the number of digits if there is no such character, or the digits if there are twelve. The reader gives this reading.
An address shows its digits in capital letters and is read as itself, and two texts are the same address just if their
digits differ in nothing but the case of letters. -/
theorem parse_grammar (text : String) :
    (∃ core, (∀ cs, Text.Trimmed text.toList cs ↔ core = cs) ∧ ∀ r, parse text = r ↔ Reads core r) ∧
    (∀ a, parse text = .ok a → parse a.digits = .ok a) ∧
    (∀ other a b, parse text = .ok a → parse other = .ok b →
      (a = b ↔ (digitsIn text.toList).map Char.toLower = (digitsIn other.toList).map Char.toLower)) := by
  refine ⟨⟨Text.trim text.toList, fun _ => Text.trim_eq_iff.symm, fun _ => parse_eq_iff⟩, fun _ => parse_digits, ?_⟩
  intro other a b read read'
  obtain ⟨-, -, shown⟩ := digits_of_parse read
  obtain ⟨-, -, shown'⟩ := digits_of_parse read'
  rw [← map_toUpper_eq_iff, ← shown, ← shown', String.toList_inj, Address.mk.injEq]

/-- Two spellings of an address, with blanks around the first, and its normal form. -/
theorem parse_grammar_spellings :
    parse " 00:06:66-4a-1B-2c\n" = .ok ⟨"0006664A1B2C"⟩ ∧ parse "0006664A1B2C" = .ok ⟨"0006664A1B2C"⟩ ∧
      (digitsIn " 00:06:66-4a-1B-2c\n".toList).map Char.toLower =
        (digitsIn "00-06-66-4A-1b-2C".toList).map Char.toLower := by
  have read : parse " 00:06:66-4a-1B-2c\n" = .ok ⟨"0006664A1B2C"⟩ := rfl
  have read' : parse "00-06-66-4A-1b-2C" = .ok ⟨"0006664A1B2C"⟩ := rfl
  obtain ⟨-, again, same⟩ := parse_grammar " 00:06:66-4a-1B-2c\n"
  exact ⟨read, again _ read, (same _ _ _ read read').1 rfl⟩

end Address

end RobotDriver
