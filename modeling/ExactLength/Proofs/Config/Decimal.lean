import ExactLength.Config.Parse
import ExactLength.Error.Display
import Mathlib.Algebra.Group.Nat.Defs
import Mathlib.Data.List.DropRight

/-!
# What the parser of content lengths accepts

The grammar of content lengths, said apart from the parser: a text denotes `n` if it consists of a non-empty run of
digits with the decimal value `n`, and of blanks around it (`Denotes`). Trimming finds that run if there is one
(`denotes_iff`).

Two bounds are met on the way. Digits whose value does not fit into sixty-four bits cannot be read
(`IsNumeral.readWord_eq`), and a number that can be read may still exceed the largest content length. Both end in the
same refusal (`Config.parse_of_denotes`).

The main statement is `Config.parse_decides`.
-/

namespace ExactLength

/-! ### The grammar -/

/-- The characters that may stand around a content length: space, tab, line feed, form feed, carriage return. -/
def blanks : List Char :=
  [' ', '\t', '\n', '\x0c', '\r']

/-- A text that consists of `inner` and of blanks before and after it. -/
def IsPadded (inner : List Char) (text : String) : Prop :=
  ∃ before after, text.toList = before ++ inner ++ after ∧ ∀ c ∈ before ++ after, c ∈ blanks

/-- A non-empty run of digits and its decimal value. -/
structure IsNumeral (digits : List Char) (n : Nat) : Prop where
  /-- There is a digit. -/
  ne_nil : digits ≠ []
  /-- There is nothing else. -/
  isDigit : ∀ c ∈ digits, c.isDigit = true
  /-- The value of the digits, the first of them with the highest place. -/
  value : Nat.ofDigitChars 10 digits 0 = n

/-- A text that gives the content length `n`. -/
def Denotes (text : String) (n : Nat) : Prop :=
  ∃ digits, IsNumeral digits n ∧ IsPadded digits text

/-- What the parser looks at before it reads the digits: whether there is nothing but digits, and one at least. -/
theorem isNumeral_form_iff {digits : List Char} :
    (digits.isEmpty || !digits.all Char.isDigit) = false ↔ ∃ n, IsNumeral digits n := by
  constructor
  · intro hform
    obtain ⟨hne, hall⟩ : digits ≠ [] ∧ ∀ c ∈ digits, c.isDigit = true := by simpa using hform
    exact ⟨_, hne, hall, rfl⟩
  · rintro ⟨n, hdigits⟩
    simp [hdigits.ne_nil, List.all_eq_true.2 hdigits.isDigit]

/-! ### Blanks -/

theorem isBlank_iff {c : Char} : isBlank c = true ↔ c ∈ blanks := by
  simp [isBlank, blanks, or_assoc]

theorem isBlank_of_isDigit {c : Char} (h : c.isDigit = true) : isBlank c = false := by
  apply Bool.eq_false_iff.2
  intro hblank
  have hnone : ∀ b ∈ blanks, b.isDigit = false := by simp [blanks]
  rw [hnone c (isBlank_iff.1 hblank)] at h
  cases h

/-- Every text is what trimming leaves of it, with blanks around it. -/
theorem isPadded_trimBlanks (text : String) : IsPadded (trimBlanks text.toList) text := by
  let rest := text.toList.dropWhile isBlank
  have hrest : trimBlanks text.toList ++ rest.rtakeWhile isBlank = rest := List.rdropWhile_append_rtakeWhile
  refine ⟨text.toList.takeWhile isBlank, rest.rtakeWhile isBlank, ?_, ?_⟩
  · rw [List.append_assoc, hrest]
    exact List.takeWhile_append_dropWhile.symm
  · intro c hc
    rcases List.mem_append.1 hc with hc | hc
    · exact isBlank_iff.1 (List.mem_takeWhile_imp hc)
    · exact isBlank_iff.1 (List.mem_rtakeWhile_imp hc)

/-- Blanks at the end are dropped from the end. -/
theorem rdropWhile_append_blanks {front after : List Char} (h : ∀ c ∈ after, isBlank c = true) :
    (front ++ after).rdropWhile isBlank = front.rdropWhile isBlank := by
  rw [List.rdropWhile, List.reverse_append, List.dropWhile_append_of_pos (by simpa using h)]
  rfl

/-- Trimming leaves what stands between the blanks, if it has no blanks in it. -/
theorem IsPadded.trimBlanks_eq {inner : List Char} {text : String} (h : IsPadded inner text)
    (hinner : ∀ c ∈ inner, isBlank c = false) : trimBlanks text.toList = inner := by
  obtain ⟨before, after, htext, hblank⟩ := h
  have hbefore : ∀ c ∈ before, isBlank c = true := fun c hc => isBlank_iff.2 (hblank c (List.mem_append_left _ hc))
  have hafter : ∀ c ∈ after, isBlank c = true := fun c hc => isBlank_iff.2 (hblank c (List.mem_append_right _ hc))
  have hfront : text.toList.dropWhile isBlank = (inner ++ after).dropWhile isBlank := by
    rw [htext, List.append_assoc, List.dropWhile_append_of_pos hbefore]
  show (text.toList.dropWhile isBlank).rdropWhile isBlank = inner
  rw [hfront]
  cases inner with
  | nil =>
    rw [List.nil_append, List.dropWhile_eq_nil_iff.2 hafter, List.rdropWhile_nil]
  | cons c rest =>
    -- the first character keeps the front from being dropped, and the last one the end
    have hfirst : (c :: rest ++ after).dropWhile isBlank = c :: rest ++ after :=
      List.dropWhile_cons_of_neg (by simp [hinner c List.mem_cons_self])
    rw [hfirst, rdropWhile_append_blanks hafter, List.rdropWhile_eq_self_iff]
    intro hne
    simp [hinner _ (List.getLast_mem hne)]

/-- What a text denotes is the value of what trimming leaves of it. -/
theorem denotes_iff {text : String} {n : Nat} : Denotes text n ↔ IsNumeral (trimBlanks text.toList) n := by
  constructor
  · rintro ⟨digits, hdigits, hpadded⟩
    rwa [hpadded.trimBlanks_eq fun c hc => isBlank_of_isDigit (hdigits.isDigit c hc)]
  · intro h
    exact ⟨_, h, isPadded_trimBlanks text⟩

/-- A text denotes one number at most. -/
theorem Denotes.unique {text : String} {m n : Nat} (hm : Denotes text m) (hn : Denotes text n) : m = n :=
  (denotes_iff.1 hm).value.symm.trans (denotes_iff.1 hn).value

/-! ### Reading digits -/

/-- More digits do not make a number smaller. -/
theorem le_ofDigitChars (digits : List Char) (value : Nat) : value ≤ Nat.ofDigitChars 10 digits value := by
  rw [Nat.ofDigitChars_eq_ofDigitChars_zero]
  exact Nat.le_add_right_of_le (Nat.le_mul_of_pos_left value (Nat.pow_pos (by decide)))

theorem pushDigit_of_isDigit {c : Char} (h : c.isDigit = true) (value : UInt64) :
    pushDigit value c =
      if 10 * value.toNat + (c.toNat - '0'.toNat) < UInt64.size then
        some (UInt64.ofNat (10 * value.toNat + (c.toNat - '0'.toNat)))
      else none := by
  simp [pushDigit, h]

/-- Digits are read one by one as long as there is room for the number so far. They are read to the end if and only if
there is room for the whole number, since it only grows on the way. -/
theorem foldlM_pushDigit {digits : List Char} (h : ∀ c ∈ digits, c.isDigit = true) (value : UInt64) :
    digits.foldlM pushDigit value =
      if Nat.ofDigitChars 10 digits value.toNat < UInt64.size then
        some (UInt64.ofNat (Nat.ofDigitChars 10 digits value.toNat))
      else none := by
  induction digits generalizing value with
  | nil => simp [UInt64.toNat_lt_size]
  | cons c rest ih =>
    obtain ⟨hc, hrest⟩ := List.forall_mem_cons.1 h
    rw [List.foldlM_cons, pushDigit_of_isDigit hc, Nat.ofDigitChars_cons]
    generalize 10 * value.toNat + (c.toNat - '0'.toNat) = next
    by_cases hroom : next < UInt64.size
    · rw [if_pos hroom, Option.bind_eq_bind, Option.bind_some, ih hrest, UInt64.toNat_ofNat_of_lt' hroom]
    · -- the digits that follow do not make the number smaller again
      have hgrown := le_ofDigitChars rest next
      rw [if_neg hroom, if_neg (by omega)]
      rfl

namespace IsNumeral

variable {digits : List Char} {n : Nat}

/-- Digits are read if and only if their value fits into sixty-four bits. -/
theorem readWord_eq (h : IsNumeral digits n) :
    readWord digits = if n < UInt64.size then some (UInt64.ofNat n) else none := by
  have hsign : digits.head? ≠ some '+' := by
    intro hplus
    have hdigit := h.isDigit '+' (List.mem_of_mem_head? hplus)
    cases hdigit
  rw [readWord, if_neg hsign, if_neg (by simpa using h.ne_nil), foldlM_pushDigit h.isDigit, ← h.value]
  rfl

/-- A number in decimal, with leading zeros or without. -/
theorem of_repr (zeros n : Nat) : IsNumeral (List.replicate zeros '0' ++ n.repr.toList) n where
  ne_nil := by simp [Nat.toDigits_ne_nil]
  isDigit c hc := by
    rcases List.mem_append.1 hc with hc | hc
    · rw [List.eq_of_mem_replicate hc]
      rfl
    · rw [Nat.toList_repr] at hc
      exact Nat.isDigit_of_mem_toDigits (by decide) (by decide) hc
  value := by
    rw [Nat.ofDigitChars_append, Nat.ofDigitChars_replicate_zero, Nat.mul_zero, Nat.toList_repr,
      Nat.ofDigitChars_ten_toDigits]

end IsNumeral

/-! ### Parsing -/

/-- A number that fits into sixty-four bits is compared with the largest content length there. -/
theorem ofNat_le_maxContentLength {n : Nat} (h : n < UInt64.size) :
    UInt64.ofNat n ≤ maxContentLength ↔ n ≤ 2 ^ 60 - 1 := by
  rw [UInt64.le_iff_toNat_le, UInt64.toNat_ofNat_of_lt' h]
  rfl

namespace Config

theorem ofLength_eq (length : UInt64) :
    ofLength length =
      if length ≤ maxContentLength then .ok { default with contentLength := length }
      else .error (.invalidArgument .tooLong) := by
  unfold ofLength
  split
  · next hle => rw [checkLength_eq_ok_iff.2 hle]; rfl
  · next hlong => rw [checkLength, if_pos (UInt64.not_le.1 hlong)]; rfl

variable {text : String} {n : Nat}

/-- The two bounds give one verdict: a number is refused as too long if and only if it exceeds the largest content
length, whether it fits into sixty-four bits or not. -/
theorem parse_of_denotes (h : Denotes text n) :
    parse text =
      if n ≤ 2 ^ 60 - 1 then .ok { default with contentLength := UInt64.ofNat n }
      else .error (.invalidArgument .tooLong) := by
  have hdigits := denotes_iff.1 h
  have hform := isNumeral_form_iff.2 ⟨n, hdigits⟩
  simp only [parse, hform, Bool.false_eq_true, if_false, hdigits.readWord_eq]
  by_cases hroom : n < UInt64.size
  · rw [if_pos hroom]
    show ofLength (UInt64.ofNat n) = _
    simp only [ofLength_eq, ofNat_le_maxContentLength hroom]
  · have hlong : ¬ n ≤ 2 ^ 60 - 1 := fun hle => hroom (Nat.lt_of_le_of_lt hle (by decide))
    rw [if_neg hroom, if_neg hlong]

/-- A text of any other form is not decimal. -/
theorem parse_of_not_denotes (h : ∀ n, ¬ Denotes text n) : parse text = .error (.invalidArgument .notDecimal) := by
  have hnone : ¬ ∃ n, IsNumeral (trimBlanks text.toList) n := fun ⟨n, hn⟩ => h n (denotes_iff.2 hn)
  have hform := eq_true_of_ne_false (mt isNumeral_form_iff.1 hnone)
  simp only [parse, hform, if_true]

/-- A plus sign is refused, though a number of sixty-four bits may have one. -/
example : readWord "+5".toList = some 5 ∧ parse "+5" = .error (.invalidArgument .notDecimal) := by
  decide

/-- The configuration that is parsed is the one that the number gives. -/
theorem eq_of_parse {c : Config} (hparse : parse text = .ok c) (h : Denotes text n) :
    c.contentLength.toNat = n ∧ ofLength (UInt64.ofNat n) = .ok c ∧ c.validate = .ok () := by
  rw [parse_of_denotes h] at hparse
  split at hparse
  · next hle =>
    cases hparse
    have hroom : n < UInt64.size := Nat.lt_of_le_of_lt hle (by decide)
    have hfits := (ofNat_le_maxContentLength hroom).2 hle
    exact ⟨UInt64.toNat_ofNat_of_lt' hroom, by rw [ofLength_eq, if_pos hfits], checkLength_eq_ok_iff.2 hfits⟩
  · cases hparse

/-- A text is refused as an argument that is not acceptable, with the given reason. -/
def RefusedWith (text reason : String) : Prop :=
  ∃ fault, parse text = .error (.invalidArgument fault) ∧ fault.message = reason

/-- Texts that are parsed, texts that give too large a number, and the others. -/
theorem verdict_iff (text : String) :
    ((∃ c, parse text = .ok c) ↔ ∃ n ≤ 2 ^ 60 - 1, Denotes text n) ∧
      (RefusedWith text ArgumentFault.tooLong.message ↔ ∃ n > 2 ^ 60 - 1, Denotes text n) ∧
      (RefusedWith text ArgumentFault.notDecimal.message ↔ ∀ n, ¬ Denotes text n) := by
  have hdistinct : ArgumentFault.tooLong.message ≠ ArgumentFault.notDecimal.message := by decide
  by_cases hform : ∃ n, Denotes text n
  · obtain ⟨n, hn⟩ := hform
    have honly (m : Nat) : Denotes text m ↔ m = n := ⟨fun hm => hm.unique hn, fun hm => hm ▸ hn⟩
    have hparse := parse_of_denotes hn
    by_cases hle : n ≤ 2 ^ 60 - 1
    · rw [if_pos hle] at hparse
      simpa [RefusedWith, hparse, honly] using hle
    · rw [if_neg hle] at hparse
      simpa [RefusedWith, hparse, honly, hdistinct] using hle
  · have hnone : ∀ n, ¬ Denotes text n := not_exists.1 hform
    simp [RefusedWith, parse_of_not_denotes hnone, hnone, hdistinct.symm]

/-- **Which texts are content lengths.** A text is parsed if and only if it gives a number up to the largest content
length, in digits with blanks around them. The configuration is then the one that the number itself gives, it has that
number as its content length, and it is valid. A text that gives a larger number is refused as too long, and every other
text as not decimal. So the decimal form of every content length is parsed to that length, with any leading zeros and
any blanks around it. -/
theorem parse_decides (text : String) :
    ((∃ c, parse text = .ok c) ↔ ∃ n ≤ 2 ^ 60 - 1, Denotes text n) ∧
      (∀ c n, parse text = .ok c → Denotes text n →
        c.contentLength.toNat = n ∧ ofLength (UInt64.ofNat n) = .ok c ∧ c.validate = .ok ()) ∧
      (RefusedWith text "content length is too long" ↔ ∃ n > 2 ^ 60 - 1, Denotes text n) ∧
      (RefusedWith text "content length must be a non-negative decimal integer" ↔ ∀ n, ¬ Denotes text n) ∧
      ∀ n ≤ 2 ^ 60 - 1, ∀ zeros, IsPadded (List.replicate zeros '0' ++ n.repr.toList) text →
        ∃ c, parse text = .ok c ∧ c.contentLength.toNat = n := by
  obtain ⟨haccepted, hlong, hother⟩ := verdict_iff text
  refine ⟨haccepted, fun c n hparse hn => eq_of_parse hparse hn, hlong, hother, ?_⟩
  intro n hle zeros hpadded
  have hn : Denotes text n := ⟨_, .of_repr zeros n, hpadded⟩
  obtain ⟨c, hc⟩ := haccepted.2 ⟨n, hle, hn⟩
  exact ⟨c, hc, (eq_of_parse hc hn).1⟩

/-- Seven, with two leading zeros, a tab before it and the end of a line after it. -/
theorem parse_decides_seven :
    IsPadded (List.replicate 2 '0' ++ (7 : Nat).repr.toList) "\t007\r\n" ∧
      ∃ c, parse "\t007\r\n" = .ok c ∧ c.contentLength.toNat = 7 := by
  have hpadded : IsPadded (List.replicate 2 '0' ++ (7 : Nat).repr.toList) "\t007\r\n" :=
    ⟨['\t'], ['\r', '\n'], by decide, by simp [blanks]⟩
  obtain ⟨-, -, -, -, hpad⟩ := parse_decides "\t007\r\n"
  exact ⟨hpadded, hpad 7 (by decide) 2 hpadded⟩

end Config

end ExactLength
