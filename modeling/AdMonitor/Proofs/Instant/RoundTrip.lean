import AdMonitor.Instant.Reader
import AdMonitor.Instant.Writer
import AdMonitor.Proofs.Instant.Calendar
import Mathlib.Data.List.TakeWhile

/-!
# Written instants are read back

Every instant of the years that can be represented is read back from its text,
instants inside a leap second included.
-/

namespace AdMonitor

open AdMonitor.Text (skipBlanks)

/-! ## Digits -/

theorem toList_paddedDigits (width n : Nat) : (paddedDigits width n).toList =
    List.replicate (width - (Nat.toDigits 10 n).length) '0' ++ Nat.toDigits 10 n := by
  simp [paddedDigits]

theorem isDigit_of_mem_paddedDigits {width n : Nat} {c : Char}
    (found : c ∈ (paddedDigits width n).toList) : c.isDigit = true := by
  rw [toList_paddedDigits] at found
  rcases List.mem_append.1 found with found | found
  · cases List.eq_of_mem_replicate found
    rfl
  · exact Nat.isDigit_of_mem_toDigits (by decide) (by decide) found

theorem length_paddedDigits {width n : Nat} (isWide : 0 < width) (fits : n < 10 ^ width) :
    (paddedDigits width n).toList.length = width := by
  have few := (Nat.length_toDigits_le_iff (b := 10) (by decide) isWide).2 fits
  rw [toList_paddedDigits, List.length_append, List.length_replicate]
  omega

theorem paddedDigits_ne_nil (width n : Nat) : (paddedDigits width n).toList ≠ [] := by
  simp [toList_paddedDigits, Nat.toDigits_ne_nil]

/-- The number that some digits stand for. -/
theorem foldl_digits (digits : List Char) :
    digits.foldl (fun n c => n * 10 + (c.toNat - '0'.toNat)) 0 = Nat.ofDigitChars 10 digits 0 := by
  simp only [Nat.ofDigitChars_eq_foldl, Nat.mul_comm]

theorem ofDigitChars_paddedDigits (width n : Nat) :
    Nat.ofDigitChars 10 (paddedDigits width n).toList 0 = n := by
  rw [toList_paddedDigits, Nat.ofDigitChars_append, Nat.ofDigitChars_replicate_zero,
    Nat.mul_zero, Nat.ofDigitChars_toDigits (by decide) (by decide)]

theorem isBlank_of_isDigit {c : Char} (isDigit : c.isDigit = true) : Text.isBlank c = false := by
  have bounds : 48 ≤ c.toNat ∧ c.toNat ≤ 57 := by
    simpa [Char.isDigit, UInt32.le_iff_toNat_le] using isDigit
  simp [Text.isBlank]
  omega

theorem skipBlanks_digits {digits rest : List Char} (isSome : digits ≠ [])
    (allDigits : ∀ c ∈ digits, c.isDigit = true) :
    skipBlanks (digits ++ rest) = digits ++ rest := by
  cases digits with
  | nil => exact absurd rfl isSome
  | cons c digits => simp [skipBlanks, isBlank_of_isDigit (allDigits c List.mem_cons_self)]

/-- Digits are told apart from a text that does not begin with one. -/
theorem span_digits {digits rest : List Char} (allDigits : ∀ c ∈ digits, c.isDigit = true)
    (ends : ∀ c ∈ rest.head?, c.isDigit = false) :
    (digits ++ rest).takeWhile Char.isDigit = digits ∧
      (digits ++ rest).dropWhile Char.isDigit = rest := by
  have stops : rest.takeWhile Char.isDigit = [] ∧ rest.dropWhile Char.isDigit = rest := by
    cases rest with
    | nil => exact ⟨rfl, rfl⟩
    | cons c rest => simp [ends c rfl]
  rw [List.takeWhile_append_of_pos allDigits, List.dropWhile_append_of_pos allDigits, stops.1,
    stops.2, List.append_nil]
  exact ⟨rfl, rfl⟩

namespace Instant

/-! ## The parts of a text -/

@[simp] theorem readNumber_paddedDigits {width n : Nat} {rest : List Char} (isWide : 0 < width)
    (fits : n < 10 ^ width) :
    readNumber width ((paddedDigits width n).toList ++ rest) = some (n, rest) := by
  have isDigit : ∀ c ∈ (paddedDigits width n).toList, c.isDigit = true :=
    fun _ => isDigit_of_mem_paddedDigits
  have length := length_paddedDigits isWide fits
  have taken : (((paddedDigits width n).toList ++ rest).take width).takeWhile Char.isDigit =
      (paddedDigits width n).toList := by
    rw [List.take_left' length, List.takeWhile_eq_self_iff.2 isDigit]
  have isSome : (paddedDigits width n).toList.isEmpty = false :=
    List.isEmpty_eq_false_iff.2 (paddedDigits_ne_nil width n)
  simp only [readNumber, skipBlanks_digits (paddedDigits_ne_nil width n) isDigit, taken,
    foldl_digits, ofDigitChars_paddedDigits, List.drop_left, isSome, Bool.false_eq_true, if_false]

@[simp] theorem afterMark_dash (rest : List Char) : afterMark '-' ('-' :: rest) = some rest := rfl

@[simp] theorem afterMark_colon (rest : List Char) : afterMark ':' (':' :: rest) = some rest := rfl

/-- A year without a sign is read as a number. -/
theorem readYear_of_isDigit {c : Char} {text : List Char} (isDigit : c.isDigit = true) :
    readYear (c :: text) =
      (readNumber 4 (c :: text)).map fun (year, rest) => ((year : Int), rest) := by
  have isBlank := isBlank_of_isDigit isDigit
  have notMinus : c ≠ '-' := by
    rintro rfl
    exact absurd isDigit (by decide)
  have notPlus : c ≠ '+' := by
    rintro rfl
    exact absurd isDigit (by decide)
  simp [readYear, skipBlanks, isBlank, notMinus, notPlus]

theorem readYear_of_sign {digits rest : List Char} (isSome : digits ≠ [])
    (allDigits : ∀ c ∈ digits, c.isDigit = true) (few : digits.length ≤ 18) :
    readYear ('-' :: (digits ++ '-' :: rest)) =
        some (-(Nat.ofDigitChars 10 digits 0 : Int), '-' :: rest) ∧
      readYear ('+' :: (digits ++ '-' :: rest)) =
        some ((Nat.ofDigitChars 10 digits 0 : Int), '-' :: rest) := by
  have ends : ∀ c ∈ ('-' :: rest).head?, c.isDigit = false := by simp
  obtain ⟨taken, dropped⟩ := span_digits allDigits ends
  cases digits with
  | nil => exact absurd rfl isSome
  | cons d digits =>
      have short : ¬ 18 < (d :: digits).length := Nat.not_lt.2 few
      have minus : Text.isBlank '-' = false := rfl
      have plus : Text.isBlank '+' = false := rfl
      simp only [readYear, skipBlanks, List.dropWhile_cons, minus, plus, Bool.false_eq_true,
        if_false, taken, dropped, if_neg short, foldl_digits, Int.neg_mul, Int.one_mul]
      exact ⟨trivial, trivial⟩

theorem readYear_writeYear {year : Int} {rest : List Char} (inRange : yearInRange year = true) :
    readYear ((writeYear year).toList ++ '-' :: rest) = some (year, '-' :: rest) := by
  simp only [yearInRange, Bool.and_eq_true, decide_eq_true_eq] at inRange
  have allDigits : ∀ width n, ∀ c ∈ (paddedDigits width n).toList, c.isDigit = true :=
    fun _ _ _ => isDigit_of_mem_paddedDigits
  by_cases short : 0 ≤ year ∧ year ≤ 9999
  · have isRead : readNumber 4 ((paddedDigits 4 year.toNat).toList ++ '-' :: rest) =
        some (year.toNat, '-' :: rest) := readNumber_paddedDigits (by decide) (by omega)
    rw [writeYear, if_pos short]
    cases isYear : (paddedDigits 4 year.toNat).toList with
    | nil => exact absurd isYear (paddedDigits_ne_nil 4 _)
    | cons c digits =>
        rw [isYear] at isRead
        rw [List.cons_append] at isRead ⊢
        rw [readYear_of_isDigit (allDigits 4 year.toNat c (isYear ▸ List.mem_cons_self)), isRead]
        simp [Int.toNat_of_nonneg short.1]
  · have few : (paddedDigits 4 year.natAbs).toList.length ≤ 18 := by
      have isShort : (Nat.toDigits 10 year.natAbs).length ≤ 6 :=
        (Nat.length_toDigits_le_iff (by decide) (by decide)).2 (by omega)
      rw [toList_paddedDigits, List.length_append, List.length_replicate]
      omega
    obtain ⟨minus, plus⟩ := @readYear_of_sign _ rest (paddedDigits_ne_nil 4 year.natAbs)
      (allDigits 4 _) few
    rw [ofDigitChars_paddedDigits] at minus plus
    rw [writeYear, if_neg short]
    by_cases isNegative : year < 0
    · have same : -(year.natAbs : Int) = year := by omega
      simp only [if_pos isNegative, String.toList_append, String.reduceToList, List.cons_append,
        List.nil_append, minus, same]
    · have same : (year.natAbs : Int) = year := by omega
      simp only [if_neg isNegative, String.toList_append, String.reduceToList, List.cons_append,
        List.nil_append, plus, same]

theorem readFraction_digits {width n : Nat} (isWide : 0 < width) (fits : n < 10 ^ width)
    (le : width ≤ 9) : readFraction ('.' :: ((paddedDigits width n).toList ++ ['Z'])) =
      some (n * 10 ^ (9 - width), ['Z']) := by
  have allDigits : ∀ c ∈ (paddedDigits width n).toList, c.isDigit = true :=
    fun _ => isDigit_of_mem_paddedDigits
  have length := length_paddedDigits isWide fits
  have ends : ∀ c ∈ ['Z'].head?, c.isDigit = false := by simp
  obtain ⟨taken, dropped⟩ := span_digits allDigits ends
  have kept : ((paddedDigits width n).toList ++ List.replicate 9 '0').take 9 =
      (paddedDigits width n).toList ++ List.replicate (9 - width) '0' := by
    rw [List.take_append, length, List.take_of_length_le (by omega), List.take_replicate,
      Nat.min_eq_left (Nat.sub_le 9 width)]
  have value := ofDigitChars_paddedDigits width n
  have isSome := paddedDigits_ne_nil width n
  generalize (paddedDigits width n).toList = digits at *
  cases digits with
  | nil => exact absurd rfl isSome
  | cons d digits =>
      simp only [readFraction, taken, dropped, kept, foldl_digits, Nat.ofDigitChars_append,
        Nat.ofDigitChars_replicate_zero, value, Nat.mul_comm]

theorem readFraction_writeFraction {nanos : Nat} (fits : nanos < nanosPerSecond) :
    readFraction ((writeFraction nanos).toList ++ ['Z']) = some (nanos, ['Z']) := by
  have isFraction : ∀ digits, ("." ++ digits).toList ++ ['Z'] = '.' :: (digits.toList ++ ['Z']) :=
    fun digits => by simp
  rw [nanosPerSecond] at fits
  rw [writeFraction]
  split
  · next none =>
    rw [none]
    rfl
  · split
    · rw [isFraction, readFraction_digits (by decide) (by omega) (by decide)]
      congr 2
      omega
    · split
      · rw [isFraction, readFraction_digits (by decide) (by omega) (by decide)]
        congr 2
        omega
      · rw [isFraction, readFraction_digits (by decide) (by omega) (by decide)]
        congr 2
        omega

/-! ## Whole instants -/

/--
An instant that clocks show: its year can be represented, and a fraction of one
second or more belongs to the last second of a minute.
-/
structure IsRegular (t : Instant) : Prop where
  year : yearInRange (Date.ofDays t.day).year = true
  nanos : t.nanos < nanosPerSecond ∨ (t.seconds % 60 = 59 ∧ t.nanos < 2 * nanosPerSecond)

theorem toList_write (t : Instant) : t.write.toList =
    (writeYear (Date.ofDays t.day).year).toList ++ '-' ::
      ((paddedDigits 2 (Date.ofDays t.day).month).toList ++ '-' ::
      ((paddedDigits 2 (Date.ofDays t.day).dayOfMonth).toList ++ 'T' ::
      ((paddedDigits 2 (t.secondOfDay.toNat / 3600)).toList ++ ':' ::
      ((paddedDigits 2 (t.secondOfDay.toNat / 60 % 60)).toList ++ ':' ::
      ((paddedDigits 2 (t.secondOfDay.toNat % 60 + if t.inLeapSecond then 1 else 0)).toList ++
      ((writeFraction (t.nanos % nanosPerSecond)).toList ++ ['Z'])))))) := by
  simp [write]

/-- Steps of reading one after the other. -/
private theorem bind_eq_some {α β : Type} {x : Option α} {f : α → Option β} {a : α} {b : β}
    (first : x = some a) (next : f a = some b) : (x >>= f) = some b := by
  rw [first]
  exact next

/-- A leap second is told by its number. -/
theorem IsRegular.leap {t : Instant} (regular : t.IsRegular) :
    (if t.secondOfDay.toNat % 60 + (if t.inLeapSecond then 1 else 0) = 60 then 1 else 0) =
        (if t.inLeapSecond then 1 else 0) ∧
      t.secondOfDay.toNat % 60 + (if t.inLeapSecond then 1 else 0) ≤ 60 ∧
      t.nanos % nanosPerSecond + (if t.inLeapSecond then 1 else 0) * nanosPerSecond = t.nanos := by
  have nanos := regular.nanos
  simp only [secondOfDay, nanosPerSecond] at nanos ⊢
  cases isLeap : t.inLeapSecond with
  | false =>
      have within : t.nanos < 1000000000 := Nat.not_le.1 (of_decide_eq_false isLeap)
      simp only [Bool.false_eq_true, if_false]
      split <;> omega
  | true =>
      have beyond : 1000000000 ≤ t.nanos := of_decide_eq_true isLeap
      simp only [if_true]
      split <;> omega

/-- Every instant that clocks show is read back. -/
theorem read?_write {t : Instant} (regular : t.IsRegular) : read? t.write = some t := by
  have valid := Date.isValid_ofDays t.day
  obtain ⟨month, dayOfMonth⟩ := Date.lt_of_isValid valid
  obtain ⟨isLeap, inMinute, nanos⟩ := regular.leap
  have inDay : t.secondOfDay.toNat < 86400 := by
    rw [secondOfDay]
    omega
  have fraction : t.nanos % nanosPerSecond < nanosPerSecond := Nat.mod_lt _ (by decide)
  rw [read?, toList_write]
  generalize leaps : (if t.inLeapSecond then 1 else 0) = leap at *
  refine bind_eq_some (readYear_writeYear regular.year) ?_
  refine bind_eq_some (afterMark_dash _) ?_
  refine bind_eq_some (readNumber_paddedDigits (by decide) month) ?_
  refine bind_eq_some (afterMark_dash _) ?_
  refine bind_eq_some (readNumber_paddedDigits (by decide) dayOfMonth) ?_
  refine bind_eq_some (x := some _) rfl ?_
  refine bind_eq_some (readNumber_paddedDigits (by decide) (by omega)) ?_
  refine bind_eq_some (afterMark_colon _) ?_
  refine bind_eq_some (readNumber_paddedDigits (by decide) (by omega)) ?_
  refine bind_eq_some (afterMark_colon _) ?_
  refine bind_eq_some (readNumber_paddedDigits (by decide) (by omega)) ?_
  refine bind_eq_some (readFraction_writeFraction fraction) ?_
  refine bind_eq_some (x := some (0, [])) rfl ?_
  have inUtc : t.day * 86400 + (t.secondOfDay.toNat / 3600 : Nat) * 3600 +
      (t.secondOfDay.toNat / 60 % 60 : Nat) * 60 +
      (t.secondOfDay.toNat % 60 + leap - leap : Nat) - 0 = t.seconds := by
    simp only [day, secondOfDay]
    omega
  have isDay : t.seconds / 86400 = t.day := rfl
  have isDate : (⟨(Date.ofDays t.day).year, (Date.ofDays t.day).month,
      (Date.ofDays t.day).dayOfMonth⟩ : Date) = Date.ofDays t.day := rfl
  have hours : t.secondOfDay.toNat / 3600 < 24 := by omega
  have minutes : t.secondOfDay.toNat / 60 % 60 < 60 := by omega
  simp only [isLeap, isDate, Date.toDays_ofDays, inUtc, isDay, regular.year, valid, hours, minutes,
    inMinute, nanos]
  rfl

end Instant
end AdMonitor
