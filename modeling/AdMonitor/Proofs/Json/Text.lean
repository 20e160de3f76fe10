import AdMonitor.Json.Reader
import AdMonitor.Json.Writer
import Mathlib.Data.List.DropRight

/-!
# Written text is read back

The indented text of a tree is read back as that tree, provided that each of
its numbers is read back by itself and that it does not nest too deep.
-/

namespace AdMonitor.Json

/-! ## Strings -/

theorem hexDigit?_hexDigit : ∀ n < 16, hexDigit? (hexDigit n) = some n := by
  decide

/-- A control character is read back from its number. -/
theorem readEscape_control {c : Char} {rest : List Char} (isControl : c.toNat < 0x20) :
    readEscape ('u' :: '0' :: '0' :: hexDigit (c.toNat / 16) :: hexDigit (c.toNat % 16) :: rest) =
      some (c, rest) := by
  have high := hexDigit?_hexDigit (c.toNat / 16) (by omega)
  have low := hexDigit?_hexDigit (c.toNat % 16) (by omega)
  have zero : hexDigit? '0' = some 0 := rfl
  have number : ((0 * 16 + 0) * 16 + c.toNat / 16) * 16 + c.toNat % 16 = c.toNat := by omega
  have notLow : ¬ (0xDC00 ≤ c.toNat ∧ c.toNat < 0xE000) := by omega
  have notHigh : ¬ (0xD800 ≤ c.toNat ∧ c.toNat < 0xDC00) := by omega
  simp only [readEscape, readUnicode, readUnit, high, low, zero, number, Option.bind_eq_bind,
    Option.bind_some, Option.pure_def, if_neg notLow, if_neg notHigh, Char.ofNat_toNat]

theorem readString_escapeChar (fuel : Nat) (read rest : List Char) (c : Char) :
    readString (fuel + 1) read (escapeChar c ++ rest) = readString fuel (c :: read) rest := by
  unfold escapeChar
  split
  case h_8 notQuote notSlash _ _ _ _ _ =>
    split
    · next isControl =>
      simp only [List.cons_append, List.nil_append, readString, readEscape_control isControl]
    · next isPlain =>
      simp [readString, isPlain]
  all_goals rfl

theorem readString_escaped (fuel : Nat) (read chars rest : List Char) (fits : chars.length ≤ fuel) :
    readString (fuel + 1) read (chars.flatMap escapeChar ++ '"' :: rest) =
      some (chars.reverse ++ read, rest) := by
  induction chars generalizing fuel read with
  | nil => rfl
  | cons c chars ih =>
      obtain ⟨fuel, rfl⟩ : ∃ n, fuel = n + 1 := ⟨fuel - 1, by simp at fits; omega⟩
      rw [List.flatMap_cons, List.append_assoc, readString_escapeChar,
        ih fuel _ (by simpa using fits)]
      simp

theorem length_le_escaped (chars : List Char) :
    chars.length ≤ (chars.flatMap escapeChar).length := by
  induction chars with
  | nil => exact Nat.le_refl 0
  | cons c chars ih =>
      have isSome : 1 ≤ (escapeChar c).length := by
        unfold escapeChar
        split
        case h_8 => split <;> simp
        all_goals decide
      rw [List.flatMap_cons, List.length_append, List.length_cons]
      omega

/-- A string is read back when it has no more characters than the reader expects. -/
theorem readText_escaped {size : Nat} {s : String} {rest : List Char}
    (fits : (s.toList.flatMap escapeChar).length ≤ size) :
    readText size (s.toList.flatMap escapeChar ++ '"' :: rest) = some (s, rest) := by
  have few := Nat.le_trans (length_le_escaped s.toList) fits
  rw [readText, readString_escaped size [] s.toList rest few]
  simp

/-! ## Numbers -/

def EndsNumber (rest : List Char) : Prop :=
  ∀ c ∈ rest.head?, c.isDigit = false ∧ c ≠ '.' ∧ c ≠ 'e' ∧ c ≠ 'E'

section Numbers

variable {text digits left rest : List Char}

theorem readDigits_append (ends : EndsNumber rest)
    (isRead : readDigits text = some (digits, left)) :
    readDigits (text ++ rest) = some (digits, left ++ rest) := by
  have stops : rest.takeWhile Char.isDigit = [] ∧ rest.dropWhile Char.isDigit = rest := by
    cases rest with
    | nil => exact ⟨rfl, rfl⟩
    | cons c rest => simp [(ends c rfl).1]
  have taken : (text ++ rest).takeWhile Char.isDigit = text.takeWhile Char.isDigit := by
    rw [List.takeWhile_append, stops.1, List.append_nil]
    split
    · next all => exact (List.takeWhile_prefix _).eq_of_length all |>.symm
    · rfl
  have dropped : (text ++ rest).dropWhile Char.isDigit = text.dropWhile Char.isDigit ++ rest := by
    rw [List.dropWhile_append, stops.2]
    split
    · next none => rw [List.isEmpty_iff.1 none, List.nil_append]
    · rfl
  rw [readDigits] at isRead ⊢
  rw [taken, dropped]
  split at isRead
  · cases isRead
  · cases isRead
    rfl

theorem readWhole_append (ends : EndsNumber rest) (isRead : readWhole text = some (digits, left)) :
    readWhole (text ++ rest) = some (digits, left ++ rest) := by
  unfold readWhole at isRead
  split at isRead
  · split at isRead
    · next c others =>
      split at isRead
      · cases isRead
      · next notDigit =>
        cases isRead
        simp [readWhole, notDigit]
    · cases isRead
      cases rest with
      | nil => rfl
      | cons c rest => simp [readWhole, (ends c rfl).1]
  · next notZero =>
    rw [readWhole]
    · exact readDigits_append ends isRead
    · intro others same
      cases text with
      | nil => cases isRead
      | cons c text => 
        injection same with same _
        exact notZero _ (by rw [same])

theorem readFraction_append (ends : EndsNumber rest)
    (isRead : readFraction text = some (digits, left)) :
    readFraction (text ++ rest) = some (digits, left ++ rest) := by
  unfold readFraction at isRead
  split at isRead
  · exact readDigits_append ends isRead
  · next notPoint =>
    cases isRead
    rw [readFraction]
    intro others same
    cases text with
    | nil =>
      cases rest with
      | nil => cases same
      | cons c rest =>
        injection same with same _
        exact (ends c rfl).2.1 same
    | cons c text =>
      injection same with same _
      exact notPoint _ (by rw [same])

theorem readExponent_append {exponent : Option Int} (ends : EndsNumber rest)
    (isRead : readExponent text = some (exponent, left)) :
    readExponent (text ++ rest) = some (exponent, left ++ rest) := by
  have signed : ∀ (sign : Int) (text : List Char),
      ((readDigits text).map fun read => (some (sign * digitsValue read.1), read.2)) =
        some (exponent, left) →
      ((readDigits (text ++ rest)).map fun read => (some (sign * digitsValue read.1), read.2)) =
        some (exponent, left ++ rest) := by
    intro sign text isRead
    obtain ⟨⟨digits, others⟩, isDigits, same⟩ := Option.map_eq_some_iff.1 isRead
    cases same
    rw [readDigits_append ends isDigits]
    rfl
  cases text with
  | nil =>
      cases isRead
      cases rest with
      | nil => rfl
      | cons c rest => simp [readExponent, (ends c rfl).2.2]
  | cons c text =>
      simp only [readExponent, List.cons_append] at isRead ⊢
      by_cases isMark : (c == 'e' || c == 'E') = true
      · rw [if_pos isMark] at isRead ⊢
        split at isRead
        · exact signed _ _ isRead
        · exact signed _ _ isRead
        · next notPlus notMinus =>
          cases text with
          | nil => cases isRead
          | cons d text =>
              have plus : d ≠ '+' := fun same => notPlus text (by rw [same])
              have minus : d ≠ '-' := fun same => notMinus text (by rw [same])
              have isDigits := signed 1 (d :: text) isRead
              simpa [plus, minus] using isDigits
      · rw [if_neg isMark] at isRead ⊢
        cases isRead
        rfl

def readMagnitude (negative : Bool) (text : List Char) : Option (Json × List Char) := do
  let (whole, text) ← readWhole text
  let (fraction, text) ← readFraction text
  let (exponent, text) ← readExponent text
  let digits := digitsValue (whole ++ fraction)
  let isInt := fraction.isEmpty && exponent.isNone && !(negative && digits == 0)
  let signed : Int := if negative then -(digits : Int) else digits
  if isInt && isPlainInt signed then
    return (.int signed, text)
  else do
    let x ← Decimal.nearest? negative digits (exponent.getD 0 - fraction.length)
    return (.float x, text)

theorem readNumber_of_ne_minus (noMinus : '-' ∉ text.head?) :
    readNumber text = readMagnitude false text := by
  cases text with
  | nil => rfl
  | cons c text =>
      have isOther : c ≠ '-' := fun same => noMinus (by simp [same])
      unfold readNumber
      split
      next sign =>
      split at sign
      · next same => exact absurd (List.cons.inj same).1 isOther
      · cases sign
        rfl

theorem readMagnitude_append {negative : Bool} {json : Json} (ends : EndsNumber rest)
    (isRead : readMagnitude negative text = some (json, left)) :
    readMagnitude negative (text ++ rest) = some (json, left ++ rest) := by
  obtain ⟨⟨whole, text₁⟩, isWhole, isRead⟩ := Option.bind_eq_some_iff.1 isRead
  obtain ⟨⟨fraction, text₂⟩, isFraction, isRead⟩ := Option.bind_eq_some_iff.1 isRead
  obtain ⟨⟨exponent, text₃⟩, isExponent, isRead⟩ := Option.bind_eq_some_iff.1 isRead
  simp only [readMagnitude, readWhole_append ends isWhole, readFraction_append ends isFraction,
    readExponent_append ends isExponent, Option.bind_eq_bind, Option.bind_some]
  dsimp only at isRead
  generalize (if negative = true then -(digitsValue (whole ++ fraction) : Int)
    else digitsValue (whole ++ fraction)) = signed at isRead ⊢
  split at isRead
  · next isInt =>
    cases isRead
    rw [if_pos isInt]
    rfl
  · next isInt =>
    obtain ⟨x, isNearest, isRead⟩ := Option.bind_eq_some_iff.1 isRead
    cases isRead
    rw [if_neg isInt, isNearest]
    rfl

/-- A number that is a whole text is also read where no number goes on. -/
theorem readNumber_append {json : Json} (ends : EndsNumber rest)
    (isRead : readNumber text = some (json, [])) :
    readNumber (text ++ rest) = some (json, rest) := by
  cases text with
  | nil => cases isRead
  | cons c text =>
      by_cases minus : c = '-'
      · subst minus
        exact readMagnitude_append ends isRead
      · have isOther : ∀ others, '-' ∉ (c :: others).head? := by simpa using minus
        rw [readNumber_of_ne_minus (isOther _)] at isRead
        rw [List.cons_append, readNumber_of_ne_minus (isOther _)]
        exact readMagnitude_append ends isRead

/-- A number begins with its sign or with a digit. -/
theorem head_of_readNumber {json : Json} (isRead : readNumber text = some (json, left)) :
    ∃ c others, text = c :: others ∧ (c = '-' ∨ c.isDigit = true) := by
  cases text with
  | nil => cases isRead
  | cons c text =>
      refine ⟨c, text, rfl, ?_⟩
      by_cases minus : c = '-'
      · exact .inl minus
      · rw [readNumber_of_ne_minus (by simpa using minus)] at isRead
        obtain ⟨⟨whole, others⟩, isWhole, -⟩ := Option.bind_eq_some_iff.1 isRead
        right
        unfold readWhole at isWhole
        split at isWhole
        · next same =>
          injection same with same _
          rw [same]
          rfl
        · rw [readDigits] at isWhole
          split at isWhole
          · cases isWhole
          · next isSome =>
            cases isDigit : c.isDigit with
            | true => rfl
            | false => exact absurd (by simp [isDigit]) isSome

end Numbers

/-! ## Lists -/

/-- Texts on lines of their own, separated by commas; every line begins with `line`. -/
def joined (line : List Char) : List (List Char) → List Char
  | [] => []
  | [text] => line ++ text
  | text :: rest => line ++ text ++ ',' :: joined line rest

theorem length_le_joined {line text : List Char} {texts : List (List Char)}
    (found : text ∈ texts) : text.length ≤ (joined line texts).length := by
  induction texts with
  | nil => cases found
  | cons first texts ih =>
      cases texts with
      | nil =>
          cases List.mem_singleton.1 found
          simp [joined]
      | cons second texts =>
          rw [joined, List.length_append, List.length_append, List.length_cons]
          · rcases List.mem_cons.1 found with rfl | found
            · omega
            · have := ih found
              omega
          · exact nofun

theorem count_le_joined {line : List Char} (isSome : line ≠ []) (texts : List (List Char)) :
    texts.length ≤ (joined line texts).length := by
  have long : 0 < line.length := List.length_pos_iff.2 isSome
  induction texts with
  | nil => exact Nat.le_refl 0
  | cons first texts ih =>
      cases texts with
      | nil =>
          rw [joined, List.length_append, List.length_singleton]
          omega
      | cons second texts =>
          rw [joined, List.length_append, List.length_append, List.length_cons,
            List.length_cons (a := ',')]
          · omega
          · exact nofun

theorem skipBlanks_append {blanks text : List Char} (areBlank : ∀ c ∈ blanks, isBlank c = true)
    (begins : ∀ c ∈ text.head?, isBlank c = false) : skipBlanks (blanks ++ text) = text := by
  rw [skipBlanks, List.dropWhile_append_of_pos areBlank]
  cases text with
  | nil => rfl
  | cons c text => simp [begins c rfl]

def BeginsItem (c : Char) : Prop :=
  isBlank c = false ∧ c ≠ ']' ∧ c ≠ '}'

instance (c : Char) : Decidable (BeginsItem c) :=
  inferInstanceAs (Decidable (_ ∧ _))

structure ReadsItem {α : Type} (item : List Char → Option (α × List Char)) (a : α)
    (text : List Char) : Prop where
  begins : ∃ c others, text = c :: others ∧ BeginsItem c
  isRead : ∀ rest, EndsNumber rest → item (text ++ rest) = some (a, rest)

section Items

variable {α : Type} {item : List Char → Option (α × List Char)} {text : α → List Char}
  {close : Char} {line last rest : List Char} {items : List α}

theorem ReadsItem.skipBlanks_append {a : α} {text : List Char} (reads : ReadsItem item a text)
    (areBlank : ∀ c ∈ line, isBlank c = true) :
    skipBlanks (line ++ (text ++ rest)) = text ++ rest := by
  obtain ⟨c, others, rfl, begins⟩ := reads.begins
  exact Json.skipBlanks_append areBlank (by simpa using begins.1)

theorem readItems_joined {fuel : Nat} {read : List α} (areBlank : ∀ c ∈ line, isBlank c = true)
    (areBlank' : ∀ c ∈ last, isBlank c = true) (isMark : isBlank close = false ∧ close ≠ ',')
    (ends : EndsNumber (last ++ close :: rest)) (isSome : items ≠ []) (few : items.length ≤ fuel)
    (reads : ∀ a ∈ items, ReadsItem item a (text a)) :
    readItems item close fuel read (joined line (items.map text) ++ (last ++ close :: rest)) =
      some (read.reverse ++ items, rest) := by
  induction items generalizing fuel read with
  | nil => exact absurd rfl isSome
  | cons a items ih =>
      obtain ⟨fuel, rfl⟩ : ∃ n, fuel = n + 1 := ⟨fuel - 1, by simp at few; omega⟩
      have first := reads a List.mem_cons_self
      cases items with
      | nil =>
          have atClose : skipBlanks (last ++ close :: rest) = close :: rest :=
            skipBlanks_append areBlank' (by simpa using isMark.1)
          simp only [List.map_cons, List.map_nil, joined, List.append_assoc, readItems,
            first.skipBlanks_append areBlank, first.isRead _ ends, Option.bind_eq_bind,
            Option.bind_some, atClose]
          simp [isMark.2]
      | cons b items =>
          have atComma : EndsNumber
              (',' :: (joined line ((b :: items).map text) ++ (last ++ close :: rest))) := by
            simp [EndsNumber]
          have others := @ih fuel (a :: read) nofun (by simpa using few)
            fun a found => reads a (List.mem_cons_of_mem _ found)
          have comma : ∀ text, skipBlanks (',' :: text) = ',' :: text := fun _ => rfl
          simp only [List.map_cons] at others atComma
          simp only [List.map_cons, joined, List.append_assoc, List.cons_append, readItems,
            first.skipBlanks_append areBlank, first.isRead _ atComma, Option.bind_eq_bind,
            Option.bind_some, comma, others, List.reverse_cons]
          simp

theorem readItems_skipBlanks {fuel : Nat} {read : List α} {text : List Char} :
    readItems item close fuel read (skipBlanks text) = readItems item close fuel read text := by
  cases fuel with
  | zero => rfl
  | succ fuel => rw [readItems, readItems, skipBlanks, skipBlanks, List.dropWhile_idempotent]

theorem exists_joined (a : α) (items : List α) :
    ∃ others, joined line ((a :: items).map text) = line ++ (text a ++ others) := by
  cases items with
  | nil => exact ⟨[], by simp [joined]⟩
  | cons b items => exact ⟨',' :: joined line ((b :: items).map text), by simp [joined]⟩

theorem readList_joined {size : Nat} (areBlank : ∀ c ∈ line, isBlank c = true)
    (areBlank' : ∀ c ∈ last, isBlank c = true) (isClose : close = ']' ∨ close = '}')
    (ends : EndsNumber (last ++ close :: rest)) (isSome : items ≠ []) (few : items.length ≤ size)
    (reads : ∀ a ∈ items, ReadsItem item a (text a)) :
    readList item close size (joined line (items.map text) ++ (last ++ close :: rest)) =
      some (items, rest) := by
  have isMark : isBlank close = false ∧ close ≠ ',' := by rcases isClose with rfl | rfl <;> decide
  have areRead : readItems item close (size + 1) []
      (joined line (items.map text) ++ (last ++ close :: rest)) = some ([] ++ items, rest) :=
    readItems_joined areBlank areBlank' isMark ends isSome (Nat.le_succ_of_le few) reads
  rw [← readItems_skipBlanks] at areRead
  cases items with
  | nil => exact absurd rfl isSome
  | cons a items =>
      have first := reads a List.mem_cons_self
      obtain ⟨c, begun, isText, begins⟩ := first.begins
      obtain ⟨others, isJoined⟩ : ∃ others, joined line ((a :: items).map text) =
          line ++ (text a ++ others) := exists_joined a items
      have isOpen : skipBlanks (joined line ((a :: items).map text) ++ (last ++ close :: rest)) =
          c :: (begun ++ others ++ (last ++ close :: rest)) := by
        rw [isJoined, isText]
        have begins' : ∀ d ∈ (c :: (begun ++ others ++ (last ++ close :: rest))).head?,
            isBlank d = false := by simpa using begins.1
        simpa using skipBlanks_append areBlank begins'
      have notClose : (c == close) = false := by
        rcases isClose with rfl | rfl
        · exact beq_false_of_ne begins.2.1
        · exact beq_false_of_ne begins.2.2
      rw [isOpen] at areRead
      simp only [readList, isOpen, notClose, areRead]
      rfl

end Items

/-! ## Values -/

def IsReadBack (number : Json) : Prop :=
  readNumber (indented 0 number).toList = some (number, [])

/-- Trees that nest at most `depth` arrays and objects and whose numbers are read back. -/
inductive IsLegible : (depth : Nat) → Json → Prop
  | null {depth : Nat} : IsLegible depth .null
  | bool {depth : Nat} (b : Bool) : IsLegible depth (.bool b)
  | str {depth : Nat} (s : String) : IsLegible depth (.str s)
  | int {depth : Nat} {n : Int} (isReadBack : IsReadBack (.int n)) : IsLegible depth (.int n)
  | float {depth : Nat} {x : Float} (isReadBack : IsReadBack (.float x)) :
      IsLegible depth (.float x)
  | arr {depth : Nat} {items : List Json} (areLegible : ∀ item ∈ items, IsLegible depth item) :
      IsLegible (depth + 1) (.arr items)
  | obj {depth : Nat} {members : List (String × Json)}
      (areLegible : ∀ m ∈ members, IsLegible depth m.2) : IsLegible (depth + 1) (.obj members)

theorem toList_newLine (level : Nat) :
    (newLine level).toList = '\n' :: List.replicate (2 * level) ' ' := by
  simp [newLine]

theorem isBlank_newLine {level : Nat} {c : Char} (found : c ∈ (newLine level).toList) :
    isBlank c = true := by
  rw [toList_newLine] at found
  rcases List.mem_cons.1 found with rfl | found
  · rfl
  · rw [List.eq_of_mem_replicate found]
    rfl

theorem newLine_ne_nil (level : Nat) : (newLine level).toList ≠ [] := by
  simp [toList_newLine]

theorem endsNumber_newLine (level : Nat) (rest : List Char) :
    EndsNumber ((newLine level).toList ++ rest) := by
  simp [EndsNumber, toList_newLine]

theorem toList_indentedItems (level : Nat) (items : List Json) :
    (indentedItems level items).toList =
      joined (newLine level).toList (items.map fun item => (indented level item).toList) := by
  induction items with
  | nil => simp [indentedItems, joined]
  | cons item items ih =>
      cases items with
      | nil => simp [indentedItems, joined]
      | cons second items => simp [indentedItems, joined, ih]

def memberText (level : Nat) (m : String × Json) : List Char :=
  '"' :: (m.1.toList.flatMap escapeChar ++ '"' :: ':' :: ' ' :: (indented level m.2).toList)

theorem length_le_memberText (level : Nat) (m : String × Json) :
    (indented level m.2).toList.length ≤ (memberText level m).length := by
  simp only [memberText, List.length_cons, List.length_append]
  omega

theorem toList_indentedMembers (level : Nat) (members : List (String × Json)) :
    (indentedMembers level members).toList =
      joined (newLine level).toList (members.map (memberText level)) := by
  induction members with
  | nil => simp [indentedMembers, joined]
  | cons m members ih =>
      obtain ⟨name, value⟩ := m
      cases members with
      | nil => simp [indentedMembers, joined, memberText, quote]
      | cons second members => simp [indentedMembers, joined, memberText, quote, ih]

section Values

variable {size depth : Nat}

/-- Items on lines of their own are read between their brackets. -/
theorem readList_lines {α : Type} {item : List Char → Option (α × List Char)}
    {text : α → List Char} {items : List α} {close : Char} {level : Nat} {rest : List Char}
    (isClose : close = ']' ∨ close = '}') (isSome : items ≠ [])
    (fits : (joined (newLine (level + 1)).toList (items.map text)).length ≤ size)
    (reads : ∀ a ∈ items, ReadsItem item a (text a)) :
    readList item close size (joined (newLine (level + 1)).toList (items.map text) ++
      ((newLine level).toList ++ close :: rest)) = some (items, rest) := by
  have count := count_le_joined (newLine_ne_nil (level + 1)) (items.map text)
  rw [List.length_map] at count
  exact readList_joined (fun _ => isBlank_newLine) (fun _ => isBlank_newLine) isClose
    (endsNumber_newLine level _) isSome (Nat.le_trans count fits) reads

/-- No other token begins with a sign or a digit. -/
theorem ne_of_number {c : Char} (isNumber : c = '-' ∨ c.isDigit = true) :
    ∀ d ∈ [' ', '\n', '\t', '\r', ']', '}', 'n', 't', 'f', '"', '[', '{'], c ≠ d := by
  rintro d isOther rfl
  rcases isNumber with rfl | isDigit
  · revert isOther
    decide
  · have notDigit : ∀ d ∈ [' ', '\n', '\t', '\r', ']', '}', 'n', 't', 'f', '"', '[', '{'],
        d.isDigit = false := by simp [Char.isDigit]
    rw [notDigit c isOther] at isDigit
    cases isDigit

theorem ReadsItem.of_number {number : Json} {text : List Char}
    (isReadBack : readNumber text = some (number, [])) :
    ReadsItem (readValue size depth) number text := by
  obtain ⟨c, others, rfl, isNumber⟩ := head_of_readNumber isReadBack
  have isOther := ne_of_number isNumber
  simp only [List.mem_cons, List.not_mem_nil, or_false, forall_eq_or_imp, forall_eq] at isOther
  obtain ⟨blank, newline, tab, return', list, object, n, t, f, quote, bracket, brace⟩ := isOther
  refine ⟨⟨c, others, rfl, ?_, list, object⟩, fun rest ends => ?_⟩
  · simp [isBlank, blank, newline, tab, return']
  · rw [← readNumber_append ends isReadBack, List.cons_append]
    unfold readValue
    split
    case h_1 same => cases same
    case h_8 => rfl
    all_goals next same => exact absurd (List.cons.inj same).1 ‹_›

theorem ReadsItem.member {level : Nat} {m : String × Json}
    (fits : (memberText level m).length ≤ size)
    (reads : ReadsItem (readValue size depth) m.2 (indented level m.2).toList) :
    ReadsItem (readMember size (readValue size depth)) m (memberText level m) := by
  refine ⟨⟨_, _, rfl, rfl, by decide, by decide⟩, fun rest ends => ?_⟩
  have short : (m.1.toList.flatMap escapeChar).length ≤ size := by
    rw [memberText, List.length_cons, List.length_append] at fits
    omega
  have colon : ∀ text, skipBlanks (':' :: text) = ':' :: text := fun _ => rfl
  have value : skipBlanks (' ' :: ((indented level m.2).toList ++ rest)) =
      (indented level m.2).toList ++ rest := by
    have isBlank : ∀ c ∈ [' '], isBlank c = true := List.forall_mem_singleton.2 rfl
    exact reads.skipBlanks_append isBlank
  simp only [memberText, List.cons_append, List.append_assoc, readMember, readText_escaped short,
    Option.bind_eq_bind, Option.bind_some, colon, value, reads.isRead _ ends]
  rfl

/-- A legible tree is read from its text. -/
theorem IsLegible.readsItem {json : Json} (legible : IsLegible depth json) {level : Nat}
    (fits : (indented level json).toList.length ≤ size) :
    ReadsItem (readValue size depth) json (indented level json).toList := by
  induction legible generalizing level with
  | null =>
      refine ⟨⟨'n', ['u', 'l', 'l'], by simp [indented], by decide⟩, fun rest _ => ?_⟩
      simp [indented, readValue, afterWord]
  | bool b =>
      cases b with
      | true =>
          refine ⟨⟨'t', ['r', 'u', 'e'], by simp [indented], by decide⟩, fun rest _ => ?_⟩
          simp [indented, readValue, afterWord]
      | false =>
          refine ⟨⟨'f', ['a', 'l', 's', 'e'], by simp [indented], by decide⟩, fun rest _ => ?_⟩
          simp [indented, readValue, afterWord]
  | str s =>
      have isText : (indented level (.str s)).toList =
          '"' :: (s.toList.flatMap escapeChar ++ ['"']) := by simp [indented, quote]
      rw [isText] at fits ⊢
      have short : (s.toList.flatMap escapeChar).length ≤ size := by
        rw [List.length_cons, List.length_append] at fits
        omega
      refine ⟨⟨_, _, rfl, by decide⟩, fun rest _ => ?_⟩
      rw [List.cons_append, List.append_assoc, List.singleton_append, readValue,
        readText_escaped short]
      rfl
  | int isReadBack => exact .of_number (by simpa only [IsReadBack, indented] using isReadBack)
  | float isReadBack => exact .of_number (by simpa only [IsReadBack, indented] using isReadBack)
  | @arr _ items areLegible ih =>
      cases items with
      | nil =>
          refine ⟨⟨'[', [']'], by simp [indented], by decide⟩, fun rest _ => ?_⟩
          simp [indented, readValue, readList, skipBlanks, isBlank]
      | cons item items =>
          have isText : ∀ rest, (indented level (.arr (item :: items))).toList ++ rest =
              '[' :: (joined (newLine (level + 1)).toList
                ((item :: items).map fun item => (indented (level + 1) item).toList) ++
                ((newLine level).toList ++ ']' :: rest)) := fun rest => by
            simp [indented, toList_indentedItems]
          have inside : (joined (newLine (level + 1)).toList
              ((item :: items).map fun item => (indented (level + 1) item).toList)).length ≤
                size := by
            have isWhole := congrArg List.length (isText [])
            rw [List.append_nil, List.length_cons, List.length_append] at isWhole
            omega
          refine ⟨⟨'[', _, by simpa using isText [], by decide⟩, fun rest _ => ?_⟩
          rw [isText, readValue, readList_lines (.inl rfl) (List.cons_ne_nil item items) inside]
          · rfl
          · intro a found
            refine ih a found (Nat.le_trans ?_ inside)
            exact length_le_joined (List.mem_map.2 ⟨a, found, rfl⟩)
  | @obj _ members areLegible ih =>
      cases members with
      | nil =>
          refine ⟨⟨'{', ['}'], by simp [indented], by decide⟩, fun rest _ => ?_⟩
          simp [indented, readValue, readList, skipBlanks, isBlank]
      | cons m members =>
          have isText : ∀ rest, (indented level (.obj (m :: members))).toList ++ rest =
              '{' :: (joined (newLine (level + 1)).toList
                ((m :: members).map (memberText (level + 1))) ++
                ((newLine level).toList ++ '}' :: rest)) := fun rest => by
            simp [indented, toList_indentedMembers]
          have inside : (joined (newLine (level + 1)).toList
              ((m :: members).map (memberText (level + 1)))).length ≤ size := by
            have isWhole := congrArg List.length (isText [])
            rw [List.append_nil, List.length_cons, List.length_append] at isWhole
            omega
          refine ⟨⟨'{', _, by simpa using isText [], by decide⟩, fun rest _ => ?_⟩
          rw [isText, readValue, readList_lines (.inr rfl) (List.cons_ne_nil m members) inside]
          · rfl
          · intro a found
            have short := Nat.le_trans (length_le_joined (List.mem_map_of_mem found)) inside
            exact .member short (ih a found (Nat.le_trans (length_le_memberText _ a) short))

end Values

/-- The indented text of a legible tree is read back. -/
theorem parse?_pretty {json : Json} (legible : IsLegible maxDepth json) :
    parse? json.pretty = some json := by
  have reads := legible.readsItem (Nat.le_of_eq (@String.length_toList (indented 0 json)))
  obtain ⟨c, others, isText, begins⟩ := reads.begins
  have isRead := reads.isRead [] nofun
  rw [List.append_nil] at isRead
  have isOpen : skipBlanks json.pretty.toList = json.pretty.toList := by
    rw [pretty, isText]
    simp [skipBlanks, begins.1]
  rw [parse?, isOpen, pretty, isRead]
  rfl

end AdMonitor.Json
