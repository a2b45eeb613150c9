import Depot.Calendar.HttpDate
import Depot.Proofs.Calendar.Day
import Depot.Proofs.Text.Numeral
import Mathlib.Data.List.Basic

/-!
# HTTP dates are read as they are written

`HttpDate.render?_cases` takes the written date apart: it is the text of a reading that exists and denotes the
second it was written for. Such a text is plain, has no blanks around it and is read as that reading, because
every one of its parts has a fixed width. `HttpDate.read?_of_render?` puts this together for all seconds from
1970 to 9999. No text that begins with a quote is a date (`HttpDate.read?_quoted`).
-/

namespace Depot

theorem TimeOfDay.exists_ofSecond {n : Nat} (inside : n < secondsPerDay) : (ofSecond n).Exists := by
  unfold secondsPerDay at inside
  simp only [ofSecond, Exists]
  omega

theorem Date.weekday_lt (n : Int) : weekday n < 7 := by
  unfold weekday
  omega

namespace HttpDate

/-! ## Readings and their texts -/

/-- The reading in the preferred form. -/
def Reading.text (r : Reading) : String :=
  weekdayNames.getD r.weekday "" ++ ", " ++ padded 2 r.date.day ++ " "
    ++ monthNames.getD (r.date.month - 1) "" ++ " " ++ padded 4 r.date.year.toNat ++ " "
    ++ r.time.text ++ " GMT"

/-- A second is written if it lies in the years that have dates, as the reading that denotes it. -/
theorem render?_cases {secs : Int} {text : String} (rendered : render? secs = some text) :
    ∃ reading : Reading, text = reading.text ∧ reading.Exists ∧ reading.secs = secs := by
  unfold render? at rendered
  split at rendered
  · rename_i inside
    cases rendered
    have clock : (secs % secondsPerDay).toNat < secondsPerDay := by
      unfold secondsPerDay
      omega
    have dayFrom : 0 ≤ secs / secondsPerDay := by
      unfold secondsPerDay
      omega
    have dayBefore : secs / secondsPerDay < 2932897 := by
      unfold secondsPerDay limit at *
      omega
    refine ⟨⟨Date.weekday (secs / secondsPerDay), Date.ofDay (secs / secondsPerDay),
      TimeOfDay.ofSecond (secs % secondsPerDay).toNat⟩, rfl, ⟨Date.exists_ofDay _, ?_, ?_, ?_, ?_⟩, ?_⟩
    · exact TimeOfDay.exists_ofSecond clock
    · exact Date.le_year_ofDay dayFrom
    · exact Date.year_ofDay_le dayBefore
    · rw [Date.dayNumber_ofDay]
    · rw [Reading.secs, Date.dayNumber_ofDay, TimeOfDay.toSecond_ofSecond]
      unfold secondsPerDay
      omega
  · cases rendered

theorem exists_render? {secs : Int} (since : 0 ≤ secs) (before : secs < limit) :
    ∃ text, render? secs = some text := by
  unfold render?
  rw [if_pos ⟨since, before⟩]
  exact ⟨_, rfl⟩

/-! ## Names -/

theorem indexOf?_weekday : ∀ weekday < 7,
    (weekdayNames.getD weekday "").toList.length = 3 ∧
      indexOf? weekdayNames (weekdayNames.getD weekday "").toList = some weekday := by
  decide

theorem indexOf?_month : ∀ month < 12,
    (monthNames.getD month "").toList.length = 3 ∧
      indexOf? monthNames (monthNames.getD month "").toList = some month := by
  decide

theorem isPlainText_weekday : ∀ weekday < 7, IsPlainText (weekdayNames.getD weekday "") := by
  decide

theorem head?_weekday : ∀ weekday < 7,
    (weekdayNames.getD weekday "").toList.head?.any (fun c => !isBlank c && c ≠ '"') = true := by
  decide

theorem isPlainText_month : ∀ month < 12, IsPlainText (monthNames.getD month "") := by
  decide

/-! ## Reading the text of a reading -/

/-- A number below 100 has two digits, which are read as the number. -/
theorem exists_two_digits {n : Nat} (small : n < 100) :
    ∃ a b, (padded 2 n).toList = [a, b] ∧ Decimal.read? [a, b] = some n := by
  obtain ⟨a, b, digits⟩ := List.length_eq_two.1 (length_padded (by decide) small)
  exact ⟨a, b, digits, digits ▸ Decimal.read?_padded 2 n⟩

/-- A number below 10000 has four digits, which are read as the number. -/
theorem exists_four_digits {n : Nat} (small : n < 10000) :
    ∃ a b c d, (padded 4 n).toList = [a, b, c, d] ∧ Decimal.read? [a, b, c, d] = some n := by
  obtain ⟨a, b, c, d, digits⟩ := List.length_eq_four.1 (length_padded (by decide) small)
  exact ⟨a, b, c, d, digits, digits ▸ Decimal.read?_padded 4 n⟩

namespace Reading

variable {r : Reading}

theorem Exists.weekday_lt (found : r.Exists) : r.weekday < 7 := by
  obtain ⟨-, -, -, -, same⟩ := found
  rw [same]
  exact Date.weekday_lt _

theorem Exists.month_lt (found : r.Exists) : r.date.month - 1 < 12 := by
  have := found.1.1
  have := found.1.month_le
  omega

/-- Every part of the text has its width, so the text is read part by part. -/
theorem Exists.readFixed? (found : r.Exists) : readFixed? r.text.toList = some r := by
  obtain ⟨weekdayLength, weekday⟩ := indexOf?_weekday r.weekday found.weekday_lt
  obtain ⟨monthLength, month⟩ := indexOf?_month (r.date.month - 1) found.month_lt
  obtain ⟨date, time, since, before, -⟩ := found
  obtain ⟨w₁, w₂, w₃, weekdayName⟩ := List.length_eq_three.1 weekdayLength
  obtain ⟨m₁, m₂, m₃, monthName⟩ := List.length_eq_three.1 monthLength
  obtain ⟨d₁, d₂, dayDigits, day⟩ := exists_two_digits (Nat.lt_of_le_of_lt date.day_le (by decide))
  obtain ⟨y₁, y₂, y₃, y₄, yearDigits, year⟩ :=
    exists_four_digits (show r.date.year.toNat < 10000 by omega)
  obtain ⟨h₁, h₂, hourDigits, hour⟩ := exists_two_digits (Nat.lt_trans time.1 (by decide))
  obtain ⟨n₁, n₂, minuteDigits, minute⟩ := exists_two_digits (Nat.lt_trans time.2.1 (by decide))
  obtain ⟨s₁, s₂, secondDigits, second⟩ := exists_two_digits (Nat.lt_trans time.2.2 (by decide))
  rw [weekdayName] at weekday
  rw [monthName] at month
  have laid : r.text.toList = [w₁, w₂, w₃, ',', ' ', d₁, d₂, ' ', m₁, m₂, m₃, ' ', y₁, y₂, y₃, y₄, ' ',
      h₁, h₂, ':', n₁, n₂, ':', s₁, s₂, ' ', 'G', 'M', 'T'] := by
    simp only [text, TimeOfDay.text, String.toList_append, weekdayName, monthName, dayDigits, yearDigits,
      hourDigits, minuteDigits, secondDigits]
    rfl
  rw [laid]
  have monthBack : r.date.month - 1 + 1 = r.date.month := Nat.sub_add_cancel date.1
  have yearBack : (r.date.year.toNat : Int) = r.date.year := Int.toNat_of_nonneg (by omega)
  simp only [HttpDate.readFixed?, weekday, day, month, year, hour, minute, second, Option.bind_eq_bind,
    Option.bind_some, monthBack, yearBack]

theorem Exists.isPlainText (found : r.Exists) : IsPlainText r.text := by
  have weekday := isPlainText_weekday r.weekday found.weekday_lt
  have month := isPlainText_month (r.date.month - 1) found.month_lt
  simp only [text, TimeOfDay.text, isPlainText_append, weekday, month, isPlainText_padded, true_and, and_true]
  decide

theorem Exists.head?_text (found : r.Exists) :
    ∃ c, r.text.toList.head? = some c ∧ isBlank c = false ∧ c ≠ '"' := by
  obtain ⟨c, first, good⟩ := (Option.any_eq_true _ _).1 (head?_weekday r.weekday found.weekday_lt)
  rw [Bool.and_eq_true, Bool.not_eq_true', decide_eq_true_eq] at good
  refine ⟨c, ?_, good⟩
  simp only [text, String.toList_append, List.head?_append, first, Option.some_or]

theorem getLast?_text (r : Reading) : r.text.toList.getLast? = some 'T' := by
  rw [text, String.toList_append, List.getLast?_append]
  rfl

end Reading

/-! ## Reading a whole text -/

/-- A text that neither begins nor ends with a blank is not trimmed. -/
theorem trim_eq_self {text : List Char} {first last : Char} (head : text.head? = some first)
    (solid : isBlank first = false) (tail : text.getLast? = some last)
    (solid' : isBlank last = false) : trim text = text := by
  have stays {list : List Char} {c : Char} (head : list.head? = some c) (solid : isBlank c = false) :
      list.dropWhile isBlank = list := by
    obtain ⟨rest, rfl⟩ := List.head?_eq_some_iff.1 head
    exact List.dropWhile_cons_of_neg (by simp [solid])
  have reversed : text.reverse.head? = some last := by
    rw [List.head?_reverse, tail]
  rw [trim, stays head solid, stays reversed solid', List.reverse_reverse]

/-- A second that is written is read again from the text. -/
theorem read?_of_render? {secs : Int} {text : String} (rendered : render? secs = some text) :
    read? text = some secs := by
  obtain ⟨reading, rfl, found, same⟩ := render?_cases rendered
  obtain ⟨c, first, solid, -⟩ := found.head?_text
  have ascii : reading.text.toList.all (fun c => c.toNat < 128) = true := by
    rw [List.all_eq_true]
    intro c member
    have := (found.isPlainText c member).2
    exact decide_eq_true (by omega)
  have whole : trim reading.text.toList = reading.text.toList :=
    trim_eq_self first solid reading.getLast?_text rfl
  simp only [read?, if_pos ascii, whole, found.readFixed?, Option.some_or, Option.bind_some, if_pos found,
    same]

/-- A text that is written for a second is plain and does not begin with a quote. -/
theorem isPlainText_of_render? {secs : Int} {text : String} (rendered : render? secs = some text) :
    IsPlainText text ∧ text.toList.head? ≠ some '"' := by
  obtain ⟨reading, rfl, found, -⟩ := render?_cases rendered
  obtain ⟨c, first, -, noQuote⟩ := found.head?_text
  refine ⟨found.isPlainText, fun quote => noQuote ?_⟩
  rw [first] at quote
  exact Option.some.inj quote

/-! ## Texts that are no dates -/

/-- No name of a list begins with a quote. -/
theorem indexOf?_quoted (names : List String) (noQuote : ∀ name ∈ names, name.toList.head? ≠ some '"')
    (rest : List Char) : indexOf? names ('"' :: rest) = none := by
  rw [indexOf?, List.findIdx?_eq_none_iff]
  intro name member
  refine decide_eq_false fun same => noQuote name member ?_
  rw [same]
  rfl

/-- A text that begins and ends with a quote is no date. -/
theorem read?_quoted (inner : List Char) : read? (String.ofList ('"' :: (inner ++ ['"']))) = none := by
  have short := indexOf?_quoted weekdayNames (by decide)
  have long := indexOf?_quoted weekdayLongNames (by decide)
  have head : ('"' :: (inner ++ ['"'])).head? = some '"' := rfl
  have tail : ('"' :: (inner ++ ['"'])).getLast? = some '"' := by
    rw [← List.cons_append, List.getLast?_append]
    rfl
  have whole := trim_eq_self head rfl tail rfl
  -- Each of the three forms begins with the name of a weekday.
  have fixed (rest : List Char) : readFixed? ('"' :: rest) = none := by
    unfold readFixed?
    split
    · rename_i same
      cases same
      rw [short]
      rfl
    · rfl
  have columnar (rest : List Char) : readColumnar? ('"' :: rest) = none := by
    unfold readColumnar?
    split
    · rename_i same
      cases same
      rw [short]
      rfl
    · rfl
  have named (rest : List Char) : readLong? ('"' :: rest) = none := by
    unfold readLong?
    rw [List.takeWhile_cons_of_pos (by decide), long]
    rfl
  unfold read?
  split
  · simp only [String.toList_ofList, whole, fixed, columnar, named, Option.none_or, Option.bind_none]
  · rfl

end HttpDate

end Depot
