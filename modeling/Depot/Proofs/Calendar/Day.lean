import Depot.Calendar.Date

/-!
# Days and their dates

Every day has a date that exists, and the date leads back to the day (`Date.exists_ofDay`,
`Date.dayNumber_ofDay`). Both follow from `Date.ofDay_cases`, which says where the day lies in its year: so
many days of earlier months come before it, and it falls into the month after them.
-/

namespace Depot

theorem sum_monthLengths (year : Int) : (monthLengths year).sum = yearLength year := by
  unfold monthLengths yearLength
  split <;> rfl

namespace Date

/-- Counting down years keeps the day and ends inside a year. -/
theorem splitYears_cases (year : Int) (rest : Nat) :
    daysBeforeYear (splitYears year rest).1 + (splitYears year rest).2 = daysBeforeYear year + rest ∧
      (splitYears year rest).2 < yearLength (splitYears year rest).1 := by
  fun_induction splitYears year rest with
  | case1 year rest inside => exact ⟨rfl, inside⟩
  | case2 year rest outside ih =>
    obtain ⟨same, inside⟩ := ih
    refine ⟨?_, inside⟩
    rw [same, daysBeforeYear_succ]
    omega

/-- Counting down months passes over some months whole and ends inside the next one. -/
theorem splitMonths_cases {rest : Nat} {lengths : List Nat} (inside : rest < lengths.sum)
    (month : Nat) :
    ∃ before length after, lengths = before ++ length :: after ∧
      splitMonths month rest lengths = (month + before.length, rest - before.sum) ∧
      before.sum ≤ rest ∧ rest - before.sum < length := by
  induction lengths generalizing rest month with
  | nil => exact absurd inside (Nat.not_lt_zero rest)
  | cons length later ih =>
    unfold splitMonths
    rw [List.sum_cons] at inside
    by_cases here : rest < length
    · rw [if_pos here]
      exact ⟨[], length, later, rfl, rfl, Nat.zero_le _, here⟩
    · obtain ⟨before, next, after, rfl, split, le, lt⟩ :=
        ih (show rest - length < later.sum by omega) (month + 1)
      rw [if_neg here, split]
      refine ⟨length :: before, next, after, rfl, ?_, ?_, ?_⟩
      · rw [List.sum_cons, List.length_cons]
        congr 1 <;> omega
      · rw [List.sum_cons]
        omega
      · rw [List.sum_cons]
        omega

/-- Where a day lies in the year of its date. -/
theorem ofDay_cases (n : Int) :
    ∃ rest before length after, daysBeforeYear (ofDay n).year + (rest : Nat) = n + epochDay ∧
      rest < yearLength (ofDay n).year ∧
      monthLengths (ofDay n).year = before ++ length :: after ∧
      (ofDay n).month = before.length + 1 ∧ (ofDay n).day = rest - before.sum + 1 ∧
      before.sum ≤ rest ∧ rest - before.sum < length := by
  have positive : 0 < cycleLength := by decide
  have nonneg := Int.emod_nonneg (n + epochDay) (Int.ne_of_gt positive)
  have divided := Int.mul_ediv_add_emod (n + epochDay) cycleLength
  obtain ⟨same, inside⟩ := splitYears_cases (400 * ((n + epochDay) / cycleLength))
    ((n + epochDay) % cycleLength).toNat
  rcases years : splitYears (400 * ((n + epochDay) / cycleLength))
    ((n + epochDay) % cycleLength).toNat with ⟨year, rest⟩
  rw [years, daysBeforeYear_cycle] at same
  rw [years] at inside
  have sum : daysBeforeYear year + (rest : Nat) = n + epochDay := by
    dsimp only at same
    omega
  obtain ⟨before, length, after, lengths, months, le, lt⟩ :=
    splitMonths_cases (sum_monthLengths year ▸ inside) 1
  have date : ofDay n = ⟨year, 1 + before.length, rest - before.sum + 1⟩ := by
    simp only [ofDay, years, months]
  rw [date]
  exact ⟨rest, before, length, after, sum, inside, lengths, Nat.add_comm _ _, rfl, le, lt⟩

/-- The date of a day is one of the calendar. -/
theorem exists_ofDay (n : Int) : (ofDay n).Exists := by
  obtain ⟨rest, before, length, after, -, -, lengths, month, day, -, lt⟩ := ofDay_cases n
  refine ⟨by omega, by omega, length, ?_, by omega⟩
  rw [lengths, month, Nat.add_sub_cancel]
  simp

/-- The date of a day leads back to the day. -/
theorem dayNumber_ofDay (n : Int) : (ofDay n).dayNumber = n := by
  obtain ⟨rest, before, length, after, same, -, lengths, month, day, le, -⟩ := ofDay_cases n
  unfold dayNumber
  rw [lengths, month, day, Nat.add_sub_cancel, Nat.add_sub_cancel, List.take_left' rfl]
  omega

/-- Days from the first of January 1970 on lie in the years from 1970 on. -/
theorem le_year_ofDay {n : Int} (since : 0 ≤ n) : 1970 ≤ (ofDay n).year := by
  obtain ⟨rest, -, -, -, same, inside, -⟩ := ofDay_cases n
  have next := daysBeforeYear_succ (ofDay n).year
  unfold daysBeforeYear epochDay at *
  omega

/-- Days before the first of January 10000 lie in the years up to 9999. -/
theorem year_ofDay_le {n : Int} (before : n < 2932897) : (ofDay n).year ≤ 9999 := by
  obtain ⟨rest, -, -, -, same, -⟩ := ofDay_cases n
  unfold daysBeforeYear epochDay at same
  omega

theorem Exists.month_le {d : Date} (found : d.Exists) : d.month ≤ 12 := by
  obtain ⟨-, -, length, member, -⟩ := found
  have inside := (List.getElem?_eq_some_iff.1 member).1
  have twelve : (monthLengths d.year).length = 12 := rfl
  omega

theorem Exists.day_le {d : Date} (found : d.Exists) : d.day ≤ 31 := by
  obtain ⟨-, -, length, member, le⟩ := found
  have longest : ∀ length ∈ monthLengths d.year, length ≤ 31 := by
    unfold monthLengths
    split <;> decide
  have := longest length (List.mem_of_getElem? member)
  omega

end Date

end Depot
