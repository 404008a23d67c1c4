import AgentOperator.Object.Timestamp

/-!
# Timestamps that are read back

Every timestamp that is read can be written, and what is written of it is read as the same
timestamp.  The calendar counts in eras of 400 years that begin with March: the year of a
day is found first, then its month, and the days before both add up to the day again.
-/

namespace AgentOperator.Timestamp

/-! ## Years -/

/-- The year of an era that a day of the era lies in. -/
def yearOfEra (doe : Int) : Int := (doe - doe / 1460 + doe / 36524 - doe / 146096) / 365

/-- The days of an era before one of its years. -/
def daysBefore (yoe : Int) : Int := 365 * yoe + yoe / 4 - yoe / 100

/-- Where a day of an era lies: in one of four centuries, the last of which has a day more
than the others, in one of the cycles of four years, counted as if each had one day less,
and in the year that is left when the leap days so far are taken away. -/
structure InYear (doe year century cycle : Int) : Prop where
  cases : century = 0 ∨ century = 1 ∨ century = 2 ∨ century = 3
  century_eq : year / 100 = century
  century_le : 36524 * century ≤ doe
  lt_century : doe < 36524 * century + 36524 ∨ century = 3
  cycle_le : 1460 * cycle ≤ doe
  lt_cycle : doe < 1460 * cycle + 1460
  year_le : 365 * year ≤ doe - cycle + century
  lt_year : doe - cycle + century < 365 * year + 365

variable {doe : Int}

theorem exists_inYear (hnonneg : 0 ≤ doe) (hlt : doe < 146097) :
    ∃ century cycle, InYear doe (yearOfEra doe) century cycle := by
  have hcentury : ∃ century, doe / 36524 - doe / 146096 = century ∧
      (century = 0 ∨ century = 1 ∨ century = 2 ∨ century = 3) := ⟨_, rfl, by omega⟩
  obtain ⟨century, hcentury, hcases⟩ := hcentury
  have hyear : yearOfEra doe = (doe - doe / 1460 + century) / 365 := by
    unfold yearOfEra
    omega
  -- Only with the century given is its bound on the year linear.
  refine ⟨century, doe / 1460, hcases, ?_, ?_, ?_, ?_, ?_, ?_, ?_⟩
  · rcases hcases with rfl | rfl | rfl | rfl <;> omega
  all_goals omega

theorem yearOfEra_bounds (hnonneg : 0 ≤ doe) (hlt : doe < 146097) :
    0 ≤ yearOfEra doe ∧ yearOfEra doe < 400 := by
  obtain ⟨century, cycle, hin⟩ := exists_inYear hnonneg hlt
  have hcases := hin.cases
  have hcentury := hin.century_eq
  omega

theorem daysBefore_bounds (hnonneg : 0 ≤ doe) (hlt : doe < 146097) :
    daysBefore (yearOfEra doe) ≤ doe ∧ doe ≤ daysBefore (yearOfEra doe) + 365 := by
  obtain ⟨century, cycle, hcases, hcentury, _, _, _, _, _, _⟩ := exists_inYear hnonneg hlt
  unfold daysBefore
  rw [hcentury]
  generalize yearOfEra doe = year at *
  rcases hcases with rfl | rfl | rfl | rfl <;> omega

/-- Only a leap year has a day that many days after its first. -/
theorem isLeap_yearOfEra (hnonneg : 0 ≤ doe) (hlt : doe < 146097)
    (hlast : doe = daysBefore (yearOfEra doe) + 365) (era : Int) :
    isLeap (yearOfEra doe + era * 400 + 1) = true := by
  obtain ⟨century, cycle, hcases, hcentury, _, _, _, _, _, _⟩ := exists_inYear hnonneg hlt
  unfold daysBefore at hlast
  rw [hcentury] at hlast
  generalize yearOfEra doe = year at *
  -- A day that late counts to the next cycle already, so its year is the last of a cycle.
  have hcycle : cycle = year / 4 + 1 := by omega
  have hfourth : year = 4 * (year / 4) + 3 := by
    rcases hcases with rfl | rfl | rfl | rfl <;> omega
  have hleap : (year + 1) % 4 = 0 ∧ ((year + 1) % 100 ≠ 0 ∨ (year + 1) % 400 = 0) := by
    rcases hcases with rfl | rfl | rfl | rfl <;> omega
  simp only [isLeap, Bool.and_eq_true, Bool.or_eq_true, beq_iff_eq, bne_iff_ne]
  omega

/-! ## Months -/

/-- The month of a day of a year, counted from March. -/
def marchMonth (doy : Int) : Int := (5 * doy + 2) / 153

/-- The days of a year that begins with March before one of its months. -/
def daysBeforeMonth (mp : Int) : Int := (153 * mp + 2) / 5

/-- The month of the calendar, of one that is counted from March. -/
def monthOf (m : Nat) : Nat := if m < 10 then m + 3 else m - 9

theorem exists_marchMonth {doy : Int} (hnonneg : 0 ≤ doy) (hle : doy ≤ 365) :
    ∃ m : Nat, marchMonth doy = m ∧ m < 12 ∧ daysBeforeMonth m ≤ doy := by
  refine ⟨(marchMonth doy).toNat, ?_, ?_, ?_⟩
  · unfold marchMonth
    omega
  · unfold marchMonth
    omega
  · unfold daysBeforeMonth marchMonth
    omega

/-- Every month has the days up to the next one, but for February, which ends with the
year. -/
theorem lt_daysIn_monthOf {doy year : Int} {m : Nat} (hle : doy ≤ 365)
    (hleap : doy = 365 → isLeap (year + 1) = true) (hm : marchMonth doy = m) (hlt : m < 12) :
    doy < daysBeforeMonth m +
      daysIn (if monthOf m ≤ 2 then year + 1 else year) (monthOf m) := by
  unfold marchMonth at hm
  unfold daysBeforeMonth daysIn
  have hcases : m = 11 ∨ m = 0 ∨ m = 1 ∨ m = 2 ∨ m = 3 ∨ m = 4 ∨ m = 5 ∨ m = 6 ∨ m = 7 ∨
      m = 8 ∨ m = 9 ∨ m = 10 := by
    omega
  rcases hcases with rfl | hcases
  · have hmonth : monthOf 11 = 2 := rfl
    simp only [hmonth]
    by_cases hlast : doy = 365
    · simp [hleap hlast, hlast]
    · simp only [if_true, Nat.le_refl]
      split <;> omega
  · rcases hcases with rfl | rfl | rfl | rfl | rfl | rfl | rfl | rfl | rfl | rfl | rfl <;>
      simp [monthOf] <;> omega

/-! ## Dates -/

structure IsDate (year : Int) (month date : Nat) : Prop where
  month_pos : 1 ≤ month
  month_le : month ≤ 12
  date_pos : 1 ≤ date
  date_le : date ≤ daysIn year month

namespace IsDate

variable {year : Int} {month date : Nat}

theorem date_lt (hdate : IsDate year month date) : date < 100 := by
  have hle := hdate.date_le
  have hdays : daysIn year month ≤ 31 := by
    unfold daysIn
    split
    · split <;> omega
    · split <;> omega
  omega

theorem not_refused (hdate : IsDate year month date) (hyear : hasYear year = true) :
    (!hasYear year || decide (month < 1) || decide (12 < month) || decide (date < 1) ||
      decide (daysIn year month < date)) = false := by
  obtain ⟨hmonth, hmonths, hfirst, hlast⟩ := hdate
  simp [hyear]
  omega

end IsDate

theorem dateOf_eq (day : Int) :
    ∃ era doe : Int, 0 ≤ doe ∧ doe < 146097 ∧ day = 146097 * era + doe - 719468 ∧
      dateOf day =
        let mp := marchMonth (doe - daysBefore (yearOfEra doe))
        let month := if mp < 10 then mp + 3 else mp - 9
        (yearOfEra doe + era * 400 + (if month ≤ 2 then 1 else 0), month,
          doe - daysBefore (yearOfEra doe) - daysBeforeMonth mp + 1) := by
  refine ⟨(day + 719468) / 146097, day + 719468 - (day + 719468) / 146097 * 146097,
    ?_, ?_, ?_, rfl⟩ <;> omega

theorem dayOf_monthOf {m : Nat} (hlt : m < 12) (year : Int) (date : Nat) :
    dayOf (if monthOf m ≤ 2 then year + 1 else year) (monthOf m) date =
      365 * year + year / 4 - year / 100 + year / 400 + daysBeforeMonth m + date - 1 -
        719468 := by
  unfold dayOf daysBeforeMonth monthOf
  by_cases hlate : 10 ≤ m
  · simp [show ¬ m < 10 by omega, show m - 9 ≤ 2 by omega]
    omega
  · simp [show m < 10 by omega]

/-- Every day has a date of the calendar, from which the day is found again. -/
theorem exists_isDate (day : Int) :
    ∃ (year : Int) (month date : Nat), dateOf day = (year, (month : Int), (date : Int)) ∧
      IsDate year month date ∧ dayOf year month date = day := by
  obtain ⟨era, doe, hnonneg, hlt, hday, hdate⟩ := dateOf_eq day
  obtain ⟨hfrom, hto⟩ := daysBefore_bounds hnonneg hlt
  have hdoyNonneg : 0 ≤ doe - daysBefore (yearOfEra doe) := by omega
  have hdoyLe : doe - daysBefore (yearOfEra doe) ≤ 365 := by omega
  obtain ⟨m, hm, hmlt, hbefore⟩ := exists_marchMonth hdoyNonneg hdoyLe
  have hyear := yearOfEra_bounds hnonneg hlt
  have hleap : doe - daysBefore (yearOfEra doe) = 365 →
      isLeap (yearOfEra doe + era * 400 + 1) = true :=
    fun hlast => isLeap_yearOfEra hnonneg hlt (by omega) era
  have hlength := lt_daysIn_monthOf hdoyLe hleap hm hmlt
  generalize yearOfEra doe = yoe at *
  generalize hdoy : doe - daysBefore yoe = doy at *
  have hmonth : (if (m : Int) < 10 then (m : Int) + 3 else m - 9) = (monthOf m : Int) := by
    unfold monthOf
    split <;> split <;> omega
  -- January and February are in the next year of the calendar.
  have hyears : yoe + era * 400 + (if (monthOf m : Int) ≤ 2 then 1 else 0) =
      if monthOf m ≤ 2 then yoe + era * 400 + 1 else yoe + era * 400 := by
    split <;> split <;> omega
  have hdates : doy - daysBeforeMonth m + 1 = ((doy - daysBeforeMonth m + 1).toNat : Int) := by
    omega
  simp only [hm, hmonth, hyears] at hdate
  rw [hdates] at hdate
  refine ⟨_, _, _, hdate, ⟨?_, ?_, ?_, ?_⟩, ?_⟩
  · unfold monthOf
    split <;> omega
  · unfold monthOf
    split <;> omega
  · omega
  · omega
  · rw [hday, dayOf_monthOf hmlt, ← hdates, ← hdoy]
    unfold daysBefore
    omega

/-! ## Numbers that are read back -/

section Reading

variable {c : Char} {digits rest : List Char} {n width most : Nat}

theorem toList_paddedTo (width n : Nat) :
    (paddedTo width n).toList =
      List.replicate (width - (Nat.toDigits 10 n).length) '0' ++ Nat.toDigits 10 n := by
  have hdigits : (toString n).toList = Nat.toDigits 10 n := Nat.toList_repr
  unfold paddedTo
  rw [String.toList_append, String.toList_ofList, ← String.length_toList, hdigits]

theorem isDigit_of_mem_paddedTo (hmem : c ∈ (paddedTo width n).toList) : c.isDigit = true := by
  rw [toList_paddedTo, List.mem_append] at hmem
  rcases hmem with hzero | hdigit
  · rw [(List.mem_replicate.mp hzero).2]
    rfl
  · exact Nat.isDigit_of_mem_toDigits (by decide) (by decide) hdigit

theorem length_paddedTo (hle : (Nat.toDigits 10 n).length ≤ width) :
    (paddedTo width n).toList.length = width := by
  rw [toList_paddedTo, List.length_append, List.length_replicate]
  omega

theorem exists_cons_paddedTo (width n : Nat) :
    ∃ first others, (paddedTo width n).toList = first :: others ∧ first.isDigit = true := by
  have hne : (paddedTo width n).toList ≠ [] := by
    rw [toList_paddedTo]
    exact List.append_ne_nil_of_right_ne_nil _ Nat.toDigits_ne_nil
  obtain ⟨first, others, hcons⟩ := List.exists_cons_of_ne_nil hne
  exact ⟨first, others, hcons, isDigit_of_mem_paddedTo (hcons ▸ List.mem_cons_self)⟩

theorem decimalValue_zeros (count : Nat) (digits : List Char) :
    Text.decimalValue (List.replicate count '0' ++ digits) = Text.decimalValue digits := by
  induction count with
  | zero => rfl
  | succ count ih => exact ih

theorem decimalValue_paddedTo (width n : Nat) :
    Text.decimalValue (paddedTo width n).toList = n := by
  rw [toList_paddedTo, decimalValue_zeros]
  exact Nat.ofDigitChars_ten_toDigits

theorem digits?_append (hdigits : ∀ c ∈ digits, c.isDigit = true) (hne : digits ≠ [])
    (hlength : digits.length ≤ most) (hend : c.isDigit = false) :
    digits? most (digits ++ c :: rest) = some (Text.decimalValue digits, c :: rest) := by
  have hnone : ((c :: rest).take (most - digits.length)).takeWhile Char.isDigit = [] := by
    cases most - digits.length with
    | zero => rfl
    | succ left => simp [hend]
  have htaken : ((digits ++ c :: rest).take most).takeWhile Char.isDigit = digits := by
    rw [List.take_append, List.take_of_length_le hlength,
      List.takeWhile_append_of_pos hdigits, hnone, List.append_nil]
  unfold digits?
  simp only [htaken]
  rw [List.drop_left]
  simp [hne]

theorem digits?_paddedTo (hlength : (paddedTo width n).toList.length ≤ most)
    (hend : c.isDigit = false) (rest : List Char) :
    digits? most ((paddedTo width n).toList ++ c :: rest) = some (n, c :: rest) := by
  obtain ⟨first, others, hcons, -⟩ := exists_cons_paddedTo width n
  rw [digits?_append (fun _ hmem => isDigit_of_mem_paddedTo hmem) (by simp [hcons]) hlength hend,
    decimalValue_paddedTo]

theorem isBlank_of_isDigit (hdigit : c.isDigit = true) : Text.isBlank c = false := by
  simp only [Char.isDigit, Bool.and_eq_true, decide_eq_true_eq, ge_iff_le] at hdigit
  have hlow : 0x30 ≤ c.toNat := hdigit.1
  have hhigh : c.toNat ≤ 0x39 := hdigit.2
  unfold Text.isBlank
  simp
  omega

theorem skipBlanks_cons (hblank : Text.isBlank c = false) (rest : List Char) :
    skipBlanks (c :: rest) = c :: rest :=
  List.dropWhile_cons_of_neg (by simp [hblank])

theorem skipBlanks_paddedTo (width n : Nat) (rest : List Char) :
    skipBlanks ((paddedTo width n).toList ++ rest) = (paddedTo width n).toList ++ rest := by
  obtain ⟨first, others, hcons, hdigit⟩ := exists_cons_paddedTo width n
  rw [hcons, List.cons_append, skipBlanks_cons (isBlank_of_isDigit hdigit)]

theorem number?_paddedTo (hlt : n < 100) (hend : c.isDigit = false) (rest : List Char) :
    number? ((paddedTo 2 n).toList ++ c :: rest) = some (n, c :: rest) := by
  have hle : (Nat.toDigits 10 n).length ≤ 2 :=
    (Nat.length_toDigits_le_iff (by decide) (by decide)).mpr hlt
  unfold number?
  rw [skipBlanks_paddedTo]
  exact digits?_paddedTo (Nat.le_of_eq (length_paddedTo hle)) hend rest

theorem mark?_cons (hblank : Text.isBlank c = false) (rest : List Char) :
    mark? c (c :: rest) = some rest := by
  unfold mark?
  rw [skipBlanks_cons hblank]
  exact if_pos rfl

theorem year?_minus (rest : List Char) :
    year? ('-' :: rest) =
      (digits? rest.length rest).map fun read => (-(read.1 : Int), read.2) := by
  unfold year?
  rw [skipBlanks_cons (by decide)]
  rfl

theorem year?_plus (rest : List Char) :
    year? ('+' :: rest) =
      (digits? rest.length rest).map fun read => ((read.1 : Int), read.2) := by
  unfold year?
  rw [skipBlanks_cons (by decide)]
  rfl

theorem year?_paddedTo {year : Nat} (hshort : year < 10000) (rest : List Char) :
    year? ((paddedTo 4 year).toList ++ '-' :: rest) = some ((year : Int), '-' :: rest) := by
  have hle : (Nat.toDigits 10 year).length ≤ 4 :=
    (Nat.length_toDigits_le_iff (by decide) (by decide)).mpr hshort
  have hread : digits? 4 ((paddedTo 4 year).toList ++ '-' :: rest) = some (year, '-' :: rest) :=
    digits?_paddedTo (Nat.le_of_eq (length_paddedTo hle)) rfl rest
  obtain ⟨first, others, hcons, hdigit⟩ := exists_cons_paddedTo 4 year
  have hminus : first ≠ '-' := by
    rintro rfl
    exact absurd hdigit (by decide)
  have hplus : first ≠ '+' := by
    rintro rfl
    exact absurd hdigit (by decide)
  unfold year?
  rw [skipBlanks_paddedTo]
  rw [hcons, List.cons_append] at hread ⊢
  split
  next heq => exact absurd (List.cons.inj heq).1 hminus
  next heq => exact absurd (List.cons.inj heq).1 hplus
  next => rw [hread, Option.map_some]

theorem year?_yearText (year : Int) (rest : List Char) :
    year? ((yearText year).toList ++ '-' :: rest) = some (year, '-' :: rest) := by
  have hdigits (n : Nat) :
      digits? ((paddedTo 4 n).toList ++ '-' :: rest).length
        ((paddedTo 4 n).toList ++ '-' :: rest) = some (n, '-' :: rest) :=
    digits?_paddedTo (by simp) rfl rest
  unfold yearText
  by_cases hshort : 0 ≤ year ∧ year ≤ 9999
  · rw [if_pos hshort, year?_paddedTo (by omega), Int.toNat_of_nonneg hshort.1]
  · rw [if_neg hshort, String.toList_append]
    by_cases hneg : year < 0
    · have hvalue : -(year.natAbs : Int) = year := by omega
      have hsign : "-".toList = ['-'] := rfl
      rw [if_pos hneg, hsign, List.singleton_append, List.cons_append, year?_minus, hdigits,
        Option.map_some, hvalue]
    · have hvalue : (year.natAbs : Int) = year := by omega
      have hsign : "+".toList = ['+'] := rfl
      rw [if_neg hneg, hsign, List.singleton_append, List.cons_append, year?_plus, hdigits,
        Option.map_some, hvalue]

end Reading

/-! ## Timestamps that are read back -/

/-- A time of day on a day of a year that can be written. -/
structure Valid (t : Timestamp) : Prop where
  year : hasYear (dateOf t.day).1 = true
  hour : t.hour ≤ 23
  minute : t.minute ≤ 59
  second : t.second ≤ 60

theorem valid_of_read? {text : String} {t : Timestamp} (hread : read? text = some t) :
    t.Valid := by
  unfold read? at hread
  -- Every number is followed by a mark, the last one by a fraction and an offset.
  iterate 6
    obtain ⟨⟨_, _⟩, -, hread⟩ := Option.bind_eq_some_iff.mp hread
    obtain ⟨_, -, hread⟩ := Option.bind_eq_some_iff.mp hread
  obtain ⟨⟨_, _⟩, -, hread⟩ := Option.bind_eq_some_iff.mp hread
  dsimp only at hread
  split at hread
  · simp at hread
  · split at hread
    · simp at hread
    · split at hread
      · simp at hread
      next htime =>
        split at hread
        next hyear =>
          obtain rfl := Option.some.inj hread
          simp only [Bool.or_eq_true, decide_eq_true_eq, not_or] at htime
          refine ⟨hyear, ?_, ?_, ?_⟩ <;> dsimp only <;> omega
        · simp at hread

theorem toList_text {t : Timestamp} {year : Int} {month date : Nat}
    (hdate : dateOf t.day = (year, (month : Int), (date : Int))) :
    t.text.toList = (yearText year).toList ++ '-' :: ((paddedTo 2 month).toList ++
      '-' :: ((paddedTo 2 date).toList ++ 'T' :: ((paddedTo 2 t.hour).toList ++
      ':' :: ((paddedTo 2 t.minute).toList ++ ':' :: ((paddedTo 2 t.second).toList ++
      ['Z']))))) := by
  unfold text
  rw [hdate]
  simp

/-- What is written of a valid timestamp is read as that timestamp. -/
theorem read?_text {t : Timestamp} (hvalid : t.Valid) : read? t.text = some t := by
  obtain ⟨year, month, date, hdate, hcalendar, hday⟩ := exists_isDate t.day
  obtain ⟨hyear, hhour, hminute, hsecond⟩ := hvalid
  have hmonths := hcalendar.month_le
  have hdash := mark?_cons (c := '-') (by decide)
  have hcolon := mark?_cons (c := ':') (by decide)
  have hfraction : skipFraction? ['Z'] = some ['Z'] := rfl
  have hoffset : offset? (skipBlanks ['Z']) = some (0, []) := by decide
  have hblanks : skipBlanks [] = [] := rfl
  rw [hdate] at hyear
  have htime : (decide (23 < t.hour) || decide (59 < t.minute) || decide (60 < t.second)) =
      false := by
    simp
    omega
  have hminutes : (dayOf year month date * 1440 + t.hour * 60 + t.minute - 0) / 1440 = t.day ∧
      (dayOf year month date * 1440 + t.hour * 60 + t.minute - 0) % 1440 / 60 = t.hour ∧
      (dayOf year month date * 1440 + t.hour * 60 + t.minute - 0) % 60 = t.minute := by
    omega
  unfold read?
  rw [toList_text hdate]
  refine Option.bind_eq_some_iff.mpr ⟨_, year?_yearText year _, ?_⟩
  refine Option.bind_eq_some_iff.mpr ⟨_, hdash _, ?_⟩
  refine Option.bind_eq_some_iff.mpr ⟨_, number?_paddedTo (by omega) rfl _, ?_⟩
  refine Option.bind_eq_some_iff.mpr ⟨_, hdash _, ?_⟩
  refine Option.bind_eq_some_iff.mpr ⟨_, number?_paddedTo hcalendar.date_lt rfl _, ?_⟩
  refine Option.bind_eq_some_iff.mpr ⟨_, rfl, ?_⟩
  refine Option.bind_eq_some_iff.mpr ⟨_, number?_paddedTo (by omega) rfl _, ?_⟩
  refine Option.bind_eq_some_iff.mpr ⟨_, hcolon _, ?_⟩
  refine Option.bind_eq_some_iff.mpr ⟨_, number?_paddedTo (by omega) rfl _, ?_⟩
  refine Option.bind_eq_some_iff.mpr ⟨_, hcolon _, ?_⟩
  refine Option.bind_eq_some_iff.mpr ⟨_, number?_paddedTo (by omega) rfl _, ?_⟩
  refine Option.bind_eq_some_iff.mpr ⟨_, hfraction, ?_⟩
  refine Option.bind_eq_some_iff.mpr ⟨_, hoffset, ?_⟩
  dsimp only
  obtain ⟨huniversal, hofHour, hofMinute⟩ := hminutes
  rw [hblanks, hcalendar.not_refused hyear, htime, huniversal, hofHour, hofMinute, hdate, if_pos hyear]
  rfl

end AgentOperator.Timestamp
