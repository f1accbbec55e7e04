import DeclAtlas.Compat.Listing
import DeclAtlas.Proofs.Text.Numbers
import DeclAtlas.Proofs.Text.Parts

/-!
# Dates as days of the calendar

Whether a flag is on at a date is decided by comparing two texts.  An accepted date is four, two and
two digits around hyphens, so the texts compare as the year, the month and the day do, as long as
both are written in digits of the same scripts (`le_iff_calendarDay_le`).  Then a flag is on at a date
exactly if its own day is not later (`flagsAtDate_perm_of_sameScripts`).  Digits of ASCII are of one
script, so this is what dates say that are written in these (`flagsAtDate_perm_of_ascii`).

A date is accepted in the digits of every script, though, and the digits of most scripts stand
behind those of ASCII.  A date in such digits lies behind every day that a flag names in ASCII
digits (`enabled_before_its_day`).
-/

namespace DeclAtlas

open Text

/-! ### Days -/

/-- A day by its numbers, which need not be those of a day that exists. -/
structure CalendarDay where
  year : Nat
  month : Nat
  day : Nat
  deriving Repr, DecidableEq

namespace CalendarDay

/-- Days are compared by year, then by month, then by day. -/
instance : LE CalendarDay where
  le a b := a.year < b.year ∨
    a.year = b.year ∧ (a.month < b.month ∨ a.month = b.month ∧ a.day ≤ b.day)

instance (a b : CalendarDay) : Decidable (a ≤ b) :=
  inferInstanceAs (Decidable (_ ∨ _ ∧ (_ ∨ _ ∧ _)))

theorem le_def {a b : CalendarDay} : a ≤ b ↔ a.year < b.year ∨
    a.year = b.year ∧ (a.month < b.month ∨ a.month = b.month ∧ a.day ≤ b.day) := Iff.rfl

/-- The day that a text of three numbers around hyphens names. -/
def ofText? (s : List Char) : Option CalendarDay :=
  match pieces '-' s with
  | [y, m, d] => some ⟨number y, number m, number d⟩
  | _ => none

example : ofText? "2024-01-31".toList = some ⟨2024, 1, 31⟩ := by decide +kernel

end CalendarDay

/-- The day from which a flag is on. -/
def Compat.Flag.enableDay? (f : Flag) : Option CalendarDay :=
  f.enableDate.bind fun d => CalendarDay.ofText? d.toList

/-! ### Accepted dates -/

/-- The digits that an accepted date is made of. -/
structure DateParts where
  year : List Char
  month : List Char
  day : List Char
  length_year : year.length = 4
  length_month : month.length = 2
  length_day : day.length = 2
  digits : ∀ c ∈ year ++ month ++ day, isDigit c = true

namespace DateParts

/-- The date as it is written. -/
def text (p : DateParts) : List Char := p.year ++ '-' :: (p.month ++ '-' :: p.day)

/-- The day that the parts name. -/
def calendarDay (p : DateParts) : CalendarDay := ⟨number p.year, number p.month, number p.day⟩

end DateParts

theorem exists_parts_of_isDate {s : List Char} (h : isDate s = true) :
    ∃ p : DateParts, s = p.text ∧ CalendarDay.ofText? s = some p.calendarDay := by
  rw [isDate] at h
  split at h
  · rename_i y m d hpieces
    simp only [Bool.and_eq_true, beq_iff_eq, List.all_eq_true] at h
    obtain ⟨⟨⟨hy, hm⟩, hd⟩, hdigits⟩ := h
    refine ⟨⟨y, m, d, hy, hm, hd, hdigits⟩, ?_, ?_⟩
    · rw [eq_append_of_pieces hpieces]
      simp [DateParts.text]
    · rw [CalendarDay.ofText?, hpieces]
      rfl
  · exact absurd h Bool.false_ne_true

theorem exists_parts_of_checkDate {date : String} (h : checkDate date = .ok ()) :
    ∃ p : DateParts, date.toList = p.text ∧
      CalendarDay.ofText? date.toList = some p.calendarDay := by
  rw [checkDate] at h
  split at h
  · rename_i hdate
    exact exists_parts_of_isDate hdate
  · exact absurd h (by simp)

/-! ### Comparing dates -/

namespace DateParts

variable {p q : DateParts}

theorem sameScripts_text : SameScripts p.text q.text ↔
    SameScripts p.year q.year ∧ SameScripts p.month q.month ∧ SameScripts p.day q.day := by
  have hyear : p.year.length = q.year.length := p.length_year.trans q.length_year.symm
  have hmonth : p.month.length = q.month.length := p.length_month.trans q.length_month.symm
  rw [text, text, sameScripts_append hyear, sameScripts_cons, sameScripts_append hmonth,
    sameScripts_cons]

theorem sameScripts_of_ascii (hp : ∀ c ∈ p.text, c.toNat < 128) (hq : ∀ c ∈ q.text, c.toNat < 128) :
    SameScripts p.text q.text := by
  have hdigits : ∀ r : DateParts, (∀ c ∈ r.text, c.toNat < 128) →
      ∀ c ∈ r.year ++ r.month ++ r.day, isDigit c = true ∧ c.toNat < 128 := by
    intro r hr c hc
    refine ⟨r.digits c hc, hr c ?_⟩
    simp only [text, List.mem_append, List.mem_cons] at hc ⊢
    tauto
  have hpd := hdigits p hp
  have hqd := hdigits q hq
  simp only [List.mem_append] at hpd hqd
  refine sameScripts_text.mpr ⟨?_, ?_, ?_⟩
  · exact Text.sameScripts_of_ascii (p.length_year.trans q.length_year.symm)
      (fun c hc => hpd c (.inl (.inl hc))) (fun c hc => hqd c (.inl (.inl hc)))
  · exact Text.sameScripts_of_ascii (p.length_month.trans q.length_month.symm)
      (fun c hc => hpd c (.inl (.inr hc))) (fun c hc => hqd c (.inl (.inr hc)))
  · exact Text.sameScripts_of_ascii (p.length_day.trans q.length_day.symm)
      (fun c hc => hpd c (.inr hc)) (fun c hc => hqd c (.inr hc))

/-- Dates of the same scripts compare as texts as their days do. -/
theorem not_text_lt_iff (h : SameScripts p.text q.text) :
    ¬ q.text < p.text ↔ p.calendarDay ≤ q.calendarDay := by
  obtain ⟨hyear, hmonth, hday⟩ := sameScripts_text.mp h
  -- nothing follows the day, so its number alone decides
  have hdays : q.day < p.day ↔ number q.day < number p.day := by
    have hplain := append_lt_append_iff hday.symm [] []
    simpa using hplain
  rw [text, text, append_lt_append_iff hyear.symm, List.cons_lt_cons_iff,
    append_lt_append_iff hmonth.symm, List.cons_lt_cons_iff, hdays, CalendarDay.le_def]
  simp only [Char.lt_irrefl, false_or, true_and, calendarDay]
  omega

end DateParts

/-- Accepted dates in ASCII digits are written in digits of the same scripts. -/
theorem sameScripts_of_checkDate {a b : String} (ha : checkDate a = .ok ())
    (hb : checkDate b = .ok ()) (hascii : ∀ c ∈ a.toList ++ b.toList, c.toNat < 128) :
    SameScripts a.toList b.toList := by
  obtain ⟨p, hp, -⟩ := exists_parts_of_checkDate ha
  obtain ⟨q, hq, -⟩ := exists_parts_of_checkDate hb
  rw [hp, hq] at hascii ⊢
  exact DateParts.sameScripts_of_ascii (fun c hc => hascii c (List.mem_append_left _ hc))
    (fun c hc => hascii c (List.mem_append_right _ hc))

/-! ### Flags at a date -/

namespace Compat

variable {f : Flag} {fs : List Flag} {d date : String}

theorem le_iff_calendarDay_le {p q : DateParts} (hd : d.toList = p.text)
    (hdate : date.toList = q.text) (h : SameScripts d.toList date.toList) :
    d ≤ date ↔ p.calendarDay ≤ q.calendarDay := by
  rw [hd, hdate] at h
  rw [← String.not_lt, String.lt_iff, hd, hdate, DateParts.not_text_lt_iff h]

/-- The state of a flag that a date may decide on, by its day. -/
theorem stateAt_eq_of_sameScripts {q : DateParts} (hdate : date.toList = q.text)
    (hall : f.enableAllDates = false)
    (hdated : ∀ d ∈ f.enableDate, checkDate d = .ok () ∧ SameScripts d.toList date.toList) :
    f.stateAt date = match f.enableDay? with
      | some e => if e ≤ q.calendarDay then .enabled else .notYetEnabled
      | none => if f.experimental then .experimental else .optIn := by
  cases hd : f.enableDate with
  | none => simp [Flag.stateAt, Flag.enableDay?, hall, hd]
  | some d =>
    obtain ⟨hcheck, hscripts⟩ := hdated d hd
    obtain ⟨p, hp, hday⟩ := exists_parts_of_checkDate hcheck
    have hle := le_iff_calendarDay_le hp hdate hscripts
    simp [Flag.stateAt, Flag.enableDay?, hall, hd, hday, hle]

theorem flagsIn_eq_filter {state : FlagState} {p : Flag → Bool}
    (hactive : ∀ f ∈ fs, f.obsolete = false)
    (hp : ∀ f ∈ fs, (f.stateAt date == state) = p f) : flagsIn state fs date = fs.filter p := by
  have hself : activeFlags fs = fs := by
    refine List.filter_eq_self.mpr fun f hf => ?_
    rw [hactive f hf, Bool.not_false]
  rw [flagsIn, hself]
  exact List.filter_congr hp

theorem perm_sortByDate (fs : List Flag) : (sortByDate fs).Perm fs := List.mergeSort_perm _ _

/-- Where the date of a flag is written in digits of the same scripts as the date asked for, the day
decides between the two states. -/
theorem flagsAtDate_perm_of_parts {q : DateParts} (hdate : date.toList = q.text)
    (hflags : ∀ f ∈ fs, f.obsolete = false ∧ f.enableAllDates = false)
    (hdates : ∀ f ∈ fs, ∀ d ∈ f.enableDate,
      checkDate d = .ok () ∧ SameScripts d.toList date.toList) :
    (flagsAtDate fs date).enabled.Perm
        (fs.filter fun f => f.enableDay?.any fun e => decide (e ≤ q.calendarDay)) ∧
      (flagsAtDate fs date).notYetEnabled.Perm
        (fs.filter fun f => f.enableDay?.any fun e => decide (¬ e ≤ q.calendarDay)) := by
  have hactive : ∀ f ∈ fs, f.obsolete = false := fun f hf => (hflags f hf).1
  have hstates : ∀ f ∈ fs,
      (f.stateAt date == .enabled) = (f.enableDay?.any fun e => decide (e ≤ q.calendarDay)) ∧
      (f.stateAt date == .notYetEnabled) =
        (f.enableDay?.any fun e => decide (¬ e ≤ q.calendarDay)) := by
    intro f hf
    rw [stateAt_eq_of_sameScripts hdate (hflags f hf).2 (hdates f hf)]
    cases f.enableDay? with
    | none => cases f.experimental <;> exact ⟨rfl, rfl⟩
    | some e => by_cases he : e ≤ q.calendarDay <;> simp [he]
  constructor
  · have henabled := flagsIn_eq_filter hactive fun f hf => (hstates f hf).1
    exact (perm_sortByDate _).trans (.of_eq henabled)
  · have hlater := flagsIn_eq_filter hactive fun f hf => (hstates f hf).2
    exact (perm_sortByDate _).trans (.of_eq hlater)

/-- **Flags go by the calendar within the digits of a script.**  Among flags in use that are not on at
all dates, whose own dates are accepted and written in digits of the same scripts as the date asked
for, those are enabled whose day is not later than that of the date, and those not yet enabled whose
day is later. -/
theorem flagsAtDate_perm_of_sameScripts (hdate : checkDate date = .ok ())
    (hflags : ∀ f ∈ fs, f.obsolete = false ∧ f.enableAllDates = false)
    (hdates : ∀ f ∈ fs, ∀ d ∈ f.enableDate,
      checkDate d = .ok () ∧ SameScripts d.toList date.toList) :
    ∃ day, CalendarDay.ofText? date.toList = some day ∧
      (flagsAtDate fs date).enabled.Perm
        (fs.filter fun f => f.enableDay?.any fun e => decide (e ≤ day)) ∧
      (flagsAtDate fs date).notYetEnabled.Perm
        (fs.filter fun f => f.enableDay?.any fun e => decide (¬ e ≤ day)) := by
  obtain ⟨q, hq, hday⟩ := exists_parts_of_checkDate hdate
  exact ⟨q.calendarDay, hday, flagsAtDate_perm_of_parts hq hflags hdates⟩

/-- Flags and a date in Arabic-Indic digits. -/
theorem flagsAtDate_perm_arabicIndic :
    let dated : Flag := ⟨"dated", 0, none, none, some "٢٠٢٣-٠٦-١٤", false, false, false, none, false⟩
    let later := { dated with fieldName := "later", enableDate := some "٢٠٢٣-١٠-٠٢" }
    let undated := { dated with fieldName := "undated", enableDate := none }
    let fs := [later, undated, dated]
    (checkDate "٢٠٢٣-٠٩-٣٠" = .ok () ∧
      (∀ f ∈ fs, f.obsolete = false ∧ f.enableAllDates = false) ∧
      ∀ f ∈ fs, ∀ d ∈ f.enableDate,
        checkDate d = .ok () ∧ SameScripts d.toList "٢٠٢٣-٠٩-٣٠".toList) ∧
    (flagsAtDate fs "٢٠٢٣-٠٩-٣٠").enabled = [dated] ∧
    (flagsAtDate fs "٢٠٢٣-٠٩-٣٠").notYetEnabled = [later] := by
  intro dated later undated fs
  have hdate : checkDate "٢٠٢٣-٠٩-٣٠" = .ok () := by decide +kernel
  have hflags : ∀ f ∈ fs, f.obsolete = false ∧ f.enableAllDates = false := by decide +kernel
  have hdates : ∀ f ∈ fs, ∀ d ∈ f.enableDate,
      checkDate d = .ok () ∧ SameScripts d.toList "٢٠٢٣-٠٩-٣٠".toList := by decide +kernel
  obtain ⟨day, hday, henabled, hlater⟩ := flagsAtDate_perm_of_sameScripts hdate hflags hdates
  have heq : day = ⟨2023, 9, 30⟩ :=
    Option.some.inj (hday.symm.trans (by decide +kernel))
  subst heq
  refine ⟨⟨hdate, hflags, hdates⟩, List.perm_singleton.mp ?_, List.perm_singleton.mp ?_⟩
  · exact henabled.trans (.of_eq (by decide +kernel))
  · exact hlater.trans (.of_eq (by decide +kernel))

/-- **In ASCII digits flags go by the calendar**, as dates are written in practice. -/
theorem flagsAtDate_perm_of_ascii (hdate : checkDate date = .ok ())
    (hascii : ∀ c ∈ date.toList, c.toNat < 128)
    (hflags : ∀ f ∈ fs, f.obsolete = false ∧ f.enableAllDates = false)
    (hdates : ∀ f ∈ fs, ∀ d ∈ f.enableDate,
      checkDate d = .ok () ∧ ∀ c ∈ d.toList, c.toNat < 128) :
    ∃ day, CalendarDay.ofText? date.toList = some day ∧
      (flagsAtDate fs date).enabled.Perm
        (fs.filter fun f => f.enableDay?.any fun e => decide (e ≤ day)) ∧
      (flagsAtDate fs date).notYetEnabled.Perm
        (fs.filter fun f => f.enableDay?.any fun e => decide (¬ e ≤ day)) := by
  obtain ⟨q, hq, hday⟩ := exists_parts_of_checkDate hdate
  refine ⟨q.calendarDay, hday, flagsAtDate_perm_of_parts hq hflags fun f hf d hd => ?_⟩
  obtain ⟨hcheck, hd⟩ := hdates f hf d hd
  exact ⟨hcheck, sameScripts_of_checkDate hcheck hdate (List.forall_mem_append.mpr ⟨hd, hascii⟩)⟩

/-- **A flag can be enabled before its day.**  The date is 1 January 2022 in full-width digits, which
stand behind the ASCII digits that name the day of the flag. -/
theorem enabled_before_its_day :
    let dated : Flag := ⟨"dated", 0, none, none, some "2023-06-14", false, false, false, none, false⟩
    checkDate "２０２２-０１-０１" = .ok () ∧ checkDate "2023-06-14" = .ok () ∧
    CalendarDay.ofText? "２０２２-０１-０１".toList = some ⟨2022, 1, 1⟩ ∧
    dated.enableDay? = some ⟨2023, 6, 14⟩ ∧
    ¬ (⟨2023, 6, 14⟩ : CalendarDay) ≤ ⟨2022, 1, 1⟩ ∧
    (flagsAtDate [dated] "２０２２-０１-０１").enabled = [dated] := by
  decide +kernel

end Compat

end DeclAtlas
