import DemoQuery.Proofs.Calendar.Days
import DemoQuery.Proofs.Text.Numeral

/-!
# Moments as shown

What the text of a date and time denotes, read off its characters. A text denotes one moment at
most, and the text for a second denotes the minute in which it lies, counted from the start of 1970.
-/

namespace DemoQuery

open Text

/-! ### What a text denotes -/

/-- `ShowsMoment t m`: the text `t` is a year, a month, a day, an hour and a minute, each in decimal
digits and the year with a sign if it has one, and they are those of the moment `m`. -/
inductive ShowsMoment : String → Moment → Prop
  | mk {ys mos ds hs mis : List Char} {year : Int} (hyear : Numeral ys year) (hmonth : IsDigits mos)
      (hday : IsDigits ds) (hhour : IsDigits hs) (hminute : IsDigits mis) :
      ShowsMoment (.ofList (ys ++ '-' :: (mos ++ '-' :: (ds ++ ' ' :: (hs ++ ':' :: mis)))))
        ⟨⟨year, placeValue mos, placeValue ds⟩, placeValue hs, placeValue mis⟩

lemma ShowsMoment.unique {t : String} {m m' : Moment} (h : ShowsMoment t m)
    (h' : ShowsMoment t m') : m = m' := by
  generalize ht : t = s at h'
  cases h with
  | mk hy hmo hda hho _ =>
    cases h' with
    | mk hy' hmo' hda' hho' _ =>
      have hdash : ∀ cs, StopsAt Char.isDigit ('-' :: cs) := fun cs => stopsAt_cons.2 (by decide)
      have hblank : ∀ cs, StopsAt Char.isDigit (' ' :: cs) := fun cs => stopsAt_cons.2 (by decide)
      have hcolon : ∀ cs, StopsAt Char.isDigit (':' :: cs) := fun cs => stopsAt_cons.2 (by decide)
      obtain ⟨rfl, hm⟩ := hy.append_inj hy' (hdash _) (hdash _) (String.ofList_inj.1 ht)
      obtain ⟨rfl, hd⟩ := run_append_inj hmo.2 hmo'.2 (hdash _) (hdash _) (List.cons.inj hm).2
      obtain ⟨rfl, hh⟩ := run_append_inj hda.2 hda'.2 (hblank _) (hblank _) (List.cons.inj hd).2
      obtain ⟨rfl, hmi⟩ := run_append_inj hho.2 hho'.2 (hcolon _) (hcolon _) (List.cons.inj hh).2
      obtain rfl := (List.cons.inj hmi).2
      rw [hy.unique hy']

/-- A text of a moment has a blank, which no numeral has. -/
lemma ShowsMoment.not_numeral {t : String} {m : Moment} {n : Int} (h : ShowsMoment t m)
    (hn : Numeral t.toList n) : False := by
  cases h with
  | mk _ _ _ _ _ => exact hn.notMem (c := ' ') (by decide) (by decide) (by decide) (by simp)

lemma ShowsMoment.newline_notMem {t : String} {m : Moment} (h : ShowsMoment t m) :
    '\n' ∉ t.toList := by
  cases h with
  | mk hyear hmonth hday hhour hminute =>
    have hdigits : ∀ {ds}, IsDigits ds → '\n' ∉ ds := fun h => (Numeral.unsigned h).newline_notMem
    simp [hyear.newline_notMem, hdigits hmonth, hdigits hday, hdigits hhour, hdigits hminute]

/-! ### The texts of moments -/

lemma numeral_yearText (year : Int) : Numeral (yearText year).toList year := by
  have hdigits := isDigits_padZeros 4 year.natAbs
  have hvalue := placeValue_padZeros 4 year.natAbs
  rw [yearText]
  by_cases hneg : year < 0
  · have hyear : year = -placeValue (padZeros 4 year.natAbs).toList := by omega
    have h := Numeral.minus hdigits
    rw [← hyear] at h
    simpa [hneg] using h
  · have hyear : year = placeValue (padZeros 4 year.natAbs).toList := by omega
    by_cases hlarge : 9999 < year
    · have h := Numeral.plus hdigits
      rw [← hyear] at h
      simpa [hneg, hlarge] using h
    · have h := Numeral.unsigned hdigits
      rw [← hyear] at h
      simpa [hneg, hlarge] using h

lemma showsMoment_text (m : Moment) : ShowsMoment m.text m := by
  have hmk := ShowsMoment.mk (numeral_yearText m.date.year) (isDigits_padZeros 2 m.date.month)
    (isDigits_padZeros 2 m.date.day) (isDigits_padZeros 2 m.hour) (isDigits_padZeros 2 m.minute)
  simp only [placeValue_padZeros] at hmk
  have htext : m.text = .ofList ((yearText m.date.year).toList ++ '-' ::
      ((padZeros 2 m.date.month).toList ++ '-' :: ((padZeros 2 m.date.day).toList ++ ' ' ::
        ((padZeros 2 m.hour).toList ++ ':' :: (padZeros 2 m.minute).toList)))) := by
    apply String.toList_inj.1
    simp [Moment.text, Date.text]
  rw [htext]
  exact hmk

/-! ### The minute of a second -/

/-- The minutes from the start of 1970 to a moment. -/
def Moment.minutes (m : Moment) : Int :=
  1440 * m.date.days + 60 * m.hour + m.minute

/-- A date of the calendar, and an hour and a minute of a day. -/
structure Moment.IsValid (m : Moment) : Prop where
  date   : m.date.IsValid
  hour   : m.hour < 24
  minute : m.minute < 60

lemma Moment.isValid_ofSeconds (s : Int) : (ofSeconds s).IsValid := by
  refine ⟨Date.isValid_ofDays _, ?_, ?_⟩
  · simp only [ofSeconds]
    omega
  · simp only [ofSeconds]
    omega

lemma Moment.minutes_ofSeconds (s : Int) : (ofSeconds s).minutes = s / 60 := by
  simp only [minutes, ofSeconds, Date.days_ofDays]
  omega

/-- Whether a second lies between -262143-01-01 and 262142-12-31. -/
def IsDated (seconds : Int) : Prop :=
  Date.days ⟨-262143, 1, 1⟩ ≤ seconds / 86400 ∧ seconds / 86400 ≤ Date.days ⟨262142, 12, 31⟩

lemma days_first_last : Date.days ⟨-262143, 1, 1⟩ = -96465292 ∧
    Date.days ⟨262142, 12, 31⟩ = 95026236 := by
  constructor
  · have h := Date.days_to_march (-262144) (m := 0) (by decide) 1
    simpa [marchDay, firstDayOfMonth, daysTo1970] using h
  · have h := Date.days_from_march 262142 (m := 9) (by decide) 31
    simpa [marchDay, firstDayOfMonth, daysTo1970] using h

lemma isDated_iff {s : Int} : IsDated s ↔ -8334601228800 ≤ s ∧ s ≤ 8210266876799 := by
  rw [IsDated, days_first_last.1, days_first_last.2]
  omega

lemma isShown_ofSeconds_iff {s : Int} : (Moment.ofSeconds s).date.isShown ↔ IsDated s := by
  have hmem := (Date.isValid_ofDays (s / 86400)).year_mem_iff (-262143) 262142
  rw [Date.days_ofDays, daysToYear_eq, daysToYear_eq] at hmem
  rw [IsDated, days_first_last.1, days_first_last.2, Date.isShown, Bool.and_eq_true,
    decide_eq_true_eq, decide_eq_true_eq]
  refine hmem.trans ?_
  omega

/-! ### The text for a second -/

lemma showsMoment_timestampText {s : Int} (h : IsDated s) :
    ShowsMoment (timestampText s) (Moment.ofSeconds s) := by
  rw [timestampText, if_pos (isShown_ofSeconds_iff.2 h)]
  exact showsMoment_text _

lemma numeral_timestampText {s : Int} (h : ¬ IsDated s) :
    Numeral (timestampText s).toList s := by
  rw [timestampText, if_neg (mt isShown_ofSeconds_iff.1 h)]
  exact numeral_ofInteger s

lemma Moment.ofSeconds_congr {s s' : Int} (h : s / 60 = s' / 60) : ofSeconds s = ofSeconds s' := by
  have hday : s / 86400 = s' / 86400 := by omega
  have hhour : (s % 86400).toNat / 3600 = (s' % 86400).toNat / 3600 := by omega
  have hminute : (s % 86400).toNat % 3600 / 60 = (s' % 86400).toNat % 3600 / 60 := by omega
  simp only [ofSeconds, hday, hhour, hminute]

/-- From -262143-01-01 to 262142-12-31, the text for a second denotes one moment. That is a date and
time of the calendar, and it is the minute in which the second lies, so that two of these seconds
have one text exactly if they lie in one minute. For any other second the text is the number, and
denotes no moment. -/
theorem timestampText_denotes_minute :
    (∀ s, IsDated s → ∃! m, ShowsMoment (timestampText s) m) ∧
      (∀ s m, ShowsMoment (timestampText s) m → m.IsValid ∧ m.minutes = s / 60) ∧
      (∀ s s', IsDated s → IsDated s' →
        (timestampText s = timestampText s' ↔ s / 60 = s' / 60)) ∧
      ∀ s, ¬ IsDated s →
        Numeral (timestampText s).toList s ∧ ∀ m, ¬ ShowsMoment (timestampText s) m := by
  have hdated : ∀ {s m}, ShowsMoment (timestampText s) m → IsDated s := by
    intro s m h
    by_contra hs
    exact h.not_numeral (numeral_timestampText hs)
  have hminute : ∀ {s m}, ShowsMoment (timestampText s) m → m.IsValid ∧ m.minutes = s / 60 := by
    intro s m h
    rw [h.unique (showsMoment_timestampText (hdated h))]
    exact ⟨Moment.isValid_ofSeconds s, Moment.minutes_ofSeconds s⟩
  refine ⟨fun s hs => ?_, fun s m => hminute, fun s s' hs hs' => ⟨fun htext => ?_, fun h => ?_⟩,
    fun s hs => ⟨numeral_timestampText hs, fun m h => hs (hdated h)⟩⟩
  · have hshown := showsMoment_timestampText hs
    exact ⟨_, hshown, fun m h => h.unique hshown⟩
  · have hshown := showsMoment_timestampText hs
    rw [← (hminute hshown).2]
    exact (hminute (htext ▸ hshown)).2
  · rw [timestampText, timestampText, if_pos (isShown_ofSeconds_iff.2 hs),
      if_pos (isShown_ofSeconds_iff.2 hs'), Moment.ofSeconds_congr h]

/-- The leap day of the year -4, two seconds of the last minute of 1969, and the first second behind
the last date. -/
theorem timestampText_denotes_minute_leap_day_and_last_second :
    (∃! m, ShowsMoment (timestampText (-62288352000)) m) ∧
      (∀ m, ShowsMoment (timestampText (-62288352000)) m →
        m.IsValid ∧ m.minutes = (-62288352000) / 60) ∧
      (timestampText (-1) = timestampText (-60) ↔ (-1 : Int) / 60 = -60 / 60) ∧
      Numeral (timestampText 8210266876800).toList 8210266876800 ∧
        ∀ m, ¬ ShowsMoment (timestampText 8210266876800) m := by
  obtain ⟨hone, hminute, hsame, hother⟩ := timestampText_denotes_minute
  refine ⟨hone _ (isDated_iff.2 (by decide)), hminute _, ?_, ?_⟩
  · exact hsame _ _ (isDated_iff.2 (by decide)) (isDated_iff.2 (by decide))
  · exact hother _ (mt isDated_iff.1 (by decide))

example : timestampText (-62288352000) = "-0004-02-29 00:00" ∧
    timestampText (-1) = "1969-12-31 23:59" ∧
      timestampText 253402300800 = "+10000-01-01 00:00" := by
  decide +kernel

end DemoQuery
