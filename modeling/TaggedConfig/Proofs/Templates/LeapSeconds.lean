import TaggedConfig.Proofs.Number.Digits
import TaggedConfig.Proofs.Templates.Pieces

/-!
# Placeholders in a leap second

The placeholders of one moment agree with each other, except in a leap second.  There the microseconds
of the moment count on beyond a million and its second stays that of the second before, while a format
writes both as a clock shows them.
-/

namespace TaggedConfig

namespace Date

/-- The days of an era that its years leave over are no more than those of a leap year. -/
theorem daysIntoYear_le {dayOfEra yearOfEra : Nat} (small : dayOfEra < 146097)
    (counted : yearOfEra =
      (dayOfEra - dayOfEra / 1460 + dayOfEra / 36524 - dayOfEra / 146096) / 365) :
    dayOfEra - (365 * yearOfEra + yearOfEra / 4 - yearOfEra / 100) ≤ 365 := by
  have centuries : yearOfEra / 100 ≤ 4 := by omega
  have lengths : dayOfEra / 36524 ≤ 4 := by omega
  generalize byYears : yearOfEra / 100 = century at *
  generalize byDays : dayOfEra / 36524 = length at *
  interval_cases century <;> interval_cases length <;> omega

theorem monthFromMarch_le {daysIntoYear : Nat} (small : daysIntoYear ≤ 365) :
    (5 * daysIntoYear + 2) / 153 ≤ 11 := by
  omega

theorem month_ofDays (days : Int) : 1 ≤ (ofDays days).month ∧ (ofDays days).month ≤ 12 := by
  have small : ((days + epochFromMarch) % 146097).toNat < 146097 := by omega
  have months := monthFromMarch_le (daysIntoYear_le small rfl)
  unfold ofDays
  dsimp only
  split <;> omega

theorem day_ofDays (days : Int) : 1 ≤ (ofDays days).day ∧ (ofDays days).day ≤ 31 := by
  unfold ofDays
  dsimp only
  omega

end Date

namespace Moment

variable (moment : Moment)

theorem hour_lt : moment.hour < 24 := by
  have day : moment.secondOfDay < 86400 := by
    unfold secondOfDay
    omega
  unfold hour
  omega

theorem minute_lt : moment.minute < 60 := Nat.mod_lt _ (by decide)

theorem second_lt : moment.second < 60 := Nat.mod_lt _ (by decide)

end Moment

/-- A number in two places reads back as the number. -/
theorem natInBase?_twoPlaces :
    ∀ value < 100, natInBase? 10 (twoPlaces .zeros value).toList = some value := by
  decide

theorem fractionDigits_six (nanoseconds : Nat) :
    fractionDigits 6 nanoseconds = (toString (nanoseconds / 1000)).leftpad 6 '0' := by
  unfold fractionDigits padded String.leftpad List.leftpad
  rw [toList_toString_nat]

namespace Moment

variable {moment : Moment}

def Shows (moment : Moment) (body text : String) : Prop :=
  Template.render ("\x7b" ++ body ++ "\x7d") moment = .ok text

theorem Shows.unique {body text other : String} (first : moment.Shows body text)
    (second : moment.Shows body other) : text = other :=
  Except.ok.inj (first.symm.trans second)

theorem shows_written (asked : Placeholder) (closed : '\x7d' ∉ asked.written) {text : String}
    (valued : asked.text? moment = some text) :
    moment.Shows (String.ofList asked.written) text := by
  refine Template.render_eq_ok_iff.mpr ⟨[.placeholder asked closed], ?_, ?_⟩
  · rw [String.toList_append, String.toList_append, String.toList_ofList]
    simp [TemplatePiece.template, TemplatePiece.written]
  · simp [TemplatePiece.textOf?, TemplatePiece.text?, valued]

theorem shows_whole : moment.Shows "now" (moment.clock ++ moment.clockFraction) :=
  shows_written .whole (by decide) rfl

theorem shows_field (asked : MomentField) :
    moment.Shows ("now." ++ asked.name) (toString (asked.valueAt moment)) := by
  have body : String.ofList (Placeholder.written (.field asked)) = "now." ++ asked.name := by
    cases asked <;> rfl
  have closed : '\x7d' ∉ Placeholder.written (.field asked) := by
    cases asked <;> decide
  rw [← body]
  exact shows_written _ closed rfl

theorem shows_formatted {format text : String} (closed : '\x7d' ∉ format.toList)
    (rendered : Placeholder.renderFormat moment format = .ok text) :
    moment.Shows ("now:" ++ format) text := by
  have body : String.ofList (Placeholder.written (.formatted format)) = "now:" ++ format := by
    refine String.toList_inj.mp ?_
    rw [String.toList_append, String.toList_ofList]
    rfl
  rw [← body]
  refine shows_written _ ?_ (Placeholder.renderFormat_eq_ok_iff.mp rendered)
  intro found
  simp [Placeholder.written, closed] at found

theorem shows_clock : moment.Shows "now:%Y-%m-%d %H:%M:%S" moment.clock := by
  have closed : '\x7d' ∉ "%Y-%m-%d %H:%M:%S".toList := by decide
  have shown := shows_formatted closed (Placeholder.renderFormat_clock moment)
  rwa [show "now:" ++ "%Y-%m-%d %H:%M:%S" = "now:%Y-%m-%d %H:%M:%S" by decide] at shown

def Writes (moment : Moment) (letter : String) (asked : MomentField) (more : Nat) : Prop :=
  ∃ (value : Nat) (text : String), moment.Shows ("now." ++ asked.name) (toString value) ∧
    moment.Shows ("now:" ++ ("%" ++ letter)) text ∧ natInBase? 10 text.toList = some (value + more)

/-- The fields down to minutes are what their directives write. -/
structure FieldsAgree (moment : Moment) : Prop where
  month : moment.Writes "m" .month 0
  day : moment.Writes "d" .day 0
  hour : moment.Writes "H" .hour 0
  minute : moment.Writes "M" .minute 0

/--
The placeholders of a moment agree: the moment as a whole is its clock, with the microseconds in six
digits behind it unless they are zero, the microseconds are below a million, and each other field is
what its directive writes.
-/
structure RenderingsAgree (moment : Moment) : Prop extends FieldsAgree moment where
  whole : ∃ clock microsecond, moment.Shows "now:%Y-%m-%d %H:%M:%S" clock ∧
    moment.Shows "now.microsecond" microsecond ∧
    moment.Shows "now"
      (clock ++ if microsecond = "0" then "" else "." ++ microsecond.leftpad 6 '0')
  microsecond : ∃ value : Nat, moment.Shows "now.microsecond" (toString value) ∧ value ≤ 999999
  second : moment.Writes "S" .second 0

/--
The placeholders of a moment in a leap second: its microseconds are a million more than those behind
the clock, and its second is one less than that of the clock.
-/
structure RenderingsDiffer (moment : Moment) : Prop extends FieldsAgree moment where
  whole : ∃ (clock : String) (written : Nat), moment.Shows "now:%Y-%m-%d %H:%M:%S" clock ∧
    moment.Shows "now" (clock ++ ("." ++ (toString written).leftpad 6 '0')) ∧ written ≤ 999999 ∧
    moment.Shows "now.microsecond" (toString (1000000 + written))
  second : moment.Writes "S" .second 1

theorem shows_microsecond : moment.Shows "now.microsecond" (toString moment.microseconds) :=
  shows_field .microsecond

theorem writes_of_number {letter : String} {asked : MomentField} {number : NumericField}
    {value more : Nat} (closed : '\x7d' ∉ letter.toList)
    (known : Directive.parse? ("%" ++ letter).toList = some [.zeroPadded number])
    (valued : asked.valueAt moment = value)
    (written : number.render .zeros moment = twoPlaces .zeros (value + more))
    (small : value + more < 100) : moment.Writes letter asked more := by
  refine ⟨value, twoPlaces .zeros (value + more), ?_, ?_, natInBase?_twoPlaces _ small⟩
  · have shown : moment.Shows _ (toString (asked.valueAt moment)) := shows_field asked
    rwa [valued] at shown
  · refine shows_formatted ?_ (Placeholder.renderFormat_eq_ok_iff.mpr ?_)
    · rw [String.toList_append]
      simp [closed]
    · rw [known, ← written]
      exact congrArg some String.empty_append

theorem fieldsAgree (moment : Moment) : moment.FieldsAgree where
  month :=
    writes_of_number (by decide) (by cbv) rfl rfl
      (Nat.lt_of_le_of_lt (Date.month_ofDays moment.days).2 (by decide))
  day :=
    writes_of_number (by decide) (by cbv) rfl rfl
      (Nat.lt_of_le_of_lt (Date.day_ofDays moment.days).2 (by decide))
  hour := writes_of_number (by decide) (by cbv) rfl rfl (Nat.lt_trans moment.hour_lt (by decide))
  minute :=
    writes_of_number (by decide) (by cbv) rfl rfl (Nat.lt_trans moment.minute_lt (by decide))

theorem writes_second (representable : moment.nanoseconds < 2000000000) :
    moment.Writes "S" .second (moment.nanoseconds / 1000000000) := by
  have written := moment.second_lt
  exact writes_of_number (by decide) (by cbv) rfl rfl (by omega)

theorem clockFraction_eq (some : moment.microseconds ≠ 0) :
    moment.clockFraction =
      "." ++ (toString (moment.nanoseconds % 1000000000 / 1000)).leftpad 6 '0' := by
  unfold clockFraction
  rw [if_neg some, fractionDigits_six]
  rfl

theorem renderingsAgree_of_ordinary (ordinary : moment.nanoseconds < 1000000000) :
    moment.RenderingsAgree where
  toFieldsAgree := moment.fieldsAgree
  whole := by
    have shown := moment.shows_whole
    refine ⟨_, _, shows_clock, shows_microsecond, ?_⟩
    by_cases none : moment.microseconds = 0
    · have written : toString moment.microseconds = "0" := congrArg toString none
      rw [if_pos written]
      rwa [clockFraction, if_pos none] at shown
    · have written : toString moment.microseconds ≠ "0" := fun same => none (Nat.repr_injective same)
      rw [if_neg written]
      rwa [clockFraction_eq none, Nat.mod_eq_of_lt ordinary] at shown
  microsecond := by
    refine ⟨_, shows_microsecond, ?_⟩
    unfold microseconds
    omega
  second := by
    have written := writes_second (Nat.lt_trans ordinary (by decide))
    rwa [Nat.div_eq_of_lt ordinary] at written

theorem microseconds_of_leap (leap : 1000000000 ≤ moment.nanoseconds)
    (representable : moment.nanoseconds < 2000000000) :
    moment.microseconds = 1000000 + moment.nanoseconds % 1000000000 / 1000 := by
  unfold microseconds
  omega

theorem renderingsDiffer_of_leap (leap : 1000000000 ≤ moment.nanoseconds)
    (representable : moment.nanoseconds < 2000000000) : moment.RenderingsDiffer where
  toFieldsAgree := moment.fieldsAgree
  whole := by
    have beyond := microseconds_of_leap leap representable
    have shown := moment.shows_whole
    rw [clockFraction_eq (by omega)] at shown
    refine ⟨_, _, shows_clock, shown, by omega, ?_⟩
    rw [← beyond]
    exact shows_microsecond
  second := by
    have written := writes_second representable
    rwa [show moment.nanoseconds / 1000000000 = 1 by omega] at written

theorem not_renderingsAgree_of_leap (leap : 1000000000 ≤ moment.nanoseconds) :
    ¬moment.RenderingsAgree := by
  intro agree
  obtain ⟨value, shown, small⟩ := agree.microsecond
  have same : moment.microseconds = value := Nat.repr_injective (shows_microsecond.unique shown)
  unfold microseconds at same
  omega

/--
The placeholders of a moment agree exactly if it is not in a leap second.  In a leap second the
microseconds count on from a million and the second stays the one before, while the clock, the moment
as a whole and the directives write a second of its own and a fraction that begins at zero again; the
month, the day, the hour and the minute still agree.
-/
theorem renderings_agree_iff (moment : Moment) (representable : moment.nanoseconds < 2000000000) :
    (moment.RenderingsAgree ↔ moment.nanoseconds < 1000000000) ∧
      (1000000000 ≤ moment.nanoseconds → moment.RenderingsDiffer) := by
  refine ⟨⟨fun agree => ?_, renderingsAgree_of_ordinary⟩,
    fun leap => renderingsDiffer_of_leap leap representable⟩
  by_contra leap
  exact not_renderingsAgree_of_leap (Nat.le_of_not_lt leap) agree

/-- The last moment of a second and half a second into the leap second behind it. -/
theorem renderings_agree_iff_around_leap_second :
    (⟨1483228799, 999999999, .east 5400⟩ : Moment).RenderingsAgree ∧
      ¬(⟨1483228799, 1500000000, .east 5400⟩ : Moment).RenderingsAgree ∧
      (⟨1483228799, 1500000000, .east 5400⟩ : Moment).RenderingsDiffer := by
  obtain ⟨before, -⟩ := renderings_agree_iff ⟨1483228799, 999999999, .east 5400⟩ (by decide)
  obtain ⟨within, differ⟩ := renderings_agree_iff ⟨1483228799, 1500000000, .east 5400⟩ (by decide)
  exact ⟨before.mpr (by decide), fun agree => absurd (within.mp agree) (by decide),
    differ (by decide)⟩

/-- What the placeholders stand for at the beginning of a leap second. -/
theorem renderings_of_leap_second :
    let moment : Moment := ⟨1483228799, 1000000000, .universal⟩
    ¬moment.RenderingsAgree ∧
      Template.render "\x7bnow\x7d" moment = .ok "2016-12-31 23:59:60.000000" ∧
      Template.render "\x7bnow.microsecond\x7d" moment = .ok "1000000" ∧
      Template.render "\x7bnow.second\x7d" moment = .ok "59" ∧
      Template.render "\x7bnow:%S\x7d" moment = .ok "60" := by
  intro moment
  exact ⟨not_renderingsAgree_of_leap (by decide), by cbv, by cbv, by cbv, by cbv⟩

end Moment

end TaggedConfig
