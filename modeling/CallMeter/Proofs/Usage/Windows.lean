import CallMeter.Proofs.Store.Offset
import CallMeter.Proofs.Time.IsoText
import CallMeter.Store.Table
import CallMeter.Usage.Service

/-!
# Windows of texts and of time

A window is written as two texts, and a store compares the start of an item with them as texts.
Among the years of four digits this is the same as comparing times to the millisecond. Whatever
the years, the texts of a window begin with a digit or a sign, so that no blank start lies between
them.

## Main definitions

* `Instant.Within`: an instant lies between two others, to the millisecond

## Main results

* `minusDays_spec`: what it means to be some days earlier
* `covers_toIso_iff`: a window of texts is the window of time
* `not_blank_of_covers`: no blank start lies in a window
* `endingAt_widens`: more days make a window longer at its start only
-/

namespace CallMeter

open Time (Instant Date)

/-! ## Some days earlier -/

namespace Time.Instant

variable {now : Instant}

theorem minusDays_of_leap {days : Nat} (leap : now.isLeapSecond = true) (h : 0 < days) :
    now.minusDays days = ⟨now.seconds + 1 - days * 86400, now.nanos - 1000000000⟩ := by
  rw [minusDays, if_pos (by rw [leap, decide_eq_true h]; rfl)]

theorem minusDays_of_not_leap (days : Nat) (leap : now.isLeapSecond = false) :
    now.minusDays days = ⟨now.seconds - days * 86400, now.nanos⟩ := by
  rw [minusDays, if_neg (by rw [leap]; exact Bool.false_ne_true)]

/-- **Some days earlier** is outside of any leap second and as many times 24 hours away, where a
leap second is over as its nanoseconds say. -/
theorem Proper.minusDays_spec (h : now.Proper) {days : Nat} (hd : 0 < days) :
    (now.minusDays days).nanos < 1000000000 ∧
      (now.minusDays days).seconds * 1000000000 + (now.minusDays days).nanos +
          days * 86400 * 1000000000 = now.seconds * 1000000000 + now.nanos := by
  have upper := h.nanos_lt
  cases leap : now.isLeapSecond with
  | true =>
    have lower := isLeapSecond_iff.mp leap
    rw [minusDays_of_leap leap hd]
    dsimp only
    omega
  | false =>
    have lower : ¬ 1000000000 ≤ now.nanos := fun h' => by simp [isLeapSecond_iff.mpr h'] at leap
    rw [minusDays_of_not_leap days leap]
    dsimp only
    omega

theorem Proper.minusDays (h : now.Proper) {days : Nat} (hd : 0 < days) :
    (now.minusDays days).Proper := by
  have inSecond := (h.minusDays_spec hd).1
  refine ⟨by omega, fun leap => ?_⟩
  have := isLeapSecond_iff.mp leap
  omega

/-- More days earlier is earlier. -/
theorem Proper.minusDays_anti (h : now.Proper) {days days' : Nat} (hd : 0 < days)
    (more : days ≤ days') : now.minusDays days' ≤ now.minusDays days := by
  have near := h.minusDays_spec hd
  have far := h.minusDays_spec (hd.trans_le more)
  rw [le_def]
  omega

theorem Proper.minusDays_le (h : now.Proper) {days : Nat} (hd : 0 < days) :
    now.minusDays days ≤ now := by
  have far := h.minusDays_spec hd
  have upper := h.nanos_lt
  rw [le_def]
  omega

/-- An instant between two of years with four digits is of such a year. -/
theorem InYears.between {s t u : Instant} (hs : s.InYears) (hu : u.InYears) (hst : s ≤ t)
    (htu : t ≤ u) : t.InYears := by
  rw [le_def] at hst htu
  have lower : s.day ≤ t.day := by unfold day; omega
  have upper : t.day ≤ u.day := by unfold day; omega
  exact ⟨hs.1.trans (Date.year_ofDays_mono lower), (Date.year_ofDays_mono upper).trans hu.2⟩

/-- **Within a window of time**: neither before the one instant nor after the other, to the
millisecond. -/
def Within (start finish t : Instant) : Prop :=
  start.truncated ≤ t.truncated ∧ t.truncated ≤ finish.truncated

end Time.Instant

/-! ## The texts of a window -/

namespace Window

variable {now : Instant} {days : Nat} {w : Window}

/-- A window goes from some days earlier to the instant at which it ends. -/
theorem eq_of_endingAt (h : endingAt now days = some w) :
    w = ⟨days, (now.minusDays days).toIso, now.toIso⟩ := by
  rw [endingAt] at h
  split at h
  · cases h
  · exact (Option.some.inj h).symm

/-- There is a window if it starts in a year of four digits. -/
theorem endingAt_of_inYears (h : (now.minusDays days).InYears) :
    endingAt now days = some ⟨days, (now.minusDays days).toIso, now.toIso⟩ := by
  rw [endingAt, if_neg]
  exact not_lt.mpr ((show firstYear ≤ 0 by decide).trans h.1)

theorem covers_query_iff {tenant start : String} :
    (w.query tenant).covers start = true ↔ w.startIso ≤ start ∧ start ≤ w.endIso := by
  rw [RecordQuery.covers, Bool.and_eq_true, decide_eq_true_iff, decide_eq_true_iff]
  exact Iff.rfl

/-- **The window of texts is the window of time.** An item, or a row, whose start is the ISO text
of an instant lies in the window of some days up to now exactly if the instant lies between these
days earlier and now, to the millisecond. The texts are in the order of time. -/
theorem covers_toIso_iff (hdays : minDays ≤ days) (hnow : now.Proper) (hyear : now.InYears)
    (hstart : (now.minusDays days).InYears) :
    ∃ (w : Window) (start : Instant), endingAt now days = some w ∧
      (start.nanos < 1000000000 ∧ start.seconds * 1000000000 + start.nanos +
        days * 86400 * 1000000000 = now.seconds * 1000000000 + now.nanos) ∧
      w.startIso = start.toIso ∧ w.endIso = now.toIso ∧ w.startIso ≤ w.endIso ∧
      (∀ t : Instant, t.Proper → t.InYears →
        ∀ (tenant : String) (item : Json) (row : Row),
          startOf? item = some t.toIso → row.startedAt = t.toIso →
            ((w.query tenant).wants item = true ↔ start.Within now t) ∧
            ((w.query tenant).covers row.startedAt = true ↔ start.Within now t)) ∧
      ∀ s t : Instant, s.Proper → t.Proper → s.InYears → t.InYears → s ≤ t →
        s.toIso ≤ t.toIso := by
  have proper := hnow.minusDays hdays
  refine ⟨_, now.minusDays days, endingAt_of_inYears hstart, hnow.minusDays_spec hdays, rfl, rfl,
    ?_, ?_, ?_⟩
  · refine (Instant.toIso_le_iff proper hnow hstart hyear).mpr ?_
    exact Instant.truncated_mono (hnow.minusDays_le hdays)
  · intro t ht hty tenant item row hitem hrow
    have inside : (query ⟨days, (now.minusDays days).toIso, now.toIso⟩ tenant).covers t.toIso =
        true ↔ (now.minusDays days).Within now t :=
      covers_query_iff.trans (and_congr (Instant.toIso_le_iff proper ht hstart hty)
        (Instant.toIso_le_iff ht hnow hty hyear))
    constructor
    · rw [RecordQuery.wants, hitem, Option.any_some, inside]
    · rw [hrow, inside]
  · intro s t hs ht hys hyt hle
    exact (Instant.toIso_le_iff hs ht hys hyt).mpr (Instant.truncated_mono hle)

/-- A window of one day up to the middle of the leap second at the end of 2016. The last
millisecond before the leap second lies in it. -/
theorem covers_toIso_iff_of_leap_second :
    let now : Instant := ⟨1483228799, 1500000000⟩
    let t : Instant := ⟨1483228799, 999999999⟩
    now.Proper ∧ now.InYears ∧ (now.minusDays 1).InYears ∧
      ∃ w, endingAt now 1 = some w ∧ w.startIso ≤ w.endIso ∧
        (w.query "acme").wants (.object [("startedAt", .string t.toIso)]) = true := by
  intro now t
  have proper : now.Proper := ⟨by decide, fun _ => by decide⟩
  have inYears : now.InYears := ⟨by decide, by decide⟩
  have startInYears : (now.minusDays 1).InYears := ⟨by decide, by decide⟩
  obtain ⟨w, start, hw, ⟨hnanos, hstart⟩, -, -, ordered, inside, -⟩ :=
    covers_toIso_iff (by decide) proper inYears startInYears
  refine ⟨proper, inYears, startInYears, w, hw, ordered, ?_⟩
  refine (inside t ⟨by decide, fun h => absurd h (by decide)⟩ ⟨by decide, by decide⟩ "acme"
    (.object [("startedAt", .string t.toIso)]) ⟨"acme", "a", t.toIso, ""⟩ rfl rfl).1.mpr ?_
  have seconds : start.seconds = 1483142400 := by
    have count : start.seconds * 1000000000 + start.nanos + 1 * 86400 * 1000000000 =
        1483228799 * 1000000000 + 1500000000 := hstart
    omega
  constructor
  · exact .inl (by show start.seconds < 1483228799; omega)
  · exact .inr ⟨rfl, by decide⟩

end Window

/-! ## Blank starts -/

theorem Text.not_isSpace_of_bounds {c : Char} (lower : '+'.toNat ≤ c.toNat)
    (upper : c.toNat ≤ '9'.toNat) : isSpace c = false := by
  have plus : '+'.toNat = 43 := rfl
  have nine : '9'.toNat = 57 := rfl
  simp only [isSpace, Bool.or_eq_false_iff, Bool.and_eq_false_iff, decide_eq_false_iff_not,
    beq_eq_false_iff_ne, ne_eq]
  omega

namespace Window

variable {now : Instant} {days : Nat} {w : Window}

/-- **No blank start lies in a window**: the texts of a window begin with a digit or a sign, and
white space comes before all signs or after all digits. -/
theorem not_blank_of_covers (hw : endingAt now days = some w) {tenant start : String}
    (h : (w.query tenant).covers start = true) : Text.isBlank start = false := by
  obtain rfl := eq_of_endingAt hw
  obtain ⟨lower, upper⟩ := covers_query_iff.mp h
  obtain ⟨c, rest, hstart, hc, -⟩ := (now.minusDays days).head_toIso
  obtain ⟨c', rest', hnow, -, hc'⟩ := now.head_toIso
  rw [String.le_iff_toList_le] at lower upper
  dsimp only at lower upper
  rw [hstart] at lower
  rw [hnow] at upper
  cases hs : start.toList with
  | nil =>
    rw [hs] at lower
    exact absurd (List.nil_lt_cons c rest) (not_lt.mpr lower)
  | cons d r =>
    rw [hs] at lower upper
    have above : c ≤ d := not_lt.mp fun hlt =>
      absurd (List.cons_lt_cons_iff.mpr (.inl hlt)) (not_lt.mpr lower)
    have below : d ≤ c' := not_lt.mp fun hlt =>
      absurd (List.cons_lt_cons_iff.mpr (.inl hlt)) (not_lt.mpr upper)
    have space : Text.isSpace d = false :=
      Text.not_isSpace_of_bounds (hc.trans above) (le_trans below hc')
    rw [Text.isBlank, hs, List.all_cons, space, Bool.false_and]

/-- **More days make a window longer** at its start and leave its end. -/
theorem endingAt_widens {days' : Nat} (hnow : now.Proper) (hyear : now.InYears)
    (hstart : (now.minusDays days').InYears) (hdays : 0 < days) (more : days ≤ days') :
    ∃ w w', endingAt now days = some w ∧ endingAt now days' = some w' ∧
      w'.startIso ≤ w.startIso ∧ w'.endIso = w.endIso := by
  have earlier := hnow.minusDays_anti hdays more
  have inYears := hstart.between hyear earlier (hnow.minusDays_le hdays)
  refine ⟨_, _, endingAt_of_inYears inYears, endingAt_of_inYears hstart, ?_, rfl⟩
  refine (Instant.toIso_le_iff (hnow.minusDays (hdays.trans_le more)) (hnow.minusDays hdays)
    hstart inYears).mpr ?_
  exact Instant.truncated_mono earlier

end Window

end CallMeter
