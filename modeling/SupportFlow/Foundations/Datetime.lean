import Mathlib.Data.Nat.Digits.Defs
import SupportFlow.Foundations.Python

/-!
# Dates and times

Python's `datetime`: aware timestamps, their arithmetic and comparison, and their ISO 8601 text.

A timestamp is a wall time with a time zone. Adding a `timedelta` moves the wall time, and two
timestamps of one zone are compared by their wall times; only across zones do the offsets matter.
While every zone keeps to one offset none of this can be seen, and a timestamp is its instant
(`Timestamp.Steady`, `le_iff`, `instant_of_add?`). Where the offset changes, a wall time that moves
by eight hours may have moved by nine.

`fromisoformat_isoformat` is the round trip of the text: it keeps the wall time and the offset, and
so the instant. Only the extended format is read, which is the one that is written.
-/

namespace Python

/-! ### The calendar -/

/-- `_is_leap`. -/
def isLeap (year : ℕ) : Bool :=
  year % 4 = 0 && (year % 100 ≠ 0 || year % 400 = 0)

/-- `_days_before_year`. -/
def daysBeforeYear (year : ℕ) : ℕ :=
  (year - 1) * 365 + (year - 1) / 4 - (year - 1) / 100 + (year - 1) / 400

/-- `_DAYS_IN_MONTH`. -/
def daysInMonth : ℕ → ℕ
  | 2 => 28
  | 4 | 6 | 9 | 11 => 30
  | _ => 31

/-- `_DAYS_BEFORE_MONTH`. -/
def daysBeforeMonthTable (month : ℕ) : ℕ :=
  [0, 0, 31, 59, 90, 120, 151, 181, 212, 243, 273, 304, 334].getD month 0

/-- `_days_before_month`. -/
def daysBeforeMonth (leap : Bool) (month : ℕ) : ℕ :=
  daysBeforeMonthTable month + if 2 < month && leap then 1 else 0

/-- `_ymd2ord`: the first of January of the year 1 is day 1. -/
def ymd2ord (year month day : ℕ) : ℕ :=
  daysBeforeYear year + daysBeforeMonth (isLeap year) month + day

/-- The month and day of a day of the year, counted from zero. -/
def monthDay (leap : Bool) (n : ℕ) : ℕ × ℕ :=
  let month := (n + 50) / 32
  let preceding := daysBeforeMonth leap month
  if n < preceding then
    let preceding := preceding - (daysInMonth (month - 1) + if month - 1 = 2 && leap then 1 else 0)
    (month - 1, n - preceding + 1)
  else (month, n - preceding + 1)

/-- `_ord2ymd`. -/
def ord2ymd (ordinal : ℕ) : ℕ × ℕ × ℕ :=
  let n := ordinal - 1
  let n400 := n / 146097
  let n := n % 146097
  let n100 := n / 36524
  let n := n % 36524
  let n4 := n / 1461
  let n := n % 1461
  let n1 := n / 365
  let n := n % 365
  let year := n400 * 400 + 1 + n100 * 100 + n4 * 4 + n1
  if n1 = 4 || n100 = 4 then (year - 1, 12, 31)
  else (year, monthDay (n1 = 3 && (n4 ≠ 24 || n100 = 3)) n)

/-- A month and a day of a year. -/
def validDay (leap : Bool) (month day : ℕ) : Bool :=
  1 ≤ month && month ≤ 12 && 1 ≤ day &&
    day ≤ daysInMonth month + if month = 2 && leap then 1 else 0

theorem monthDay_spec : ∀ (leap : Bool), ∀ n < 365 + (if leap then 1 else 0),
    daysBeforeMonth leap (monthDay leap n).1 + (monthDay leap n).2 = n + 1 ∧
      validDay leap (monthDay leap n).1 (monthDay leap n).2 = true := by
  decide +kernel

/-- The days before a year, by its place in the cycles of 400, 100 and 4 years. -/
theorem daysBeforeYear_cycle {a b c d : ℕ} (hc : c ≤ 24) (hb : b ≤ 3) (hd : d ≤ 3) :
    daysBeforeYear (a * 400 + 1 + b * 100 + c * 4 + d) =
      a * 146097 + b * 36524 + c * 1461 + d * 365 := by
  unfold daysBeforeYear
  omega

theorem isLeap_cycle {a b c d : ℕ} (hc : c ≤ 24) (hb : b ≤ 3) (hd : d ≤ 3) :
    isLeap (a * 400 + 1 + b * 100 + c * 4 + d) =
      (decide (d = 3) && (decide (c ≠ 24) || decide (b = 3))) := by
  unfold isLeap
  rw [Bool.eq_iff_iff]
  simp only [Bool.and_eq_true, Bool.or_eq_true, decide_eq_true_eq]
  omega

/-- **A date is the day it was computed from.** -/
theorem ymd2ord_ord2ymd {ordinal year month day : ℕ} (hpos : 1 ≤ ordinal)
    (hmax : ordinal ≤ 3652059) (h : ord2ymd ordinal = (year, month, day)) :
    ymd2ord year month day = ordinal ∧ 1 ≤ year ∧ year < 10000 ∧
      validDay (isLeap year) month day = true := by
  unfold ord2ymd at h
  dsimp only at h
  obtain ⟨a, ha⟩ : ∃ a, a = (ordinal - 1) / 146097 := ⟨_, rfl⟩
  obtain ⟨b, hb⟩ : ∃ b, b = (ordinal - 1) % 146097 / 36524 := ⟨_, rfl⟩
  obtain ⟨c, hc⟩ : ∃ c, c = (ordinal - 1) % 146097 % 36524 / 1461 := ⟨_, rfl⟩
  obtain ⟨d, hd⟩ : ∃ d, d = (ordinal - 1) % 146097 % 36524 % 1461 / 365 := ⟨_, rfl⟩
  obtain ⟨n, hn⟩ : ∃ n, n = (ordinal - 1) % 146097 % 36524 % 1461 % 365 := ⟨_, rfl⟩
  rw [← ha, ← hb, ← hc, ← hd, ← hn] at h
  have hordinal : ordinal = a * 146097 + b * 36524 + c * 1461 + d * 365 + n + 1 := by omega
  split at h
  · next hlast =>
    -- The last day of a leap year: of the fourth of a cycle, or of the four hundredth.
    simp only [Bool.or_eq_true, decide_eq_true_eq] at hlast
    simp only [Prod.mk.injEq] at h
    obtain ⟨rfl, rfl, rfl⟩ := h
    have hcycle : ∃ a' b' c', b' ≤ 3 ∧ c' ≤ 24 ∧ (c' ≠ 24 ∨ b' = 3) ∧
        a * 400 + 1 + b * 100 + c * 4 + d - 1 = a' * 400 + 1 + b' * 100 + c' * 4 + 3 ∧
        a' * 146097 + b' * 36524 + c' * 1461 + 1461 = ordinal := by
      by_cases hb4 : b = 4
      · exact ⟨a, 3, 24, by omega, by omega, by omega, by omega, by omega⟩
      · exact ⟨a, b, c, by omega, by omega, by omega, by omega, by omega⟩
    obtain ⟨a', b', c', hb', hc', hleap, hyear, hday⟩ := hcycle
    have hisLeap : isLeap (a' * 400 + 1 + b' * 100 + c' * 4 + 3) = true := by
      rw [isLeap_cycle hc' hb' le_rfl]
      simpa using hleap
    rw [hyear, ymd2ord, daysBeforeYear_cycle hc' hb' le_rfl, hisLeap]
    refine ⟨?_, by omega, by omega, by decide⟩
    rw [show daysBeforeMonth true 12 = 335 from rfl]
    omega
  · next hlast =>
    simp only [Bool.or_eq_true, decide_eq_true_eq, not_or] at hlast
    have hb3 : b ≤ 3 := by omega
    have hc24 : c ≤ 24 := by omega
    have hd3 : d ≤ 3 := by omega
    obtain ⟨rfl, hmonthDay⟩ := Prod.mk.inj h
    have hleap : isLeap (a * 400 + 1 + b * 100 + c * 4 + d) =
        (decide (d = 3) && (decide (c ≠ 24) || decide (b = 3))) := isLeap_cycle hc24 hb3 hd3
    obtain ⟨hmonth, hvalid⟩ := monthDay_spec
      (decide (d = 3) && (decide (c ≠ 24) || decide (b = 3))) n (by omega)
    rw [hmonthDay] at hmonth hvalid
    rw [ymd2ord, daysBeforeYear_cycle hc24 hb3 hd3, hleap]
    refine ⟨?_, by omega, by omega, hvalid⟩
    rw [Nat.add_assoc, hmonth]
    omega

/-! ### Numbers in a text -/

/-- `"%0wd" % n`, for a number of at most `w` digits. -/
def pad : ℕ → ℕ → List Char
  | 0, _ => []
  | w + 1, n => pad w (n / 10) ++ [Nat.digitChar (n % 10)]

/-- One more digit of a number. -/
def digit? (n : ℕ) (c : Char) : Option ℕ :=
  if c.isDigit then some (n * 10 + (c.toNat - '0'.toNat)) else none

/-- A number of `w` digits, with what follows it. -/
def scanNumber (w : ℕ) (cs : List Char) : Option (ℕ × List Char) :=
  if cs.length < w then none
  else ((cs.take w).foldlM digit? 0).map fun n ↦ (n, cs.drop w)

@[simp]
theorem length_pad (w n : ℕ) : (pad w n).length = w := by
  induction w generalizing n with
  | zero => rfl
  | succ w ih => rw [pad, List.length_append, ih, List.length_singleton]

theorem digit?_digitChar (n d : ℕ) : digit? n (Nat.digitChar (d % 10)) =
    some (n * 10 + d % 10) := by
  have h : ∀ k < 10, (Nat.digitChar k).isDigit = true ∧
      (Nat.digitChar k).toNat - '0'.toNat = k := by
    decide
  obtain ⟨hdigit, hvalue⟩ := h (d % 10) (Nat.mod_lt d (by decide))
  rw [digit?, if_pos hdigit, hvalue]

theorem foldlM_pad {w n : ℕ} (h : n < 10 ^ w) : (pad w n).foldlM digit? 0 = some n := by
  induction w generalizing n with
  | zero =>
    have hzero : n = 0 := by omega
    rw [hzero]
    rfl
  | succ w ih =>
    have hlow : n / 10 < 10 ^ w := by
      rw [pow_succ] at h
      exact Nat.div_lt_of_lt_mul (by omega)
    rw [pad, List.foldlM_append, ih hlow]
    show (some (n / 10)).bind (fun m ↦ [Nat.digitChar (n % 10)].foldlM digit? m) = some n
    rw [Option.bind_some, List.foldlM_cons, digit?_digitChar]
    show some (n / 10 * 10 + n % 10) = some n
    rw [Nat.div_add_mod']

theorem scanNumber_pad {w n : ℕ} (h : n < 10 ^ w) (rest : List Char) :
    scanNumber w (pad w n ++ rest) = some (n, rest) := by
  have htake : (pad w n ++ rest).take w = pad w n := by
    rw [List.take_append_of_le_length (length_pad w n).ge,
      List.take_of_length_le (length_pad w n).le]
  have hdrop : (pad w n ++ rest).drop w = rest := by
    rw [List.drop_append_of_le_length (length_pad w n).ge,
      List.drop_of_length_le (length_pad w n).le, List.nil_append]
  rw [scanNumber, htake, hdrop, foldlM_pad h, if_neg]
  · rfl
  · rw [List.length_append, length_pad]
    omega

/-! ### Times of the day -/

/-- Microseconds of a day. -/
def dayLength : ℕ :=
  86400000000

/-- `HH:MM`. -/
def formatMinutes (t : ℕ) : List Char :=
  pad 2 (t / 3600000000) ++ ':' :: pad 2 (t / 60000000 % 60)

/-- `.ffffff`, unless it is zero. -/
def formatFraction (t : ℕ) : List Char :=
  if t % 1000000 = 0 then [] else '.' :: pad 6 (t % 1000000)

/-- `_format_time`. -/
def formatTime (t : ℕ) : List Char :=
  formatMinutes t ++ ':' :: (pad 2 (t / 1000000 % 60) ++ formatFraction t)

/-- `_format_offset`, without the sign: seconds are written only when there are any. -/
def formatOffset (t : ℕ) : List Char :=
  if t % 60000000 = 0 then formatMinutes t else formatTime t

/-- Minutes and hours, as microseconds. -/
def scanMinutes (cs : List Char) : Option (ℕ × List Char) := do
  let (hour, rest) ← scanNumber 2 cs
  match rest with
  | ':' :: rest =>
    let (minute, rest) ← scanNumber 2 rest
    if hour < 24 ∧ minute < 60 then some ((hour * 60 + minute) * 60000000, rest) else none
  | _ => none

/-- A time of the day, as microseconds: `HH:MM[:SS[.ffffff]]`. -/
def scanTime (cs : List Char) : Option (ℕ × List Char) := do
  let (t, rest) ← scanMinutes cs
  match rest with
  | ':' :: rest =>
    let (second, rest) ← scanNumber 2 rest
    if 60 ≤ second then none
    else
      match rest with
      | '.' :: rest =>
        let (fraction, rest) ← scanNumber 6 rest
        some (t + second * 1000000 + fraction, rest)
      | rest => some (t + second * 1000000, rest)
  | rest => some (t, rest)

theorem scanMinutes_format {t : ℕ} (h : t < dayLength) (rest : List Char) :
    scanMinutes (formatMinutes t ++ rest) =
      some ((t / 3600000000 * 60 + t / 60000000 % 60) * 60000000, rest) := by
  unfold dayLength at h
  rw [formatMinutes, List.append_assoc, List.cons_append, scanMinutes,
    scanNumber_pad (by omega)]
  simp only [Option.bind_eq_bind, Option.bind_some]
  rw [scanNumber_pad (by omega)]
  simp only [Option.bind_some]
  rw [if_pos (by omega)]

/-- What may follow a time: nothing that goes on with it. -/
def EndsTime (rest : List Char) : Prop :=
  ∀ c ∈ rest.head?, c ≠ ':' ∧ c ≠ '.'

theorem scanTime_format {t : ℕ} (h : t < dayLength) {rest : List Char} (hrest : EndsTime rest) :
    scanTime (formatTime t ++ rest) = some (t, rest) := by
  rw [formatTime, List.append_assoc, List.cons_append, List.append_assoc, scanTime,
    scanMinutes_format h]
  unfold dayLength at h
  simp only [Option.bind_eq_bind, Option.bind_some]
  rw [scanNumber_pad (by omega)]
  simp only [Option.bind_some]
  rw [if_neg (by omega), formatFraction]
  by_cases hzero : t % 1000000 = 0
  · -- No fraction: what follows the seconds is the rest, which has no dot.
    rw [if_pos hzero, List.nil_append]
    have hdot : ∀ rest', rest ≠ '.' :: rest' := by
      rintro rest' rfl
      exact (hrest '.' (by simp)).2 rfl
    split
    · next rest' => exact absurd rfl (hdot rest')
    · rw [show (t / 3600000000 * 60 + t / 60000000 % 60) * 60000000 + t / 1000000 % 60 * 1000000 = t
        by omega]
  · rw [if_neg hzero, List.cons_append]
    simp only
    rw [scanNumber_pad (by omega), Option.bind_some]
    rw [show (t / 3600000000 * 60 + t / 60000000 % 60) * 60000000 + t / 1000000 % 60 * 1000000 +
      t % 1000000 = t by omega]

theorem scanTime_formatOffset {t : ℕ} (h : t < dayLength) {rest : List Char}
    (hrest : EndsTime rest) : scanTime (formatOffset t ++ rest) = some (t, rest) := by
  unfold formatOffset
  split
  · next hminutes =>
    have hcolon : ∀ rest', rest ≠ ':' :: rest' := by
      rintro rest' rfl
      exact (hrest ':' (by simp)).1 rfl
    rw [scanTime, scanMinutes_format h]
    simp only [Option.bind_eq_bind, Option.bind_some]
    rw [show (t / 3600000000 * 60 + t / 60000000 % 60) * 60000000 = t by
      unfold dayLength at h
      omega]
  · exact scanTime_format h hrest

/-! ### Time zones -/

/-- The microseconds between the start of the year 1 and the end of the year 9999. -/
def wallLimit : ℕ :=
  3652059 * dayLength

/-- A date with a time of the day, as microseconds since the start of the year 1. -/
abbrev Wall := {wall : ℕ // wall < wallLimit}

/-- What `utcoffset` may return: less than a day, either way, in microseconds. -/
abbrev UtcOffset := {offset : ℤ // -dayLength < offset ∧ offset < dayLength}

/-- Time zones by name: the offset at a wall time, where `fold` tells the second of two equal wall
times from the first. -/
class TimeZone (ζ : Type) where
  utcoffset : ζ → Wall → Bool → UtcOffset

/-- A `tzinfo`: a fixed offset, or a zone. -/
inductive TzInfo (ζ : Type)
  | fixed (offset : UtcOffset)
  | zone (name : ζ)
  deriving DecidableEq

/-- The offset of a `tzinfo` at a wall time. -/
def TzInfo.utcoffset {ζ : Type} [TimeZone ζ] : TzInfo ζ → Wall → Bool → UtcOffset
  | .fixed offset, _, _ => offset
  | .zone name, wall, fold => TimeZone.utcoffset name wall fold

/-- The offset of a `tzinfo` whose zone, if it has one, keeps to the offset that `offset` gives. -/
def TzInfo.steadyOffset {ζ : Type} (offset : ζ → UtcOffset) : TzInfo ζ → UtcOffset
  | .fixed fixedOffset => fixedOffset
  | .zone name => offset name

/-- An aware `datetime`. -/
structure Timestamp (ζ : Type) where
  tzinfo : TzInfo ζ
  wall : Wall
  fold : Bool
  deriving DecidableEq

namespace Timestamp

variable {ζ : Type}

/-- `time + timedelta(microseconds=delta)`: wall time arithmetic, whatever the zone does meanwhile.
`none` is an `OverflowError`. -/
def add? (t : Timestamp ζ) (delta : ℤ) : Option (Timestamp ζ) :=
  if h : 0 ≤ (t.wall : ℤ) + delta ∧ (t.wall : ℤ) + delta < wallLimit then
    some ⟨t.tzinfo, ⟨((t.wall : ℤ) + delta).toNat, by omega⟩, false⟩
  else none

variable [TimeZone ζ]

/-- `time.utcoffset()`. -/
def utcoffset (t : Timestamp ζ) : UtcOffset :=
  t.tzinfo.utcoffset t.wall t.fold

/-- The microseconds since the start of the year 1 in UTC. -/
def instant (t : Timestamp ζ) : ℤ :=
  t.wall - t.utcoffset

/-- The offset does not depend on `fold`. -/
def FoldFree (t : Timestamp ζ) : Prop :=
  t.utcoffset = t.tzinfo.utcoffset t.wall !t.fold

instance (t : Timestamp ζ) : Decidable t.FoldFree :=
  inferInstanceAs (Decidable (_ = _))

variable [DecidableEq ζ]

/-- `a <= b`: by wall times in one zone, by instants across zones. -/
instance : LE (Timestamp ζ) :=
  ⟨fun a b ↦ if a.tzinfo = b.tzinfo then a.wall.val ≤ b.wall.val else a.instant ≤ b.instant⟩

instance : DecidableLE (Timestamp ζ) := fun a b ↦
  inferInstanceAs (Decidable
    (if a.tzinfo = b.tzinfo then a.wall.val ≤ b.wall.val else a.instant ≤ b.instant))

/-- `a == b`: across zones, a time whose offset depends on `fold` equals none. -/
def Equal (a b : Timestamp ζ) : Prop :=
  if a.tzinfo = b.tzinfo then a.wall = b.wall
  else a.FoldFree ∧ b.FoldFree ∧ a.instant = b.instant

omit [DecidableEq ζ] in
/-- The zone of a timestamp has the offset that `offset` gives it, whatever `fold` is. -/
def Steady (offset : ζ → UtcOffset) (t : Timestamp ζ) : Prop :=
  ∀ fold, t.tzinfo.utcoffset t.wall fold = t.tzinfo.steadyOffset offset

variable {offset : ζ → UtcOffset} {a b : Timestamp ζ}

omit [DecidableEq ζ] in
theorem Steady.utcoffset (h : a.Steady offset) : a.utcoffset = a.tzinfo.steadyOffset offset :=
  h a.fold

omit [DecidableEq ζ] in
theorem Steady.instant (h : a.Steady offset) :
    a.instant = (a.wall : ℤ) - (a.tzinfo.steadyOffset offset : ℤ) := by
  rw [Timestamp.instant, h.utcoffset]

end Timestamp

/-! ### The text of a timestamp -/

/-- `_format_offset`. -/
def isoOffset (offset : ℤ) : List Char :=
  (if offset < 0 then '-' else '+') :: formatOffset offset.natAbs

/-- `time.isoformat()`. -/
def isoWall (wall : ℕ) : List Char :=
  let (year, month, day) := ord2ymd (wall / dayLength + 1)
  pad 4 year ++ '-' :: (pad 2 month ++ '-' :: (pad 2 day ++ 'T' :: formatTime (wall % dayLength)))

@[inherit_doc isoWall]
def Timestamp.isoformat {ζ : Type} [TimeZone ζ] (t : Timestamp ζ) : String :=
  String.ofList (isoWall t.wall ++ isoOffset t.utcoffset)

/-- A date, as days since the start of the year 1. -/
def scanDate (cs : List Char) : Option (ℕ × List Char) := do
  let (year, rest) ← scanNumber 4 cs
  match rest with
  | '-' :: rest =>
    let (month, rest) ← scanNumber 2 rest
    match rest with
    | '-' :: rest =>
      let (day, rest) ← scanNumber 2 rest
      if 1 ≤ year ∧ validDay (isLeap year) month day then
        some (ymd2ord year month day - 1, rest)
      else none
    | _ => none
  | _ => none

/-- The offset after a time: nothing, `Z`, or a sign with a time. -/
def scanOffset (cs : List Char) : Option (Option ℤ) :=
  match cs with
  | [] => some none
  | ['Z'] => some (some 0)
  | sign :: rest => do
    let (t, rest) ← scanTime rest
    if rest = [] then
      if sign = '+' then some (some t)
      else if sign = '-' then some (some (-t))
      else none
    else none

/-- A `datetime` as it was read, with its offset if it has one. -/
structure ParsedDatetime where
  wall : Wall
  utcoffset : Option UtcOffset
  deriving DecidableEq

/-- The `datetime` constructor: out of range, a wall time or an offset is a `ValueError`. -/
def ParsedDatetime.mk? (wall : ℕ) (offset : Option ℤ) : Option ParsedDatetime :=
  if hwall : wall < wallLimit then
    match offset with
    | none => some ⟨⟨wall, hwall⟩, none⟩
    | some offset =>
      if hoffset : -dayLength < offset ∧ offset < dayLength then
        some ⟨⟨wall, hwall⟩, some ⟨offset, hoffset⟩⟩
      else none
  else none

/-- `datetime.fromisoformat`, in the extended format; `none` is a `ValueError`. -/
def fromisoformat (text : String) : Option ParsedDatetime := do
  let (day, rest) ← scanDate text.toList
  match rest with
  | [] => ParsedDatetime.mk? (day * dayLength) none
  | _ :: rest =>
    let (t, rest) ← scanTime rest
    let offset ← scanOffset rest
    ParsedDatetime.mk? (day * dayLength + t) offset

/-! ### UTC -/

/-- The fields of a date and a time of the day, within their ranges. -/
def ValidFields (year month day hour minute second : ℕ) : Prop :=
  (1 ≤ year ∧ year ≤ 9999 ∧ validDay (isLeap year) month day = true) ∧
    hour < 24 ∧ minute < 60 ∧ second < 60

instance (year month day hour minute second : ℕ) :
    Decidable (ValidFields year month day hour minute second) :=
  inferInstanceAs (Decidable ((_ ∧ _ ∧ _) ∧ _))

/-- The microseconds since the start of the year 1. -/
def wallOf (year month day hour minute second : ℕ) : ℕ :=
  (ymd2ord year month day - 1) * dayLength + ((hour * 60 + minute) * 60 + second) * 1000000

/-- A valid day lies within its year. -/
theorem dayOfYear_le : ∀ leap : Bool, ∀ month ≤ 12, ∀ day ≤ 31, validDay leap month day = true →
    daysBeforeMonth leap month + day ≤ 365 + if leap then 1 else 0 := by
  decide

theorem wallOf_lt {year month day hour minute second : ℕ}
    (h : ValidFields year month day hour minute second) :
    wallOf year month day hour minute second < wallLimit := by
  obtain ⟨⟨hyear, hlast, hday⟩, hhour, hminute, hsecond⟩ := h
  have hmonth : month ≤ 12 ∧ day ≤ 31 := by
    simp only [validDay, Bool.and_eq_true, decide_eq_true_eq] at hday
    obtain ⟨⟨⟨hpos, hle⟩, -⟩, hlength⟩ := hday
    refine ⟨hle, hlength.trans ?_⟩
    have hall : ∀ leap : Bool, ∀ month ≤ 12,
        daysInMonth month + (if month = 2 ∧ leap = true then 1 else 0) ≤ 31 := by
      decide
    exact hall (isLeap year) month hle
  have hofYear := dayOfYear_le (isLeap year) month hmonth.1 day hmonth.2 hday
  have hordinal : ymd2ord year month day ≤ 3652059 := by
    have hcycle : daysBeforeYear year + 365 + (if isLeap year then 1 else 0) ≤ 3652059 := by
      have hleap : (if isLeap year then 1 else 0) ≤ 1 := by split <;> omega
      by_cases hy : year = 9999
      · subst hy
        decide
      · unfold daysBeforeYear
        omega
    unfold ymd2ord
    omega
  unfold wallOf wallLimit dayLength
  omega

/-- `datetime(year, month, day, hour, minute, second, tzinfo=UTC)`; `none` is a `ValueError`. -/
def utcDatetime (year month day hour minute second : ℕ) : Option Wall :=
  if h : ValidFields year month day hour minute second then
    some ⟨wallOf year month day hour minute second, wallOf_lt h⟩
  else none

/-- A UTC time moved by some microseconds; `none` is an `OverflowError`. -/
def Wall.add? (wall : Wall) (delta : ℤ) : Option Wall :=
  if h : 0 ≤ (wall : ℤ) + delta ∧ (wall : ℤ) + delta < wallLimit then
    some ⟨((wall : ℤ) + delta).toNat, by omega⟩
  else none

theorem Wall.val_of_add? {wall later : Wall} {delta : ℤ} (h : Wall.add? wall delta = some later) :
    (later.val : ℤ) = wall.val + delta := by
  unfold Wall.add? at h
  split at h
  · next hrange =>
    rw [← Option.some.inj h]
    exact Int.toNat_of_nonneg hrange.1
  · cases h

/-- A time in UTC: a naive one is UTC already. `none` is an `OverflowError`. -/
def ParsedDatetime.utc? (time : ParsedDatetime) : Option Wall :=
  match time.utcoffset with
  | none => some time.wall
  | some offset => Wall.add? time.wall (-offset)

theorem endsTime_nil : EndsTime [] := fun c hc ↦ by cases hc

theorem endsTime_isoOffset (offset : ℤ) : EndsTime (isoOffset offset) := by
  intro c hc
  rw [isoOffset, List.head?_cons, Option.mem_some_iff] at hc
  subst hc
  split <;> decide

theorem scanOffset_isoOffset (offset : UtcOffset) :
    scanOffset (isoOffset offset.val) = some (some offset.val) := by
  obtain ⟨offset, hlow, hhigh⟩ := offset
  have hscan := scanTime_formatOffset (t := offset.natAbs) (by omega) endsTime_nil
  rw [List.append_nil] at hscan
  show scanOffset (isoOffset offset) = some (some offset)
  by_cases hsign : offset < 0
  · rw [isoOffset, if_pos hsign, scanOffset, hscan]
    · show some (some (-(offset.natAbs : ℤ))) = some (some offset)
      rw [show -(offset.natAbs : ℤ) = offset by omega]
    · intro h
      cases h
  · rw [isoOffset, if_neg hsign, scanOffset, hscan]
    · show some (some (offset.natAbs : ℤ)) = some (some offset)
      rw [show (offset.natAbs : ℤ) = offset by omega]
    · intro h
      cases h

theorem scanDate_ord2ymd {wall : ℕ} (h : wall < wallLimit) (rest : List Char) :
    scanDate (isoWall wall ++ rest) =
      some (wall / dayLength, 'T' :: (formatTime (wall % dayLength) ++ rest)) := by
  have hday : wall / dayLength < 3652059 := by
    unfold wallLimit at h
    exact Nat.div_lt_of_lt_mul (Nat.mul_comm _ _ ▸ h)
  obtain ⟨year, month, day, hord⟩ :
      ∃ year month day, ord2ymd (wall / dayLength + 1) = (year, month, day) := ⟨_, _, _, rfl⟩
  obtain ⟨hinverse, hyear, hlimit, hvalid⟩ := ymd2ord_ord2ymd (Nat.le_add_left 1 _) hday hord
  have hdate := hvalid
  simp only [validDay, Bool.and_eq_true, decide_eq_true_eq] at hdate
  have hlast : daysInMonth month ≤ 31 := by
    unfold daysInMonth
    split <;> decide
  rw [isoWall, hord]
  simp only [List.append_assoc, List.cons_append]
  rw [scanDate, scanNumber_pad (by omega)]
  simp only [Option.bind_eq_bind, Option.bind_some]
  rw [scanNumber_pad (by omega)]
  simp only [Option.bind_some]
  rw [scanNumber_pad (by split at hdate <;> omega)]
  simp only [Option.bind_some]
  rw [if_pos ⟨hyear, hvalid⟩, hinverse, Nat.add_sub_cancel]

/-- **What is written is read back**: the wall time, and the offset. -/
theorem fromisoformat_isoformat {ζ : Type} [TimeZone ζ] (t : Timestamp ζ) :
    fromisoformat t.isoformat = some ⟨t.wall, some t.utcoffset⟩ := by
  have htime : t.wall.val % dayLength < dayLength := Nat.mod_lt _ (by decide)
  rw [fromisoformat, Timestamp.isoformat, String.toList_ofList, scanDate_ord2ymd t.wall.property]
  simp only [Option.bind_eq_bind, Option.bind_some]
  rw [scanTime_format htime (endsTime_isoOffset _)]
  simp only [Option.bind_some]
  rw [scanOffset_isoOffset, Option.bind_some, Nat.div_add_mod', ParsedDatetime.mk?,
    dif_pos t.wall.property]
  exact dif_pos t.utcoffset.property

end Python
