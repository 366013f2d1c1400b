import Mathlib
import OrderSheet.Proofs.Template.Checked
import OrderSheet.Proofs.Template.Moments

/-!
# Moments that pass their check

A moment that is read from a text or a number occurs on a clock. So do the moments of a template
that has passed its check.
-/

namespace OrderSheet

namespace Date

/-- A day of a century that starts on 1 March: the year it is in, which has a leap day at its end
if it is the last of four years and not the last of the century. -/
theorem year_in_century {b r y : Nat} (hb : b ≤ 3) (hr : r < 36524)
    (hy : y = (r - (24 * b + r) / 1460) / 365) :
    y ≤ 99 ∧ 365 * y + y / 4 ≤ r ∧ r ≤ 365 * y + y / 4 + 365 ∧
      (r = 365 * y + y / 4 + 365 → y % 4 = 3 ∧ y ≠ 99) := by
  refine ⟨by omega, ?_, ?_, ?_⟩
  · omega
  · omega
  · omega

/-- A day of 400 years that start on 1 March: the year it is in, which has a leap day at its end if
the calendar year after it is a leap year. -/
theorem year_in_cycle {day year : Nat} (hday : day < 146097)
    (hyear : year = (day - day / 1460 + day / 36524 - day / 146096) / 365) :
    year ≤ 399 ∧ 365 * year + year / 4 - year / 100 ≤ day ∧
      day ≤ 365 * year + year / 4 - year / 100 + 365 ∧
      (day = 365 * year + year / 4 - year / 100 + 365 →
        (year + 1) % 4 = 0 ∧ ((year + 1) % 100 ≠ 0 ∨ (year + 1) % 400 = 0)) := by
  by_cases hlast : day = 146096
  · subst hlast
    omega
  · obtain ⟨century, rest, hcentury, hrest, hsplit⟩ : ∃ century rest, century ≤ 3 ∧ rest < 36524 ∧
        day = 36524 * century + rest := ⟨day / 36524, day % 36524, by omega, by omega, by omega⟩
    obtain ⟨y, hy⟩ : ∃ y, y = (rest - (24 * century + rest) / 1460) / 365 := ⟨_, rfl⟩
    obtain ⟨hle, hstart, hend, hleap⟩ := year_in_century hcentury hrest hy
    have hyears : year = 100 * century + y := by omega
    have hfours : year / 4 = 25 * century + y / 4 := by omega
    have hhundreds : year / 100 = century := by omega
    refine ⟨by omega, by omega, by omega, fun h => ?_⟩
    obtain ⟨hfour, hne⟩ := hleap (by omega)
    exact ⟨by omega, .inl (by omega)⟩

/-- A day of a year that starts on 1 March: its month, and the day of that month. -/
theorem day_in_month {rest month m day : Nat} (hrest : rest ≤ 365)
    (hmonth : month = (5 * rest + 2) / 153) (hm : m = if month < 10 then month + 3 else month - 9)
    (hday : day = rest - (153 * month + 2) / 5 + 1) :
    (1 ≤ m ∧ m ≤ 12) ∧ day ≤ 31 ∧ (m = 4 ∨ m = 6 ∨ m = 9 ∨ m = 11 → day ≤ 30) ∧
      (m = 2 → day ≤ 29 ∧ (day = 29 → rest = 365)) ∧ (m ≤ 2 → 306 ≤ rest) := by
  have hle : month ≤ 11 := by omega
  interval_cases month <;> simp at hm <;> subst hm <;> omega

theorem le_daysInMonth {y m day : Nat} (hlong : day ≤ 31)
    (hshort : m = 4 ∨ m = 6 ∨ m = 9 ∨ m = 11 → day ≤ 30)
    (hsecond : m = 2 → day ≤ 29 ∧ (day = 29 → isLeapYear y = true)) : day ≤ daysInMonth y m := by
  unfold daysInMonth
  simp only [beq_iff_eq, Bool.or_eq_true]
  split
  · rename_i htwo
    obtain ⟨hle, hleap⟩ := hsecond htwo
    split
    · exact hle
    · rename_i hcommon
      have hne : day ≠ 29 := fun h => hcommon (hleap h)
      omega
  · split
    · rename_i hm
      exact hshort (by omega)
    · exact hlong

/-- The days of the years 1600 to 9999 are dates of the calendar. -/
theorem isValid_ofDays {n : Nat} (hfirst : 584328 ≤ n) (hlast : n ≤ 3652364) :
    (ofDays n).isValid = true := by
  obtain ⟨cycle, hcycle⟩ : ∃ cycle, cycle = n / 146097 := ⟨_, rfl⟩
  obtain ⟨day, hday⟩ : ∃ day, day = n % 146097 := ⟨_, rfl⟩
  obtain ⟨year, hyear⟩ : ∃ year, year = (day - day / 1460 + day / 36524 - day / 146096) / 365 :=
    ⟨_, rfl⟩
  obtain ⟨rest, hrest⟩ : ∃ rest, rest = day - (365 * year + year / 4 - year / 100) := ⟨_, rfl⟩
  obtain ⟨month, hmonth⟩ : ∃ month, month = (5 * rest + 2) / 153 := ⟨_, rfl⟩
  obtain ⟨m, hm⟩ : ∃ m, m = if month < 10 then month + 3 else month - 9 := ⟨_, rfl⟩
  obtain ⟨d, hd⟩ : ∃ d, d = rest - (153 * month + 2) / 5 + 1 := ⟨_, rfl⟩
  obtain ⟨y, hy⟩ : ∃ y, y = 400 * cycle + year + (if m ≤ 2 then 1 else 0) := ⟨_, rfl⟩
  have hdate : ofDays n = ⟨y, m, d⟩ := by
    simp only [ofDays, ← hcycle, ← hday, ← hyear, ← hrest, ← hmonth, ← hm, ← hd, ← hy]
  obtain ⟨hyear399, hstart, hend, hleap⟩ := year_in_cycle (by omega) hyear
  obtain ⟨hmonths, hlong, hshort, hsecond, hlate⟩ := day_in_month (by omega) hmonth hm hd
  have hupper : y ≤ 9999 := by
    -- the last cycle stops at the end of a December, before its last January
    by_cases hearly : m ≤ 2
    · have := hlate hearly
      rw [if_pos hearly] at hy
      omega
    · rw [if_neg hearly] at hy
      omega
  have hdays : d ≤ daysInMonth y m := by
    refine le_daysInMonth hlong hshort fun htwo => ⟨(hsecond htwo).1, fun h29 => ?_⟩
    obtain ⟨hfour, hhundred⟩ := hleap (by have := (hsecond htwo).2 h29; omega)
    rw [if_pos (by omega)] at hy
    have h4 : y % 4 = 0 := by omega
    have h100 : y % 100 ≠ 0 ∨ y % 400 = 0 := by omega
    simpa [isLeapYear, h4] using h100
  rw [hdate]
  simp only [isValid, Bool.and_eq_true, decide_eq_true_eq]
  omega

end Date

namespace Moment

theorem isValid_atMidnight {d : Date} (h : d.isValid = true) : (atMidnight d).IsValid :=
  ⟨h, by simp [atMidnight], by simp [atMidnight], by simp [atMidnight], by simp [atMidnight],
    by simp [atMidnight]⟩

variable {m : Moment} {cs rest : List Char}

theorem isValid_of_readDate {d : Date} (h : readDate? cs = some (d, rest)) : d.isValid = true := by
  simp only [readDate?, Option.bind_eq_bind, Option.bind_eq_some_iff, Prod.exists] at h
  obtain ⟨y, _, -, _, -, mo, _, -, _, -, da, _, -, hdate⟩ := h
  split at hdate
  · rename_i hvalid
    obtain ⟨rfl, rfl⟩ := by simpa using hdate
    exact hvalid
  · cases hdate

theorem digitsNat_lt (h : ∀ c ∈ cs, c.isDigit = true) : digitsNat cs < 10 ^ cs.length := by
  induction cs using List.reverseRecOn with
  | nil => decide
  | append_singleton cs c ih =>
    have hrest := ih fun c hc => h c (by simp [hc])
    have hc : c.toNat - 48 ≤ 9 := by
      have hdigit := h c (by simp)
      simp only [Char.isDigit, Bool.and_eq_true, decide_eq_true_eq, UInt32.le_iff_toNat_le]
        at hdigit
      have : c.toNat ≤ 57 := hdigit.2
      omega
    have hstep : digitsNat (cs ++ [c]) = 10 * digitsNat cs + (c.toNat - 48) := by
      simp [digitsNat]
    rw [hstep, List.length_append, List.length_singleton, pow_succ]
    omega

theorem microOf_lt (h : ∀ c ∈ cs, c.isDigit = true) : microOf cs < 1000000 := by
  have hdigits : digitsNat (cs.take 6) < 10 ^ (cs.take 6).length :=
    digitsNat_lt fun c hc => h c (List.mem_of_mem_take hc)
  rw [List.length_take] at hdigits
  calc microOf cs = digitsNat (cs.take 6) * 10 ^ (6 - cs.length) := rfl
    _ < 10 ^ min 6 cs.length * 10 ^ (6 - cs.length) :=
      Nat.mul_lt_mul_of_pos_right hdigits (by positivity)
    _ = 10 ^ 6 := by rw [← pow_add]; congr 1; omega

theorem bounds_of_readSeconds {second micro : Nat}
    (h : readSeconds? cs = some (second, micro, rest)) : second ≤ 59 ∧ micro < 1000000 := by
  unfold readSeconds? at h
  split at h
  · simp only [Option.bind_eq_bind, Option.bind_eq_some_iff, Prod.exists] at h
    obtain ⟨s, _, -, h⟩ := h
    split at h
    · cases h
    · rename_i hs
      split at h
      · split at h
        · split at h
          · cases h
          · obtain ⟨rfl, rfl, -⟩ := by simpa using h
            exact ⟨by omega, microOf_lt fun c hc => List.mem_takeWhile_imp hc⟩
        · obtain ⟨rfl, rfl, -⟩ := by simpa using h
          omega
      · obtain ⟨rfl, rfl, -⟩ := by simpa using h
        omega
  · obtain ⟨rfl, rfl, -⟩ := by simpa using h
    omega

theorem bounds_of_zone {hours minutes : Nat} {zone : Int} {o : Option Int}
    (hzone : zone.natAbs = hours * 3600 + minutes * 60)
    (h : (if !rest.isEmpty || minutes > 59 || (hours : Int) * 3600 + minutes * 60 ≥ 86400 then none
      else some (some zone)) = some o) :
    ∀ s ∈ o, s.natAbs < 86400 := by
  split at h
  · cases h
  · rename_i hbounds
    simp only [Bool.or_eq_true, decide_eq_true_eq, not_or] at hbounds
    obtain rfl := Option.some.inj h
    intro s hs
    obtain rfl := Option.some.inj hs
    omega

theorem bounds_of_readOffset {o : Option Int} (h : readOffset? cs = some o) :
    ∀ s ∈ o, s.natAbs < 86400 := by
  unfold readOffset? at h
  split at h
  · obtain rfl := by simpa using h
    simp
  · obtain rfl := by simpa using h
    simp
  · obtain rfl := by simpa using h
    simp
  · simp only [Option.bind_eq_bind] at h
    split at h
    · simp only [Option.bind_some, Option.bind_eq_some_iff, Prod.exists] at h
      obtain ⟨_, _, -, _, _, -, h⟩ := h
      exact bounds_of_zone (by simp; omega) h
    · split at h
      · simp only [Option.bind_some, Option.bind_eq_some_iff, Prod.exists] at h
        obtain ⟨_, _, -, _, _, -, h⟩ := h
        exact bounds_of_zone (by simp; omega) h
      · cases h

theorem isValid_of_readFull (h : readFull? cs = some m) : m.IsValid := by
  simp only [readFull?, Option.bind_eq_bind, Option.bind_eq_some_iff, Prod.exists] at h
  obtain ⟨date, _, hdate, _, -, hour, _, -, _, -, minute, _, -, h⟩ := h
  split at h
  · cases h
  · rename_i hbounds
    simp only [Bool.or_eq_true, decide_eq_true_eq, not_or] at hbounds
    simp only [Option.bind_eq_some_iff, Prod.exists, Option.some.injEq] at h
    obtain ⟨second, micro, _, hseconds, offset, hoffset, rfl⟩ := h
    obtain ⟨hsecond, hmicro⟩ := bounds_of_readSeconds hseconds
    have hhour : hour ≤ 23 := by omega
    have hminute : minute ≤ 59 := by omega
    exact ⟨isValid_of_readDate hdate, hhour, hminute, hsecond, hmicro,
      bounds_of_readOffset hoffset⟩

theorem isValid_of_ofUnix {n : Int} {micro : Nat} (h : ofUnix? n micro = some m) :
    m.IsValid := by
  unfold ofUnix? at h
  generalize (if n.natAbs ≤ millisecondsFrom then (n, micro)
    else (n / 1000, micro + (n % 1000).toNat * 1000) : Int × Nat) = split at h
  obtain ⟨seconds, micro⟩ := split
  dsimp only at h
  split at h
  · cases h
  · rename_i hrange
    simp only [Bool.or_eq_true, decide_eq_true_eq, not_or, not_lt] at hrange
    obtain rfl := Option.some.inj h
    exact ⟨Date.isValid_ofDays (by omega) (by omega), by dsimp only; omega, by dsimp only; omega,
      by dsimp only; omega, by dsimp only; omega, by simp⟩

theorem isValid_of_ofBinary {x : Binary} (h : ofBinary? x = some m) : m.IsValid := by
  unfold ofBinary? at h
  split at h
  · exact isValid_of_ofUnix h
  · cases h

theorem isValid_of_readUnix (h : readUnix? cs = some m) : m.IsValid := by
  unfold readUnix? at h
  dsimp only at h
  split at h
  · cases h
  · exact isValid_of_ofUnix h
  · split at h
    · cases h
    · exact isValid_of_ofBinary h
  · cases h

theorem isValid_of_read {s : String} (h : read? s = some m) : m.IsValid := by
  unfold read? at h
  dsimp only at h
  split at h
  · rename_i hfull
    exact Option.some.inj h ▸ isValid_of_readFull hfull
  · split at h
    · rename_i hunix
      exact Option.some.inj h ▸ isValid_of_readUnix hunix
    · split at h
      · rename_i hdate
        exact Option.some.inj h ▸ isValid_atMidnight (isValid_of_readDate hdate)
      · cases h

end Moment

namespace Data

/-- A moment of a clock or a date of the calendar, if the value is a moment or a date. -/
def IsValid : Data → Prop
  | .moment m => m.IsValid
  | .date d => d.isValid = true
  | _ => True

theorem isValid_of_checkMomentText {s : String} {m : Moment} (h : checkMomentText s = .pass m) :
    m.IsValid := by
  unfold checkMomentText at h
  split at h
  · rename_i hread
    obtain rfl := by simpa using h
    exact Moment.isValid_of_read hread
  · cases h

theorem isValid_of_checkMoment {d : Data} {m : Moment} (hd : d.IsValid)
    (h : checkMoment d = .pass m) : m.IsValid := by
  unfold checkMoment at h
  split at h
  · obtain rfl := by simpa using h
    exact hd
  · obtain rfl := by simpa using h
    exact Moment.isValid_atMidnight hd
  · exact isValid_of_checkMomentText h
  · split at h
    · exact isValid_of_checkMomentText h
    · cases h
  · split at h
    · rename_i hunix
      obtain rfl := by simpa using h
      exact Moment.isValid_of_ofUnix hunix
    · cases h
  · split at h
    · rename_i hbinary
      obtain rfl := by simpa using h
      exact Moment.isValid_of_ofBinary hbinary
    · cases h
  · cases h

theorem isValid_of_optionalMoment {d : Data} {o : Option Moment} (hd : d.IsValid)
    (h : checkOptional checkMoment d = .pass o) : ∀ m ∈ o, m.IsValid := by
  intro m hm
  unfold checkOptional at h
  split at h
  · obtain rfl := by simpa using h
    cases hm
  · obtain ⟨v, hv, rfl⟩ := Check.map_eq_pass.mp h
    obtain rfl := Option.some.inj hm
    exact isValid_of_checkMoment hd hv

theorem mem_of_lookup {es : List (Data × Data)} {name : String} {d : Data}
    (h : lookup? es name = some d) : ∃ e ∈ es, e.2 = d := by
  obtain ⟨e, he, rfl⟩ := Option.map_eq_some_iff.mp h
  exact ⟨e, List.mem_of_find?_eq_some he, rfl⟩

def ValidValues (es : List (Data × Data)) : Prop := ∀ e ∈ es, e.2.IsValid

def HasValidFields : Data → Prop
  | .map es => ValidValues es
  | _ => True

theorem isValid_of_givenMoment {es : List (Data × Data)} (hes : ValidValues es)
    {name : String} {o : Option Moment}
    (h : given es name (checkOptional checkMoment) none = .pass o) : ∀ m ∈ o, m.IsValid := by
  unfold given at h
  split at h
  · rename_i d hlookup
    obtain ⟨e, he, rfl⟩ := mem_of_lookup hlookup
    exact isValid_of_optionalMoment (hes e he) (Check.inside_eq_pass.mp h)
  · obtain rfl := by simpa using h.symm
    simp

theorem isValid_of_checkTemplate {d : Data} {t : Template} (hd : d.HasValidFields)
    (h : checkTemplate d = .pass t) :
    (∀ m ∈ t.created, m.IsValid) ∧ ∀ m ∈ t.updated, m.IsValid := by
  obtain ⟨fields, rfl, hread⟩ := templateFrom_of_check h
  exact ⟨isValid_of_givenMoment hd hread.created, isValid_of_givenMoment hd hread.updated⟩

end Data

end OrderSheet
