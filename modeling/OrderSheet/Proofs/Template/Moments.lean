import Mathlib
import OrderSheet.Data.Moment

/-!
# Reading moments back

The written form of a moment is read as that moment, except for the seconds of its distance from
universal time, which are not written.
-/

namespace OrderSheet.Moment

variable {m : Moment} {n v : Nat} {cs : List Char}

def wholeMinutes (seconds : Int) : Int :=
  if seconds < 0 then -(60 * (seconds.natAbs / 60) : Nat) else (60 * (seconds.natAbs / 60) : Nat)

def reread (m : Moment) : Moment := { m with offset := m.offset.map wholeMinutes }

structure IsValid (m : Moment) : Prop where
  date : m.date.isValid = true
  hour : m.hour ≤ 23
  minute : m.minute ≤ 59
  second : m.second ≤ 59
  micro : m.micro < 1000000
  offset : ∀ s ∈ m.offset, s.natAbs < 86400

theorem isDigit_of_mem_padded {width : Nat} : ∀ c ∈ padded width n, c.isDigit = true := by
  intro c hc
  rcases List.mem_append.mp hc with hc | hc
  · rw [List.eq_of_mem_replicate hc]
    decide
  · exact Nat.isDigit_of_mem_toDigits (by decide) (by decide) hc

theorem length_padded {width : Nat} (hwidth : 0 < width) (hn : n < 10 ^ width) :
    (padded width n).length = width := by
  have hlength := (Nat.length_toDigits_le_iff (by decide) hwidth).mpr hn
  rw [padded, List.length_append, List.length_replicate]
  omega

theorem digitsNat_padded (width n : Nat) : digitsNat (padded width n) = n := by
  have hdigits : digitsNat (padded width n) = Nat.ofDigitChars 10 (padded width n) 0 := rfl
  rw [hdigits, padded, Nat.ofDigitChars_append, Nat.ofDigitChars_replicate_zero, Nat.mul_zero,
    Nat.ofDigitChars_ten_toDigits]

theorem readDigits_padded {width : Nat} (hwidth : 0 < width) (hn : n < 10 ^ width)
    (cs : List Char) : readDigits? width (padded width n ++ cs) = some (n, cs) := by
  have hlength := length_padded hwidth hn
  have htake : (padded width n ++ cs).take width = padded width n := by
    rw [List.take_append_of_le_length hlength.ge, List.take_of_length_le hlength.le]
  have hdrop : (padded width n ++ cs).drop width = cs := by
    rw [List.drop_append_of_le_length hlength.ge, List.drop_of_length_le hlength.le,
      List.nil_append]
  have hall : (padded width n).all Char.isDigit = true := by
    simpa using isDigit_of_mem_padded
  rw [readDigits?, htake, hdrop, digitsNat_padded, hlength, hall]
  simp

theorem daysInMonth_le (y m : Nat) : Date.daysInMonth y m ≤ 31 := by
  unfold Date.daysInMonth
  split
  · split <;> omega
  · split <;> omega

theorem readDate_dateChars {d : Date} (h : d.isValid = true) (cs : List Char) :
    readDate? (dateChars d ++ cs) = some (d, cs) := by
  have hvalid := h
  simp only [Date.isValid, Bool.and_eq_true, decide_eq_true_eq] at hvalid
  have hday := daysInMonth_le d.year d.month
  obtain ⟨⟨⟨⟨⟨-, hyear⟩, -⟩, hmonth⟩, -⟩, hdays⟩ := hvalid
  have hchars : dateChars d ++ cs =
      padded 4 d.year ++ '-' :: (padded 2 d.month ++ '-' :: (padded 2 d.day ++ cs)) := by
    simp [dateChars]
  rw [hchars, readDate?, readDigits_padded (by omega) (by omega)]
  simp only [Option.bind_eq_bind, Option.bind_some, readMark?, beq_self_eq_true, if_true]
  rw [readDigits_padded (by omega) (by omega)]
  simp only [Option.bind_some, beq_self_eq_true, if_true]
  rw [readDigits_padded (by omega) (by omega)]
  simp [h]

def Ends (cs : List Char) : Prop := ∀ c ∈ cs.head?, c.isDigit = false ∧ c ≠ '.' ∧ c ≠ ','

theorem readSeconds_timeChars {second micro : Nat} (hsecond : second ≤ 59)
    (hmicro : micro < 1000000)
    (hcs : Ends cs) :
    readSeconds? (':' :: (padded 2 second ++
      ((if micro == 0 then [] else '.' :: padded 6 micro) ++ cs))) = some (second, micro, cs) := by
  have hbound : ¬ second > 59 := by omega
  rw [readSeconds?, readDigits_padded (by omega) (by omega)]
  simp only [Option.bind_eq_bind, Option.bind_some, if_neg hbound]
  by_cases hzero : micro = 0
  · subst hzero
    cases cs with
    | nil => rfl
    | cons c cs =>
      obtain ⟨-, hpoint, hcomma⟩ := hcs c rfl
      simp [hpoint, hcomma]
  · have hlength : (padded 6 micro).length = 6 := length_padded (by omega) (by omega)
    have hdigits : ∀ c ∈ padded 6 micro, c.isDigit = true := isDigit_of_mem_padded
    have htake : (padded 6 micro ++ cs).takeWhile Char.isDigit = padded 6 micro := by
      rw [List.takeWhile_append_of_pos hdigits]
      cases cs with
      | nil => simp
      | cons c cs => simp [(hcs c rfl).1]
    have hdrop : (padded 6 micro ++ cs).dropWhile Char.isDigit = cs := by
      rw [List.dropWhile_append_of_pos hdigits]
      cases cs with
      | nil => simp
      | cons c cs => simp [(hcs c rfl).1]
    have hvalue : microOf (padded 6 micro) = micro := by
      rw [microOf, List.take_of_length_le hlength.le, digitsNat_padded, hlength]
      simp
    have hempty : (padded 6 micro).isEmpty = false := by
      cases h : padded 6 micro with
      | nil => simp [h] at hlength
      | cons => rfl
    simp [hzero, htake, hdrop, hvalue, hempty]

def zoneChars : Option Int → List Char
  | none => []
  | some 0 => ['Z']
  | some s => offsetChars s

theorem toText_eq (m : Moment) :
    m.toText = String.ofList (dateChars m.date ++ 'T' :: m.timeChars ++ zoneChars m.offset) := by
  unfold toText zoneChars
  congr 1

theorem ends_zoneChars (o : Option Int) : Ends (zoneChars o) := by
  unfold zoneChars
  split
  · simp [Ends]
  · simp [Ends]
  · unfold offsetChars
    dsimp only
    split
    · simp [Ends]
    · simp [Ends]

theorem readOffset_sign {hours minutes : Nat} (hhours : hours < 24) (hminutes : minutes < 60)
    (negative : Bool) :
    readOffset? ((if negative then '-' else '+') ::
        (padded 2 hours ++ ':' :: padded 2 minutes)) =
      some (some (if negative then -((hours : Int) * 3600 + minutes * 60)
        else (hours : Int) * 3600 + minutes * 60)) := by
  have hrest : readDigits? 2 (padded 2 minutes) = some (minutes, []) := by
    have h : readDigits? 2 (padded 2 minutes ++ []) = some (minutes, []) :=
      readDigits_padded (by omega) (by omega) []
    rwa [List.append_nil] at h
  have hsign : readOffset? ((if negative then '-' else '+') ::
      (padded 2 hours ++ ':' :: padded 2 minutes)) = (do
        let h ← readDigits? 2 (padded 2 hours ++ ':' :: padded 2 minutes)
        let m ← readDigits? 2 ((readMark? (· == ':') h.2).getD h.2)
        let seconds : Int := h.1 * 3600 + m.1 * 60
        if !m.2.isEmpty || m.1 > 59 || seconds ≥ 86400 then none
        else some (some (if negative then -seconds else seconds))) := by
    cases negative
    · rfl
    · rfl
  rw [hsign, readDigits_padded (by omega) (by omega)]
  simp only [Option.bind_eq_bind, Option.bind_some, readMark?, beq_self_eq_true, if_true,
    Option.getD_some, hrest]
  rw [if_neg]
  simp
  omega

theorem readOffset_zoneChars {o : Option Int} (h : ∀ s ∈ o, s.natAbs < 86400) :
    readOffset? (zoneChars o) = some (o.map wholeMinutes) := by
  unfold zoneChars
  split
  · rfl
  · rfl
  · rename_i s _
    have hs := h s rfl
    have hminutes : 60 * (s.natAbs / 60 / 60) * 60 + s.natAbs / 60 % 60 * 60 =
        60 * (s.natAbs / 60) := by omega
    have hread := readOffset_sign (show s.natAbs / 60 / 60 < 24 by omega)
      (show s.natAbs / 60 % 60 < 60 by omega) (decide (s < 0))
    simp only [decide_eq_true_eq] at hread
    rw [offsetChars, List.cons_append, hread, Option.map_some, wholeMinutes]
    split
    · congr 2
      omega
    · congr 2
      omega

theorem read_toText (h : m.IsValid) : read? m.toText = some m.reread := by
  have hdate := h.date
  have hhour := h.hour
  have hminute := h.minute
  have hfull : readFull? m.toText.toList = some m.reread := by
    have hchars : m.toText.toList = dateChars m.date ++ 'T' :: (padded 2 m.hour ++
        ':' :: (padded 2 m.minute ++ ':' :: (padded 2 m.second ++
          ((if m.micro == 0 then [] else '.' :: padded 6 m.micro) ++ zoneChars m.offset)))) := by
      rw [toText_eq, String.toList_ofList]
      simp [timeChars]
    have hbound : ¬ (m.hour > 23 ∨ m.minute > 59) := by omega
    rw [hchars, readFull?, readDate_dateChars hdate]
    simp only [Option.bind_eq_bind, Option.bind_some, readMark?, beq_self_eq_true, Bool.true_or,
      if_true]
    rw [readDigits_padded (by omega) (by omega)]
    simp only [Option.bind_some, beq_self_eq_true, if_true]
    rw [readDigits_padded (by omega) (by omega)]
    simp only [Option.bind_some]
    rw [if_neg (by simpa using hbound), readSeconds_timeChars h.second h.micro (ends_zoneChars _)]
    simp only [Option.bind_some]
    rw [readOffset_zoneChars h.offset]
    rfl
  rw [read?, hfull]

theorem mem_dateChars {d : Date} {c : Char} (h : c ∈ dateChars d) : c.isDigit = true ∨ c = '-' := by
  simp only [dateChars, List.mem_append, List.mem_cons] at h
  rcases h with (h | rfl | h) | rfl | h
  · exact .inl (isDigit_of_mem_padded c h)
  · exact .inr rfl
  · exact .inl (isDigit_of_mem_padded c h)
  · exact .inr rfl
  · exact .inl (isDigit_of_mem_padded c h)

theorem mem_timeChars {c : Char} (h : c ∈ m.timeChars) :
    c.isDigit = true ∨ c = ':' ∨ c = '.' := by
  simp only [timeChars, List.mem_append, List.mem_cons] at h
  rcases h with ((h | rfl | h) | rfl | h) | h
  · exact .inl (isDigit_of_mem_padded c h)
  · exact .inr (.inl rfl)
  · exact .inl (isDigit_of_mem_padded c h)
  · exact .inr (.inl rfl)
  · exact .inl (isDigit_of_mem_padded c h)
  · split at h
    · simp at h
    · rcases List.mem_cons.mp h with rfl | h
      · exact .inr (.inr rfl)
      · exact .inl (isDigit_of_mem_padded c h)

theorem mem_zoneChars {o : Option Int} {c : Char} (h : c ∈ zoneChars o) :
    c.isDigit = true ∨ c = 'Z' ∨ c = '+' ∨ c = '-' ∨ c = ':' := by
  unfold zoneChars at h
  split at h
  · simp at h
  · exact .inr (.inl (List.mem_singleton.mp h))
  · simp only [offsetChars, List.cons_append, List.mem_cons, List.mem_append] at h
    rcases h with rfl | h | rfl | h
    · split
      · simp
      · simp
    · exact .inl (isDigit_of_mem_padded c h)
    · simp
    · exact .inl (isDigit_of_mem_padded c h)

/-- A written moment consists of digits and a few marks. -/
theorem mem_toText {c : Char} (h : c ∈ m.toText.toList) :
    c.isDigit = true ∨ c ∈ ['-', 'T', ':', '.', 'Z', '+'] := by
  rw [toText_eq, String.toList_ofList] at h
  simp only [List.mem_append, List.mem_cons] at h
  simp only [List.mem_cons, List.not_mem_nil, or_false]
  rcases h with (h | h | h) | h
  · have := mem_dateChars h
    tauto
  · tauto
  · have := mem_timeChars h
    tauto
  · have := mem_zoneChars h
    tauto

theorem wholeMinutes_eq_iff (s : Int) : wholeMinutes s = s ↔ 60 ∣ s := by
  unfold wholeMinutes
  split
  · omega
  · omega

theorem reread_eq_iff : m.reread = m ↔ ∀ s ∈ m.offset, 60 ∣ s := by
  obtain ⟨date, hour, minute, second, micro, offset⟩ := m
  cases offset with
  | none => simp [reread]
  | some s => simp [reread, wholeMinutes_eq_iff]

end OrderSheet.Moment
