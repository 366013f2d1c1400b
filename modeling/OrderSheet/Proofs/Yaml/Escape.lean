import Mathlib
import OrderSheet.Proofs.Yaml.Places
import OrderSheet.Yaml.Print
import OrderSheet.Yaml.Scalar

/-!
# Escapes

Every escape that is written between double quotes is read back as the character it stands for.
-/

namespace OrderSheet.Yaml

open Pen (escape escapeLetters isLiteral upperHex)

theorem digit_of_lt {d : Nat} (h : d < 16) :
    isHex d.digitChar.toUpper = true ∧ hexValue [d.digitChar.toUpper] = d := by
  interval_cases d <;> decide

theorem hexValue_append (cs : List Char) (c : Char) :
    hexValue (cs ++ [c]) = 16 * hexValue cs + hexValue [c] := by
  simp [hexValue]

theorem hexValue_toDigits (n : Nat) :
    hexValue ((Nat.toDigits 16 n).map Char.toUpper) = n ∧
      ((Nat.toDigits 16 n).map Char.toUpper).all isHex = true := by
  induction n using Nat.strongRecOn with
  | ind n ih =>
    by_cases hn : n < 16
    · rw [Nat.toDigits_of_lt_base hn]
      simpa [and_comm] using digit_of_lt hn
    · obtain ⟨hvalue, hall⟩ := ih (n / 16) (by omega)
      obtain ⟨hhex, hdigit⟩ := digit_of_lt (d := n % 16) (by omega)
      rw [Nat.toDigits_of_base_le (by omega) (by omega), List.map_append]
      refine ⟨?_, by simp_all⟩
      rw [List.map_singleton, hexValue_append, hvalue, hdigit]
      omega

theorem hexValue_zeros (k : Nat) (cs : List Char) :
    hexValue (List.replicate k '0' ++ cs) = hexValue cs := by
  have hzeros : hexValue (List.replicate k '0') = 0 := by
    induction k with
    | zero => rfl
    | succ k ih =>
      rw [List.replicate_succ', hexValue_append, ih]
      rfl
  unfold hexValue at *
  rw [List.foldl_append, hzeros]

theorem upperHex_spec (width n : Nat) (hw : 0 < width) (hn : n < 16 ^ width) :
    (upperHex width n).length = width ∧ (upperHex width n).all isHex = true ∧
      hexValue (upperHex width n) = n := by
  have hlength := (Nat.length_toDigits_le_iff (b := 16) (by omega) hw).mpr hn
  obtain ⟨hvalue, hall⟩ := hexValue_toDigits n
  have hupper : upperHex width n = List.replicate (width - (Nat.toDigits 16 n).length) '0' ++
      (Nat.toDigits 16 n).map Char.toUpper := by
    rw [upperHex, Text.hex, List.map_append, List.map_replicate]
    rfl
  rw [hupper]
  refine ⟨?_, ?_, ?_⟩
  · rw [List.length_append, List.length_replicate, List.length_map]
    omega
  · rw [List.all_append, hall, Bool.and_true, List.all_eq_true]
    intro c hc
    rw [List.eq_of_mem_replicate hc]
    decide
  · rw [hexValue_zeros, hvalue]

namespace Scan

variable {room : Nat} {s : Source} {a : Part}

theorem escapedPart_letter {c l : Char} {cs : List Char} (hs : s.ahead = '\\' :: l :: cs)
    (hl : escapeOf? l = some c) : escapedPart room a s = .ok (a.push [c], stepBy 2 s) := by
  have hahead : (stepBy 1 s).ahead = l :: cs := by
    rw [ahead_stepBy, hs]
    rfl
  rw [escapedPart, bind_of_eq (forward_apply 1 s), bind_of_eq (peek_of_cons hahead), hl]
  rfl

theorem escapedPart_code {c l : Char} {width : Nat} {cs : List Char}
    (hs : s.ahead = '\\' :: l :: upperHex width c.toNat ++ cs) (hl : escapeOf? l = none)
    (hwidth : escapeWidth? l = some width) (hw : 0 < width) (hc : c.toNat < 16 ^ width) :
    escapedPart room a s = .ok (a.push [c], stepBy (2 + width) s) := by
  obtain ⟨hlength, hall, hvalue⟩ := upperHex_spec width c.toNat hw hc
  have hahead : (stepBy 1 s).ahead = l :: (upperHex width c.toNat ++ cs) := by
    rw [ahead_stepBy, hs]
    rfl
  have hdigits : (stepBy 1 (stepBy 1 s)).ahead.take width = upperHex width c.toNat := by
    rw [ahead_stepBy, hahead]
    exact List.take_left' hlength
  have hvalid : c.toNat < 0xd800 ∨ 0xdfff < c.toNat ∧ c.toNat < 0x110000 := c.valid
  have hrange : (!(decide (0xd800 ≤ c.toNat) && decide (c.toNat < 0xe000))) = true := by
    rw [Bool.not_eq_true', Bool.and_eq_false_iff, decide_eq_false_iff_not,
      decide_eq_false_iff_not]
    omega
  have hcode (t : Source) : checkCode c.toNat t = .ok ((), t) := by
    rw [checkCode, if_pos (by omega)]
    rfl
  rw [escapedPart, bind_of_eq (forward_apply 1 s), bind_of_eq (peek_of_cons hahead), hl, hwidth]
  dsimp only
  rw [bind_of_eq (forward_apply 1 _), bind_of_eq (get_apply _), hdigits, hlength, hall,
    beq_self_eq_true, Bool.and_true, bind_of_eq (require_true _), bind_of_eq (forward_apply _ _),
    hvalue, bind_of_eq (hcode _), pure_apply, hrange, Bool.and_true, Char.ofNat_toNat, ← stepBy_add, ← stepBy_add,
    show 1 + (1 + width) = 2 + width by omega]
  rfl

theorem escapedPart_escape {c : Char} {cs : List Char} (hs : s.ahead = escape c ++ cs) :
    escapedPart room a s = .ok (a.push [c], stepBy (escape c).length s) := by
  unfold escape at hs ⊢
  cases hfind : escapeLetters.find? (·.1 == c) with
  | some e =>
    obtain ⟨d, l⟩ := e
    have hd : d = c := by simpa using List.find?_some hfind
    have hmem := List.mem_of_find?_eq_some hfind
    have hl : ∀ e ∈ escapeLetters, escapeOf? e.2 = some e.1 := by decide
    rw [hfind] at hs
    rw [← hd]
    exact escapedPart_letter hs (hl _ hmem)
  | none =>
    have hvalid : c.toNat < 0xd800 ∨ 0xdfff < c.toNat ∧ c.toNat < 0x110000 := c.valid
    rw [hfind] at hs
    dsimp only at hs ⊢
    split at hs
    · have h := @escapedPart_code room s a _ _ _ _ hs rfl rfl (by omega) (by omega)
      have hlength := (upperHex_spec 2 c.toNat (by omega) (by omega)).1
      rw [h, if_pos (by assumption), List.length_cons, List.length_cons, hlength]
    · split at hs
      · have h := @escapedPart_code room s a _ _ _ _ hs rfl rfl (by omega) (by omega)
        have hlength := (upperHex_spec 4 c.toNat (by omega) (by omega)).1
        rw [h, if_neg (by assumption), if_pos (by assumption), List.length_cons,
          List.length_cons, hlength]
      · have h := @escapedPart_code room s a _ _ _ _ hs rfl rfl (by omega) (by omega)
        have hlength := (upperHex_spec 8 c.toNat (by omega) (by omega)).1
        rw [h, if_neg (by assumption), if_neg (by assumption), List.length_cons,
          List.length_cons, hlength]

theorem escape_eq_cons (c : Char) : ∃ cs, escape c = '\\' :: cs := by
  unfold escape
  split
  · exact ⟨_, rfl⟩
  · dsimp only
    split
    · exact ⟨_, rfl⟩
    · split <;> exact ⟨_, rfl⟩

end Scan

end OrderSheet.Yaml
