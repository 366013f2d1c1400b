import Mathlib
import OrderSheet.Data.Check
import OrderSheet.Store.Disk

/-!
# Files read back

A file that has been written can be read under the same path, and gives the text that was written.
-/

namespace OrderSheet

namespace Data

theorem toList_loop {bytes : ByteArray} {i : Nat} (found : List UInt8) (hi : i ≤ bytes.size) :
    ByteArray.toList.loop bytes i found = found.reverse ++ bytes.data.toList.drop i := by
  have hsize : bytes.data.toList.length = bytes.size := bytes.data.length_toList
  induction h : bytes.size - i generalizing i found with
  | zero =>
    rw [ByteArray.toList.loop, if_neg (by omega), List.drop_eq_nil_of_le (by omega),
      List.append_nil]
  | succ n ih =>
    have hlt : i < bytes.data.toList.length := by omega
    have hget : bytes.get! i = bytes.data.toList[i] := by
      have hdata : i < bytes.data.size := by simpa using hlt
      change bytes.data[i]! = bytes.data[i]
      exact getElem!_pos bytes.data i hdata
    rw [ByteArray.toList.loop, if_pos (by omega), ih _ (by omega) (by omega), hget,
      List.reverse_cons, List.append_assoc, List.singleton_append, List.getElem_cons_drop]

theorem decodeBytes_toUTF8 (s : String) : decodeBytes? s.toUTF8.toList = some s := by
  have hbytes : ByteArray.mk s.toUTF8.toList.toArray = s.toByteArray := by
    rw [ByteArray.toList, toList_loop [] (Nat.zero_le _)]
    simp
  rw [decodeBytes?, hbytes, String.fromUTF8?, dif_pos s.isValidUTF8, String.fromUTF8]

end Data

namespace Disk

variable {d d' : Disk} {w w' here : Way} {e : Entry} {path : List Char} {content : List UInt8}

theorem entry_put_self (d : Disk) (e : Entry) (hw : d.entry w ≠ some .directory) :
    (d.put w e).entry w = some e := by
  have hhome : ¬ w.isPrefixOf d.home := fun h => hw (by rw [entry, if_pos h])
  simp [entry, put, hhome]

theorem entry_put_of_ne (d : Disk) (e : Entry) (h : w' ≠ w) :
    (d.put w e).entry w' = d.entry w' := by
  have hfilter : (d.entries.filter (·.1 != w)).find? (·.1 == w') =
      d.entries.find? (·.1 == w') := by
    rw [List.find?_filter]
    congr 1
    funext e
    by_cases he : e.1 = w' <;> simp_all
  rw [entry, entry, put, List.find?_cons_of_neg (by simpa using h.symm), hfilter]

/-- Where no directory is replaced, paths lead where they led before. -/
theorem follow_put {steps : List (List Char)} (hw : d.entry w ≠ some .directory)
    (h : d.follow here steps = .ok w') : (d.put w e).follow here steps = .ok w' := by
  induction steps generalizing here with
  | nil => exact h
  | cons s steps ih =>
    rw [follow] at h ⊢
    cases hhere : d.entry here.reverse with
    | none => simp [hhere] at h
    | some entry =>
      cases entry with
      | file _ => simp [hhere] at h
      | directory =>
        have hne : here.reverse ≠ w := fun heq => hw (heq ▸ hhere)
        rw [hhere] at h
        rw [entry_put_of_ne d e hne, hhere]
        dsimp only at h ⊢
        by_cases hup : (s == ['.', '.']) = true
        · rw [if_pos hup] at h ⊢
          exact ih h
        · rw [if_neg hup] at h ⊢
          by_cases hlong : maxName < (String.ofList s).utf8ByteSize
          · rw [if_pos hlong] at h
            cases h
          · rw [if_neg hlong] at h ⊢
            exact ih h

theorem locate_put (hw : d.entry w ≠ some .directory) (h : d.locate path = .ok w') :
    (d.put w e).locate path = .ok w' := follow_put hw h

theorem write_eq_ok (h : d.write path content = .ok d') :
    ∃ w, d.locate path = .ok w ∧ d.entry w ≠ some .directory ∧ d' = d.put w (.file content) := by
  rw [write] at h
  cases hw : d.locate path with
  | error f => simp [hw, bind, Except.bind] at h
  | ok w =>
    simp only [hw, bind, Except.bind] at h
    split at h
    · cases h
    · rename_i hentry
      exact ⟨w, rfl, hentry, (Except.ok.inj h).symm⟩

/-- A file that has been written is there, with what was written. -/
theorem read_write (h : d.write path content = .ok d') :
    d'.contains path = true ∧ d'.read path = .ok content := by
  obtain ⟨w, hlocate, hentry, rfl⟩ := write_eq_ok h
  have hlocate' : (d.put w (.file content)).locate path = .ok w := locate_put hentry hlocate
  have hself := entry_put_self d (.file content) hentry
  constructor
  · rw [contains, hlocate']
    simp [hself]
  · rw [read, hlocate']
    simp only [bind, Except.bind, hself]
    rfl

/-- A file that has been written can be written again. -/
theorem write_write (h : d.write path content = .ok d') (content' : List UInt8) :
    ∃ d'', d'.write path content' = .ok d'' := by
  obtain ⟨w, hlocate, hentry, rfl⟩ := write_eq_ok h
  rw [write, locate_put hentry hlocate]
  simp only [bind, Except.bind, entry_put_self d _ hentry]
  exact ⟨_, rfl⟩

end Disk

end OrderSheet
