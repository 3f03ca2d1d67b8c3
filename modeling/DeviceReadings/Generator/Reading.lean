/-!
# Readings

A reading is an `Int32`; a generator's readings are never negative. Both generators make a reading
of one 32-bit word by dropping its lowest bit (`readingOfWord`).
-/

namespace DeviceReadings

/-- The reading made of a word: its upper 31 bits. -/
def readingOfWord (w : UInt32) : Int32 :=
  (w >>> 1).toInt32

/-- A reading is half its word, so it is never negative. -/
theorem toInt_readingOfWord (w : UInt32) : (readingOfWord w).toInt = w.toNat / 2 := by
  have hhalf : (w >>> 1).toBitVec.toNat = w.toNat / 2 := by
    rw [UInt32.toNat_toBitVec, UInt32.toNat_shiftRight]
    simp [Nat.shiftRight_eq_div_pow]
  have hbound := w.toNat_lt
  show (w >>> 1).toBitVec.toInt = w.toNat / 2
  rw [BitVec.toInt_eq_toNat_of_lt (by omega), hhalf]
  exact Int.natCast_ediv w.toNat 2

end DeviceReadings
