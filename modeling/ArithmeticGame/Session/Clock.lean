/-!
# The clock

Seconds on the clock are a 32-bit word. Taking seconds away stops at zero and adding them stops at
the last word.
-/
namespace ArithmeticGame.Clock

/-- The clock after a number of seconds has gone. -/
def spend (seconds amount : UInt32) : UInt32 := UInt32.ofNat (seconds.toNat - amount.toNat)

/-- The clock after a bonus, or a loss if it is negative. -/
def credit (seconds : UInt32) (bonus : Int32) : UInt32 :=
  UInt32.ofNat (min (seconds.toNat + bonus.toInt).toNat (UInt32.size - 1))

/-- Minutes and seconds, the seconds in two digits. -/
def text (seconds : UInt32) : String :=
  let rest := seconds.toNat % 60
  toString (seconds.toNat / 60) ++ (if rest < 10 then ":0" else ":") ++ toString rest

@[simp] theorem toNat_spend (seconds amount : UInt32) :
    (spend seconds amount).toNat = seconds.toNat - amount.toNat := by
  have := seconds.toNat_lt
  simp only [spend, UInt32.toNat_ofNat']
  omega

@[simp] theorem toNat_credit (seconds : UInt32) (bonus : Int32) :
    (credit seconds bonus).toNat =
      min (seconds.toNat + bonus.toInt).toNat (UInt32.size - 1) := by
  simp only [credit, UInt32.size, UInt32.toNat_ofNat']
  omega

theorem spend_eq_zero {seconds amount : UInt32} : spend seconds amount = 0 ↔ seconds ≤ amount := by
  rw [← UInt32.toNat_inj, toNat_spend, UInt32.toNat_zero, UInt32.le_iff_toNat_le]
  omega

theorem credit_eq_zero {seconds : UInt32} {bonus : Int32} :
    credit seconds bonus = 0 ↔ (seconds.toNat : Int) + bonus.toInt ≤ 0 := by
  rw [← UInt32.toNat_inj, toNat_credit, UInt32.toNat_zero, UInt32.size]
  omega

end ArithmeticGame.Clock
