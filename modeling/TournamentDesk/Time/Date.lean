/-!
# Dates

Dates of the Gregorian calendar, extended to all years. Year 0 is the year before year 1.
-/

namespace TournamentDesk
namespace Time

/-- Whether a year has a 29th of February. -/
def isLeapYear (year : Int) : Bool :=
  year % 4 = 0 && (year % 100 ≠ 0 || year % 400 = 0)

def daysInMonth (year : Int) (month : Nat) : Nat :=
  match month with
  | 2 => if isLeapYear year then 29 else 28
  | 4 | 6 | 9 | 11 => 30
  | _ => 31

theorem daysInMonth_pos (year : Int) (month : Nat) : 1 ≤ daysInMonth year month := by
  unfold daysInMonth
  split
  · split <;> decide
  all_goals decide

/-- A date of the Gregorian calendar. -/
structure Date where
  year : Int
  month : Nat
  day : Nat
  month_ok : 1 ≤ month ∧ month ≤ 12
  day_ok : 1 ≤ day ∧ day ≤ daysInMonth year month
deriving DecidableEq, Repr

/-- The date with given parts, if there is one. -/
def Date.of? (year : Int) (month day : Nat) : Option Date :=
  if h : (1 ≤ month ∧ month ≤ 12) ∧ (1 ≤ day ∧ day ≤ daysInMonth year month) then
    some ⟨year, month, day, h.1, h.2⟩
  else none

def Date.next (d : Date) : Date :=
  if h : d.day + 1 ≤ daysInMonth d.year d.month then
    ⟨d.year, d.month, d.day + 1, d.month_ok, ⟨by omega, h⟩⟩
  else if h : d.month + 1 ≤ 12 then
    ⟨d.year, d.month + 1, 1, ⟨by omega, h⟩, ⟨by omega, daysInMonth_pos _ _⟩⟩
  else ⟨d.year + 1, 1, 1, by omega, ⟨by omega, daysInMonth_pos _ _⟩⟩

def Date.prev (d : Date) : Date :=
  if h : 2 ≤ d.day then
    ⟨d.year, d.month, d.day - 1, d.month_ok, ⟨by omega, by have := d.day_ok; omega⟩⟩
  else if h : 2 ≤ d.month then
    ⟨d.year, d.month - 1, daysInMonth d.year (d.month - 1), ⟨by omega, by have := d.month_ok; omega⟩,
      ⟨daysInMonth_pos _ _, Nat.le_refl _⟩⟩
  else ⟨d.year - 1, 12, 31, by omega, by simp [daysInMonth]⟩

end Time
end TournamentDesk
