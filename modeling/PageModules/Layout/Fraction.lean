import PageModules.Number.Binary64
import PageModules.Text.Basic

/-!
# Column widths as fractions

A row is divided into columns whose widths are fractions, written `1_2` or `2_3`.

* `percentage` is the width of a fraction, `nearestFraction` the fraction next to a width.
* `equalColumns` divides a row into columns of one width.
-/

namespace PageModules.Layout

/-- So many hundredths. -/
def hundredths (n : Nat) : Binary64 := .ofDecimal false n (-2)

/-- The widths of the fractions in percent. -/
def fractionWidths : List (String × Binary64) :=
  [("1", hundredths 10000), ("1_2", hundredths 5000), ("1_3", hundredths 3333),
    ("2_3", hundredths 6666), ("1_4", hundredths 2500), ("3_4", hundredths 7500),
    ("1_5", hundredths 2000), ("2_5", hundredths 4000), ("3_5", hundredths 6000),
    ("4_5", hundredths 8000), ("1_6", hundredths 1666), ("5_6", hundredths 8333)]

/-- The width of a fraction in percent, a half for what is no fraction. -/
def percentage (fraction : String) : Binary64 :=
  (fractionWidths.lookup fraction).getD (hundredths 5000)

/-- The widths in percent that stand for a fraction. -/
def roundedWidths : List (Binary64 × String) :=
  [(hundredths 10000, "1"), (hundredths 5000, "1_2"), (hundredths 3333, "1_3"),
    (hundredths 3334, "1_3"), (hundredths 3300, "1_3"), (hundredths 6666, "2_3"),
    (hundredths 6667, "2_3"), (hundredths 6700, "2_3"), (hundredths 2500, "1_4"),
    (hundredths 7500, "3_4"), (hundredths 2000, "1_5"), (hundredths 4000, "2_5"),
    (hundredths 6000, "3_5"), (hundredths 8000, "4_5"), (hundredths 1666, "1_6"),
    (hundredths 1667, "1_6"), (hundredths 1700, "1_6"), (hundredths 8333, "5_6"),
    (hundredths 8334, "5_6"), (hundredths 8300, "5_6")]

/-- The greatest finite number. -/
def greatest : Binary64 := .ofDecimal false 17976931348623157 292

/-- The fraction next to a width in percent, the earlier one of two at the same distance; a half
where the distance is no finite number. -/
def nearestFraction (percent : Binary64) : String :=
  (roundedWidths.foldl (fun (best : Binary64 × String) entry =>
    let distance := (percent.sub entry.1).abs
    if distance.lt best.1 then (distance, entry.2) else best) (greatest, "1_2")).2

/-- The greatest number of columns of a row. -/
def maxColumns : Nat := 12

/-- The division of a row into columns of one width; the columns beyond the greatest number are
not counted. -/
def equalColumns (count : Nat) : String :=
  let count := min count maxColumns
  if count ≤ 1 then "1"
  else ",".intercalate (List.replicate count ("1_" ++ String.ofList (Nat.toDigits 10 count)))

end PageModules.Layout
