/-!
# Serving order

Ranked containers serve their entries by a signed 64-bit priority, either the
smallest first or the largest first.

* `ServingOrder.before`: when one priority is served strictly before another;
* `ServingOrder.before_irrefl`, `ServingOrder.before_asymm`,
  `ServingOrder.not_before_trans`: it is a strict weak order, so equal
  priorities never pass each other;
* `ServingOrder.eq_of_not_before`: of two different priorities one is served first.
-/

namespace Custody

/-- Priorities are compared and never computed with. -/
abbrev Priority := Int64

/-- The direction in which priorities are served. -/
inductive ServingOrder
  | ascending
  | descending
  deriving DecidableEq, Repr, Inhabited

namespace ServingOrder

/-- The candidate is served strictly before the incumbent. -/
def before : ServingOrder → Priority → Priority → Bool
  | ascending, candidate, incumbent => candidate < incumbent
  | descending, candidate, incumbent => incumbent < candidate

/-- The word for the order in settings. -/
def word : ServingOrder → String
  | ascending => "ascending"
  | descending => "descending"

/-- The word for the order in structural descriptions. -/
def tag : ServingOrder → String
  | ascending => "Ascending"
  | descending => "Descending"

theorem before_irrefl (o : ServingOrder) (p : Priority) : o.before p p = false := by
  cases o <;> simp [before]

theorem before_asymm (o : ServingOrder) {p q : Priority} (h : o.before p q = true) :
    o.before q p = false := by
  cases o <;> simp [before, Int64.lt_iff_toInt_lt] at * <;> omega

theorem not_before_trans (o : ServingOrder) {p q r : Priority}
    (hpq : o.before p q = false) (hqr : o.before q r = false) : o.before p r = false := by
  cases o <;> simp [before, Int64.lt_iff_toInt_lt] at * <;> omega

theorem eq_of_not_before (o : ServingOrder) {p q : Priority} (hpq : o.before p q = false)
    (hqp : o.before q p = false) : p = q := by
  apply Int64.toInt_inj.1
  cases o <;> simp [before, Int64.lt_iff_toInt_lt] at * <;> omega

end ServingOrder

end Custody
