/-!
# Journals

A journal notes events as they happen. It can be told to keep only some of them: a run of millions
of edges is not worth remembering edge by edge.

* `Journal`, `Journal.record`, `Journal.recordAll`, `Journal.toList`;
* `Journal.toList_record`, `Journal.toList_recordAll`: events that are kept come last, in order, any
  others leave no trace.
-/

namespace EdgeMeter

/-- Events noted so far, the newest first, and the kind worth noting. -/
structure Journal (ε : Type) where
  keeps : ε → Bool := fun _ => true
  recent : List ε := []

namespace Journal

variable {ε : Type}

/-- Note an event, if it is of the kind kept. -/
def record (j : Journal ε) (e : ε) : Journal ε :=
  if j.keeps e then { j with recent := e :: j.recent } else j

def recordAll (j : Journal ε) (es : List ε) : Journal ε := es.foldl record j

/-- The events noted, in the order in which they happened. -/
def toList (j : Journal ε) : List ε := j.recent.reverse

/-- The journal from now on, with what it noted so far forgotten. -/
def cleared (j : Journal ε) : Journal ε := { j with recent := [] }

@[simp] theorem keeps_record (j : Journal ε) (e : ε) : (j.record e).keeps = j.keeps := by
  unfold record; split <;> rfl

@[simp] theorem toList_record (j : Journal ε) (e : ε) :
    (j.record e).toList = j.toList ++ if j.keeps e then [e] else [] := by
  unfold record; split <;> simp [toList]

theorem recordAll_append (j : Journal ε) (es es' : List ε) :
    j.recordAll (es ++ es') = (j.recordAll es).recordAll es' := List.foldl_append

@[simp] theorem toList_recordAll (j : Journal ε) (es : List ε) :
    (j.recordAll es).toList = j.toList ++ es.filter j.keeps := by
  induction es generalizing j with
  | nil => simp [recordAll]
  | cons e es ih =>
    change ((j.record e).recordAll es).toList = _
    rw [ih, toList_record, keeps_record, List.append_assoc]
    by_cases h : j.keeps e <;> simp [h]

/-- A journal that keeps all events holds what it is told. -/
theorem toList_recordAll_fresh (es : List ε) : (({} : Journal ε).recordAll es).toList = es := by
  rw [toList_recordAll, List.filter_eq_self.mpr fun _ _ => rfl]
  rfl

end Journal

end EdgeMeter
