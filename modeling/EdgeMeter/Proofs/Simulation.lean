import EdgeMeter.Proofs.Course

/-!
# Devices that follow devices

A device follows another if their pins do: what is done to both keeps their states related, and both
give the same answers. Everything that is done to a device is done at its pins, so all of it gives
the same answers then.

* `Device.Follows`: the pins of a device follow those of another, by a relation of their states;
* `Device.Follows.driven`: so does a whole trial;
* **`Device.Follows.performAll`**: so do any operations, with the same replies.
-/

namespace EdgeMeter

variable {α β : Type}

/-- **A device follows another**: the relation `R` is kept at every pin, and related states give
equal answers. -/
structure Device.Follows (dev : Device α) (model : Device β) (R : α → β → Prop) : Prop where
  driveClock : ∀ high {x y}, R x y → R (dev.driveClock high x) (model.driveClock high y)
  clockLevel : ∀ {x y}, R x y → (dev.clockLevel x).1 = (model.clockLevel y).1 ∧
    R (dev.clockLevel x).2 (model.clockLevel y).2
  driveReset : ∀ asserted {x y}, R x y →
    R (dev.driveReset asserted x) (model.driveReset asserted y)
  settle : ∀ {x y}, R x y → R (dev.settle x) (model.settle y)
  output : ∀ {x y}, R x y → (dev.output x).1 = (model.output y).1 ∧
    R (dev.output x).2 (model.output y).2

theorem related_times {R : α → β → Prop} {f : α → α} {g : β → β}
    (h : ∀ {x y}, R x y → R (f x) (g y)) (n : Nat) {x : α} {y : β} (hxy : R x y) :
    R (times n f x) (times n g y) := by
  induction n generalizing x y with
  | zero => exact hxy
  | succ n ih => exact ih (h hxy)

theorem Device.performAll_append (dev : Device α) (ops ops' : List Operation) (x : α) :
    (dev.performAll (ops ++ ops') x).2 = (dev.performAll ops' (dev.performAll ops x).2).2 := by
  induction ops generalizing x with
  | nil => rfl
  | cons op ops ih => exact ih (dev.perform op x).2

namespace Device.Follows

variable {dev : Device α} {model : Device β} {R : α → β → Prop} {x : α} {y : β}

theorem refl (dev : Device α) : dev.Follows dev Eq where
  driveClock high {_ _} h := congrArg _ h
  clockLevel {_ _} := by
    rintro rfl
    exact ⟨rfl, rfl⟩
  driveReset asserted {_ _} h := congrArg _ h
  settle {_ _} h := congrArg _ h
  output {_ _} := by
    rintro rfl
    exact ⟨rfl, rfl⟩

theorem reset (follows : dev.Follows model R) (hxy : R x y) : R (dev.reset x) (model.reset y) := by
  have asserted := follows.settle (follows.driveClock false (follows.driveReset true hxy))
  have clocked := follows.settle (follows.driveClock true asserted)
  have lowered := follows.settle (follows.driveClock false clocked)
  exact follows.settle (follows.driveReset false lowered)

theorem edge (follows : dev.Follows model R) (hxy : R x y) : R (dev.edge x) (model.edge y) := by
  obtain ⟨hlevel, hasked⟩ := follows.clockLevel hxy
  change R _ (model.settle (model.driveClock (!(model.clockLevel y).1) (model.clockLevel y).2))
  rw [← hlevel]
  exact follows.settle (follows.driveClock _ hasked)

theorem timedEdge (follows : dev.Follows model R) (sampled : Bool) (hxy : R x y) :
    R (dev.timedEdge sampled x) (model.timedEdge sampled y) := by
  unfold Device.timedEdge
  split
  · exact (follows.output (follows.edge hxy)).2
  · exact follows.edge hxy

/-- **A whole trial is followed.** -/
theorem driven (follows : dev.Follows model R) (s : Scenario) (hxy : R x y) :
    R (s.driven dev x) (s.driven model y) :=
  related_times (follows.timedEdge s.sampled) _ (related_times follows.edge _ (follows.reset hxy))

theorem perform (follows : dev.Follows model R) (op : Operation) (hxy : R x y) :
    (dev.perform op x).1 = (model.perform op y).1 ∧
      R (dev.perform op x).2 (model.perform op y).2 := by
  cases op with
  | reset => exact ⟨rfl, follows.reset hxy⟩
  | edges n => exact ⟨rfl, related_times follows.edge n hxy⟩
  | driveClock high => exact ⟨rfl, follows.driveClock high hxy⟩
  | driveReset asserted => exact ⟨rfl, follows.driveReset asserted hxy⟩
  | settle n => exact ⟨rfl, related_times follows.settle n hxy⟩
  | clockLevel =>
    obtain ⟨hlevel, hasked⟩ := follows.clockLevel hxy
    exact ⟨congrArg Reply.level hlevel, hasked⟩
  | output =>
    obtain ⟨hvalue, hread⟩ := follows.output hxy
    exact ⟨congrArg Reply.word hvalue, hread⟩

theorem performAll (follows : dev.Follows model R) (ops : List Operation) (hxy : R x y) :
    (dev.performAll ops x).1 = (model.performAll ops y).1 ∧
      R (dev.performAll ops x).2 (model.performAll ops y).2 := by
  induction ops generalizing x y with
  | nil => exact ⟨rfl, hxy⟩
  | cons op ops ih =>
    obtain ⟨hreply, hop⟩ := follows.perform op hxy
    obtain ⟨hreplies, hops⟩ := ih hop
    exact ⟨List.cons_eq_cons.mpr ⟨hreply, hreplies⟩, hops⟩

end Device.Follows

end EdgeMeter
