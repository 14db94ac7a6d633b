import EdgeMeter.Path

/-!
# Spellings of a path

A path can be spelled in many ways. This module says which spellings have the same components,
without reference to components: those that come from each other by repeated slashes, by dots
between slashes and by a slash at the end.

* `Path.Respelled`: two spellings of one path;
* `Path.canonical`: the shortest spelling of some components;
* **`Path.components_eq_iff_respelled`**: paths have the same components just if they are spellings
  of one path.
-/

namespace EdgeMeter.Path

/-- **Two spellings of one path.** A path from the root keeps its first slash, and nothing takes
away the dot that a relative path begins with. -/
inductive Respelled : Bytes → Bytes → Prop where
  | slashes (a b : Bytes) : Respelled (a ++ slash :: slash :: b) (a ++ slash :: b)
  | dot (a b : Bytes) : Respelled (a ++ slash :: Path.dot :: slash :: b) (a ++ slash :: b)
  | last {a : Bytes} (ne_nil : a ≠ []) : Respelled (a ++ [slash]) a
  | refl (a : Bytes) : Respelled a a
  | symm {a b : Bytes} (h : Respelled a b) : Respelled b a
  | trans {a b c : Bytes} (h : Respelled a b) (h' : Respelled b c) : Respelled a c

/-! ## Pieces -/

theorem pieces_cons_slash (p : Bytes) : pieces (slash :: p) = [] :: pieces p := rfl

theorem pieces_ne_nil (p : Bytes) : pieces p ≠ [] := by
  cases p with
  | nil => exact List.cons_ne_nil _ _
  | cons b p =>
    rw [pieces, List.foldr_cons]
    split
    · exact List.cons_ne_nil _ _
    · split <;> exact List.cons_ne_nil _ _

theorem pieces_cons_of_ne {b : UInt8} (hb : b ≠ slash) {p q : Bytes} {qs : List Bytes}
    (hp : pieces p = q :: qs) : pieces (b :: p) = (b :: q) :: qs := by
  rw [pieces] at hp ⊢
  rw [List.foldr_cons, if_neg hb, hp]

theorem pieces_append_slash (a b : Bytes) :
    pieces (a ++ slash :: b) = pieces a ++ pieces b := by
  induction a with
  | nil => rfl
  | cons c a ih =>
    by_cases hc : c = slash
    · rw [hc, List.cons_append, pieces_cons_slash, pieces_cons_slash, ih, List.cons_append]
    · obtain ⟨q, qs, hq⟩ := List.exists_cons_of_ne_nil (pieces_ne_nil a)
      rw [pieces_cons_of_ne hc hq, List.cons_append, pieces_cons_of_ne hc (by rw [ih, hq]; rfl)]
      rfl

/-- Pieces after the first, each behind a slash. -/
def tail (ps : List Bytes) : Bytes := ps.flatMap (slash :: ·)

@[simp] theorem tail_nil : tail [] = [] := rfl

@[simp] theorem tail_cons (p : Bytes) (ps : List Bytes) : tail (p :: ps) = slash :: p ++ tail ps :=
  List.flatMap_cons

theorem eq_append_tail {p q : Bytes} {qs : List Bytes} (hp : pieces p = q :: qs) :
    p = q ++ tail qs := by
  induction p generalizing q qs with
  | nil =>
    obtain ⟨rfl, rfl⟩ := List.cons.inj hp
    rfl
  | cons b p ih =>
    by_cases hb : b = slash
    · rw [hb, pieces_cons_slash] at hp
      obtain ⟨rfl, rfl⟩ := List.cons.inj hp
      obtain ⟨r, rs, hr⟩ := List.exists_cons_of_ne_nil (pieces_ne_nil p)
      rw [hb, hr, List.nil_append, tail_cons, List.cons_append, ← ih hr]
    · obtain ⟨r, rs, hr⟩ := List.exists_cons_of_ne_nil (pieces_ne_nil p)
      rw [pieces_cons_of_ne hb hr] at hp
      obtain ⟨rfl, rfl⟩ := List.cons.inj hp
      rw [List.cons_append, ← ih hr]

/-! ## Spellings of one path have the same components -/

theorem filterMap_inner?_nil_cons (ps : List Bytes) :
    ([] :: ps).filterMap inner? = ps.filterMap inner? := rfl

theorem filterMap_inner?_dot_cons (ps : List Bytes) :
    ([dot] :: ps).filterMap inner? = ps.filterMap inner? := rfl

theorem lead_append_slash (a b c : Bytes) : lead (a ++ slash :: b) = lead (a ++ slash :: c) := by
  have hhead : (a ++ slash :: b).head? = (a ++ slash :: c).head? := by cases a <;> rfl
  obtain ⟨q, qs, hq⟩ := List.exists_cons_of_ne_nil (pieces_ne_nil a)
  rw [lead, lead, hhead, pieces_append_slash, pieces_append_slash, hq]
  rfl

theorem lead_append_last {a : Bytes} (ne_nil : a ≠ []) : lead (a ++ [slash]) = lead a := by
  have hhead : (a ++ [slash]).head? = a.head? := by
    obtain ⟨b, a, rfl⟩ := List.exists_cons_of_ne_nil ne_nil
    rfl
  obtain ⟨q, qs, hq⟩ := List.exists_cons_of_ne_nil (pieces_ne_nil a)
  rw [lead, lead, hhead, pieces_append_slash, hq]
  rfl

theorem components_append_slash (a b : Bytes) :
    components (a ++ slash :: b) =
      lead (a ++ [slash]) ++ (pieces a).filterMap inner? ++ (pieces b).filterMap inner? := by
  rw [components, lead_append_slash a b [], pieces_append_slash, List.filterMap_append,
    List.append_assoc]

theorem Respelled.components_eq {a b : Bytes} (h : Respelled a b) :
    components a = components b := by
  induction h with
  | slashes a b =>
    rw [components_append_slash, components_append_slash, pieces_cons_slash,
      filterMap_inner?_nil_cons]
  | dot a b =>
    have hdot : pieces (Path.dot :: slash :: b) = [Path.dot] :: pieces b :=
      pieces_append_slash [Path.dot] b
    rw [components_append_slash, components_append_slash, hdot, filterMap_inner?_dot_cons]
  | last ne_nil =>
    rw [components_append_slash, lead_append_last ne_nil]
    exact List.append_nil _
  | refl => rfl
  | symm _ ih => exact ih.symm
  | trans _ _ ih ih' => exact ih.trans ih'

/-! ## The shortest spelling -/

/-- What a component is spelled as; the root has only the slash behind it. -/
def Component.bytes : Component → Bytes
  | root => []
  | here => [dot]
  | up => [dot, dot]
  | name bytes => bytes

/-- Pieces behind a first part. Only the root alone ends in a slash. -/
def joined (a : Bytes) (qs : List Bytes) : Bytes :=
  if a = [] ∧ qs = [] then [slash] else a ++ tail qs

theorem joined_of_ne_nil {a : Bytes} (ne_nil : a ≠ []) (qs : List Bytes) :
    joined a qs = a ++ tail qs := if_neg fun h => ne_nil h.1

theorem joined_cons (a q : Bytes) (qs : List Bytes) : joined a (q :: qs) = a ++ tail (q :: qs) :=
  if_neg fun h => List.cons_ne_nil q qs h.2

/-- **The shortest spelling** of some components. -/
def canonical : List Component → Bytes
  | [] => []
  | c :: cs => joined c.bytes (cs.map Component.bytes)

/-- The pieces that count, as they are spelled. -/
def significant (ps : List Bytes) : List Bytes := (ps.filterMap inner?).map Component.bytes

theorem significant_cons_of_ne {p : Bytes} (ne_nil : p ≠ []) (ne_dot : p ≠ [dot])
    (ps : List Bytes) :
    ∃ c, c.bytes = p ∧ (p :: ps).filterMap inner? = c :: ps.filterMap inner? := by
  have hp : ¬(p = [] ∨ p = [dot]) := not_or.mpr ⟨ne_nil, ne_dot⟩
  by_cases hup : p = [dot, dot]
  · exact ⟨.up, hup.symm, List.filterMap_cons_some (by rw [inner?, if_neg hp, if_pos hup])⟩
  · exact ⟨.name p, rfl, List.filterMap_cons_some (by rw [inner?, if_neg hp, if_neg hup])⟩

theorem respelled_nil (a : Bytes) (qs : List Bytes) :
    Respelled (a ++ slash :: tail qs) (joined a qs) := by
  cases qs with
  | nil =>
    by_cases ha : a = []
    · rw [ha]
      exact .refl _
    · rw [joined_of_ne_nil ha, tail_nil, List.append_nil]
      exact .last ha
  | cons q qs =>
    rw [joined_cons, tail_cons]
    exact .slashes a _

theorem respelled_dot (a : Bytes) (qs : List Bytes) :
    Respelled (a ++ slash :: dot :: tail qs) (joined a qs) := by
  cases qs with
  | nil =>
    -- a slash is put behind the last dot, so that the dot is between slashes
    have ne_nil : a ++ [slash, dot] ≠ [] := by simp
    have hslash := (Respelled.last ne_nil).symm
    rw [List.append_assoc] at hslash
    exact (hslash.trans (.dot a [])).trans (respelled_nil a [])
  | cons q qs =>
    rw [joined_cons, tail_cons]
    exact .dot a _

theorem respelled_joined (a : Bytes) (ps : List Bytes) (h : a ≠ [] ∨ ps ≠ []) :
    Respelled (a ++ tail ps) (joined a (significant ps)) := by
  induction ps generalizing a with
  | nil =>
    obtain ha | hps := h
    · rw [tail_nil, joined_of_ne_nil ha]
      exact .refl _
    · cases hps rfl
  | cons p ps ih =>
    have ne_nil : a ++ slash :: p ≠ [] := by simp
    have hrest := ih _ (.inl ne_nil)
    rw [joined_of_ne_nil ne_nil, List.append_assoc, List.append_assoc, ← tail_cons] at hrest
    refine hrest.trans ?_
    by_cases hnil : p = []
    · subst hnil
      exact respelled_nil a _
    by_cases hdot : p = [dot]
    · subst hdot
      exact respelled_dot a _
    · obtain ⟨c, hc, hps⟩ := significant_cons_of_ne hnil hdot ps
      have hsignificant : significant (p :: ps) = p :: significant ps := by
        rw [significant, hps, List.map_cons, hc]
        rfl
      rw [hsignificant, joined_cons]
      exact .refl _

/-- **Every path is a spelling of the shortest one.** -/
theorem respelled_canonical (p : Bytes) : Respelled p (canonical (components p)) := by
  obtain ⟨q, qs, hp⟩ := List.exists_cons_of_ne_nil (pieces_ne_nil p)
  have htext := eq_append_tail hp
  by_cases hroot : p.head? = some slash
  · -- the first piece is empty, and there is another
    obtain ⟨p, rfl⟩ := List.head?_eq_some_iff.mp hroot
    rw [pieces_cons_slash] at hp
    obtain ⟨rfl, rfl⟩ := List.cons.inj hp
    rw [components, lead, if_pos hroot, pieces_cons_slash, filterMap_inner?_nil_cons]
    have := respelled_joined [] (pieces p) (.inr (pieces_ne_nil p))
    rwa [← htext] at this
  by_cases hdot : q = [dot]
  · subst hdot
    rw [components, lead, if_neg hroot, hp, List.head?_cons, if_pos rfl, filterMap_inner?_dot_cons]
    have := respelled_joined [dot] qs (.inl (List.cons_ne_nil _ _))
    rwa [← htext] at this
  have hlead : lead p = [] := by
    rw [lead, if_neg hroot, hp, List.head?_cons, if_neg fun h => hdot (Option.some.inj h)]
  rw [components, hlead, hp, List.nil_append]
  by_cases hnil : q = []
  · -- nothing but a slash could come behind an empty first piece
    subst hnil
    cases qs with
    | nil =>
      rw [htext]
      exact .refl _
    | cons r rs =>
      rw [htext] at hroot
      cases hroot rfl
  · obtain ⟨c, hc, hqs⟩ := significant_cons_of_ne hnil hdot qs
    have := respelled_joined q qs (.inl hnil)
    rw [hqs, canonical, hc]
    rwa [← htext] at this

/-- **Paths have the same components just if they are spellings of one path.** -/
theorem components_eq_iff_respelled {p q : Bytes} :
    components p = components q ↔ Respelled p q := by
  refine ⟨fun h => ?_, Respelled.components_eq⟩
  have hp := respelled_canonical p
  rw [h] at hp
  exact hp.trans (respelled_canonical q).symm

end EdgeMeter.Path
