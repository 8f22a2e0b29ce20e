import Mathlib.Data.List.Perm.Basic
import Mathlib.Data.List.Rotate
import Assessment.Shape

/-!
# Closed outlines

The vertices of a polygon are listed from any of them on, and some authors list the first one again
at the end. Neither changes the outline: each edge leads from one vertex to the next, the last one
back to the first, and an edge from a vertex to itself is crossed by no ray. Whether a point is
inside depends on the parity of the edges that its ray crosses, and so on the outline alone.

An edge is tested in the direction in which it is listed. The test is one in floating-point
arithmetic, and nothing is used of it but that flat edges do not pass.

## Main results

- `Shape.edges_rotate`: to list the vertices from another one on is to list the edges so.
- `Shape.oddlyMany_rotate` and `Shape.oddlyMany_repeat`: what the parity does not depend on.
- `Shape.contains_poly_outline`: a polygon contains the same points however its outline is listed.
-/

namespace Assessment.Shape

/-! ### Edges -/

section outlines

variable {α : Type} {test : α → α → Bool}

/-- Each vertex stands beside the one before it, which is the last for the first one. -/
theorem edges_eq_zip_rotate (outline : List α) :
    edges outline = (outline.rotate (outline.length - 1)).zip outline := by
  cases outline with
  | nil => rfl
  | cons first rest =>
    have hne : first :: rest ≠ [] := List.cons_ne_nil first rest
    have hrotate : (first :: rest).rotate ((first :: rest).length - 1) =
        (first :: rest).getLast hne :: (first :: rest).dropLast := by
      rw [List.rotate_eq_drop_append_take (Nat.sub_le _ _), List.drop_length_sub_one hne,
        ← List.dropLast_eq_take]
      rfl
    -- The last vertex stands before all of them, and so the list of predecessors is one too long.
    rw [edges, hrotate, List.zip_eq_zip_take_min]
    simp [List.dropLast_eq_take]

/-- The edges of an outline that is listed from another vertex on are listed from another edge
on. -/
theorem edges_rotate (outline : List α) (n : ℕ) :
    edges (outline.rotate n) = (edges outline).rotate n := by
  have hpairs := List.zipWith_rotate_distrib Prod.mk (outline.rotate (outline.length - 1)) outline n
    (List.length_rotate _ _)
  rw [edges_eq_zip_rotate, edges_eq_zip_rotate, List.length_rotate, List.rotate_rotate,
    Nat.add_comm, ← List.rotate_rotate]
  exact hpairs.symm

/-! ### Parity -/

/-- The order of edges does not matter for their parity. -/
instance : RightCommutative fun (odd : Bool) (edge : α × α) => odd != test edge.1 edge.2 :=
  ⟨fun odd _ _ => Bool.xor_right_comm odd _ _⟩

/-- The parity does not depend on the vertex that is listed first. -/
theorem oddlyMany_rotate (outline : List α) (n : ℕ) :
    oddlyMany test (outline.rotate n) = oddlyMany test outline := by
  rw [oddlyMany, edges_rotate]
  exact (List.rotate_perm (edges outline) n).foldl_eq false

/-- The parity is the same where the first vertex is listed again at the end, if an edge from that
vertex to itself does not pass the test. -/
theorem oddlyMany_repeat {first : α} {rest : List α} (h : test first first = false) :
    oddlyMany test (first :: rest ++ [first]) = oddlyMany test (first :: rest) := by
  have hfront : oddlyMany test (first :: rest ++ [first]) =
      oddlyMany test (first :: first :: rest) := by
    rw [← oddlyMany_rotate _ (first :: rest).length, List.rotate_append_length_eq]
    rfl
  -- Listed twice in a row, the vertex has an edge to itself beside the edges that there were.
  have hedges : (edges (first :: first :: rest)).Perm
      ((first, first) :: edges (first :: rest)) := .swap _ _ _
  rw [hfront, oddlyMany, hedges.foldl_eq, List.foldl_cons, h]
  rfl

end outlines

/-! ### Polygons -/

/-- No ray crosses a flat edge. -/
theorem crosses_eq_false {source target : Int64 × Int64} (h : source.2 = target.2) (x y : Float) :
    crosses x y source target = false := by
  simp [crosses, h]

variable {points : List (Int64 × Int64)}

theorem contains_poly (h : 3 ≤ points.length) (x y : Int64) :
    contains (.poly points) x y =
      oddlyMany (crosses (Word.toFloat x) (Word.toFloat y)) points :=
  if_neg (Nat.not_lt.2 h)

/-- A polygon contains the same points from whichever vertex on its outline is listed, and also
where the first vertex is listed again at the end. -/
theorem contains_poly_outline (h : 3 ≤ points.length) (x y : Int64) :
    (∀ n, contains (.poly (points.rotate n)) x y = contains (.poly points) x y) ∧
      ∀ first ∈ points.head?,
        contains (.poly (points ++ [first])) x y = contains (.poly points) x y := by
  refine ⟨fun n => ?_, fun first hfirst => ?_⟩
  · have hlength : 3 ≤ (points.rotate n).length := by rwa [List.length_rotate]
    rw [contains_poly hlength, contains_poly h, oddlyMany_rotate]
  · obtain ⟨rest, rfl⟩ := List.head?_eq_some_iff.1 hfirst
    have hlength : 3 ≤ (first :: rest ++ [first]).length := by
      rw [List.length_append]
      exact Nat.le_add_right_of_le h
    rw [contains_poly hlength, contains_poly h, oddlyMany_repeat (crosses_eq_false rfl _ _)]

/-- A point in the notch of an arrowhead is outside, and it stays so when the outline is listed from
the notch on, and when its first vertex is repeated. -/
theorem contains_poly_outline_notch :
    let arrowhead : List (Int64 × Int64) := [(0, 0), (4, 4), (8, 0), (4, 8)]
    3 ≤ arrowhead.length ∧ contains (.poly arrowhead) 4 2 = false ∧
      contains (.poly arrowhead) 4 6 = true ∧
      contains (.poly (arrowhead.rotate 1)) 4 2 = false ∧
      contains (.poly (arrowhead ++ [(0, 0)])) 4 6 = true := by
  have hnotch : contains (.poly [(0, 0), (4, 4), (8, 0), (4, 8)]) 4 2 = false := by decide +kernel
  have hinside : contains (.poly [(0, 0), (4, 4), (8, 0), (4, 8)]) 4 6 = true := by decide +kernel
  refine ⟨by decide, hnotch, hinside, ?_, ?_⟩
  · rw [(contains_poly_outline (by decide) 4 2).1, hnotch]
  · rw [(contains_poly_outline (by decide) 4 6).2 (0, 0) rfl, hinside]

end Assessment.Shape
