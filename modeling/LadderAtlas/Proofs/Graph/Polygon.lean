import LadderAtlas.Graph.Mark
import Mathlib.Algebra.BigOperators.Group.List.Basic
import Mathlib.Algebra.Order.BigOperators.Group.List
import Mathlib.Algebra.Order.Field.Rat
import Mathlib.Tactic.FieldSimp
import Mathlib.Tactic.Linarith
import Mathlib.Tactic.Ring

/-! # Filled polygons

Which places a filled polygon covers: those on its outline, and those that its outline goes around,
counted with the direction in which it passes over them. Rows count from the top, so what is over a
place has a lesser row. The area from a level base up to a line that goes one way only covers what
is between the line and the base, and nothing else.
-/

namespace LadderAtlas

theorem Point.eq_of_column_of_row {p q : Point Rat} (column : p.x = q.x)
    (row : p.y = q.y) : p = q := by
  cases p
  cases q
  exact congrArg₂ Point.mk column row

namespace Polygon

/-! ## Segments -/

/-- A straight line between two places. -/
structure Segment where
  start : Point Rat
  finish : Point Rat

namespace Segment

/-- The place at a fraction of the way. -/
def placeAt (s : Segment) (t : Rat) : Point Rat :=
  ⟨s.start.x + t * (s.finish.x - s.start.x), s.start.y + t * (s.finish.y - s.start.y)⟩

def Holds (s : Segment) (p : Point Rat) : Prop := ∃ t, 0 ≤ t ∧ t ≤ 1 ∧ p = s.placeAt t

/-- The row at which the segment crosses a column. -/
def rowAt (s : Segment) (x : Rat) : Rat :=
  s.start.y + (x - s.start.x) / (s.finish.x - s.start.x) * (s.finish.y - s.start.y)

/-- One for a place that is no further to the right than a column. -/
def leftOf (x : Rat) (p : Point Rat) : Int := if p.x ≤ x then 1 else 0

/-- One where the segment passes over a place from left to right, and minus one from right to
    left. -/
def crossing (s : Segment) (p : Point Rat) : Int :=
  if s.rowAt p.x < p.y then leftOf p.x s.start - leftOf p.x s.finish else 0

def flip (s : Segment) : Segment := ⟨s.finish, s.start⟩

variable {s : Segment} {p : Point Rat} {x : Rat}

theorem holds_start (s : Segment) : s.Holds s.start :=
  ⟨0, by norm_num, by norm_num, by simp [placeAt]⟩

theorem holds_finish (s : Segment) : s.Holds s.finish :=
  ⟨1, by norm_num, by norm_num, by simp [placeAt]⟩

theorem Holds.flip (h : s.Holds p) : s.flip.Holds p := by
  obtain ⟨t, low, high, rfl⟩ := h
  refine ⟨1 - t, by linarith, by linarith, ?_⟩
  simp only [placeAt, Segment.flip, Point.mk.injEq]
  constructor <;> ring

/-- In a column that it crosses, a segment has one row. -/
theorem Holds.row_eq (h : s.Holds p) (across : s.start.x ≠ s.finish.x) : s.rowAt p.x = p.y := by
  obtain ⟨t, -, -, rfl⟩ := h
  have wide : s.finish.x - s.start.x ≠ 0 := sub_ne_zero.mpr (Ne.symm across)
  simp only [placeAt, rowAt]
  field_simp
  ring

theorem Holds.row_le (h : s.Holds p) {bound : Rat} (start : s.start.y ≤ bound)
    (finish : s.finish.y ≤ bound) :
    p.y ≤ bound := by
  obtain ⟨t, low, high, rfl⟩ := h
  simp only [placeAt]
  nlinarith

theorem Holds.exists_row_le (h : s.Holds p) : s.start.y ≤ p.y ∨ s.finish.y ≤ p.y := by
  obtain ⟨t, low, high, rfl⟩ := h
  simp only [placeAt]
  rcases le_total s.start.y s.finish.y with rises | falls
  · left
    nlinarith
  · right
    nlinarith

theorem Holds.column_eq (h : s.Holds p) (upright : s.start.x = s.finish.x) : p.x = s.start.x := by
  obtain ⟨t, -, -, rfl⟩ := h
  simp [placeAt, upright]

/-- A place between two others, seen from any direction. -/
theorem exists_holds_at {g : Point Rat → Rat}
    (affine : ∀ (s : Segment) (t : Rat), g (s.placeAt t) = g s.start + t * (g s.finish - g s.start))
    {v : Rat} (low : g s.start ≤ v) (high : v ≤ g s.finish) : ∃ q, s.Holds q ∧ g q = v := by
  rcases eq_or_lt_of_le (le_trans low high) with level | rises
  · exact ⟨s.start, s.holds_start, by linarith⟩
  · have wide : g s.finish - g s.start ≠ 0 := by linarith
    refine ⟨_, ⟨(v - g s.start) / (g s.finish - g s.start), div_nonneg (by linarith) (by linarith),
      div_le_one_of_le₀ (by linarith) (by linarith), rfl⟩, ?_⟩
    rw [affine]
    field_simp
    ring

/-- An upright segment holds what is between its ends. -/
theorem holds_of_upright (start : s.start.x = p.x) (finish : s.finish.x = p.x)
    (low : s.start.y ≤ p.y) (high : p.y ≤ s.finish.y) : s.Holds p := by
  obtain ⟨q, holds, row⟩ := exists_holds_at (g := Point.y) (fun s t => rfl) low high
  have column : q.x = p.x := (holds.column_eq (start.trans finish.symm)).trans start
  exact Point.eq_of_column_of_row column row ▸ holds

theorem rowAt_flip (across : s.start.x ≠ s.finish.x) : s.flip.rowAt x = s.rowAt x := by
  have wide : s.finish.x - s.start.x ≠ 0 := sub_ne_zero.mpr (Ne.symm across)
  have wide' : s.start.x - s.finish.x ≠ 0 := sub_ne_zero.mpr across
  simp only [rowAt, flip]
  field_simp
  ring

theorem holds_rowAt_of_rightward (low : s.start.x ≤ x) (high : x < s.finish.x) :
    s.Holds ⟨x, s.rowAt x⟩ := by
  obtain ⟨q, holds, column⟩ := exists_holds_at (g := Point.x) (fun s t => rfl) low high.le
  have row := holds.row_eq (lt_of_le_of_lt low high).ne
  rw [column] at row
  have here : q = ⟨x, s.rowAt x⟩ := Point.eq_of_column_of_row column row.symm
  exact here ▸ holds

/-- A segment crosses the columns between its ends. -/
theorem holds_rowAt (passes : s.start.x ≤ x ∧ x < s.finish.x ∨ s.finish.x ≤ x ∧ x < s.start.x) :
    s.Holds ⟨x, s.rowAt x⟩ := by
  rcases passes with ⟨low, high⟩ | ⟨low, high⟩
  · exact holds_rowAt_of_rightward low high
  · have flipped := (holds_rowAt_of_rightward (s := s.flip) low high).flip
    rwa [rowAt_flip (by linarith)] at flipped

theorem Holds.column_between (h : s.Holds p) (rightward : s.start.x ≤ s.finish.x) :
    s.start.x ≤ p.x ∧ p.x ≤ s.finish.x := by
  obtain ⟨t, low, high, rfl⟩ := h
  simp only [placeAt]
  constructor <;> nlinarith

theorem Holds.unique (h : s.Holds p) {q : Point Rat} (h' : s.Holds q)
    (across : s.start.x ≠ s.finish.x) (column : p.x = q.x) : p = q := by
  refine Point.eq_of_column_of_row column ?_
  rw [← h.row_eq across, ← h'.row_eq across, column]

theorem leftOf_ne_iff : leftOf x s.start ≠ leftOf x s.finish ↔
    s.start.x ≤ x ∧ x < s.finish.x ∨ s.finish.x ≤ x ∧ x < s.start.x := by
  unfold leftOf
  split <;> split <;> simp_all

theorem crossing_ne_zero_iff : s.crossing p ≠ 0 ↔
    s.rowAt p.x < p.y ∧ leftOf p.x s.start ≠ leftOf p.x s.finish := by
  unfold crossing
  split
  · next above => simp [above, sub_ne_zero]
  · next under => simp [under]

theorem crossing_of_upright (column : s.start.x = s.finish.x) : s.crossing p = 0 := by
  simp [crossing, leftOf, column]

theorem crossing_flip : s.flip.crossing p = -s.crossing p := by
  by_cases column : s.start.x = s.finish.x
  · rw [crossing_of_upright column, crossing_of_upright column.symm, neg_zero]
  · unfold crossing
    rw [rowAt_flip column]
    split
    · exact (neg_sub _ _).symm
    · rfl

/-- Going to the right, a segment passes from left to right or not at all. -/
theorem crossing_nonneg (rightward : s.start.x ≤ s.finish.x) : 0 ≤ s.crossing p := by
  unfold crossing
  split
  · have sides : p.x < s.start.x → p.x < s.finish.x := fun right => lt_of_lt_of_le right rightward
    unfold leftOf
    grind
  · exact le_refl 0

/-- Over a place that is below both ends, what counts is only on which sides of its column they
    are. -/
theorem crossing_of_over (start : s.start.y < p.y) (finish : s.finish.y < p.y) :
    s.crossing p = leftOf p.x s.start - leftOf p.x s.finish := by
  unfold crossing
  split
  · rfl
  · next under =>
      by_contra sides
      have passes := leftOf_ne_iff.mp (sub_ne_zero.mp (Ne.symm sides))
      have above := (holds_rowAt passes).row_le (le_max_left _ _) (le_max_right _ _)
      exact under (lt_of_le_of_lt above (max_lt start finish))

end Segment

/-! ## Paths -/

/-- The segments between neighbours. -/
def segments : List (Point Rat) → List Segment
  | a :: b :: rest => ⟨a, b⟩ :: segments (b :: rest)
  | _ => []

def OnPath (path : List (Point Rat)) (p : Point Rat) : Prop := ∃ s ∈ segments path, s.Holds p

/-- How often a path passes over a place from left to right, less how often it does so from right to
    left. -/
def winding (path : List (Point Rat)) (p : Point Rat) : Int :=
  ((segments path).map fun s => s.crossing p).sum

/-- The places of a path stand from left to right. -/
def Rightward (path : List (Point Rat)) : Prop := path.Pairwise fun a b => a.x < b.x

section Paths

variable {path rest : List (Point Rat)} {a b p q : Point Rat}

theorem segments_append (path rest : List (Point Rat)) (a : Point Rat) :
    segments (path ++ a :: rest) = segments (path ++ [a]) ++ segments (a :: rest) := by
  induction path with
  | nil => rfl
  | cons b path ih =>
      cases path with
      | nil => rfl
      | cons c path => exact congrArg (⟨b, c⟩ :: ·) ih

theorem segments_reverse (path : List (Point Rat)) :
    segments path.reverse = ((segments path).map Segment.flip).reverse := by
  induction path with
  | nil => rfl
  | cons a path ih =>
      cases path with
      | nil => rfl
      | cons b rest =>
          have front : (b :: rest).reverse = rest.reverse ++ [b] := List.reverse_cons
          rw [List.reverse_cons, front, List.append_assoc, List.singleton_append,
            segments_append, ← front, ih]
          simp [segments, Segment.flip]

theorem mem_of_mem_segments {s : Segment} (member : s ∈ segments path) :
    s.start ∈ path ∧ s.finish ∈ path := by
  induction path with
  | nil => cases member
  | cons a path ih =>
      cases path with
      | nil => cases member
      | cons b rest =>
          rcases List.mem_cons.mp member with rfl | later
          · exact ⟨List.mem_cons_self, List.mem_cons_of_mem _ List.mem_cons_self⟩
          · obtain ⟨start, finish⟩ := ih later
            exact ⟨List.mem_cons_of_mem a start, List.mem_cons_of_mem a finish⟩

theorem onPath_cons :
    OnPath (a :: b :: rest) p ↔ Segment.Holds ⟨a, b⟩ p ∨ OnPath (b :: rest) p := by
  simp [OnPath, segments]

theorem OnPath.reverse (h : OnPath path p) : OnPath path.reverse p := by
  obtain ⟨s, member, holds⟩ := h
  refine ⟨s.flip, ?_, holds.flip⟩
  rw [segments_reverse, List.mem_reverse]
  exact List.mem_map_of_mem member

theorem OnPath.row_le (h : OnPath path p) {bound : Rat} (all : ∀ a ∈ path, a.y ≤ bound) :
    p.y ≤ bound := by
  obtain ⟨s, member, holds⟩ := h
  obtain ⟨start, finish⟩ := mem_of_mem_segments member
  exact holds.row_le (all _ start) (all _ finish)

/-- What stands on a path of two places or more is on it. -/
theorem onPath_of_mem (long : 2 ≤ path.length) (member : a ∈ path) : OnPath path a := by
  induction path with
  | nil => cases member
  | cons b path ih =>
      cases path with
      | nil => simp at long
      | cons c rest =>
          rw [onPath_cons]
          rcases List.mem_cons.mp member with rfl | later
          · exact .inl (Segment.holds_start _)
          · cases rest with
            | nil =>
                obtain rfl := List.mem_singleton.mp later
                exact .inl (Segment.holds_finish _)
            | cons d rest => exact .inr (ih (by simp) later)

theorem OnPath.column_eq (h : OnPath path p) {x : Rat} (all : ∀ a ∈ path, a.x = x) : p.x = x := by
  obtain ⟨s, member, holds⟩ := h
  obtain ⟨start, finish⟩ := mem_of_mem_segments member
  rw [holds.column_eq ((all _ start).trans (all _ finish).symm), all _ start]

theorem OnPath.exists_row_le (h : OnPath path p) : ∃ a ∈ path, a.y ≤ p.y := by
  obtain ⟨s, member, holds⟩ := h
  obtain ⟨start, finish⟩ := mem_of_mem_segments member
  exact holds.exists_row_le.elim (fun low => ⟨_, start, low⟩) fun low => ⟨_, finish, low⟩

theorem segments_concat (ends : path.getLast? = some a) (b : Point Rat) :
    segments (path ++ [b]) = segments path ++ [⟨a, b⟩] := by
  obtain ⟨before, rfl⟩ := List.getLast?_eq_some_iff.mp ends
  rw [List.append_assoc]
  exact segments_append before [b] a

theorem winding_cons :
    winding (a :: b :: rest) p = Segment.crossing ⟨a, b⟩ p + winding (b :: rest) p := rfl

theorem winding_reverse (path : List (Point Rat)) (p : Point Rat) :
    winding path.reverse p = -winding path p := by
  have flipped : (fun s : Segment => s.crossing p) ∘ Segment.flip = Neg.neg ∘ fun s =>
      s.crossing p :=
    funext fun s => Segment.crossing_flip
  rw [winding, segments_reverse, List.map_reverse, List.sum_reverse, List.map_map, flipped,
    ← List.map_map, ← List.sum_neg, winding]

/-- Where a path passes over a place, it has a place over that. -/
theorem exists_over_of_winding (around : winding path p ≠ 0) :
    ∃ q, OnPath path q ∧ q.x = p.x ∧ q.y < p.y := by
  obtain ⟨_, listed, counts⟩ := List.exists_mem_ne_zero_of_sum_ne_zero around
  obtain ⟨s, member, rfl⟩ := List.mem_map.mp listed
  obtain ⟨above, sides⟩ := Segment.crossing_ne_zero_iff.mp counts
  exact ⟨_, ⟨s, member, Segment.holds_rowAt (Segment.leftOf_ne_iff.mp sides)⟩, rfl, above⟩

/-- Over a place that is below all of a path, only the sides on which the path ends count. -/
theorem winding_of_over (above : ∀ b ∈ a :: rest, b.y < p.y) :
    winding (a :: rest) p =
      Segment.leftOf p.x a - Segment.leftOf p.x ((a :: rest).getLast (by simp)) := by
  induction rest generalizing a with
  | nil => exact (sub_self _).symm
  | cons b rest ih =>
      obtain ⟨here, later⟩ := List.forall_mem_cons.mp above
      rw [winding_cons, ih later, Segment.crossing_of_over here (later b List.mem_cons_self),
        List.getLast_cons (List.cons_ne_nil b rest)]
      exact sub_add_sub_cancel _ _ _

/-- A path passes every place between one of its own and its last, seen from any direction. -/
theorem exists_onPath_at {g : Point Rat → Rat}
    (affine : ∀ (s : Segment) (t : Rat), g (s.placeAt t) = g s.start + t * (g s.finish - g s.start))
    {v : Rat} (long : 2 ≤ path.length) (member : a ∈ path) (low : g a ≤ v)
    (ends : path.getLast? = some b) (high : v ≤ g b) :
    ∃ q, OnPath path q ∧ g q = v := by
  induction path generalizing a with
  | nil => cases member
  | cons c path ih =>
      cases path with
      | nil => simp at long
      | cons d rest =>
          simp only [onPath_cons]
          by_cases lower : g d ≤ v
          · cases rest with
            | nil =>
                cases ends
                exact ⟨d, .inl (Segment.holds_finish _), le_antisymm lower high⟩
            | cons e rest =>
                obtain ⟨q, there, level⟩ := ih (by simp) List.mem_cons_self lower ends
                exact ⟨q, .inr there, level⟩
          · rcases List.mem_cons.mp member with rfl | later
            · obtain ⟨q, there, level⟩ :=
                Segment.exists_holds_at affine (s := ⟨a, d⟩) low (le_of_not_ge lower)
              exact ⟨q, .inl there, level⟩
            · cases rest with
              | nil =>
                  obtain rfl := List.mem_singleton.mp later
                  exact absurd low lower
              | cons e rest =>
                  obtain ⟨q, there, level⟩ := ih (by simp) later low ends
                  exact ⟨q, .inr there, level⟩

theorem OnPath.long (h : OnPath path p) : 2 ≤ path.length := by
  obtain ⟨s, member, -⟩ := h
  match path with
  | [] => cases member
  | [_] => cases member
  | _ :: _ :: _ => simp

/-- A path that is nowhere below another one has a place over each place of that. -/
theorem OnPath.exists_over {path' : List (Point Rat)} (h : OnPath path p)
    (above : List.Forall₂ (fun a a' => a'.x = a.x ∧ a'.y ≤ a.y) path path') :
    ∃ q, OnPath path' q ∧ q.x = p.x ∧ q.y ≤ p.y := by
  induction above with
  | nil => exact absurd h.long (by simp)
  | cons first later ih =>
      cases later with
      | nil => exact absurd h.long (by simp)
      | cons second later =>
          rcases onPath_cons.mp h with ⟨t, low, high, rfl⟩ | behind
          · refine ⟨_, onPath_cons.mpr (.inl ⟨t, low, high, rfl⟩), ?_, ?_⟩
            · simp only [Segment.placeAt, first.1, second.1]
            · simp only [Segment.placeAt]
              nlinarith [first.2, second.2]
          · obtain ⟨q, there, column, row⟩ := ih behind
            exact ⟨q, onPath_cons.mpr (.inr there), column, row⟩

/-! ## Paths that go to the right -/

theorem Rightward.lt_of_mem_segments (h : Rightward path) {s : Segment}
    (member : s ∈ segments path) :
    s.start.x < s.finish.x := by
  induction path with
  | nil => cases member
  | cons a path ih =>
      cases path with
      | nil => cases member
      | cons b rest =>
          obtain ⟨first, later⟩ := List.pairwise_cons.mp h
          rcases List.mem_cons.mp member with rfl | further
          · exact first b List.mem_cons_self
          · exact ih later further

theorem Rightward.winding_nonneg (h : Rightward path) (p : Point Rat) : 0 ≤ winding path p := by
  refine List.sum_nonneg fun n listed => ?_
  obtain ⟨s, member, rfl⟩ := List.mem_map.mp listed
  exact Segment.crossing_nonneg (h.lt_of_mem_segments member).le

/-- What passes over a place does not cancel out. -/
theorem Rightward.winding_cons_ne_zero (h : Rightward (a :: b :: rest))
    (passes : Segment.crossing ⟨a, b⟩ p ≠ 0 ∨ winding (b :: rest) p ≠ 0) :
    winding (a :: b :: rest) p ≠ 0 := by
  obtain ⟨first, later⟩ := List.pairwise_cons.mp h
  have here := Segment.crossing_nonneg (s := ⟨a, b⟩) (p := p) (first b List.mem_cons_self).le
  have further := Rightward.winding_nonneg later p
  rw [winding_cons]
  omega

theorem Rightward.first_le (h : Rightward (a :: rest)) (there : OnPath (a :: rest) p) :
    a.x ≤ p.x := by
  obtain ⟨s, member, holds⟩ := there
  have start := (holds.column_between (h.lt_of_mem_segments member).le).1
  rcases List.mem_cons.mp (mem_of_mem_segments member).1 with same | later
  · rwa [same] at start
  · exact le_trans ((List.pairwise_cons.mp h).1 _ later).le start

/-- In each column there is one place at most. -/
theorem Rightward.unique (h : Rightward path) (hp : OnPath path p) (hq : OnPath path q)
    (column : p.x = q.x) :
    p = q := by
  induction path generalizing p q with
  | nil => exact absurd hp.long (by simp)
  | cons a path ih =>
      cases path with
      | nil => exact absurd hp.long (by simp)
      | cons b rest =>
          obtain ⟨first, later⟩ := List.pairwise_cons.mp h
          have across : a.x < b.x := first b List.mem_cons_self
          -- Where one of the two is before the second vertex and the other behind it, both are the
          -- vertex.
          have atVertex {p q : Point Rat} (before : Segment.Holds ⟨a, b⟩ p)
              (behind : OnPath (b :: rest) q) (column : p.x = q.x) : p = q := by
            have low := Rightward.first_le later behind
            have high := (before.column_between across.le).2
            have here : p.x = b.x := le_antisymm high (column ▸ low)
            have vertex := onPath_of_mem behind.long List.mem_cons_self
            rw [before.unique (Segment.holds_finish ⟨a, b⟩) across.ne here]
            exact ih later vertex behind (here.symm.trans column)
          rcases onPath_cons.mp hp with before | behind <;> rcases onPath_cons.mp hq with
            before' | behind'
          · exact before.unique before' across.ne column
          · exact atVertex before behind' column
          · exact (atVertex before' behind column.symm).symm
          · exact ih later behind behind' column

/-- A path to the right passes over what is below it, except in the column in which it ends. -/
theorem Rightward.winding_ne_zero (h : Rightward path) (there : OnPath path q) (column : q.x = p.x)
    (above : q.y < p.y) : winding path p ≠ 0 ∨ path.getLast? = some q := by
  induction path with
  | nil => exact absurd there.long (by simp)
  | cons a path ih =>
      cases path with
      | nil => exact absurd there.long (by simp)
      | cons b rest =>
          obtain ⟨first, later⟩ := List.pairwise_cons.mp h
          have across : a.x < b.x := first b List.mem_cons_self
          have behind (there : OnPath (b :: rest) q) :
              winding (a :: b :: rest) p ≠ 0 ∨ (a :: b :: rest).getLast? = some q := by
            refine (ih later there).imp (fun around => h.winding_cons_ne_zero (.inr around))
              fun last => ?_
            rwa [List.getLast?_cons_cons]
          rcases onPath_cons.mp there with holds | there
          · obtain ⟨low, high⟩ := holds.column_between across.le
            rcases lt_or_eq_of_le high with inside | last
            · have row := holds.row_eq across.ne
              have counts : Segment.crossing ⟨a, b⟩ p ≠ 0 := by
                rw [column] at low inside row
                exact Segment.crossing_ne_zero_iff.mpr
                  ⟨row ▸ above, Segment.leftOf_ne_iff.mpr (.inl ⟨low, inside⟩)⟩
              exact .inl (h.winding_cons_ne_zero (.inl counts))
            · obtain rfl := holds.unique (Segment.holds_finish ⟨a, b⟩) across.ne last
              cases rest with
              | nil => exact .inr rfl
              | cons c rest => exact behind (onPath_of_mem (by simp) List.mem_cons_self)
          · exact behind there

end Paths

/-! ## Areas -/

/-- The outline of a polygon, back to where it starts. -/
def outline (points : List (Point Rat)) : List (Point Rat) := points ++ points.take 1

/-- A filled polygon covers its outline and the places that the outline goes around. -/
def Covers (points : List (Point Rat)) (p : Point Rat) : Prop :=
  winding (outline points) p ≠ 0 ∨ OnPath (outline points) p

/-- A path goes to the right, or to the left, or stays in one column. -/
inductive OneWay (path : List (Point Rat)) : Prop where
  | rightward (h : Rightward path)
  | leftward (h : Rightward path.reverse)
  | upright (h : ∀ a ∈ path, ∀ b ∈ path, a.x = b.x)

/-- The polygon with a level base that reaches up to a path. -/
def area (left right base : Rat) (path : List (Point Rat)) : List (Point Rat) :=
  ⟨right, base⟩ :: ⟨left, base⟩ :: path

/-- A path over a level base, from one column to another. -/
structure Skyline (left right base : Rat) (path : List (Point Rat)) : Prop where
  long : 2 ≤ path.length
  oneWay : OneWay path
  starts : path.head?.map Point.x = some left
  ends : path.getLast?.map Point.x = some right
  above : ∀ a ∈ path, a.y ≤ base

section Areas

variable {path : List (Point Rat)} {left right base : Rat} {p q first last : Point Rat}

/-- The outline of an area: along the base, up to the path, along the path, and down again. -/
theorem segments_outline (starts : path.head? = some first) (ends : path.getLast? = some last) :
    segments (outline (area left right base path)) =
      ⟨⟨right, base⟩, ⟨left, base⟩⟩ :: ⟨⟨left, base⟩, first⟩ ::
        (segments path ++ [⟨last, ⟨right, base⟩⟩]) := by
  obtain ⟨rest, split⟩ := List.head?_eq_some_iff.mp starts
  rw [← segments_concat ends, split]
  rfl

theorem onPath_outline_iff (starts : path.head? = some first) (ends : path.getLast? = some last) :
    OnPath (outline (area left right base path)) p ↔
      Segment.Holds ⟨⟨right, base⟩, ⟨left, base⟩⟩ p ∨ Segment.Holds ⟨⟨left, base⟩, first⟩ p ∨
      OnPath path p ∨
        Segment.Holds ⟨last, ⟨right, base⟩⟩ p := by
  simp [OnPath, segments_outline starts ends, or_and_right, exists_or]

/-- Places whose columns are increasing numbers, stretched and shifted, stand in one direction. -/
theorem OneWay.of_stretched {β : Type} {points : List β} {number : β → Rat} (place : β → Point Rat)
    (increasing : points.Pairwise fun a b => number a < number b) (width shift : Rat)
    (column : ∀ a, (place a).x = number a * width + shift) : OneWay (points.map place) := by
  rcases lt_trichotomy width 0 with negative | zero | positive
  · refine .leftward
      (List.pairwise_reverse.mpr (List.pairwise_map.mpr (increasing.imp fun order => ?_)))
    rw [column, column]
    exact add_lt_add_left (mul_lt_mul_of_neg_right order negative) _
  · refine .upright fun a ha b hb => ?_
    obtain ⟨a, -, rfl⟩ := List.mem_map.mp ha
    obtain ⟨b, -, rfl⟩ := List.mem_map.mp hb
    rw [column, column, zero, mul_zero, mul_zero]
  · refine .rightward (List.pairwise_map.mpr (increasing.imp fun order => ?_))
    rw [column, column]
    exact add_lt_add_left (mul_lt_mul_of_pos_right order positive) _

namespace Skyline

/-- Of the outline only the path passes over a place that is not below the base. -/
theorem winding_outline (h : Skyline left right base path) (inside : p.y ≤ base) :
    winding (outline (area left right base path)) p = winding path p := by
  obtain ⟨first, starts, rfl⟩ := Option.map_eq_some_iff.mp h.starts
  obtain ⟨last, ends, rfl⟩ := Option.map_eq_some_iff.mp h.ends
  have along : Segment.crossing ⟨⟨last.x, base⟩, ⟨first.x, base⟩⟩ p = 0 := by
    simp [Segment.crossing, Segment.rowAt, not_lt.mpr inside]
  have up : Segment.crossing ⟨⟨first.x, base⟩, first⟩ p = 0 := Segment.crossing_of_upright rfl
  have down : Segment.crossing ⟨last, ⟨last.x, base⟩⟩ p = 0 := Segment.crossing_of_upright rfl
  simp [winding, segments_outline starts ends, along, up, down]

theorem not_covers_below (h : Skyline left right base path) (below : base < p.y) :
    ¬ Covers (area left right base path) p := by
  have above : ∀ a ∈ outline (area left right base path), a.y ≤ base := by
    simpa [outline, area, or_imp, forall_and] using h.above
  rintro (around | on)
  · refine around ((winding_of_over fun a member => lt_of_le_of_lt (above a member) below).trans ?_)
    simp [area]
  · exact absurd (on.row_le above) (not_le.mpr below)

/-! ### Covered places are under the path -/

/-- In every column of the base there is a place of the path. -/
theorem exists_over_base (h : Skyline left right base path)
    (along : Segment.Holds ⟨⟨right, base⟩, ⟨left, base⟩⟩ p) : ∃ q, OnPath path q ∧ q.x = p.x := by
  obtain ⟨first, starts, rfl⟩ := Option.map_eq_some_iff.mp h.starts
  obtain ⟨last, ends, rfl⟩ := Option.map_eq_some_iff.mp h.ends
  have member : first ∈ path := List.mem_of_mem_head? starts
  rcases le_total first.x last.x with rightward | leftward
  · obtain ⟨low, high⟩ := along.flip.column_between rightward
    exact exists_onPath_at (fun s t => rfl) h.long member low ends high
  · obtain ⟨low, high⟩ := along.column_between leftward
    have affine (s : Segment) (t : Rat) :
        -(s.placeAt t).x = -s.start.x + t * (-s.finish.x - -s.start.x) := by
      simp only [Segment.placeAt]
      ring
    obtain ⟨q, there, column⟩ :=
      exists_onPath_at (g := fun p => -p.x) affine h.long member (v := -p.x)
        (neg_le_neg high) ends (neg_le_neg low)
    exact ⟨q, there, neg_injective column⟩

/-- Between an end of the path and the base, the end of the path is above. -/
theorem exists_over_side (h : Skyline left right base path) {s : Segment} (holds : s.Holds p)
    (upright : s.start.x = s.finish.x) (start : s.start ∈ path) (finish : s.finish.y = base) :
    ∃ q, OnPath path q ∧ q.x = p.x ∧ q.y ≤ p.y := by
  refine ⟨s.start, onPath_of_mem h.long start, (holds.column_eq upright).symm, ?_⟩
  exact holds.exists_row_le.elim id fun atBase => (h.above _ start).trans (finish ▸ atBase)

theorem exists_over_of_covers (h : Skyline left right base path) (inside : p.y ≤ base)
    (covered : Covers (area left right base path) p) :
    ∃ q, OnPath path q ∧ q.x = p.x ∧ q.y ≤ p.y := by
  obtain ⟨first, starts, hleft⟩ := Option.map_eq_some_iff.mp h.starts
  obtain ⟨last, ends, hright⟩ := Option.map_eq_some_iff.mp h.ends
  rw [Covers, h.winding_outline inside, onPath_outline_iff starts ends] at covered
  rcases covered with around | along | up | on | down
  · obtain ⟨q, there, column, above⟩ := exists_over_of_winding around
    exact ⟨q, there, column, above.le⟩
  · obtain ⟨q, there, column⟩ := h.exists_over_base along
    have low := there.row_le h.above
    exact ⟨q, there, column, low.trans (along.exists_row_le.elim id id)⟩
  · exact h.exists_over_side up.flip hleft (List.mem_of_mem_head? starts) rfl
  · exact ⟨p, on, rfl, le_refl _⟩
  · exact h.exists_over_side down hright (List.mem_of_getLast? ends) rfl

/-! ### Places under the path are covered -/

/-- In a single column the path and the way down from its end leave no gap. -/
theorem onPath_or_down (h : Skyline left right base path) (ends : path.getLast? = some last)
    (same : ∀ a ∈ path, ∀ b ∈ path, a.x = b.x) (there : OnPath path q) (column : q.x = p.x)
    (under : q.y ≤ p.y) (inside : p.y ≤ base) :
    OnPath path p ∨ Segment.Holds ⟨last, ⟨last.x, base⟩⟩ p := by
  let corner : Point Rat := ⟨last.x, base⟩
  obtain ⟨a, member, low⟩ := there.exists_row_le
  have all : ∀ b ∈ path ++ [corner], b.x = p.x := by
    have others : ∀ b ∈ path, b.x = p.x := fun b listed =>
      (there.column_eq fun c listed' => same c listed' b listed).symm.trans column
    simpa [or_imp, forall_and] using ⟨others, others last (List.mem_of_getLast? ends)⟩
  have down : (path ++ [corner]).getLast? = some corner := List.getLast?_concat
  obtain ⟨r, on, row⟩ := exists_onPath_at (g := Point.y) (v := p.y) (fun s t => rfl)
    (h.long.trans (by simp)) (List.mem_append_left _ member) (low.trans under) down inside
  have here : r = p := Point.eq_of_column_of_row (on.column_eq all) row
  obtain ⟨s, listed, holds⟩ := here ▸ on
  rw [segments_concat ends, List.mem_append, List.mem_singleton] at listed
  rcases listed with onPath | rfl
  · exact .inl ⟨s, onPath, holds⟩
  · exact .inr holds

theorem covers_of_under (h : Skyline left right base path) (there : OnPath path q)
    (column : q.x = p.x) (under : q.y < p.y) (inside : p.y ≤ base) :
    Covers (area left right base path) p := by
  obtain ⟨first, starts, rfl⟩ := Option.map_eq_some_iff.mp h.starts
  obtain ⟨last, ends, rfl⟩ := Option.map_eq_some_iff.mp h.ends
  rw [Covers, h.winding_outline inside, onPath_outline_iff starts ends]
  cases h.oneWay with
  | rightward way =>
      rcases way.winding_ne_zero there column under with around | atEnd
      · exact .inl around
      · cases ends.symm.trans atEnd
        exact .inr (.inr (.inr (.inr (Segment.holds_of_upright column column under.le inside))))
  | leftward way =>
      rcases way.winding_ne_zero there.reverse column under with around | atEnd
      · rw [winding_reverse] at around
        exact .inl (neg_ne_zero.mp around)
      · rw [List.getLast?_reverse] at atEnd
        cases starts.symm.trans atEnd
        have down : Segment.Holds ⟨q, ⟨q.x, base⟩⟩ p :=
          Segment.holds_of_upright column column under.le inside
        exact .inr (.inr (.inl down.flip))
  | upright same =>
      exact .inr (.inr (.inr (h.onPath_or_down ends same there column under.le inside)))

/-- The area covers what is between the path and the base. -/
theorem covers_iff (h : Skyline left right base path) :
    Covers (area left right base path) p ↔ ∃ q,
      OnPath path q ∧ q.x = p.x ∧ q.y ≤ p.y ∧ p.y ≤ base := by
  constructor
  · intro covered
    have inside : p.y ≤ base := by
      by_contra below
      exact h.not_covers_below (not_le.mp below) covered
    obtain ⟨q, there, column, under⟩ := h.exists_over_of_covers inside covered
    exact ⟨q, there, column, under, inside⟩
  · rintro ⟨q, there, column, under, inside⟩
    rcases eq_or_lt_of_le under with level | under
    · obtain ⟨first, starts, -⟩ := Option.map_eq_some_iff.mp h.starts
      obtain ⟨last, ends, -⟩ := Option.map_eq_some_iff.mp h.ends
      have here : q = p := Point.eq_of_column_of_row column level
      exact .inr ((onPath_outline_iff starts ends).mpr (.inr (.inr (.inl (here ▸ there)))))
    · exact h.covers_of_under there column under inside

/-! ### Areas compared -/

/-- The area up to a path lies inside of the area up to another one that is nowhere below the
    first. -/
theorem covers_mono {path' : List (Point Rat)} (h : Skyline left right base path)
    (h' : Skyline left right base path')
    (above : List.Forall₂ (fun a a' => a'.x = a.x ∧ a'.y ≤ a.y) path path')
    (covered : Covers (area left right base path) p) : Covers (area left right base path') p := by
  obtain ⟨q, there, column, under, inside⟩ := h.covers_iff.mp covered
  obtain ⟨q', there', column', row⟩ := there.exists_over above
  exact h'.covers_iff.mpr ⟨q', there', column'.trans column, row.trans under, inside⟩

/-- In the column of a place of the path, the area reaches from the base up to there. -/
theorem covers_at (h : Skyline left right base path) (apart : left ≠ right) {a : Point Rat}
    (member : a ∈ path) (column : a.x = p.x) :
    Covers (area left right base path) p ↔ a.y ≤ p.y ∧ p.y ≤ base := by
  have there := onPath_of_mem h.long member
  have unique : ∀ q, OnPath path q → q.x = p.x → q = a := by
    intro q there' column'
    cases h.oneWay with
    | rightward way => exact way.unique there' there (column'.trans column.symm)
    | leftward way => exact way.unique there'.reverse there.reverse (column'.trans column.symm)
    | upright same =>
        obtain ⟨first, starts, rfl⟩ := Option.map_eq_some_iff.mp h.starts
        obtain ⟨last, ends, rfl⟩ := Option.map_eq_some_iff.mp h.ends
        exact absurd (same first (List.mem_of_mem_head? starts) last (List.mem_of_getLast? ends))
          apart
  rw [h.covers_iff]
  constructor
  · rintro ⟨q, there', column', under, inside⟩
    rw [unique q there' column'] at under
    exact ⟨under, inside⟩
  · rintro ⟨under, inside⟩
    exact ⟨a, there, column, under, inside⟩

end Skyline

end Areas

end Polygon

/-! ## Painted areas -/

namespace Mark

/-- The places that a filled polygon covers; for other marks it is not said. -/
def Fills (m : Mark Rat) (p : Point Rat) : Prop :=
  match m with
  | .fill points _ => Polygon.Covers points p
  | _ => False

/-- Of filled polygons painted one after the other, the one at a position is seen at a place: it is
    painted there, and no later one is. -/
structure SeenAt (marks : List (Mark Rat)) (i : Nat) (p : Point Rat) : Prop where
  fills : ∃ m, marks[i]? = some m ∧ m.Fills p
  last : ∀ j m, i < j → marks[j]? = some m → ¬ m.Fills p

end Mark

end LadderAtlas
